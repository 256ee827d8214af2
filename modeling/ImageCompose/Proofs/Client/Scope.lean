import ImageCompose.Client.Basic
import ImageCompose.Http.Server
import ImageCompose.Proofs.Http.Channel
import ImageCompose.Proofs.Tenant.Masking

/-!
# The tenant channel of a client

A client that is limited to a tenant channel names it in every request it sends. It sends whatever
can stand in a header, and the server reads only what is in ASCII; a header that it cannot read
counts as none. So a tenant channel in ASCII is the one that the server acts on, without the white
space around it, and under any other one the client acts without a channel, which is to say on the
jobs of every tenant (`Client.channel_of_sent`, `Client.foreign_build_shown`).
-/

namespace ImageCompose.Client

variable {c : Client} {channel : String} {route : Http.Route} {body : Option Json}
  {r : Http.Request}

/-- A request that is sent names the tenant channel of the client, which can stand in a header. -/
theorem header?_of_sent (limited : c.channel = some channel)
    (sent : c.request? route body = some r) :
    r.header? Http.channelHeader = some channel ∧ Http.isHeaderValue channel = true := by
  rw [request?, limited] at sent
  obtain ⟨target, -, sent⟩ := Option.bind_eq_some_iff.1 sent
  obtain ⟨_, guarded, sent⟩ := Option.bind_eq_some_iff.1 sent
  cases sent
  exact ⟨by simp [Http.Request.header?], by simpa [guard] using guarded⟩

/-- On a tenant channel in ASCII that is not blank, the server acts on that channel for every
request that the client sends, and never without one. On any other tenant channel it always acts
without one. -/
theorem channel_of_sent (limited : c.channel = some channel) (named : Text.trim channel ≠ "")
    (sent : c.request? route body = some r) :
    (Http.IsAscii channel → r.channel = Text.trim channel ∧ r.channel ≠ "") ∧
      (¬Http.IsAscii channel → r.channel = "") := by
  obtain ⟨found, can_stand⟩ := header?_of_sent limited sent
  rw [Http.Request.channel, found, Option.bind_some, Http.visible?_of_isHeaderValue can_stand]
  constructor
  · intro ascii
    rw [if_pos ascii]
    exact ⟨rfl, named⟩
  · intro other
    rw [if_neg other]

/-- A client asks for the status of a compose on a tenant channel with blanks around it. -/
theorem channel_of_sent_padded :
    let c := (new "http://localhost:8080").withChannel " org-42\t"
    Text.trim " org-42\t" ≠ "" ∧
      ∃ r, c.request? (.composeStatus (Uuid.ofNat 0).render) none = some r ∧
        r.channel = "org-42" := by
  intro c
  have named : Text.trim " org-42\t" ≠ "" := by decide +kernel
  obtain ⟨r, sent⟩ : ∃ r, c.request? (.composeStatus (Uuid.ofNat 0).render) none = some r :=
    Option.isSome_iff_exists.1 (by decide +kernel)
  obtain ⟨acts, -⟩ := (channel_of_sent rfl named sent).1 (by decide)
  exact ⟨named, r, sent, acts.trans (by decide +kernel)⟩

/-- A client on a tenant channel that is not in ASCII is shown the build of another tenant. -/
theorem foreign_build_shown :
    let c := (new "http://localhost:8080").withChannel "é"
    Text.trim "é" ≠ "" ∧
      ∃ r, c.request? (.composeStatus (Uuid.ofNat 0).render) none = some r ∧ r.channel = "" ∧
        (Http.respond {} (Store.backend Uuid.ofNat (.ofSeconds 0)) (.ofRandom 0 0) r
          (tenantStore .osbuild)).1.status = 200 := by
  intro c
  obtain ⟨r, sent, shown⟩ := (Option.any_eq_true _ _).1
    (by decide +kernel : (c.request? (.composeStatus (Uuid.ofNat 0).render) none).any (fun r =>
      (Http.respond {} (Store.backend Uuid.ofNat (.ofSeconds 0)) (.ofRandom 0 0) r
        (tenantStore .osbuild)).1.status == 200 && r.channel == "") = true)
  rw [Bool.and_eq_true, beq_iff_eq, beq_iff_eq] at shown
  exact ⟨by decide +kernel, r, sent, shown.2, shown.1⟩

end ImageCompose.Client
