import ImageCompose.Uuid

/-!
# Fresh values

What a request needs and nobody gives: random identifiers and numbers, and the time. They are
parameters of the operations that use them, so that an operation is a function.
-/

namespace ImageCompose

/-- The fresh values that one image needs. -/
structure FreshImage where
  key : Uuid
  /-- Identifies the delivery that the request asks for. -/
  delivery : Uuid
  kojiDelivery : Uuid

/-- The fresh values that one request needs. -/
structure Fresh where
  /-- The seed of everything random in the manifests of a compose. -/
  seed : Int64
  /-- The time, in seconds since 1970. -/
  now : UInt64
  /-- Names the directory that images for Koji are uploaded to. -/
  directory : Uuid
  copy : Uuid
  /-- The values for each image, by its position in the request. -/
  image : Nat → FreshImage

namespace Fresh

/-- The fresh values that a random number makes. It makes a supply of identifiers for jobs, too
(`Fresh.jobIds`), and no identifier is used for both. -/
def ofRandom (random : Nat) (now : UInt64) : Fresh :=
  let id (k : Nat) := Uuid.ofRandom (random + 2 * k + 1)
  { seed := Int64.ofNat (random % 9223372036854775807)
    now := now
    directory := id 0
    copy := id 1
    image := fun k => ⟨id (3 * k + 2), id (3 * k + 3), id (3 * k + 4)⟩ }

/-- A supply of identifiers for jobs. -/
def jobIds (random n : Nat) : Uuid := Uuid.ofRandom (random + 2 * n)

end Fresh

/-- The name in storage of something with a fresh identifier. -/
def storageName (id : Uuid) : String := s!"composer-api-{id}"

end ImageCompose
