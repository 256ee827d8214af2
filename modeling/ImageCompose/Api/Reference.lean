import ImageCompose.Uuid

/-!
# References

Every answer of the API describes itself by an `ObjectReference`: where it is, the identifier it is
about, and its kind. The members of the reference stand among the members of the answer
(`Fields.referenced`). All paths of the API start with `basePath`.
-/

namespace ImageCompose

/-- The path under which the API is served. -/
def basePath : String := "/api/image-builder-composer/v2"

/-- What an object of the API says about itself. -/
structure ObjectReference where
  href : String
  /-- The identifier that the object is about. -/
  id : Uuid
  kind : String
  deriving DecidableEq

namespace ObjectReference

/-- The members of the JSON form. -/
def fields : Fields ObjectReference :=
  ObjectReference.mk
    <$> Fields.member "href" .string
    <*> Fields.member "id" Wire.decoder
    <*> Fields.member "kind" .string

/-- The members of a reference in JSON. -/
def members (r : ObjectReference) : List (String × Json) :=
  [("href", encode r.href), ("id", encode r.id), ("kind", encode r.kind)]

instance : Wire ObjectReference := ⟨fun r => .obj r.members, fields.decoder⟩

/-- The reference of an object at a path of the API. -/
def at_ (path : String) (id : Uuid) (kind : String) : ObjectReference :=
  ⟨basePath ++ path, id, kind⟩

end ObjectReference

end ImageCompose
