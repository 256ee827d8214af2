import ImageCompose.Api.Reference
import ImageCompose.Text.Basic

/-!
# Error objects

The body of every failed answer of the API (`ErrorResponse`). It carries a number that stands for
the kind of failure, once by itself and once in the form that clients match on.
-/

namespace ImageCompose

/-- The body of a failed answer. -/
structure ErrorResponse where
  kind : String
  id : String
  /-- The number of the failure in the form that clients match on. -/
  code : String
  href : String
  reason : String
  deriving DecidableEq

namespace ErrorResponse

/-- The kind of every error object. -/
def errorKind : String := "Error"

/-- The error object of a failure. -/
def new (code : UInt32) (reason : String) : ErrorResponse where
  kind := errorKind
  id := toString code.toNat
  code := "COMPOSER-" ++ toString code.toNat
  href := basePath ++ "/errors/" ++ toString code.toNat
  reason := reason

/-- The number of the failure, if the object carries one. -/
def serviceCode (e : ErrorResponse) : Option UInt32 :=
  (Text.unsigned? 4294967296 e.id).map UInt32.ofNat

/-- The members of the JSON form. -/
def fields : Fields ErrorResponse :=
  ErrorResponse.mk
    <$> Fields.member "kind" .string
    <*> Fields.member "id" .string
    <*> Fields.member "code" .string
    <*> Fields.member "href" .string
    <*> Fields.member "reason" .string

instance : Wire ErrorResponse where
  encode e := .obj [
    ("kind", encode e.kind),
    ("id", encode e.id),
    ("code", encode e.code),
    ("href", encode e.href),
    ("reason", encode e.reason)]
  decoder := fields.decoder

end ErrorResponse

end ImageCompose
