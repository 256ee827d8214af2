import ImageCompose.Json.Decode

/-!
# Kinds of jobs

The kinds of jobs that workers execute, and their names.
-/

namespace ImageCompose

/-- What a job does. -/
inductive JobKind
  | osbuild
  | manifestIdOnly
  | kojiInit
  /-- Imports images into a build in Koji. -/
  | kojiFinalize
  /-- Copies an EC2 image to another region. -/
  | awsEc2Copy
  /-- Shares an EC2 image with accounts. -/
  | awsEc2Share
  deriving DecidableEq

namespace JobKind

/-- All kinds. -/
def all : List JobKind :=
  [.osbuild, .manifestIdOnly, .kojiInit, .kojiFinalize, .awsEc2Copy, .awsEc2Share]

/-- The name of a kind. -/
def name : JobKind → String
  | .osbuild => "osbuild"
  | .manifestIdOnly => "manifest-id-only"
  | .kojiInit => "koji-init"
  | .kojiFinalize => "koji-finalize"
  | .awsEc2Copy => "aws-ec2-copy"
  | .awsEc2Share => "aws-ec2-share"

/-- The kind of a name. -/
def ofName? (name : String) : Option JobKind :=
  all.find? fun k => k.name == name

/-- The message about a name that no kind has. -/
def unknownMessage (name : String) : String :=
  "unknown job kind: " ++ name

instance : Wire JobKind := ⟨fun k => .str k.name, Decoder.variant (all.map fun k => (k.name, k))⟩

end JobKind

end ImageCompose
