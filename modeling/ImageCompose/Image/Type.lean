import ImageCompose.Image.UploadType

/-!
# Image types

An `ImageType` is a kind of image that can be requested. Its properties are fixed: the name that
manifests use, where it is delivered by default, the file and the pipeline that hold the result, and
the package sets and pipelines that make up its payload.
-/

namespace ImageCompose

/-- The architectures that images are built for. -/
def architectures : List String := ["x86_64", "aarch64", "ppc64le", "s390x"]

/-- The names of the pipelines of a build. -/
structure PipelineNames where
  /-- The pipelines that set up the build environment. -/
  build : List String := []
  payload : List String := []

namespace PipelineNames

/-- The members of the JSON form. -/
def fields : Fields PipelineNames :=
  PipelineNames.mk
    <$> Fields.defaulted "build" (.list .string) []
    <*> Fields.defaulted "payload" (.list .string) []

instance : Wire PipelineNames where
  encode p := .obj [("build", encode p.build), ("payload", encode p.payload)]
  decoder := fields.decoder

end PipelineNames

/-- A kind of image. -/
inductive ImageType
  /-- An EC2 image. -/
  | aws
  /-- An EC2 image with update infrastructure. -/
  | awsRhui
  /-- An EC2 image with update infrastructure and high availability. -/
  | awsHaRhui
  /-- An EC2 image with update infrastructure for SAP. -/
  | awsSapRhui
  | gcp
  /-- A Compute Engine image with update infrastructure. -/
  | gcpRhui
  | azure
  | azureRhui
  /-- An Azure image with update infrastructure and EAP 7. -/
  | azureEap7Rhui
  /-- An Azure image with update infrastructure for SAP. -/
  | azureSapRhui
  | guestImage
  | vsphere
  | vsphereOva
  /-- An installer with the image on it. -/
  | imageInstaller
  | edgeCommit
  /-- A container that serves an edge commit. -/
  | edgeContainer
  | edgeInstaller
  | iotCommit
  /-- A container that serves a commit for devices. -/
  | iotContainer
  /-- An installer of a commit for devices. -/
  | iotInstaller
  | iotRawImage
  /-- A live system that can install itself. -/
  | liveInstaller
  | oci
  | wsl
  deriving DecidableEq

namespace ImageType

/-- All image types. -/
def all : List ImageType :=
  [.aws, .awsRhui, .awsHaRhui, .awsSapRhui, .gcp, .gcpRhui, .azure, .azureRhui, .azureEap7Rhui,
    .azureSapRhui, .guestImage, .vsphere, .vsphereOva, .imageInstaller, .edgeCommit,
    .edgeContainer, .edgeInstaller, .iotCommit, .iotContainer, .iotInstaller, .iotRawImage,
    .liveInstaller, .oci, .wsl]

/-- The name in the API. -/
def name : ImageType → String
  | .aws => "aws"
  | .awsRhui => "aws-rhui"
  | .awsHaRhui => "aws-ha-rhui"
  | .awsSapRhui => "aws-sap-rhui"
  | .gcp => "gcp"
  | .gcpRhui => "gcp-rhui"
  | .azure => "azure"
  | .azureRhui => "azure-rhui"
  | .azureEap7Rhui => "azure-eap7-rhui"
  | .azureSapRhui => "azure-sap-rhui"
  | .guestImage => "guest-image"
  | .vsphere => "vsphere"
  | .vsphereOva => "vsphere-ova"
  | .imageInstaller => "image-installer"
  | .edgeCommit => "edge-commit"
  | .edgeContainer => "edge-container"
  | .edgeInstaller => "edge-installer"
  | .iotCommit => "iot-commit"
  | .iotContainer => "iot-container"
  | .iotInstaller => "iot-installer"
  | .iotRawImage => "iot-raw-image"
  | .liveInstaller => "live-installer"
  | .oci => "oci"
  | .wsl => "wsl"

/-- The name in manifests. -/
def internalName : ImageType → String
  | .aws => "ami"
  | .awsRhui => "ec2"
  | .awsHaRhui => "ec2-ha"
  | .awsSapRhui => "ec2-sap"
  | .gcp => "gce"
  | .gcpRhui => "gce-rhui"
  | .azure => "vhd"
  | .azureRhui => "azure-rhui"
  | .azureEap7Rhui => "azure-eap7-rhui"
  | .azureSapRhui => "azure-sap-rhui"
  | .guestImage => "qcow2"
  | .vsphere => "vmdk"
  | .vsphereOva => "ova"
  | .imageInstaller => "image-installer"
  | .edgeCommit => "rhel-edge-commit"
  | .edgeContainer => "rhel-edge-container"
  | .edgeInstaller => "rhel-edge-installer"
  | .iotCommit => "iot-commit"
  | .iotContainer => "iot-container"
  | .iotInstaller => "iot-installer"
  | .iotRawImage => "iot-raw-image"
  | .liveInstaller => "live-installer"
  | .oci => "oci"
  | .wsl => "wsl"

/-- Where the image is delivered. -/
def uploadType : ImageType → UploadType
  | .aws | .awsRhui | .awsHaRhui | .awsSapRhui => .aws
  | .gcp | .gcpRhui => .gcp
  | .azure | .azureRhui | .azureEap7Rhui | .azureSapRhui => .azure
  | .edgeContainer | .iotContainer => .container
  | .oci => .ociObjectStorage
  | .guestImage | .vsphere | .vsphereOva | .imageInstaller | .edgeCommit | .edgeInstaller
  | .iotCommit | .iotInstaller | .iotRawImage | .liveInstaller | .wsl => .awsS3

/-- The file that holds the image. -/
def filename : ImageType → String
  | .aws | .awsRhui | .awsHaRhui | .awsSapRhui => "image.raw"
  | .gcp | .gcpRhui => "image.tar.gz"
  | .azure | .azureRhui | .azureEap7Rhui | .azureSapRhui => "disk.vhd"
  | .guestImage | .oci => "disk.qcow2"
  | .vsphere => "disk.vmdk"
  | .vsphereOva => "image.ova"
  | .imageInstaller | .edgeInstaller | .iotInstaller | .liveInstaller => "installer.iso"
  | .edgeCommit | .iotCommit => "commit.tar"
  | .edgeContainer | .iotContainer => "container.tar"
  | .iotRawImage => "image.raw.xz"
  | .wsl => "disk.tar.gz"

/-- The pipeline whose result is the image. -/
def exportName : ImageType → String
  | .aws | .awsRhui | .awsHaRhui | .awsSapRhui => "image"
  | .gcp | .gcpRhui | .vsphereOva | .wsl => "archive"
  | .azure | .azureRhui | .azureEap7Rhui | .azureSapRhui => "vpc"
  | .guestImage | .oci => "qcow2"
  | .vsphere => "vmdk"
  | .imageInstaller | .edgeInstaller | .iotInstaller | .liveInstaller => "bootiso"
  | .edgeCommit | .iotCommit => "commit-archive"
  | .edgeContainer | .iotContainer => "container"
  | .iotRawImage => "xz"

/-- The package sets that payload repositories serve. -/
def payloadPackageSets : ImageType → List String
  | .imageInstaller | .edgeInstaller | .iotInstaller | .liveInstaller => ["os", "installer"]
  | _ => ["os"]

/-- The pipelines of a build; the payload ends in the one that is exported. -/
def pipelineNames (t : ImageType) : PipelineNames :=
  ⟨["build"], ["os", t.exportName]⟩

instance : Wire ImageType := ⟨fun t => .str t.name, Decoder.variant (all.map fun t => (t.name, t))⟩

end ImageType

end ImageCompose
