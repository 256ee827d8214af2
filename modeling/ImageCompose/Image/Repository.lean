import ImageCompose.Json.Decode

/-!
# Repositories

A package repository as a request describes it (`Repository`) and as a manifest job is given it
(`RepositoryConfig`).
-/

namespace ImageCompose

/-- A package repository of a compose request. -/
structure Repository where
  baseurl : Option String := none
  /-- The address of a list of mirrors. -/
  mirrorlist : Option String := none
  metalink : Option String := none
  gpgkey : Option String := none
  checkGpg : Option Bool := none
  /-- Whether signatures of the repository are checked. -/
  checkRepoGpg : Option Bool := none
  ignoreSsl : Option Bool := none
  rhsm : Option Bool := none
  /-- The package sets that the repository serves. -/
  packageSets : Option (List String) := none

namespace Repository

/-- The members of the JSON form. -/
def fields : Fields Repository :=
  Repository.mk
    <$> Fields.possible "baseurl" .string
    <*> Fields.possible "mirrorlist" .string
    <*> Fields.possible "metalink" .string
    <*> Fields.possible "gpgkey" .string
    <*> Fields.possible "check_gpg" .bool
    <*> Fields.possible "check_repo_gpg" .bool
    <*> Fields.possible "ignore_ssl" .bool
    <*> Fields.possible "rhsm" .bool
    <*> Fields.possible "package_sets" (.list .string)

instance : Wire Repository where
  encode r := .obj <|
    Json.given "baseurl" encode r.baseurl ++
    Json.given "mirrorlist" encode r.mirrorlist ++
    Json.given "metalink" encode r.metalink ++
    Json.given "gpgkey" encode r.gpgkey ++
    Json.given "check_gpg" encode r.checkGpg ++
    Json.given "check_repo_gpg" encode r.checkRepoGpg ++
    Json.given "ignore_ssl" encode r.ignoreSsl ++
    Json.given "rhsm" encode r.rhsm ++
    Json.given "package_sets" encode r.packageSets
  decoder := fields.decoder

end Repository

/-- A package repository that a manifest job resolves packages from. -/
structure RepositoryConfig where
  baseUrls : List String := []
  /-- The address of a list of mirrors. -/
  mirrorList : Option String := none
  metalink : Option String := none
  gpgKeys : List String := []
  checkGpg : Option Bool := none
  /-- Whether signatures of the repository are checked. -/
  checkRepoGpg : Option Bool := none
  ignoreSsl : Option Bool := none
  rhsm : Bool := false
  /-- The package sets that the repository serves. -/
  packageSets : List String := []

namespace RepositoryConfig

/-- The members of the JSON form. -/
def fields : Fields RepositoryConfig :=
  RepositoryConfig.mk
    <$> Fields.defaulted "base_urls" (.list .string) []
    <*> Fields.possible "mirror_list" .string
    <*> Fields.possible "metalink" .string
    <*> Fields.defaulted "gpg_keys" (.list .string) []
    <*> Fields.possible "check_gpg" .bool
    <*> Fields.possible "check_repo_gpg" .bool
    <*> Fields.possible "ignore_ssl" .bool
    <*> Fields.defaulted "rhsm" .bool false
    <*> Fields.defaulted "package_sets" (.list .string) []

instance : Wire RepositoryConfig where
  encode r := .obj <|
    Json.listed "base_urls" encode r.baseUrls ++
    Json.given "mirror_list" encode r.mirrorList ++
    Json.given "metalink" encode r.metalink ++
    Json.listed "gpg_keys" encode r.gpgKeys ++
    Json.given "check_gpg" encode r.checkGpg ++
    Json.given "check_repo_gpg" encode r.checkRepoGpg ++
    Json.given "ignore_ssl" encode r.ignoreSsl ++
    [("rhsm", encode r.rhsm)] ++
    Json.listed "package_sets" encode r.packageSets
  decoder := fields.decoder

end RepositoryConfig

end ImageCompose
