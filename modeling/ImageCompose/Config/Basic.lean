import ImageCompose.Config.SocketAddress
import ImageCompose.Text.Basic

/-!
# Configuration

The settings of the service (`Config`), and what makes them usable (`Config.validate`). A
distribution is known if it is one of the configured ones without the white space around it
(`Config.isKnownDistribution`).
-/

namespace ImageCompose

/-- The settings of the service. -/
structure Config where
  /-- The database that keeps the jobs; without one they are kept in memory. -/
  databaseUrl : Option String := none
  /-- The number of connections to the database at a time. -/
  dbMaxConnections : UInt32 := 10
  /-- The address that the service listens on. -/
  bindAddr : String := "0.0.0.0:8080"
  /-- The distributions that composes may be requested for. -/
  distributions : List String := ["rhel-9", "fedora-40"]
  /-- Whether images may be kept on the worker server. -/
  localSave : Bool := false

namespace Config

/-- The environment variable whose presence allows images to be kept on the worker server. -/
def localSaveVariable : String := "OSBUILD_LOCALSAVE"

/-- Why a configuration cannot be used. -/
inductive Invalid
  /-- The address to listen on is none. -/
  | bindAddr (text : String)
  | noDistribution
  /-- No connection to the database is allowed. -/
  | noConnections
  | databaseUrl
  deriving DecidableEq

/-- The reason in words. -/
def Invalid.message : Invalid → String
  | .bindAddr text => s!"bind_addr must be a socket address, got {text}"
  | .noDistribution => "at least one distribution must be configured"
  | .noConnections => "db_max_connections must be greater than 0"
  | .databaseUrl => "database_url must start with postgres:// or postgresql://"

/-- Whether a text is the address of a database of the supported kind. -/
def isDatabaseUrl (url : String) : Bool :=
  "postgres://".toList.isPrefixOf url.toList || "postgresql://".toList.isPrefixOf url.toList

/-- Checks the settings, and reports the first that cannot be used. -/
def validate (c : Config) : Except Invalid Unit := do
  if (SocketAddress.parse? c.bindAddr).isNone then throw (.bindAddr c.bindAddr)
  if c.distributions.all fun d => Text.trim d == "" then throw .noDistribution
  if c.dbMaxConnections = 0 then throw .noConnections
  if c.databaseUrl.any fun url => !isDatabaseUrl url then throw .databaseUrl

/-- Whether composes may be requested for a distribution. -/
def isKnownDistribution (c : Config) (name : String) : Bool :=
  c.distributions.any fun d => Text.trim d == name

end Config

end ImageCompose
