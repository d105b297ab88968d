import SearchMapper.Sample.Session
import SearchMapper.Text.Url

/-!
# Connecting the sample session

The settings of the sample session, from environment variables, and the checks before it can
run: the URL has to be one, the backend has to answer, and the metadata have to be valid.
-/

namespace SearchMapper

/-- What to do while the backend does not answer. -/
inductive ConnectionMode where
  | failFast
  | retry
deriving DecidableEq, Repr

/-- The mode that a text names, whatever its case; anything else is to fail fast. -/
def ConnectionMode.ofText (text : String) : ConnectionMode :=
  if Text.toLower text = "retry" then .retry else .failFast

/-- The settings of a connection. -/
structure ConnectSettings where
  url : String
  mode : ConnectionMode
  config : Config
deriving DecidableEq, Repr

/-- The settings of an environment. -/
def ConnectSettings.ofEnvironment (env : Environment) : ConnectSettings :=
  { url := (env.lookup "OPENSEARCH_URL").getD "http://localhost:9200"
    mode := ((env.lookup "OPENSEARCH_CONNECTION_MODE").map ConnectionMode.ofText).getD .failFast
    config := .ofEnvironment env }

/-- Why the session cannot run. -/
inductive ConnectError where
  | transport (fault : TransportFault)
  | notReachable (error : MapperError)
  | metadata (cause : Invalid)
deriving DecidableEq, Repr

/-- The text of an error of configuration. -/
def configurationError (text : String) : String := "Configuration error: " ++ text

/-- The text of a failed attempt to connect. -/
def failedAttempt (text : String) : String :=
  configurationError ("Failed to connect to OpenSearch: " ++ configurationError text)

/-- The text of an error. -/
def ConnectError.message : ConnectError → String
  | transport fault =>
    failedAttempt ("Failed to create OpenSearch transport: " ++
      (MapperError.transport fault).message)
  | notReachable error => failedAttempt ("OpenSearch is not reachable: " ++ error.message)
  | metadata cause =>
    configurationError ("Invalid document metadata: " ++ (MapperError.validation cause).message)

/-- A URL that a transport can be made for. -/
def openTransport (url : String) : Except TransportFault Unit :=
  if Url.isAbsolute url then .ok () else .error (.invalidUrl url)

namespace ConnectSettings

/-- One attempt to reach the backend. Any answer proves that it is there. -/
def attempt (settings : ConnectSettings) : Program ConnectError Unit := do
  Program.lift ((openTransport settings.url).mapError .transport)
  let _ ← (Mapper.existsIndex SampleDocument.index).mapError ConnectError.notReachable

/-- The mapper of the session. -/
def mapper (settings : ConnectSettings) : Except ConnectError (Mapper SampleDocument) :=
  (Mapper.new settings.config).mapError .metadata

/-- Attempts to reach the backend: one, or in retry mode more of them, up to `retries`, until
one succeeds. -/
def reach (settings : ConnectSettings) : Nat → Program ConnectError Unit
  | 0 => settings.attempt
  | retries + 1 =>
    match settings.mode with
    | .failFast => settings.attempt
    | .retry => settings.attempt.orElse (settings.reach retries)

/-- Connects, with at most `retries` attempts after the first one. -/
def connect (settings : ConnectSettings) (retries : Nat) :
    Program ConnectError (Mapper SampleDocument) := do
  settings.reach retries
  Program.lift settings.mapper

end ConnectSettings
end SearchMapper
