import SearchMapper.Metadata.Wire
import SearchMapper.Query.Basic
import SearchMapper.Text.Numeral

/-!
# Configuration

The settings of a mapper, their defaults, and how they are read from environment variables. A
variable that cannot be read leaves its default.
-/

namespace SearchMapper

/-- The settings of a mapper. -/
structure Config where
  /-- The format of date-time fields without one of their own. -/
  dateFormat : Option String := none
  /-- The identifier mode of entity types that name none. -/
  defaultIdType : IdType := .backend
  /-- Search bodies are logged. -/
  logQueries : Bool := false
  /-- The largest batch; without it there is no limit. -/
  maxBatchSize : Option UInt64 := some 1000
  /-- The page size of searches that name none. -/
  defaultSize : UInt64 := SearchMapper.defaultSize
deriving DecidableEq, Repr

/-- Environment variables with their values. -/
abbrev Environment := List (String × String)

namespace Config

/-- The settings with no limit on batches. -/
def unlimited : Config := { maxBatchSize := none }

/-- The settings with a limit on batches. -/
def withMaxBatchSize (config : Config) (size : UInt64) : Config :=
  { config with maxBatchSize := some size }

/-- The settings with a date format. -/
def withDateFormat (config : Config) (format : String) : Config :=
  { config with dateFormat := some format }

/-- The settings with an identifier mode. -/
def withDefaultIdType (config : Config) (idType : IdType) : Config :=
  { config with defaultIdType := idType }

/-- The settings with logging on or off. -/
def withLogQueries (config : Config) (enabled : Bool) : Config :=
  { config with logQueries := enabled }

/-! ## Environments -/

/-- The date format that a variable names; a blank one is none. -/
def readDateFormat (value : Option String) : Option String :=
  value.filter fun format => !Text.isBlank format

/-- The identifier mode that a variable names. -/
def readIdType : Option String → IdType
  | none => .backend
  | some value =>
    match IdType.ofText value with
    | .ok idType => idType
    | .error _ => .backend

/-- The variable asks for logging. -/
def readLogQueries : Option String → Bool
  | none => false
  | some value => Text.toLower value ∈ ["1", "true", "yes"]

/-- The limit that a variable sets. `none` in any case of its letters, and `0` among blanks,
lift it. -/
def readMaxBatchSize : Option String → Option UInt64
  | none => some 1000
  | some value =>
    if Text.asciiLower value = "none" ∨ Text.trim value = "0" then none
    else
      match Text.uint64? (Text.trim value) with
      | some size => some (UInt64.ofNat size)
      | none => some 1000

/-- The settings of an environment. -/
def ofEnvironment (env : Environment) : Config :=
  { dateFormat := readDateFormat (env.lookup "ESPLUS_DATE_FORMAT")
    defaultIdType := readIdType (env.lookup "ESPLUS_ID_TYPE")
    logQueries := readLogQueries (env.lookup "ESPLUS_LOG_DSL")
    maxBatchSize := readMaxBatchSize (env.lookup "ESPLUS_MAX_BATCH_SIZE") }

/-! ## The written form -/

/-- The written form of settings. -/
def toJson (config : Config) : Json :=
  .ofPairs [("date_format", .optionString config.dateFormat),
    ("default_id_type", .string config.defaultIdType.name),
    ("default_size", .uint64 config.defaultSize), ("log_dsl", .bool config.logQueries),
    ("max_batch_size", (config.maxBatchSize.map Json.uint64).getD .null)]

/-- Reads one setting over those so far. -/
def decodeSetting (config : Config) (name : String) (value : Json) : Except Refusal Config := do
  match name with
  | "date_format" => return { config with dateFormat := ← Decode.option Decode.string value }
  | "default_id_type" => return { config with defaultIdType := ← IdType.decode value }
  | "log_dsl" => return { config with logQueries := ← Decode.bool value }
  | "max_batch_size" => return { config with maxBatchSize := ← Decode.option Decode.uint64 value }
  | "default_size" => return { config with defaultSize := ← Decode.uint64 value }
  | other => throw (.unknownVariant other)

/-- Reads settings, each of which may be missing; there are no others. -/
def decode : Decoder Config
  | .object members =>
    members.foldlM (fun config (name, value) => config.decodeSetting name value) {}
  | other => .error (.wrongType other "a map")

end Config
end SearchMapper
