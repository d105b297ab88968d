import SearchMapper.Fragment.OfConditions
import SearchMapper.Json.Decode

/-!
# Errors

Everything that can go wrong in an operation of a mapper, by cause. `MapperError.message` is
the text of an error: the kind first, then what exactly happened.
-/

namespace SearchMapper

/-- Why a request is refused before anything is sent. -/
inductive Invalid where
  | conditions (fault : CompileFault)
  | dateFormat (format : String)
  | blankIndex
  /-- Identifiers are read from a key field, and there is none. -/
  | noKeyField (index : String)
  | blankId
  | blankIdAt (position : Nat)
  | noIds
  /-- The key field of an entity to insert is empty. -/
  | customIdMissing (index : String)
  /-- The key field of an entity to update is empty. -/
  | entityWithoutId (index : String)
  | batchTooLarge (size limit : Nat)
  | other (text : String)
deriving DecidableEq, Repr

/-- The text of the cause. -/
def Invalid.message : Invalid → String
  | conditions fault => fault.message
  | dateFormat format => "Invalid date format '" ++ format ++ "'"
  | blankIndex => "Document index name cannot be blank"
  | noKeyField index => "Index '" ++ index ++ "' uses custom ids but declares no key field"
  | blankId => "Document id cannot be blank"
  | blankIdAt position => "Document id at position " ++ toString position ++ " is blank"
  | noIds => "Id list cannot be empty"
  | customIdMissing index =>
    "Custom id required for index '" ++ index ++ "' but the key field is empty"
  | entityWithoutId index => "Entity for index '" ++ index ++ "' has no id"
  | batchTooLarge size limit =>
    "Batch size " ++ toString size ++ " exceeds maximum allowed size of " ++ toString limit
  | other text => text

/-- What a request asks for that no request can do. -/
inductive Unsupported where
  | aggregation (kind name : String)
  | other (text : String)
deriving DecidableEq, Repr

/-- The text of the cause. -/
def Unsupported.message : Unsupported → String
  | aggregation kind name =>
    "Aggregation kind '" ++ kind ++ "' for '" ++ name ++ "' is not supported"
  | other text => text

/-- What went wrong on the way to the backend and back. -/
inductive TransportFault where
  | writeWithoutId (body : Json)
  | bulkWithoutItems
  | malformedItem (item : Json)
  | unknownAction (name : String)
  | itemWithoutStatus (item : Json)
  | searchWithoutHits
  | hitWithoutId (hit : Json)
  | itemCount (items operations : Nat)
  /-- The backend answered with a status outside 200 to 299. -/
  | failedStatus (operation : String) (status : UInt16) (body : String)
  | invalidUrl (url : String)
  /-- The backend could not be reached. -/
  | unreachable
  /-- The body of an answer is not JSON. -/
  | unreadableBody
  | other (text : String)
  | caused (text cause : String)
deriving DecidableEq, Repr

/-- The usual phrase for a status code. -/
def statusPhrase (status : UInt16) : String :=
  let phrases : List (Nat × String) := [
    (100, "Continue"), (101, "Switching Protocols"), (102, "Processing"),
    (200, "OK"), (201, "Created"), (202, "Accepted"), (203, "Non Authoritative Information"),
    (204, "No Content"), (205, "Reset Content"), (206, "Partial Content"),
    (207, "Multi-Status"), (208, "Already Reported"), (226, "IM Used"),
    (300, "Multiple Choices"), (301, "Moved Permanently"), (302, "Found"), (303, "See Other"),
    (304, "Not Modified"), (305, "Use Proxy"), (307, "Temporary Redirect"),
    (308, "Permanent Redirect"),
    (400, "Bad Request"), (401, "Unauthorized"), (402, "Payment Required"), (403, "Forbidden"),
    (404, "Not Found"), (405, "Method Not Allowed"), (406, "Not Acceptable"),
    (407, "Proxy Authentication Required"), (408, "Request Timeout"), (409, "Conflict"),
    (410, "Gone"), (411, "Length Required"), (412, "Precondition Failed"),
    (413, "Payload Too Large"), (414, "URI Too Long"), (415, "Unsupported Media Type"),
    (416, "Range Not Satisfiable"), (417, "Expectation Failed"), (418, "I'm a teapot"),
    (421, "Misdirected Request"), (422, "Unprocessable Entity"), (423, "Locked"),
    (424, "Failed Dependency"), (425, "Too Early"), (426, "Upgrade Required"),
    (428, "Precondition Required"), (429, "Too Many Requests"),
    (431, "Request Header Fields Too Large"), (451, "Unavailable For Legal Reasons"),
    (500, "Internal Server Error"), (501, "Not Implemented"), (502, "Bad Gateway"),
    (503, "Service Unavailable"), (504, "Gateway Timeout"),
    (505, "HTTP Version Not Supported"), (506, "Variant Also Negotiates"),
    (507, "Insufficient Storage"), (508, "Loop Detected"), (510, "Not Extended"),
    (511, "Network Authentication Required")]
  (phrases.lookup status.toNat).getD "<unknown status code>"

/-- The text of the cause. -/
def TransportFault.message : TransportFault → String
  | writeWithoutId body => "Write response without _id: " ++ body.compact
  | bulkWithoutItems => "Bulk response without items"
  | malformedItem item => "Malformed bulk item: " ++ item.compact
  | unknownAction name => "Unknown bulk action '" ++ name ++ "'"
  | itemWithoutStatus item => "Bulk item without status: " ++ item.compact
  | searchWithoutHits => "Search response without hits"
  | hitWithoutId hit => "Search hit without _id: " ++ hit.compact
  | itemCount items operations =>
    "Bulk response has " ++ toString items ++ " items for " ++ toString operations ++ " operations"
  | failedStatus operation status body =>
    operation ++ " failed with status " ++ toString status.toNat ++ " " ++ statusPhrase status ++
      ": " ++ body
  | invalidUrl url => "Invalid URL '" ++ url ++ "'"
  | unreachable => "error sending request"
  | unreadableBody => "error decoding response body"
  | other text => text
  | caused text _ => text

/-- The text of what lies behind a fault, for those that another failure caused. -/
def TransportFault.cause? : TransportFault → Option String
  | invalidUrl _ => some "invalid URL"
  | unreachable => some "the backend could not be reached"
  | unreadableBody => some "the body is not JSON"
  | caused _ cause => some cause
  | _ => none

/-- What could not be turned into a document or back. -/
inductive CodecFault where
  | sourceNotObject (id : String) (source : Json)
  | entityNotObject (index : String) (entity : Json)
  | unprintableDate (field format : String)
  /-- The document is not one of the entity type. -/
  | refused (refusal : Refusal)
  | other (text : String)
deriving DecidableEq, Repr

/-- The text of the cause. -/
def CodecFault.message : CodecFault → String
  | sourceNotObject id source =>
    "Document source for '" ++ id ++ "' is not an object: " ++ source.compact
  | entityNotObject index entity =>
    "Entity for index '" ++ index ++ "' must serialize to an object, got " ++ entity.compact
  | unprintableDate field format =>
    "Field '" ++ field ++ "' cannot be rendered with date format '" ++ format ++ "'"
  | refused refusal => refusal.message
  | other text => text

/-- An error of a mapper operation. -/
inductive MapperError where
  | validation (cause : Invalid)
  | unsupported (cause : Unsupported)
  | transport (fault : TransportFault)
  /-- Some operation of a batch failed that had to succeed as a whole. -/
  | batchFailure (total failed : Nat)
  | serialization (fault : CodecFault)
deriving DecidableEq, Repr

/-- The text of an error. -/
def MapperError.message : MapperError → String
  | validation cause => "Validation error: " ++ cause.message
  | unsupported cause => "Unsupported operation: " ++ cause.message
  | transport fault => "Transport error: " ++ fault.message
  | batchFailure total failed =>
    "Batch failure: " ++ toString failed ++ " of " ++ toString total ++ " operations failed"
  | serialization fault => "Serialization error: " ++ fault.message

/-- The counts of a batch that failed as a whole. -/
structure FailureCounts where
  total : Nat
  failed : Nat
  succeeded : Nat
deriving DecidableEq, Repr

/-- The counts that an error reports, if it is that of a batch. No success is reported then, also
where the backend carried out a part of the batch. -/
def MapperError.failureCounts? : MapperError → Option FailureCounts
  | batchFailure total failed => some { total, failed, succeeded := 0 }
  | _ => none

end SearchMapper
