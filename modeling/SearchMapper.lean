import SearchMapper.Bulk.Basic
import SearchMapper.Bulk.Summary
import SearchMapper.Bulk.Wire
import SearchMapper.Codec
import SearchMapper.Condition.Basic
import SearchMapper.Condition.Build
import SearchMapper.Condition.Wire
import SearchMapper.Config
import SearchMapper.Date.BackendPattern
import SearchMapper.Date.Calendar
import SearchMapper.Date.Digits
import SearchMapper.Date.Fields
import SearchMapper.Date.Names
import SearchMapper.Date.Pattern
import SearchMapper.Date.Print
import SearchMapper.Date.Read
import SearchMapper.Date.Rfc3339
import SearchMapper.Date.Scan
import SearchMapper.Date.Timestamp
import SearchMapper.Error
import SearchMapper.Floating.Binary
import SearchMapper.Floating.Decimal
import SearchMapper.Floating.Double
import SearchMapper.Floating.Layout
import SearchMapper.Floating.Shortest
import SearchMapper.Fragment.Basic
import SearchMapper.Fragment.Body
import SearchMapper.Fragment.OfConditions
import SearchMapper.Fragment.OfPredicate
import SearchMapper.Geo.Basic
import SearchMapper.Host.Address
import SearchMapper.Host.Basic
import SearchMapper.Host.Direction
import SearchMapper.Host.Joining
import SearchMapper.Host.Mapping
import SearchMapper.Host.MappingTable
import SearchMapper.Host.Name
import SearchMapper.Json.Basic
import SearchMapper.Json.Decode
import SearchMapper.Json.Members
import SearchMapper.Json.Printer
import SearchMapper.Json.Reader
import SearchMapper.Json.Token
import SearchMapper.Mapper
import SearchMapper.Metadata.Basic
import SearchMapper.Metadata.Index
import SearchMapper.Metadata.Registry
import SearchMapper.Metadata.Validate
import SearchMapper.Metadata.Wire
import SearchMapper.Proofs.Bulk.Answers
import SearchMapper.Proofs.Bulk.Counts
import SearchMapper.Proofs.Bulk.Failures
import SearchMapper.Proofs.Bulk.Limits
import SearchMapper.Proofs.Bulk.Lines
import SearchMapper.Proofs.Bulk.Reconciled
import SearchMapper.Proofs.Codec.Assigned
import SearchMapper.Proofs.Codec.DateFaults
import SearchMapper.Proofs.Codec.Dates
import SearchMapper.Proofs.Codec.Formatted
import SearchMapper.Proofs.Codec.Partial
import SearchMapper.Proofs.Codec.ReadBack
import SearchMapper.Proofs.Codec.Repeated
import SearchMapper.Proofs.Codec.Source
import SearchMapper.Proofs.Codec.Stored
import SearchMapper.Proofs.Conditions.Appended
import SearchMapper.Proofs.Conditions.Boosted
import SearchMapper.Proofs.Conditions.Built
import SearchMapper.Proofs.Conditions.Compiled
import SearchMapper.Proofs.Conditions.Faults
import SearchMapper.Proofs.Conditions.Meaning
import SearchMapper.Proofs.Conditions.NormalForm
import SearchMapper.Proofs.Conditions.Parts
import SearchMapper.Proofs.Conditions.Pass
import SearchMapper.Proofs.Conditions.Reference
import SearchMapper.Proofs.Date.BackendReading
import SearchMapper.Proofs.Date.Calendar
import SearchMapper.Proofs.Date.Directives
import SearchMapper.Proofs.Date.Formats
import SearchMapper.Proofs.Date.Joined
import SearchMapper.Proofs.Date.MappedFormats
import SearchMapper.Proofs.Date.Padded
import SearchMapper.Proofs.Date.Parts
import SearchMapper.Proofs.Date.Readers
import SearchMapper.Proofs.Date.Resolved
import SearchMapper.Proofs.Date.Rfc3339
import SearchMapper.Proofs.Date.Unwritable
import SearchMapper.Proofs.Floating.Exact
import SearchMapper.Proofs.Fragment.Accepted
import SearchMapper.Proofs.Fragment.Displaced
import SearchMapper.Proofs.Fragment.Matching
import SearchMapper.Proofs.Fragment.Moved
import SearchMapper.Proofs.Fragment.Slots
import SearchMapper.Proofs.Json.Given
import SearchMapper.Proofs.Json.Ordered
import SearchMapper.Proofs.Json.Sorted
import SearchMapper.Proofs.Json.Typed
import SearchMapper.Proofs.Mapper.Batches
import SearchMapper.Proofs.Mapper.ByCondition
import SearchMapper.Proofs.Mapper.DateFormats
import SearchMapper.Proofs.Mapper.Documents
import SearchMapper.Proofs.Mapper.Execution
import SearchMapper.Proofs.Mapper.IndexMapping
import SearchMapper.Proofs.Mapper.KeyFields
import SearchMapper.Proofs.Mapper.OverHttp
import SearchMapper.Proofs.Mapper.Selected
import SearchMapper.Proofs.Mapper.Writes
import SearchMapper.Proofs.Metadata.Registry
import SearchMapper.Proofs.Metadata.Valid
import SearchMapper.Proofs.Outcome
import SearchMapper.Proofs.Query.Requests
import SearchMapper.Proofs.Query.Written
import SearchMapper.Proofs.Response.Parsed
import SearchMapper.Proofs.Response.Served
import SearchMapper.Proofs.Response.Written
import SearchMapper.Proofs.Sample.Log
import SearchMapper.Proofs.Sample.Run
import SearchMapper.Proofs.Sample.Stages
import SearchMapper.Proofs.Text.Numerals
import SearchMapper.Proofs.Transport.Exchanges
import SearchMapper.Proofs.Transport.Runs
import SearchMapper.Query.Basic
import SearchMapper.Query.Request
import SearchMapper.Query.Wire
import SearchMapper.Response.Body
import SearchMapper.Response.Search
import SearchMapper.Sample.Connect
import SearchMapper.Sample.Document
import SearchMapper.Sample.Session
import SearchMapper.Text.Blank
import SearchMapper.Text.CaseTable
import SearchMapper.Text.Category
import SearchMapper.Text.Composition
import SearchMapper.Text.LowerCase
import SearchMapper.Text.Normal
import SearchMapper.Text.Numeral
import SearchMapper.Text.Punycode
import SearchMapper.Text.Quoted
import SearchMapper.Text.Ranges
import SearchMapper.Text.Unshown
import SearchMapper.Text.Url
import SearchMapper.Transport.Call
import SearchMapper.Transport.Http
import SearchMapper.Transport.Scripted
import SearchMapper.Transport.Wire
