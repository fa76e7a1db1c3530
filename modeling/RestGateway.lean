import RestGateway.Backend.Cache
import RestGateway.Backend.Client
import RestGateway.Backend.Credentials
import RestGateway.Backend.Query
import RestGateway.Backend.Reply
import RestGateway.Classifier
import RestGateway.CommandLine
import RestGateway.Config.Basic
import RestGateway.Config.Environment
import RestGateway.Config.Error
import RestGateway.Config.FromSettings
import RestGateway.Config.Load
import RestGateway.Config.Setting
import RestGateway.Config.Toml.Document
import RestGateway.Config.Toml.Moment
import RestGateway.Config.Toml.Scalar
import RestGateway.Config.Toml.Table
import RestGateway.Decimal.Layout
import RestGateway.Decimal.Nearest
import RestGateway.Decimal.Shortest
import RestGateway.Digest.Blake3
import RestGateway.Error
import RestGateway.Filter.Basic
import RestGateway.Filter.Call
import RestGateway.Filter.Error
import RestGateway.Filter.NestedList
import RestGateway.Filter.ObjectQuery
import RestGateway.Filter.Registry
import RestGateway.Gateway.Basic
import RestGateway.Gateway.Entities
import RestGateway.Gateway.Pipeline
import RestGateway.Gateway.Plan
import RestGateway.Gateway.Route
import RestGateway.Gateway.Serve
import RestGateway.Gateway.Versions
import RestGateway.Http.Cors
import RestGateway.Http.Form
import RestGateway.Http.Message
import RestGateway.Http.Status
import RestGateway.Http.Target
import RestGateway.Json.Basic
import RestGateway.Json.Decoder
import RestGateway.Json.Fault
import RestGateway.Json.NumberReader
import RestGateway.Json.Printer
import RestGateway.Json.Reader
import RestGateway.Json.StringReader
import RestGateway.Json.ValueReader
import RestGateway.Log
import RestGateway.Main
import RestGateway.Parameters
import RestGateway.Proofs.Filter.CallGrammar
import RestGateway.Proofs.Filter.Triples
import RestGateway.Proofs.Json.Mirror
import RestGateway.Proofs.Json.Numbers
import RestGateway.Proofs.Json.Progress
import RestGateway.Proofs.Json.Reading
import RestGateway.Proofs.Json.Sequences
import RestGateway.Proofs.Json.Strings
import RestGateway.Proofs.Json.Values
import RestGateway.Proofs.Text.Utf8
import RestGateway.Startup
import RestGateway.Text.Ascii
import RestGateway.Text.Base64
import RestGateway.Text.Blank
import RestGateway.Text.Escape
import RestGateway.Text.Quoted
import RestGateway.Text.Ranges
import RestGateway.Text.Scan
import RestGateway.Text.Split
import RestGateway.Text.Utf8
import RestGateway.Text.Visible
import RestGateway.Text.Word
import RestGateway.Unicode.Composition
import RestGateway.Unicode.Direction
import RestGateway.Unicode.Joining
import RestGateway.Unicode.Mapping
import RestGateway.Unicode.Table
import RestGateway.Url.Address
import RestGateway.Url.Basic
import RestGateway.Url.Domain
import RestGateway.Url.Path
import RestGateway.Url.Percent
import RestGateway.Url.Punycode
import RestGateway.VersionReport
import RestGateway.Word
import RestGateway.Proofs.Json.Contents
import RestGateway.Proofs.Json.Equality
import RestGateway.Proofs.Json.RoundTrip
import RestGateway.Proofs.Wire.Values
import RestGateway.Proofs.Filter.ObjectText
import RestGateway.Proofs.Filter.Activation
import RestGateway.Proofs.Filter.Dispatch
import RestGateway.Proofs.Filter.RoundTrip
import RestGateway.Proofs.Json.Grammar
import RestGateway.Proofs.Json.Settled
import RestGateway.Proofs.Json.Phrases
import RestGateway.Proofs.Filter.Agreement
import RestGateway.Proofs.Backend.KeyMaterial
import RestGateway.Proofs.Backend.SharedCache
import RestGateway.Proofs.Attempts
import RestGateway.Proofs.Text.Numerals
import RestGateway.Proofs.Gateway.Failures
import RestGateway.Proofs.Gateway.Tasks
import RestGateway.Proofs.Gateway.Requests
import RestGateway.Proofs.Gateway.Reached
import RestGateway.Proofs.Gateway.Translation
import RestGateway.Proofs.Gateway.Authentication
import RestGateway.Proofs.Backend.Exceptions
import RestGateway.Proofs.Gateway.Replies
import RestGateway.Proofs.Gateway.Writes
import RestGateway.Proofs.Wire.CallBody
import RestGateway.Proofs.Json.Records
import RestGateway.Proofs.Json.Results
import RestGateway.Proofs.Wire.RoundTrip
import RestGateway.Proofs.Gateway.Reads
import RestGateway.Proofs.Startup.Readiness
import RestGateway.Proofs.Text.Scans
import RestGateway.Proofs.Config.Tables
import RestGateway.Proofs.Config.TomlKeys
import RestGateway.Proofs.Config.Keys
import RestGateway.Proofs.Config.Layers
import RestGateway.Proofs.Startup.Precedence
import RestGateway.Proofs.Gateway.BodyLimit
import RestGateway.Proofs.Backend.Steps
import RestGateway.Proofs.Backend.Capacity
import RestGateway.Proofs.Backend.Crossings
import RestGateway.Proofs.Url.Sites
import RestGateway.Proofs.Startup.Hosts
import RestGateway.Proofs.Gateway.Headers
import RestGateway.Proofs.Gateway.Layers
import RestGateway.Proofs.Filter.Claiming
import RestGateway.Proofs.Filter.Spacing
import RestGateway.Proofs.Text.Base64
import RestGateway.Proofs.Text.Split
import RestGateway.Proofs.Backend.Authorization
import RestGateway.Proofs.Json.Scalars
import RestGateway.Proofs.Json.Meaning
import RestGateway.Proofs.Filter.ObjectGrammar
import RestGateway.Proofs.Parameters.Lookup
import RestGateway.Proofs.Parameters.Reads
import RestGateway.Proofs.Json.SkippedScalars
import RestGateway.Proofs.Json.Skipping
import RestGateway.Proofs.Json.Texts
import RestGateway.Proofs.Json.Fields
import RestGateway.Proofs.Parameters.Summaries
import RestGateway.Proofs.Text.Order
import RestGateway.Proofs.Json.Documents
import RestGateway.Proofs.Json.LastPairs
import RestGateway.Proofs.Wire.Fields
import RestGateway.Proofs.Backend.Precedence
import RestGateway.Proofs.Gateway.ErrorResponses
import RestGateway.Proofs.Text.Patterns
import RestGateway.Proofs.Filter.CallPattern
import RestGateway.Proofs.Gateway.Versions
import RestGateway.Proofs.Url.Punycode
import RestGateway.Proofs.Url.Percent
import RestGateway.Proofs.Unicode.Ascii
import RestGateway.Proofs.Url.Domain
import RestGateway.Proofs.Url.Hosts
import RestGateway.Proofs.Url.Paths
import RestGateway.Proofs.Url.RoundTrip
import RestGateway.Proofs.Backend.Address
import RestGateway.Proofs.Url.Addresses
import RestGateway.Proofs.Text.Ascii
