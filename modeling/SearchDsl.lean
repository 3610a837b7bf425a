import SearchDsl.Decimal.Read
import SearchDsl.Decimal.Shortest
import SearchDsl.Decimal.Text
import SearchDsl.Error
import SearchDsl.Json.Basic
import SearchDsl.Json.Reader
import SearchDsl.Json.Writer
import SearchDsl.Loose
import SearchDsl.Mapping.Basic
import SearchDsl.Mapping.Document
import SearchDsl.Mapping.FieldType
import SearchDsl.Mapping.Setting
import SearchDsl.Param.Basic
import SearchDsl.Param.Coerce
import SearchDsl.Param.Declared
import SearchDsl.Proofs.Decimal.Finite
import SearchDsl.Proofs.Decimal.Integral
import SearchDsl.Proofs.Except
import SearchDsl.Proofs.Fragment
import SearchDsl.Proofs.Json.Canonical
import SearchDsl.Proofs.Json.Object
import SearchDsl.Proofs.Json.Parsed
import SearchDsl.Proofs.Mapping.RoundTrip
import SearchDsl.Proofs.Mapping.Faults
import SearchDsl.Proofs.Mapping.Build
import SearchDsl.Proofs.Mapping.Sound
import SearchDsl.Proofs.Mapping.Session
import SearchDsl.Proofs.Param.Reread
import SearchDsl.Proofs.Param.Registry
import SearchDsl.Proofs.Query.Boosting
import SearchDsl.Proofs.Query.Canonical
import SearchDsl.Proofs.Query.Changes
import SearchDsl.Proofs.Query.Compound
import SearchDsl.Proofs.Query.Containers
import SearchDsl.Proofs.Query.Content
import SearchDsl.Proofs.Query.Functions
import SearchDsl.Proofs.Query.Leaves
import SearchDsl.Proofs.Query.Readable
import SearchDsl.Proofs.Query.RoundTrip
import SearchDsl.Proofs.Query.Rules
import SearchDsl.Proofs.Query.Slots
import SearchDsl.Proofs.Search.Members
import SearchDsl.Proofs.Search.ReadBack
import SearchDsl.Proofs.Search.RoundTrip
import SearchDsl.Proofs.Setters
import SearchDsl.Proofs.Text.Spellings
import SearchDsl.Proofs.Text.Tags
import SearchDsl.Query.Clause
import SearchDsl.Query.Decode
import SearchDsl.Query.Edit
import SearchDsl.Query.FullText
import SearchDsl.Query.Intervals
import SearchDsl.Query.Kind
import SearchDsl.Query.Record
import SearchDsl.Query.ScoreFunction
import SearchDsl.Query.Script
import SearchDsl.Query.Shape
import SearchDsl.Query.TermLevel
import SearchDsl.Scalar
import SearchDsl.Search.Request
import SearchDsl.Search.Source
import SearchDsl.Service.Answer
import SearchDsl.Service.BuildOps
import SearchDsl.Service.Codec
import SearchDsl.Service.Conversions
import SearchDsl.Service.Dispatch
import SearchDsl.Service.Getters
import SearchDsl.Service.MappingOps
import SearchDsl.Service.MappingSession
import SearchDsl.Service.QueryOps
import SearchDsl.Service.QuerySession
import SearchDsl.Service.QueryView
import SearchDsl.Service.Records
import SearchDsl.Service.SearchOps
import SearchDsl.Service.Values
import SearchDsl.Tag
import SearchDsl.Text.Blank
import SearchDsl.Text.Debug
import SearchDsl.Text.GraphemeExtend
import SearchDsl.Text.Printable
import SearchDsl.Time
import SearchDsl.Yaml.Cursor
import SearchDsl.Yaml.Node
import SearchDsl.Yaml.Reader
import SearchDsl.Yaml.Scalar
import SearchDsl.Yaml.Styles
import SearchDsl.Yaml.Tags
