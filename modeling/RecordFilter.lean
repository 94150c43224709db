import RecordFilter.Cache
import RecordFilter.Event
import RecordFilter.Main
import RecordFilter.Sample
import RecordFilter.Proofs.Filter.Grammar
import RecordFilter.Proofs.Filter.Reading
import RecordFilter.Proofs.Filter.Completeness
import RecordFilter.Proofs.Token.Cutting
import RecordFilter.Proofs.Token.Gluing
import RecordFilter.Proofs.Literal.Letters
import RecordFilter.Proofs.Literal.Escaping
import RecordFilter.Proofs.Token.Condition
import RecordFilter.Proofs.Filter.Spelling
import RecordFilter.Proofs.Filter.Normal
import RecordFilter.Proofs.Filter.RoundTrip
import RecordFilter.Proofs.Predicate.Matcher
import RecordFilter.Proofs.Selection.Combined
import RecordFilter.Proofs.Selection.Stepwise
import RecordFilter.Proofs.Mapper.Keys
import RecordFilter.Proofs.Mapper.Run
import RecordFilter.Proofs.Catalog.Path
import RecordFilter.Proofs.Mapper.Version
import RecordFilter.Proofs.Predicate.Members
import RecordFilter.Proofs.Mapper.Exclusion
import RecordFilter.Proofs.Cache.Answers
import RecordFilter.Proofs.Text.Position
import RecordFilter.Proofs.Text.Tracker
import RecordFilter.Proofs.Token.Places
import RecordFilter.Proofs.Token.Truncation
import RecordFilter.Proofs.Token.Scanning
import RecordFilter.Proofs.Token.Tiling
import RecordFilter.Proofs.Token.Next
import RecordFilter.Proofs.Token.Spacing
import RecordFilter.Proofs.Token.Succession
import RecordFilter.Proofs.Number.Rounding
import RecordFilter.Proofs.Value.Transitivity
import RecordFilter.Proofs.Record.Distinct
import RecordFilter.Proofs.Record.Inference
import RecordFilter.Proofs.Record.Registration
import RecordFilter.Proofs.Filter.Conditions
import RecordFilter.Proofs.Filter.Failure
import RecordFilter.Proofs.Filter.Strays
import RecordFilter.Proofs.Filter.Slices
import RecordFilter.Proofs.Filter.Blame
import RecordFilter.Proofs.SyntaxError.Report
import RecordFilter.Proofs.Predicate.Regrouping
import RecordFilter.Proofs.Text.Lowercase
import RecordFilter.Proofs.Predicate.Condition
import RecordFilter.Proofs.Predicate.Case
import RecordFilter.Proofs.Record.OwnText
import RecordFilter.Proofs.Json.Numeral
import RecordFilter.Proofs.Number.Exact
import RecordFilter.Proofs.Json.Literal
import RecordFilter.Proofs.Value.Number
import RecordFilter.Proofs.Json.Number
import RecordFilter.Proofs.Record.OwnNumber
import RecordFilter.Proofs.Calendar.Order
import RecordFilter.Proofs.Text.Bytes
import RecordFilter.Proofs.Value.Order
import RecordFilter.Proofs.Predicate.Formula
import RecordFilter.Proofs.Predicate.Evaluation
import RecordFilter.Proofs.Predicate.Dual
import RecordFilter.Proofs.Predicate.Partition
import RecordFilter.Proofs.Catalog.Trail
import RecordFilter.Proofs.Mapper.Table
import RecordFilter.Proofs.Mapper.Generation
import RecordFilter.Proofs.Predicate.Leaves
import RecordFilter.Proofs.Cache.Occupancy
import RecordFilter.Proofs.Text.Trim
import RecordFilter.Proofs.Number.Integer
import RecordFilter.Proofs.Number.Decimal
import RecordFilter.Proofs.Text.Ascii
import RecordFilter.Proofs.Value.Uuid
import RecordFilter.Proofs.Calendar.Printed
import RecordFilter.Proofs.Value.Printed
import RecordFilter.Proofs.Value.TypeName
