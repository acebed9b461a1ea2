import RecordQuery.Declaration
import RecordQuery.Document.Json
import RecordQuery.Document.Options
import RecordQuery.Document.Yaml
import RecordQuery.Settings
import RecordQuery.Source
import RecordQuery.Text.Size
import RecordQuery.Proofs.Conformance
import RecordQuery.Proofs.StableSort
import RecordQuery.Proofs.Plan.Sorting
import RecordQuery.Proofs.Plan.Eager
import RecordQuery.Proofs.Source.Unpaged
import RecordQuery.Proofs.Predicate.Typing
import RecordQuery.Proofs.QueryText.Group
import RecordQuery.Proofs.QueryText.Occurrence
import RecordQuery.Proofs.Text.Integer
import RecordQuery.Proofs.Text.Percent
import RecordQuery.Proofs.Options
import RecordQuery.Proofs.QueryText.Print
import RecordQuery.Proofs.QueryText.RoundTrip
import RecordQuery.Proofs.Plan.Stages
import RecordQuery.Proofs.Source.Paged
import RecordQuery.Proofs.Plan.Splice
import RecordQuery.Proofs.Predicate.Absence
import RecordQuery.Proofs.Predicate.Folding
import RecordQuery.Proofs.PagePolicy
import RecordQuery.Proofs.Source.Failure
import RecordQuery.Proofs.QueryText.Nested
import RecordQuery.Proofs.QueryText.Segment
import RecordQuery.Proofs.QueryText.Reading
import RecordQuery.Proofs.QueryText.Unescaped
import RecordQuery.Proofs.QueryText.Encoded
import RecordQuery.Proofs.Request
import RecordQuery.Proofs.Source.Reapplied
import RecordQuery.Proofs.Document.Options
import RecordQuery.Proofs.Caseless.Compile
import RecordQuery.Proofs.Caseless.Reading
import RecordQuery.Proofs.Caseless.Occurrences
import RecordQuery.Proofs.Caseless.Spelling
import RecordQuery.Proofs.Caseless.Parse
import RecordQuery.Proofs.Plan.Preorder
import RecordQuery.Proofs.Predicate.Substring
import RecordQuery.Proofs.Predicate.Membership
import RecordQuery.Proofs.Declaration.Variants
import RecordQuery.Proofs.Collation
import RecordQuery.Proofs.MemberPath
import RecordQuery.Proofs.Predicate.Equality
import RecordQuery.Proofs.Predicate.Comparison
import RecordQuery.Proofs.Predicate.Joined
import RecordQuery.Proofs.Predicate.Alternatives
import RecordQuery.Proofs.CaseFlags
import RecordQuery.Proofs.QueryText.Faults
import RecordQuery.Proofs.Plan.Stepwise
import RecordQuery.Proofs.QueryText.Tokens
import RecordQuery.Proofs.Enforcement
import RecordQuery.Proofs.Declaration.Members
import RecordQuery.Proofs.Declaration.Paths
import RecordQuery.Proofs.Number.Order
import RecordQuery.Proofs.Time.Timestamp
import RecordQuery.Proofs.QueryText.Closing
import RecordQuery.Proofs.QueryText.Depth
import RecordQuery.Proofs.Declaration.Constants
