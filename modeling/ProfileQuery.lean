import ProfileQuery.Calendar.DateForm
import ProfileQuery.Calendar.DateTime
import ProfileQuery.Calendar.DayCount
import ProfileQuery.Calendar.Iso
import ProfileQuery.Cell
import ProfileQuery.Entries
import ProfileQuery.Error
import ProfileQuery.Execution
import ProfileQuery.Names
import ProfileQuery.Pattern.Basic
import ProfileQuery.Pattern.Expression
import ProfileQuery.Pattern.Footprint
import ProfileQuery.Pattern.Property
import ProfileQuery.Pattern.Reader
import ProfileQuery.Pattern.Search
import ProfileQuery.Plan.Basic
import ProfileQuery.Plan.ColumnIndex
import ProfileQuery.Plan.JoinOrder
import ProfileQuery.Plan.KeyGraph
import ProfileQuery.Plan.KeySpace
import ProfileQuery.Plan.Name
import ProfileQuery.Plan.Pivot
import ProfileQuery.Plan.Resolution
import ProfileQuery.Proofs.Calendar.DateForm
import ProfileQuery.Proofs.Execution.Consistent
import ProfileQuery.Proofs.Execution.Feasibility
import ProfileQuery.Proofs.Execution.Inner
import ProfileQuery.Proofs.Execution.Layout
import ProfileQuery.Proofs.Execution.Provision
import ProfileQuery.Proofs.Execution.Reference
import ProfileQuery.Proofs.Execution.Reordering
import ProfileQuery.Proofs.Execution.Steps
import ProfileQuery.Proofs.Names
import ProfileQuery.Proofs.Outcome
import ProfileQuery.Proofs.Plan.Fetch
import ProfileQuery.Proofs.Plan.Joins
import ProfileQuery.Proofs.Plan.KeySpace
import ProfileQuery.Proofs.Plan.Linked
import ProfileQuery.Proofs.Plan.Name
import ProfileQuery.Proofs.Plan.Named
import ProfileQuery.Proofs.Plan.Order
import ProfileQuery.Proofs.Plan.Pivot
import ProfileQuery.Proofs.Plan.Reordering
import ProfileQuery.Proofs.Plan.Steps
import ProfileQuery.Proofs.Query.Grammar
import ProfileQuery.Proofs.Query.Lexicon
import ProfileQuery.Proofs.Query.Literal
import ProfileQuery.Proofs.Query.Rendering
import ProfileQuery.Proofs.Query.Rereading
import ProfileQuery.Proofs.Query.RoundTrip
import ProfileQuery.Proofs.Query.Scan
import ProfileQuery.Proofs.Query.Shape
import ProfileQuery.Proofs.Schema.RelationsFile
import ProfileQuery.Proofs.Selection.Filter
import ProfileQuery.Proofs.Selection.Join
import ProfileQuery.Proofs.Selection.NameIndex
import ProfileQuery.Proofs.Store.Database
import ProfileQuery.Proofs.Text.Blank
import ProfileQuery.Proofs.Text.Integer
import ProfileQuery.Proofs.Unicode.CodeSet
import ProfileQuery.Query.Basic
import ProfileQuery.Query.Condition
import ProfileQuery.Query.ConditionReader
import ProfileQuery.Query.Lexicon
import ProfileQuery.Query.Reader
import ProfileQuery.Query.Scan
import ProfileQuery.Query.Shape
import ProfileQuery.Query.SyntaxError
import ProfileQuery.Query.Token
import ProfileQuery.Schema.Basic
import ProfileQuery.Schema.Field
import ProfileQuery.Schema.RelationsFile
import ProfileQuery.Selection.Basic
import ProfileQuery.Selection.Change
import ProfileQuery.Selection.Filter
import ProfileQuery.Selection.Grid
import ProfileQuery.Selection.Join
import ProfileQuery.Selection.KeyIndex
import ProfileQuery.Selection.NameIndex
import ProfileQuery.Store.Database
import ProfileQuery.Text.Blank
import ProfileQuery.Text.Integer
import ProfileQuery.Text.Quoted
import ProfileQuery.Unicode.Age
import ProfileQuery.Unicode.CasePairs
import ProfileQuery.Unicode.Category
import ProfileQuery.Unicode.CodeSet
import ProfileQuery.Unicode.Encoding
import ProfileQuery.Unicode.GraphemeBreak
import ProfileQuery.Unicode.Letter
import ProfileQuery.Unicode.Property
import ProfileQuery.Unicode.Script
import ProfileQuery.Unicode.ScriptExtension
import ProfileQuery.Unicode.SentenceBreak
import ProfileQuery.Unicode.WordBreak
import ProfileQuery.Value
import ProfileQuery.Proofs.Schema.RoundTrip
import ProfileQuery.Proofs.Query.Derivation
import ProfileQuery.Proofs.Query.Greedy
import ProfileQuery.Proofs.Query.Acceptance
import ProfileQuery.Proofs.Plan.Extension
import ProfileQuery.Proofs.Selection.Outcome
import ProfileQuery.Proofs.Execution.Growth
import ProfileQuery.Proofs.Execution.LeftJoin
import ProfileQuery.Proofs.Execution.Padding
import ProfileQuery.Proofs.Query.CutOrder
import ProfileQuery.Proofs.Query.MaximalMunch
import ProfileQuery.Proofs.Query.Placement
import ProfileQuery.Proofs.Selection.Sound
import ProfileQuery.Proofs.Query.Origin
import ProfileQuery.Proofs.Query.Typing
import ProfileQuery.Proofs.Execution.Runs
import ProfileQuery.Proofs.Execution.Typing
import ProfileQuery.Proofs.Store.Requests
import ProfileQuery.Proofs.Execution.NestedLoops
import ProfileQuery.Proofs.Plan.KeyGraph
import ProfileQuery.Proofs.Plan.Bridging
import ProfileQuery.Proofs.Plan.Orderable
import ProfileQuery.Proofs.Plan.Redundancy
import ProfileQuery.Proofs.Plan.Permuted
import ProfileQuery.Proofs.Pattern.Search
import ProfileQuery.Proofs.Selection.Meaning
import ProfileQuery.Proofs.Selection.Change
import ProfileQuery.Proofs.Execution.InPlace
import ProfileQuery.Proofs.Execution.Reselect
import ProfileQuery.Proofs.Query.Quoting
import ProfileQuery.Proofs.Query.Conjunction
import ProfileQuery.Proofs.Query.ViablePrefix
import ProfileQuery.Proofs.Query.FirstFault
import ProfileQuery.Proofs.Query.Alike
import ProfileQuery.Proofs.Query.LeadingWord
import ProfileQuery.Proofs.Execution.LeadingWord
import ProfileQuery.Proofs.Calendar.Spelling
import ProfileQuery.Proofs.Calendar.Unambiguous
import ProfileQuery.Proofs.Query.CellLiteral
import ProfileQuery.Proofs.Query.TreeMeaning
import ProfileQuery.Proofs.Plan.Wildcard
import ProfileQuery.Proofs.Execution.Wildcard
import ProfileQuery.Proofs.Cell
import ProfileQuery.Proofs.Schema.Layout
import ProfileQuery.Proofs.Execution.WildcardJoin
import ProfileQuery.Proofs.Calendar.Reading
import ProfileQuery.Proofs.Plan.Preference
import ProfileQuery.Proofs.Query.Renaming
import ProfileQuery.Proofs.Plan.Resolved
import ProfileQuery.Proofs.Plan.Components
