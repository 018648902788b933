import MetaSchema.Binding
import MetaSchema.Command.Arguments
import MetaSchema.Command.Files
import MetaSchema.Command.Network
import MetaSchema.Command.Run
import MetaSchema.Diagnostic.Basic
import MetaSchema.Diagnostic.Reporter
import MetaSchema.Graph.Basic
import MetaSchema.Graph.Frontier
import MetaSchema.Graph.Slots
import MetaSchema.Issue.Basic
import MetaSchema.Issue.Bind
import MetaSchema.Issue.Defect
import MetaSchema.Issue.Delivery
import MetaSchema.Issue.Load
import MetaSchema.Issue.Parse
import MetaSchema.Issue.Resolve
import MetaSchema.Issue.Validate
import MetaSchema.Main
import MetaSchema.Name.Basic
import MetaSchema.Name.Identifier
import MetaSchema.Proofs.Binding.Bound
import MetaSchema.Proofs.Binding.CycleReports
import MetaSchema.Proofs.Binding.Cycles
import MetaSchema.Proofs.Binding.Exact
import MetaSchema.Proofs.Binding.Round
import MetaSchema.Proofs.Command.Paths
import MetaSchema.Proofs.Graph.Consistent
import MetaSchema.Proofs.Graph.Frontier
import MetaSchema.Proofs.Graph.Growth
import MetaSchema.Proofs.Graph.Order
import MetaSchema.Proofs.Graph.Reachability
import MetaSchema.Proofs.Graph.Search
import MetaSchema.Proofs.Graph.ShortestPath
import MetaSchema.Proofs.Graph.Slots
import MetaSchema.Proofs.Issue.Defect
import MetaSchema.Proofs.Issue.Explained
import MetaSchema.Proofs.Lists
import MetaSchema.Proofs.Name.FileName
import MetaSchema.Proofs.Name.Order
import MetaSchema.Proofs.Name.Qualified
import MetaSchema.Proofs.Name.ReadBack
import MetaSchema.Proofs.Origin.Anonymous
import MetaSchema.Proofs.Origin.Binding
import MetaSchema.Proofs.Origin.Files
import MetaSchema.Proofs.Origin.Loading
import MetaSchema.Proofs.Origin.Operation
import MetaSchema.Proofs.Resolution.Agreement
import MetaSchema.Proofs.Resolution.Asked
import MetaSchema.Proofs.Resolution.Catalog
import MetaSchema.Proofs.Resolution.Closure
import MetaSchema.Proofs.Resolution.Defects
import MetaSchema.Proofs.Resolution.Explained
import MetaSchema.Proofs.Resolution.Failures
import MetaSchema.Proofs.Resolution.Primitive
import MetaSchema.Proofs.Resolution.ResolvedSet
import MetaSchema.Proofs.Resolution.Session
import MetaSchema.Proofs.Resolution.Traversal
import MetaSchema.Proofs.Resolution.Walk
import MetaSchema.Proofs.Running.Depth
import MetaSchema.Proofs.Schema.Text
import MetaSchema.Proofs.Schema.WellFormed
import MetaSchema.Proofs.Session.Blame
import MetaSchema.Proofs.Session.BrokenChain
import MetaSchema.Proofs.Session.Cache
import MetaSchema.Proofs.Session.Classified
import MetaSchema.Proofs.Session.Compilable
import MetaSchema.Proofs.Session.Compiled
import MetaSchema.Proofs.Session.Compiling
import MetaSchema.Proofs.Session.Defects
import MetaSchema.Proofs.Session.Denoted
import MetaSchema.Proofs.Session.Explained
import MetaSchema.Proofs.Session.Failures
import MetaSchema.Proofs.Session.Limits
import MetaSchema.Proofs.Session.Loading
import MetaSchema.Proofs.Session.Openings
import MetaSchema.Proofs.Session.Operation
import MetaSchema.Proofs.Session.Refusal
import MetaSchema.Proofs.Session.Rooted
import MetaSchema.Proofs.Session.Served
import MetaSchema.Proofs.Session.Typing
import MetaSchema.Proofs.Session.WriteOnce
import MetaSchema.Proofs.Syntax.Children
import MetaSchema.Proofs.Syntax.Conforming
import MetaSchema.Proofs.Syntax.Declarations
import MetaSchema.Proofs.Syntax.Encoded
import MetaSchema.Proofs.Syntax.Exact
import MetaSchema.Proofs.Syntax.Explained
import MetaSchema.Proofs.Syntax.Grammar
import MetaSchema.Proofs.Syntax.NodesLimit
import MetaSchema.Proofs.Syntax.Reports
import MetaSchema.Proofs.Syntax.RoundTrip
import MetaSchema.Proofs.Syntax.Written
import MetaSchema.Proofs.Text.Encoding
import MetaSchema.Proofs.Text.Numeral
import MetaSchema.Proofs.Validation
import MetaSchema.Proofs.Validation.Exact
import MetaSchema.Proofs.Value.Comparison
import MetaSchema.Proofs.Value.Decimal
import MetaSchema.Proofs.Value.Numeral
import MetaSchema.Proofs.Value.RoundTrip
import MetaSchema.Proofs.Value.Timestamp
import MetaSchema.Proofs.Xml.Document
import MetaSchema.Proofs.Xml.Markup
import MetaSchema.Proofs.Xml.Scanning
import MetaSchema.Proofs.Xml.Steps
import MetaSchema.Resolution.Directory
import MetaSchema.Resolution.ImportTable
import MetaSchema.Resolution.ResolvedSet
import MetaSchema.Resolution.Walk
import MetaSchema.Schema.Basic
import MetaSchema.Schema.Cardinality
import MetaSchema.Schema.Primitive
import MetaSchema.Session.Basic
import MetaSchema.Session.Documents
import MetaSchema.Session.Loading
import MetaSchema.Session.Typing
import MetaSchema.Syntax.Grammar
import MetaSchema.Syntax.Node
import MetaSchema.Syntax.Parser
import MetaSchema.Syntax.Tree
import MetaSchema.Text.Blank
import MetaSchema.Text.CombiningClass
import MetaSchema.Text.Decomposition
import MetaSchema.Text.Direction
import MetaSchema.Text.Encoding
import MetaSchema.Text.GraphemeExtend
import MetaSchema.Text.Joining
import MetaSchema.Text.Normalization
import MetaSchema.Text.Numeral
import MetaSchema.Text.Quoted
import MetaSchema.Text.Ranges
import MetaSchema.Text.SpacingMark
import MetaSchema.Text.Split
import MetaSchema.Text.Unprintable
import MetaSchema.Url.Address
import MetaSchema.Url.Basic
import MetaSchema.Url.Domain
import MetaSchema.Url.Folding
import MetaSchema.Url.Label
import MetaSchema.Url.Parser
import MetaSchema.Url.Percent
import MetaSchema.Url.Punycode
import MetaSchema.Validation
import MetaSchema.Value.Basic
import MetaSchema.Value.Comparison
import MetaSchema.Value.Decimal
import MetaSchema.Value.Integer
import MetaSchema.Value.Reference
import MetaSchema.Value.Timestamp
import MetaSchema.Xml.Char
import MetaSchema.Xml.Content
import MetaSchema.Xml.Cursor
import MetaSchema.Xml.Error
import MetaSchema.Xml.Token
import MetaSchema.Xml.Tree
import MetaSchema.Proofs.Graph.Consistent
