import PeerTaint.Alias.Merge
import PeerTaint.Alias.Partition
import PeerTaint.Analysis
import PeerTaint.Bounds
import PeerTaint.Build.Basic
import PeerTaint.Build.Expand
import PeerTaint.Build.Splice
import PeerTaint.Config.Basic
import PeerTaint.Config.Document
import PeerTaint.Config.Error
import PeerTaint.Config.Validate
import PeerTaint.Exploration
import PeerTaint.Graph.Node
import PeerTaint.Graph.Path
import PeerTaint.Graph.Search
import PeerTaint.Graph.Stats
import PeerTaint.Graph.Store
import PeerTaint.Graph.Subgraph
import PeerTaint.Inputs.Classify
import PeerTaint.Inputs.Primitive
import PeerTaint.Inputs.Sets
import PeerTaint.Json.Basic
import PeerTaint.Json.Config
import PeerTaint.Json.Graph
import PeerTaint.Json.Program
import PeerTaint.Json.Read
import PeerTaint.Json.Report
import PeerTaint.Json.Shape
import PeerTaint.Json.Write
import PeerTaint.Levels.Correlator
import PeerTaint.Levels.Graph
import PeerTaint.Levels.Layers
import PeerTaint.Order.Key
import PeerTaint.Order.SortedMap
import PeerTaint.Order.SortedSet
import PeerTaint.Pattern.Basic
import PeerTaint.Pattern.Match
import PeerTaint.Pattern.Read
import PeerTaint.Pattern.Size
import PeerTaint.Program.Basic
import PeerTaint.Program.Operation
import PeerTaint.Program.Pair
import PeerTaint.Program.Routine
import PeerTaint.Program.Value
import PeerTaint.Proofs.Accesses
import PeerTaint.Proofs.Accounting
import PeerTaint.Proofs.Acts
import PeerTaint.Proofs.AliasClasses
import PeerTaint.Proofs.Attaching
import PeerTaint.Proofs.Bindings
import PeerTaint.Proofs.BreadthFirst
import PeerTaint.Proofs.BuildLogic
import PeerTaint.Proofs.BuildSteps
import PeerTaint.Proofs.Bypass
import PeerTaint.Proofs.Classification
import PeerTaint.Proofs.Clearing
import PeerTaint.Proofs.Collections
import PeerTaint.Proofs.Completion
import PeerTaint.Proofs.ConfigDocuments
import PeerTaint.Proofs.Copying
import PeerTaint.Proofs.Counting
import PeerTaint.Proofs.Counts
import PeerTaint.Proofs.Coverage
import PeerTaint.Proofs.Crossing
import PeerTaint.Proofs.Dependencies
import PeerTaint.Proofs.Division
import PeerTaint.Proofs.DocumentNodes
import PeerTaint.Proofs.DocumentTokens
import PeerTaint.Proofs.Events
import PeerTaint.Proofs.Evolution
import PeerTaint.Proofs.Expansion
import PeerTaint.Proofs.Extraction
import PeerTaint.Proofs.Fetching
import PeerTaint.Proofs.History
import PeerTaint.Proofs.Identity
import PeerTaint.Proofs.Inlining
import PeerTaint.Proofs.Joining
import PeerTaint.Proofs.JsonReports
import PeerTaint.Proofs.JsonText
import PeerTaint.Proofs.Layering
import PeerTaint.Proofs.LevelGraphs
import PeerTaint.Proofs.Levels
import PeerTaint.Proofs.Linking
import PeerTaint.Proofs.Literals
import PeerTaint.Proofs.Logging
import PeerTaint.Proofs.Lookups
import PeerTaint.Proofs.Merging
import PeerTaint.Proofs.Moves
import PeerTaint.Proofs.Nesting
import PeerTaint.Proofs.Operations
import PeerTaint.Proofs.Pairing
import PeerTaint.Proofs.Partitions
import PeerTaint.Proofs.Passes
import PeerTaint.Proofs.Paths
import PeerTaint.Proofs.Programs
import PeerTaint.Proofs.Progress
import PeerTaint.Proofs.Provenance
import PeerTaint.Proofs.Queries
import PeerTaint.Proofs.Reach
import PeerTaint.Proofs.Recording
import PeerTaint.Proofs.Records
import PeerTaint.Proofs.Registration
import PeerTaint.Proofs.Removal
import PeerTaint.Proofs.Repetition
import PeerTaint.Proofs.Resolution
import PeerTaint.Proofs.RetainedPaths
import PeerTaint.Proofs.Rounds
import PeerTaint.Proofs.Scalars
import PeerTaint.Proofs.Scanning
import PeerTaint.Proofs.Searches
import PeerTaint.Proofs.Settling
import PeerTaint.Proofs.Sources
import PeerTaint.Proofs.SpliceEffects
import PeerTaint.Proofs.Splicing
import PeerTaint.Proofs.Totals
import PeerTaint.Proofs.Turns
import PeerTaint.Proofs.Upkeep
import PeerTaint.Proofs.Walks
import PeerTaint.Proofs.WellFormed
import PeerTaint.Proofs.Wiring
import PeerTaint.Proofs.Wrappers
import PeerTaint.Reachability.Count
import PeerTaint.Reachability.Report
import PeerTaint.Text.CharSet
import PeerTaint.Text.Decimal
import PeerTaint.Text.Utf8
import PeerTaint.Unicode.Age
import PeerTaint.Unicode.CaseFold
import PeerTaint.Unicode.Category
import PeerTaint.Unicode.GraphemeBreak
import PeerTaint.Unicode.Lookup
import PeerTaint.Unicode.Property
import PeerTaint.Unicode.Runs
import PeerTaint.Unicode.Script
import PeerTaint.Unicode.SentenceBreak
import PeerTaint.Unicode.WordBreak
import PeerTaint.Yaml.Characters
import PeerTaint.Yaml.Node
import PeerTaint.Yaml.Resolve
import PeerTaint.Yaml.Scalar
import PeerTaint.Yaml.Token
import PeerTaint.Yaml.Write
