import Understudy.Call.Basic
import Understudy.CommandLine.Arguments
import Understudy.CommandLine.Run
import Understudy.Decimal.Reading
import Understudy.Decimal.Shortest
import Understudy.Engine.Basic
import Understudy.Engine.Settings
import Understudy.Files.Loading
import Understudy.Files.Path
import Understudy.Files.Settings
import Understudy.Files.Tree
import Understudy.Identifier
import Understudy.Json.Basic
import Understudy.Json.Printer
import Understudy.Json.Reader
import Understudy.Main
import Understudy.Memo.Consult
import Understudy.Memo.Digest
import Understudy.Memo.Recency
import Understudy.Pattern.Basic
import Understudy.Pattern.Expr
import Understudy.Pattern.Named
import Understudy.Pattern.Parser
import Understudy.Pattern.Program
import Understudy.Pattern.Search
import Understudy.Pattern.Weight
import Understudy.Predicate.Basic
import Understudy.Predicate.Containment
import Understudy.Predicate.Equality
import Understudy.Predicate.Matching
import Understudy.Predicate.Message
import Understudy.Predicate.Rank
import Understudy.Predicate.Sequence
import Understudy.Search.Conversation
import Understudy.Search.Match
import Understudy.Search.Scan
import Understudy.Search.Tolerant
import Understudy.Store.Basic
import Understudy.Store.Filed
import Understudy.Store.Heap
import Understudy.Store.Lookup
import Understudy.Store.Ranking
import Understudy.Stub.Basic
import Understudy.Stub.Delay
import Understudy.Stub.Filing
import Understudy.Stub.Status
import Understudy.Stub.Validation
import Understudy.Table
import Understudy.Text.AgeData
import Understudy.Text.BinaryData
import Understudy.Text.CaseData
import Understudy.Text.Category
import Understudy.Text.CategoryData
import Understudy.Text.CharSet
import Understudy.Text.EditDistance
import Understudy.Text.Hex
import Understudy.Text.Letter
import Understudy.Text.Property
import Understudy.Text.PropertyData
import Understudy.Text.Quoted
import Understudy.Text.ScriptData
import Understudy.Text.ScriptExtensionData
import Understudy.Text.Segmentation
import Understudy.Text.Spelling
import Understudy.Wire.Basic
import Understudy.Wire.Call
import Understudy.Wire.Predicate
import Understudy.Wire.Shape
import Understudy.Wire.Stub
import Understudy.Yaml.Node
import Understudy.Yaml.Scalar
import Understudy.Yaml.Token
import Understudy.Proofs.Memo.Transparency
import Understudy.Proofs.Table
import Understudy.Proofs.Identifier
import Understudy.Proofs.Store.Index
import Understudy.Proofs.Store.Values
import Understudy.Proofs.Store.Changes
import Understudy.Proofs.Store.Lookup
import Understudy.Proofs.Store.Contents
import Understudy.Proofs.Decimal.Order
import Understudy.Proofs.Search.Selection
import Understudy.Proofs.Engine.Commands
import Understudy.Proofs.Engine.Search
import Understudy.Proofs.Search.Conversation
import Understudy.Proofs.Engine.Calls
import Understudy.Proofs.Engine.Tuning
import Understudy.Proofs.Wire.Identifier
import Understudy.Proofs.Wire.Record
import Understudy.Proofs.Wire.Stub
import Understudy.Proofs.Engine.Registry
import Understudy.Proofs.Engine.Refinement
import Understudy.Proofs.Predicate.Satisfaction
import Understudy.Proofs.Engine.Specificity
import Understudy.Proofs.Engine.Openings
import Understudy.Proofs.Engine.Sessions
import Understudy.Proofs.Engine.Agreement
import Understudy.Proofs.Engine.Misses
import Understudy.Proofs.Predicate.Respelling
import Understudy.Proofs.Engine.Respelling
import Understudy.Proofs.Text.Spelling
import Understudy.Proofs.Engine.Restarts
import Understudy.Proofs.Engine.Usage
import Understudy.Proofs.Engine.Stock
import Understudy.Proofs.Pairing
import Understudy.Proofs.Json.Parts
import Understudy.Proofs.Predicate.Rearrangement
import Understudy.Proofs.Predicate.Assignment
import Understudy.Proofs.Memo.Requests
import Understudy.Proofs.Stub.Leaves
import Understudy.Proofs.Stub.Validation
import Understudy.Proofs.Decimal.Rounding
import Understudy.Proofs.Decimal.Arithmetic
import Understudy.Proofs.Decimal.Value
import Understudy.Proofs.Predicate.RankBounds
import Understudy.Proofs.Search.Scores
import Understudy.Proofs.Engine.Priority
import Understudy.Proofs.Predicate.Strength
import Understudy.Proofs.Engine.Surplus
import Understudy.Proofs.Predicate.Tolerance
import Understudy.Proofs.Engine.Wildcards
import Understudy.Proofs.Search.Declarations
import Understudy.Proofs.Engine.Closings
import Understudy.Proofs.Search.Points
import Understudy.Proofs.Decimal.Words
import Understudy.Proofs.Stub.Delay
import Understudy.Proofs.Stub.DelayText
import Understudy.Proofs.Memo.Latest
import Understudy.Proofs.Store.Iteration
import Understudy.Proofs.Text.EditDistance
import Understudy.Proofs.Search.Keys
