import TypedRpc.Action.Exposed
import TypedRpc.Action.Shape
import TypedRpc.Breakdown
import TypedRpc.Client.ActionTypes
import TypedRpc.Client.Call
import TypedRpc.Client.Channel
import TypedRpc.Client.Core
import TypedRpc.Client.Filter
import TypedRpc.Client.Generation
import TypedRpc.Client.Input
import TypedRpc.Client.Payload
import TypedRpc.Client.Plan
import TypedRpc.Client.Record
import TypedRpc.Client.Selection
import TypedRpc.Client.TypedQuery
import TypedRpc.Command.Fault
import TypedRpc.Command.Flag
import TypedRpc.Command.Inputs
import TypedRpc.Command.Outcome
import TypedRpc.Command.Request
import TypedRpc.Command.Run
import TypedRpc.Command.Scan
import TypedRpc.Command.Words
import TypedRpc.Discovery.Basic
import TypedRpc.Discovery.Traversal
import TypedRpc.Json.Fault
import TypedRpc.Json.Reader
import TypedRpc.Json.Token
import TypedRpc.Log
import TypedRpc.Main
import TypedRpc.Naming.Convention
import TypedRpc.Naming.Legality
import TypedRpc.Number.Arithmetic
import TypedRpc.Number.Binary64
import TypedRpc.Number.Decimal
import TypedRpc.Number.Shortest
import TypedRpc.Options.Basic
import TypedRpc.Options.Document
import TypedRpc.Proofs.Breakdown
import TypedRpc.Proofs.Client.ActionTypes
import TypedRpc.Proofs.Client.CanonicalNames
import TypedRpc.Proofs.Client.ClosedWorld
import TypedRpc.Proofs.Client.DeclaredNames
import TypedRpc.Proofs.Client.DistinctProperties
import TypedRpc.Proofs.Client.EntryNames
import TypedRpc.Proofs.Client.FilterTypes
import TypedRpc.Proofs.Client.GeneratedNames
import TypedRpc.Proofs.Client.Identities
import TypedRpc.Proofs.Client.InputCardinality
import TypedRpc.Proofs.Client.InputNames
import TypedRpc.Proofs.Client.Layout
import TypedRpc.Proofs.Client.LegalNames
import TypedRpc.Proofs.Client.MethodNames
import TypedRpc.Proofs.Client.NameTree
import TypedRpc.Proofs.Client.Payload
import TypedRpc.Proofs.Client.Plan
import TypedRpc.Proofs.Client.PropertyNames
import TypedRpc.Proofs.Client.RawResults
import TypedRpc.Proofs.Client.ReferenceReports
import TypedRpc.Proofs.Client.SerialNames
import TypedRpc.Proofs.Client.ShownMembers
import TypedRpc.Proofs.Client.Suggestions
import TypedRpc.Proofs.Client.TypedQuery
import TypedRpc.Proofs.Client.Unreferenced
import TypedRpc.Proofs.Client.VariantTags
import TypedRpc.Proofs.Client.WireNames
import TypedRpc.Proofs.Client.Wrapper
import TypedRpc.Proofs.Command.Run
import TypedRpc.Proofs.Discovery.AccessPaths
import TypedRpc.Proofs.Discovery.Catalogue
import TypedRpc.Proofs.Discovery.Findings
import TypedRpc.Proofs.Discovery.Graph
import TypedRpc.Proofs.Discovery.Occurrences
import TypedRpc.Proofs.Discovery.Reachability
import TypedRpc.Proofs.Discovery.Reached
import TypedRpc.Proofs.Discovery.References
import TypedRpc.Proofs.Grouping
import TypedRpc.Proofs.Naming.CamelCase
import TypedRpc.Proofs.Naming.Legality
import TypedRpc.Proofs.Naming.Rounds
import TypedRpc.Proofs.Naming.SnakeCase
import TypedRpc.Proofs.Options.Document
import TypedRpc.Proofs.Options.Keys
import TypedRpc.Proofs.Results
import TypedRpc.Proofs.Sameness
import TypedRpc.Proofs.Schema.Nesting
import TypedRpc.Proofs.Schema.Reading
import TypedRpc.Proofs.Schema.Resources
import TypedRpc.Proofs.Schema.RoundTrip
import TypedRpc.Proofs.Storage.Write
import TypedRpc.Proofs.Target.EnumEntry
import TypedRpc.Proofs.Text.Case
import TypedRpc.Proofs.Text.Lines
import TypedRpc.Proofs.Text.Occurrence
import TypedRpc.Proofs.Typing.Default
import TypedRpc.Proofs.Typing.InputCheck
import TypedRpc.Proofs.Value.Document
import TypedRpc.Proofs.Verification.Categories
import TypedRpc.Proofs.Verification.Growth
import TypedRpc.Proofs.Verification.NestedNames
import TypedRpc.Proofs.Verification.RpcConfig
import TypedRpc.Proofs.Verification.TypeNames
import TypedRpc.Proofs.Yaml.Reader
import TypedRpc.Schema.Basic
import TypedRpc.Schema.Checked
import TypedRpc.Schema.Decode
import TypedRpc.Schema.Document
import TypedRpc.Schema.Encode
import TypedRpc.Schema.Kinds
import TypedRpc.Schema.Nesting
import TypedRpc.Schema.Problem
import TypedRpc.Schema.Resource
import TypedRpc.Schema.Scalar
import TypedRpc.Schema.TypeRef
import TypedRpc.Schema.Unvisited
import TypedRpc.Schema.Walk
import TypedRpc.Storage.Fault
import TypedRpc.Storage.Path
import TypedRpc.Storage.Steps
import TypedRpc.Storage.Tree
import TypedRpc.Storage.Write
import TypedRpc.Target.Declaration
import TypedRpc.Target.Literal
import TypedRpc.Target.TypeExpr
import TypedRpc.Text.Blocks
import TypedRpc.Text.Case
import TypedRpc.Text.CharClass
import TypedRpc.Text.Grouping
import TypedRpc.Text.Lines
import TypedRpc.Text.Numeral
import TypedRpc.Text.Quoted
import TypedRpc.Text.Utf8
import TypedRpc.Typing.Default
import TypedRpc.Typing.InputCheck
import TypedRpc.Typing.Property
import TypedRpc.Typing.TypeName
import TypedRpc.Value.Basic
import TypedRpc.Value.Document
import TypedRpc.Value.Shown
import TypedRpc.Verification.Basic
import TypedRpc.Verification.Finding
import TypedRpc.Verification.Names
import TypedRpc.Verification.NestedNames
import TypedRpc.Verification.RpcConfig
import TypedRpc.Verification.TypeNames
import TypedRpc.Worklist
import TypedRpc.Yaml.Block
import TypedRpc.Yaml.Cursor
import TypedRpc.Yaml.Failure
import TypedRpc.Yaml.Lexer
import TypedRpc.Yaml.Mark
import TypedRpc.Yaml.Merge
import TypedRpc.Yaml.Node
import TypedRpc.Yaml.Plain
import TypedRpc.Yaml.Quoted
import TypedRpc.Yaml.Reader
import TypedRpc.Yaml.Scalar
import TypedRpc.Yaml.Tag
import TypedRpc.Yaml.Token
