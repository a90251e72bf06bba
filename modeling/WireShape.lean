import WireShape.Environment.Tables
import WireShape.Main
import WireShape.Resolver.Session
import WireShape.Proofs.Resolver.Calls
import WireShape.Proofs.Resolver.Congruence
import WireShape.Proofs.Resolver.DepthLimit
import WireShape.Proofs.Resolver.Coarser
import WireShape.Proofs.Resolver.Settling
import WireShape.Proofs.TypeExpr.Nodes
import WireShape.Proofs.Registry.Termination
import WireShape.Proofs.TypeExpr.Grammar
import WireShape.Proofs.TypeExpr.Lexical
import WireShape.Proofs.TypeExpr.Parsing
import WireShape.Proofs.TypeExpr.RoundTrip
import WireShape.Proofs.Resolver.Plain
import WireShape.Proofs.Registry.Elements
import WireShape.Proofs.Registry.Links
import WireShape.Proofs.Registry.Overlay
import WireShape.Proofs.Registry.Denotation
import WireShape.Proofs.Registry.NestedMaps
import WireShape.Proofs.Resolver.SharedState
import WireShape.Proofs.Resolver.OpenFrames
import WireShape.Proofs.Registry.Reachable
import WireShape.Proofs.Registry.Narrowing
import WireShape.Proofs.Registry.Documents
import WireShape.Proofs.Registry.Describe
import WireShape.Proofs.Command.Agreement
import WireShape.Proofs.Registry.Edits
import WireShape.Proofs.Resolver.Levels
import WireShape.Proofs.Resolver.Traces
import WireShape.Proofs.Command.Precedence
import WireShape.Proofs.Resolver.Wrapping
import WireShape.Proofs.Resolver.FirstMatch
import WireShape.Proofs.Resolver.AdapterReport
import WireShape.Proofs.Registry.RawUses
import WireShape.Proofs.Registry.Arity
import WireShape.Proofs.Registry.Runaways
import WireShape.Proofs.Resolver.Dimensions
import WireShape.Proofs.Registry.Properties
import WireShape.Proofs.TypeExpr.CountedNesting
import WireShape.Proofs.TypeExpr.Longest
import WireShape.Proofs.TypeExpr.Composition
import WireShape.Proofs.Registry.Instantiation
import WireShape.Proofs.Registry.Clearing
import WireShape.Proofs.Resolver.ShapeNesting
import WireShape.Proofs.TypeExpr.QualifiedNames
import WireShape.Proofs.Json.RoundTrip
