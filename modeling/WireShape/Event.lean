import WireShape.Settings
import WireShape.Shape.Basic

/-! # Events

What the library tells about its work, step by step. An event has a level and a message; a few carry
named fields. -/

namespace WireShape

/-- How much an event matters. -/
inductive Level
  | error | warn | info | debug | trace
deriving DecidableEq, Repr

instance : Keyword Level where
  all := [.error, .warn, .info, .debug, .trace]
  word
    | .error => "error"
    | .warn => "warn"
    | .info => "info"
    | .debug => "debug"
    | .trace => "trace"

/-- Where the type to resolve stands in what holds it. -/
inductive Position
  /-- Neither the component of an array nor the element of a collection. -/
  | value
  | arrayElement
  | collectionElement
deriving DecidableEq, Repr, Inhabited

instance : Keyword Position where
  all := [.value, .arrayElement, .collectionElement]
  word
    | .value => "Value"
    | .arrayElement => "ArrayElement"
    | .collectionElement => "CollectionElement"

namespace Position

/-- Whether shapes are put into an array here. -/
def wraps : Position → Bool
  | .value => false
  | .arrayElement | .collectionElement => true

/-- `shape` as it stands here: inside an array at the element positions. -/
def wrap (p : Position) (shape : Shape) : Shape :=
  if p.wraps then .array shape else shape

end Position

/-- One thing that happened. -/
inductive Event
  | resolving (type : TypeExpr) (position : Position)
  | limitExceeded (type : TypeExpr) (depth : Nat)
  | cycleBroken (identity : String)
  | entering (identity : String) (depth : Nat)
  | leaving (identity : String)
  | hinted (declared : DeclaredType) (hint : TypeExpr)
  | customSerializer (declared : DeclaredType) (serializer : String)
  | serializedAs (declared : DeclaredType) (target : TypeExpr)
  | adapted (declared : DeclaredType) (adapting : TypeExpr) (shape : Shape)
  | adaptingShapeTaken (declared : DeclaredType)
  /-- A use whose number of arguments is not the declared one. -/
  | arityMismatch (declared : DeclaredType) (parameters : Nat)
  | replaced (name : TypeName)
  | loaded (count : Nat) (source : String)
  | propertyResolved (owner : TypeName) (property : String) (shape : Shape)
  | running (declarations : Nat) (settings : Settings)
deriving DecidableEq, Repr

namespace Event

def level : Event → Level
  | .limitExceeded .. | .arityMismatch .. => .warn
  | .loaded .. => .info
  | .resolving .. | .entering .. | .leaving _ => .trace
  | _ => .debug

def message : Event → String
  | .resolving .. => "Resolving"
  | .limitExceeded .. => "Resolution depth limit exceeded"
  | .cycleBroken identity =>
    identity ++ " is already being resolved, breaking the cycle with object"
  | .entering identity depth => "Entering " ++ identity ++ " at depth " ++ toString depth
  | .leaving identity => "Leaving " ++ identity
  | .hinted declared hint => toString declared ++ " has type hint " ++ hint.render
  | .customSerializer declared serializer =>
    toString declared ++ " uses custom serializer " ++ serializer ++ ", shape is opaque"
  | .serializedAs declared target => toString declared ++ " serializes as " ++ target.render
  | .adapted declared adapting shape =>
    toString declared ++ " is adapted by " ++ adapting.render ++ " (" ++ shape.render ++ ")"
  | .adaptingShapeTaken declared => toString declared ++ " takes the shape of its adapting type"
  | .arityMismatch declared parameters =>
    declared.name.text ++ " declares " ++ toString parameters ++
      " type parameters but was used with " ++ toString declared.arguments.length ++
      " arguments, treating as raw"
  | .replaced name => "Replaced declaration of " ++ name.text
  | .loaded count source =>
    "Loaded " ++ toString count ++ " type declarations from " ++ source
  | .propertyResolved owner property shape =>
    owner.text ++ "." ++ property ++ " resolves to " ++ shape.render
  | .running declarations settings =>
    "Running with " ++ toString declarations ++ " declarations, max_depth " ++
      toString settings.maxDepth ++ ", adapter policy " ++ word settings.adapterPolicy

def fields : Event → List (String × String)
  | .resolving type position => [("type_name", type.render), ("position", word position)]
  | .limitExceeded type depth => [("type_name", type.render), ("depth", toString depth)]
  | _ => []

end Event

end WireShape
