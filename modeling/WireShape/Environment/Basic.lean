import WireShape.Shape.Basic

/-! # Environments

All that a resolver asks about the declarations behind the types it meets. The questions are plain
functions, so whatever holds metadata can drive a resolver. -/

namespace WireShape

inductive DeclarationKind
  | classType | interfaceType | enumType | annotationType
  /-- Anything else, unknown declarations included. -/
  | other
deriving DecidableEq, Repr, Inhabited

instance : Keyword DeclarationKind where
  all := [.classType, .interfaceType, .enumType, .annotationType, .other]
  word
    | .classType => "class"
    | .interfaceType => "interface"
    | .enumType => "enum"
    | .annotationType => "annotation"
    | .other => "other"

namespace DeclarationKind

def isDocumentable : DeclarationKind → Bool
  | .classType | .interfaceType | .enumType => true
  | .annotationType | .other => false

end DeclarationKind

/-- The questions asked about a use of a declaration. An environment that knows nothing answers
with the defaults. -/
structure Environment where
  kind : DeclaredType → DeclarationKind := fun _ => .classType
  /-- A type to treat the use as. -/
  typeHint : DeclaredType → Option TypeExpr := fun _ => none
  /-- The name of a serializer of its own. -/
  customSerializer : DeclaredType → Option String := fun _ => none
  serializeAs : DeclaredType → Option TypeExpr := fun _ => none
  /-- The type that an adapter puts in the place of the use. -/
  adapter : DeclaredType → Option TypeExpr := fun _ => none
  mapTypes : DeclaredType → Option (TypeExpr × TypeExpr) := fun _ => none
  componentType : DeclaredType → Option TypeExpr := fun _ => none
  knownShape : DeclaredType → Option Shape := fun _ => none
  definition : DeclaredType → Option DefinitionRef := fun _ => none
  isCollectionOrStream : DeclaredType → Bool := fun _ => false
  /-- The number of declared parameters, for a use with another number of arguments that is not
  zero. Each question that has to bind the arguments warns of it. -/
  misfit : DeclaredType → Option Nat := fun _ => none

/-- The known shape of a use, or else the reference to its definition, where its kind has such. -/
def Environment.documented (e : Environment) (d : DeclaredType) : Option Shape :=
  if (e.kind d).isDocumentable then (e.knownShape d).or ((e.definition d).map .named) else none

structure Answers where
  kind : DeclarationKind
  typeHint : Option TypeExpr
  customSerializer : Option String
  serializeAs : Option TypeExpr
  adapter : Option TypeExpr
  mapTypes : Option (TypeExpr × TypeExpr)
  componentType : Option TypeExpr
  knownShape : Option Shape
  definition : Option DefinitionRef
  isCollectionOrStream : Bool
deriving DecidableEq, Repr

def Environment.answers (e : Environment) (d : DeclaredType) : Answers where
  kind := e.kind d
  typeHint := e.typeHint d
  customSerializer := e.customSerializer d
  serializeAs := e.serializeAs d
  adapter := e.adapter d
  mapTypes := e.mapTypes d
  componentType := e.componentType d
  knownShape := e.knownShape d
  definition := e.definition d
  isCollectionOrStream := e.isCollectionOrStream d

end WireShape
