import WireShape.TypeExpr.Basic

/-! # Shapes

What the values of a type look like as JSON. -/

namespace WireShape

inductive JsonPrimitive
  | string
  /-- A number that may have a fraction. -/
  | number
  /-- A number without a fraction. -/
  | integer
  | boolean
deriving DecidableEq, Repr

instance : Keyword JsonPrimitive where
  all := [.string, .number, .integer, .boolean]
  word
    | .string => "string"
    | .number => "number"
    | .integer => "integer"
    | .boolean => "boolean"

/-- The JSON primitive that the values of a primitive type are written as. -/
def PrimitiveKind.json : PrimitiveKind → JsonPrimitive
  | .boolean => .boolean
  | .byte | .short | .int | .long => .integer
  | .float | .double => .number
  | .char => .string

/-- What the values of a documented type are: objects, or words of a fixed set. -/
inductive DefinitionKind
  | object | enum
deriving DecidableEq, Repr

instance : Keyword DefinitionKind where
  all := [.object, .enum]
  word
    | .object => "object"
    | .enum => "enum"

/-- A reference to a type that is documented elsewhere. -/
structure DefinitionRef where
  name : TypeName
  kind : DefinitionKind
deriving DecidableEq, Repr

inductive Shape
  | primitive (kind : JsonPrimitive)
  /-- An object of which nothing is known; also the shape of what cannot be resolved. -/
  | object
  | named (definition : DefinitionRef)
  | array (element : Shape)
  | map (key value : Shape)
deriving DecidableEq, Repr, Inhabited

namespace Shape

def render : Shape → String
  | .primitive kind => word kind
  | .object => "object"
  | .named definition => definition.name.text
  | .array element => "array<" ++ element.render ++ ">"
  | .map key value => "map<" ++ key.render ++ ", " ++ value.render ++ ">"

instance : ToString Shape := ⟨render⟩

def isObject : Shape → Bool
  | .object | .map .. => true
  | .named definition => definition.kind = .object
  | _ => false

def isArray : Shape → Bool
  | .array _ => true
  | _ => false

def isString : Shape → Bool
  | .primitive kind => kind = .string
  | .named definition => definition.kind = .enum
  | _ => false

def isNumber : Shape → Bool
  | .primitive kind => kind = .number || kind = .integer
  | _ => false

def isWholeNumber : Shape → Bool
  | .primitive kind => kind = .integer
  | _ => false

def isBoolean : Shape → Bool
  | .primitive kind => kind = .boolean
  | _ => false

def element? : Shape → Option Shape
  | .array element => some element
  | _ => none

end Shape

end WireShape
