import WireShape.Json.Record
import WireShape.Shape.Basic

/-! # Shapes in JSON

A shape is the word `"object"`, or an object whose only name says which other case it is. -/

namespace WireShape

namespace DefinitionRef

def toJson (d : DefinitionRef) : Json :=
  .object [("name", .string d.name.text), ("kind", .string (word d.kind))]

/-- The reference written as `j`. The kind may be left out. -/
def ofJson? (j : Json) : Option DefinitionRef := do
  match ← j.fields? ["name", "kind"] .ignored with
  | [name, kind] =>
    return ⟨⟨← Json.required Json.text? name⟩, ← Json.optional Json.keyword? .object kind⟩
  | _ => none

end DefinitionRef

namespace Shape

def toJson : Shape → Json
  | .primitive kind => .object [("primitive", .string (word kind))]
  | .object => .string "object"
  | .named definition => .object [("named_class", definition.toJson)]
  | .array element => .object [("array", element.toJson)]
  | .map key value => .object [("map", .object [("key", key.toJson), ("value", value.toJson)])]

/-- The shape written as `j`, if fewer than `fuel` arrays and objects lie within each other. -/
def decode? : (fuel : Nat) → Json → Option Shape
  | 0, _ => none
  | fuel + 1, j => do
    let (name, held) ← j.case?
    if name = "primitive" then
      return .primitive (← Json.required Json.keyword? held)
    else if name = "object" then
      if Json.isUnit held then some .object else none
    else if name = "named_class" then
      return .named (← Json.required DefinitionRef.ofJson? held)
    else if name = "array" then
      return .array (← Json.required (decode? fuel) held)
    else if name = "map" then
      match ← Json.required (Json.fields? ["key", "value"] .ignored) held with
      | [key, value] =>
        return .map (← Json.required (decode? fuel) key) (← Json.required (decode? fuel) value)
      | _ => none
    else none

def ofJson? (j : Json) : Option Shape :=
  decode? (j.nesting + 1) j

end Shape

end WireShape
