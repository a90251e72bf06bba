import WireShape.Json.Reader
import WireShape.Keyword

/-! # Decoding JSON

How typed values are written in JSON. A record is an object of its fields, or an array of them in
their order, of which those with defaults may be left out at the end. A choice is the word of one of
its cases, or an object with that word as the only name. -/

namespace WireShape.Json

/-- A way to decode `α`. -/
abbrev Decoder (α : Type) := Json → Option α

def text? : Decoder String
  | .string s => some s
  | _ => none

/-- A natural number below `2 ^ 64`, written as digits alone. -/
def word64? : Decoder Nat
  | .number text => Text.word64? text.toList
  | _ => none

/-- A value, or `null` in its place. -/
def nullable {α : Type} (decode : Decoder α) : Decoder (Option α)
  | .null => some none
  | j => (decode j).map some

def listOf {α : Type} (decode : Decoder α) : Decoder (List α)
  | .array items => items.mapM decode
  | _ => none

/-- An object used as a table from names to values. -/
def membersOf {α : Type} (decode : Decoder α) : Decoder (List (String × α))
  | .object members => members.mapM fun (name, j) => (decode j).map (name, ·)
  | _ => none

/-- The case named by `j`, with what the case holds: the value of the only member of an object, or
nothing for a word alone. -/
def case? : Json → Option (String × Option Json)
  | .string name => some (name, none)
  | .object [(name, value)] => some (name, some value)
  | _ => none

/-- A case that holds nothing: alone, or with `null`. -/
def isUnit : Option Json → Bool
  | none | some .null => true
  | _ => false

def keyword? {α : Type} [Keyword α] : Decoder α := fun j => do
  let (name, held) ← case? j
  if isUnit held then Keyword.ofWord? name else none

/-- What a record says about names that are not its fields. -/
inductive Strangers
  | refused | ignored
deriving DecidableEq

/-- Puts `j` into the place of `name`. No field is given twice. -/
def setField (fields : List String) (strangers : Strangers) (name : String) (j : Json)
    (values : List (Option Json)) : Option (List (Option Json)) :=
  match fields, values with
  | field :: fields, value :: values =>
    if field = name then
      if value.isSome then none else some (some j :: values)
    else (setField fields strangers name j values).map (value :: ·)
  | _, _ => if strangers = .ignored then some [] else none

/-- The values given for `fields`, in their order. -/
def fields? (fields : List String) (strangers : Strangers) : Decoder (List (Option Json))
  | .object members =>
    members.foldlM (fun values (name, j) => setField fields strangers name j values)
      (fields.map fun _ => none)
  | .array items =>
    if items.length ≤ fields.length then
      some (items.map some ++ List.replicate (fields.length - items.length) none)
    else none
  | _ => none

def required {α : Type} (decode : Decoder α) (j : Option Json) : Option α :=
  j.bind decode

def optional {α : Type} (decode : Decoder α) (default : α) : Option Json → Option α
  | none => some default
  | some j => decode j

end WireShape.Json
