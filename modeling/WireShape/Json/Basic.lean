/-! # JSON values

JSON as a tree, and its two written forms: compact, and indented by two spaces. An object is a list of
members, so order and repeated names are kept. -/

namespace WireShape

inductive Json
  | null
  | bool (value : Bool)
  /-- A number, as it is written. -/
  | number (text : String)
  | string (text : String)
  | array (items : List Json)
  | object (members : List (String × Json))
  /-- What follows the rules of writing but stands for no value: text that holds an unpaired
  surrogate, or a value nested too deep. -/
  | invalid
deriving Repr, Inhabited

namespace Json

def nat (n : Nat) : Json := .number (toString n)

mutual

/-- How many arrays and objects lie within each other. -/
def nesting : Json → Nat
  | .array items => itemsNesting items + 1
  | .object members => membersNesting members + 1
  | _ => 0

def itemsNesting : List Json → Nat
  | [] => 0
  | item :: items => max item.nesting (itemsNesting items)

def membersNesting : List (String × Json) → Nat
  | [] => 0
  | (_, value) :: members => max value.nesting (membersNesting members)

end

/-- The escape of a character that may not stand for itself. -/
def escapeChar (c : Char) : List Char :=
  if c = '"' then ['\\', '"']
  else if c = '\\' then ['\\', '\\']
  else if c = '\x08' then ['\\', 'b']
  else if c = '\x0c' then ['\\', 'f']
  else if c = '\n' then ['\\', 'n']
  else if c = '\r' then ['\\', 'r']
  else if c = '\t' then ['\\', 't']
  else if c.toNat < 32 then
    ['\\', 'u', '0', '0', Nat.digitChar (c.toNat / 16), Nat.digitChar (c.toNat % 16)]
  else [c]

/-- `s` between double quotes. -/
def quote (s : String) : String :=
  String.ofList ('"' :: s.toList.flatMap escapeChar ++ ['"'])

mutual

def compress : Json → String
  | .null | .invalid => "null"
  | .bool true => "true"
  | .bool false => "false"
  | .number text => text
  | .string text => quote text
  | .array [] => "[]"
  | .array (item :: items) => "[" ++ item.compress ++ compressItems items ++ "]"
  | .object [] => "\x7b\x7d"
  | .object ((name, value) :: members) =>
    "\x7b" ++ quote name ++ ":" ++ value.compress ++ compressMembers members ++ "\x7d"

/-- The items after the first. -/
def compressItems : List Json → String
  | [] => ""
  | item :: items => "," ++ item.compress ++ compressItems items

/-- The members after the first. -/
def compressMembers : List (String × Json) → String
  | [] => ""
  | (name, value) :: members =>
    "," ++ quote name ++ ":" ++ value.compress ++ compressMembers members

end

/-- A new line at an indentation of `n` levels. -/
def newLine (n : Nat) : String :=
  String.ofList ('\n' :: List.replicate (2 * n) ' ')

mutual

/-- The form with every item and member on a line of its own, `n` levels deep. -/
def indented (n : Nat) : Json → String
  | .null | .invalid => "null"
  | .bool true => "true"
  | .bool false => "false"
  | .number text => text
  | .string text => quote text
  | .array [] => "[]"
  | .array (item :: items) =>
    "[" ++ newLine (n + 1) ++ item.indented (n + 1) ++ indentedItems (n + 1) items ++ newLine n ++ "]"
  | .object [] => "\x7b\x7d"
  | .object ((name, value) :: members) =>
    "\x7b" ++ newLine (n + 1) ++ quote name ++ ": " ++ value.indented (n + 1) ++
      indentedMembers (n + 1) members ++ newLine n ++ "\x7d"

def indentedItems (n : Nat) : List Json → String
  | [] => ""
  | item :: items => "," ++ newLine n ++ item.indented n ++ indentedItems n items

def indentedMembers (n : Nat) : List (String × Json) → String
  | [] => ""
  | (name, value) :: members =>
    "," ++ newLine n ++ quote name ++ ": " ++ value.indented n ++ indentedMembers n members

end

def pretty (j : Json) : String := j.indented 0

end Json

end WireShape
