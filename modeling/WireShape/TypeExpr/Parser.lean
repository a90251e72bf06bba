import WireShape.Error
import WireShape.Json.Record
import WireShape.Text.Alphabetic
import WireShape.Text.Numeric
import WireShape.Text.Quoted
import WireShape.Text.Reader
import WireShape.TypeExpr.Basic

/-! # Reading type expressions

A type expression is `?`, `? extends T`, `? super T`, or a name with optional arguments and any
number of `[]`. Blanks may stand around the punctuation. An optional part that does not come to its
end is given back whole, with the blanks before it.

Arguments, bounds and dimensions may nest `maxNesting` levels deep. Going deeper is `Step.tooDeep`. In
JSON types and type parameters are written as text. -/

namespace WireShape.TypeExpr

open Text (Code Step Reader skipBlanks)
open Text.Reader

/-- How many levels of arguments, bounds and dimensions a type expression may have. -/
def maxNesting : Nat := 64

def isIdentStart (c : Char) : Bool :=
  c == '_' || c == '$' || Text.isAlphabetic c

def isIdentPart (c : Char) : Bool :=
  isIdentStart c || Text.isNumeric c

def identifier : Reader (List Char) :=
  recognize (preceded (satisfy isIdentStart) (takeWhile isIdentPart))

/-- Identifiers joined by dots. -/
def qualifiedName : Reader (List Char) :=
  recognize (separated1 (char '.') identifier)

/-- The type that a name without arguments stands for. -/
def ofName (name : String) : TypeExpr :=
  match (Keyword.ofWord? name : Option PrimitiveKind) with
  | some kind => .primitive kind
  | none => if name = word OtherKind.void then .other .void else .raw ⟨name⟩

/-- The type of a name with the arguments read behind it, if any. -/
def ofNameAndArguments (name : String) : Option (List TypeExpr) → TypeExpr
  | some arguments => .declared ⟨name⟩ arguments
  | none => ofName name

/-! ### Types -/

def arrays : Nat → TypeExpr → TypeExpr
  | 0, t => t
  | n + 1, t => .array (arrays n t)

/-- A `[]`, with the blanks before it. -/
def dimension : Reader (List Char) := fun s => tag "[]".toList (skipBlanks s)

/-- A comma, with the blanks around it. -/
def comma : Reader Unit := fun s => (char ',' (skipBlanks s)).bind fun _ r => .done () (skipBlanks r)

/-- What `read` takes, with blanks on both sides. -/
def betweenGaps {α : Type} (read : Reader α) : Reader α := fun s =>
  (blanks1 s).bind fun _ r => (read r).bind fun a r => (blanks1 r).bind fun _ r => .done a r

section
variable (nested : Reader TypeExpr)

/-- One or more arguments in angle brackets. -/
def arguments : Reader (List TypeExpr) := fun s =>
  (char '<' (skipBlanks s)).bind fun _ r =>
    (separated1 comma (fun s => nested (skipBlanks s)) r).bind fun as r =>
      (char '>' (skipBlanks r)).bind fun _ r => .done as r

/-- The bound behind a `?`, with the word before it. -/
def wildcardBound : Reader (List Char × TypeExpr) := fun s =>
  (betweenGaps (alt (tag "extends".toList) (tag "super".toList)) s).bind fun word r =>
    (nested r).bind fun t r => .done (word, t) r

/-- `?`, alone or with a bound. A lower bound is read and forgotten. -/
def readWildcard : Reader TypeExpr := fun s =>
  (char '?' s).bind fun _ r =>
    (opt (wildcardBound nested) r).bind fun bound r =>
      .done (.wildcard (bound.bind fun (word, t) => if word = "extends".toList then some t else none)) r

/-- A name, its arguments, and dimensions, for which `levels` levels are left. -/
def readNamed (levels : Nat) : Reader TypeExpr := fun s =>
  (qualifiedName s).bind fun name r =>
    (opt (arguments nested) r).bind fun as r =>
      (many0 dimension r).bind fun dimensions r =>
        if dimensions.length > levels then .tooDeep
        else .done (arrays dimensions.length (ofNameAndArguments (String.ofList name) as)) r

/-- A type with `levels` levels left for its dimensions, given how to read the types in it. -/
def typeWith (levels : Nat) : Reader TypeExpr :=
  alt (readWildcard nested) (readNamed nested levels)

end

/-- A type that may nest `levels` levels deep. -/
def typeAt : (levels : Nat) → Reader TypeExpr
  | 0 => typeWith (fun _ => .tooDeep) 0
  | levels + 1 => typeWith (typeAt levels) (levels + 1)

/-- The bound of a type parameter, behind its name. -/
def parameterBound : Reader TypeExpr := fun s =>
  (betweenGaps (tag "extends".toList) s).bind fun _ r => typeAt maxNesting r

def typeParameter : Reader TypeParameter := fun s =>
  (identifier s).bind fun name r =>
    (opt parameterBound r).bind fun bound r => .done ⟨String.ofList name, bound⟩ r

/-! ### Whole texts -/

inductive Subject
  | typeExpression | typeParameter
deriving DecidableEq, Repr

instance : Keyword Subject where
  all := [.typeExpression, .typeParameter]
  word
    | .typeExpression => "type expression"
    | .typeParameter => "type parameter"

inductive ParseError
  /-- `code` is not found at the start of `rest`. -/
  | mismatch (rest : List Char) (code : Code)
  | tooDeep
deriving DecidableEq, Repr

def ParseError.message (subject : Subject) (input : String) : ParseError → String
  | .mismatch rest code =>
    "'" ++ input ++ "' is not a " ++ word subject ++ ": Parsing Error: Error \x7b input: " ++
      String.ofList (Text.Quoted.encode rest) ++ ", code: " ++ word code ++ " \x7d"
  | .tooDeep => word subject ++ " nests deeper than " ++ toString maxNesting ++ " levels"

/-- What `read` takes, with the blanks around it. -/
def betweenBlanks {α : Type} (read : Reader α) : Reader α := fun s =>
  (read (skipBlanks s)).bind fun a r => .done a (skipBlanks r)

/-- `read` on the whole of `input`, blanks around it aside. -/
def complete {α : Type} (read : Reader α) (input : String) : Except ParseError α :=
  match allConsuming (betweenBlanks read) input.toList with
  | .done a _ => .ok a
  | .fail rest code => .error (.mismatch rest code)
  | .tooDeep => .error .tooDeep

def parse (input : String) : Except ParseError TypeExpr :=
  complete (typeAt maxNesting) input

end WireShape.TypeExpr

namespace WireShape

def TypeParameter.parse (input : String) : Except TypeExpr.ParseError TypeParameter :=
  TypeExpr.complete TypeExpr.typeParameter input

/-- The type expression written in `input`, or the error told to a caller. -/
def TypeExpr.parseOrError (input : String) : Except Error TypeExpr :=
  (TypeExpr.parse input).mapError fun e => .typeParse (e.message .typeExpression input)

/-- The type parameter written in `input`, or the error told to a caller. -/
def TypeParameter.parseOrError (input : String) : Except Error TypeParameter :=
  (TypeParameter.parse input).mapError fun e => .typeParse (e.message .typeParameter input)

def TypeExpr.toJson (t : TypeExpr) : Json := .string t.render

def TypeExpr.ofJson? (j : Json) : Option TypeExpr := do
  (TypeExpr.parse (← j.text?)).toOption

def TypeParameter.toJson (p : TypeParameter) : Json := .string p.render

def TypeParameter.ofJson? (j : Json) : Option TypeParameter := do
  (TypeParameter.parse (← j.text?)).toOption

end WireShape
