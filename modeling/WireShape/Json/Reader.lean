import WireShape.Json.Basic
import WireShape.Text.Basic

/-! # Reading JSON

Reading is strict: one value, blanks around it, and nothing else. Values may nest 127 levels deep.

What is nested deeper, and text with an unpaired surrogate, is read as `Json.invalid`: it follows the
rules of writing, so it may stand where nobody looks at the value, and it has no use anywhere else. -/

namespace WireShape.Json

open Text (skipBlanks)

/-- How many arrays and objects may lie within each other. -/
def maxNesting : Nat := 127

/-! ### Text -/

def hexDigit (c : Char) : Option Nat :=
  if '0' ≤ c ∧ c ≤ '9' then some (c.toNat - '0'.toNat)
  else if 'a' ≤ c ∧ c ≤ 'f' then some (c.toNat - 'a'.toNat + 10)
  else if 'A' ≤ c ∧ c ≤ 'F' then some (c.toNat - 'A'.toNat + 10)
  else none

def hexQuad (a b c d : Char) : Option Nat := do
  return ((← hexDigit a) * 16 + (← hexDigit b)) * 256 + (← hexDigit c) * 16 + (← hexDigit d)

def unescape (c : Char) : Option Char :=
  if c = '"' ∨ c = '\\' ∨ c = '/' then some c
  else if c = 'b' then some '\x08'
  else if c = 'f' then some '\x0c'
  else if c = 'n' then some '\n'
  else if c = 'r' then some '\r'
  else if c = 't' then some '\t'
  else none

/-- A part of written text: a character, or the number of a UTF-16 unit. -/
inductive Piece
  | char (c : Char)
  | unit (n : Nat)

/-- The pieces up to the closing quote, and what follows it. -/
def pieces : List Char → Option (List Piece × List Char)
  | [] => none
  | c :: s =>
    if c = '"' then some ([], s)
    else if c.toNat < 32 then none
    else if c = '\\' then
      match s with
      | [] => none
      | e :: s =>
        if e = 'u' then
          match s with
          | a :: b :: c :: d :: s => do
            let n ← hexQuad a b c d
            let (ps, rest) ← pieces s
            return (.unit n :: ps, rest)
          | _ => none
        else do
          let c ← unescape e
          let (ps, rest) ← pieces s
          return (.char c :: ps, rest)
    else do
      let (ps, rest) ← pieces s
      return (.char c :: ps, rest)

/-- The text of the pieces, unless a surrogate is unpaired. -/
def joinPieces : List Piece → Option (List Char)
  | [] => some []
  | .char c :: ps => (joinPieces ps).map (c :: ·)
  | .unit n :: ps =>
    if 0xD800 ≤ n ∧ n < 0xDC00 then
      match ps with
      | .unit m :: ps =>
        if 0xDC00 ≤ m ∧ m < 0xE000 then
          (joinPieces ps).map (Char.ofNat (0x10000 + (n - 0xD800) * 0x400 + (m - 0xDC00)) :: ·)
        else none
      | _ => none
    else if 0xDC00 ≤ n ∧ n < 0xE000 then none
    else (joinPieces ps).map (Char.ofNat n :: ·)

/-- The text behind an opening quote, if it stands for any, and what follows it. -/
def text (s : List Char) : Option (Option String × List Char) := do
  let (ps, rest) ← pieces s
  return ((joinPieces ps).map String.ofList, rest)

/-! ### Numbers -/

def digits (s : List Char) : Option (List Char × List Char) :=
  match s.takeWhile Char.isDigit with
  | [] => none
  | ds => some (ds, s.dropWhile Char.isDigit)

/-- The digits before the point: no zero stands in front of another digit. -/
def integerPart : List Char → Option (List Char × List Char)
  | [] => none
  | c :: s =>
    if c = '0' then
      if s.head?.any Char.isDigit then none else some (['0'], s)
    else digits (c :: s)

def fractionPart : List Char → Option (List Char × List Char)
  | '.' :: s => do
    let (ds, rest) ← digits s
    return ('.' :: ds, rest)
  | s => some ([], s)

def exponentPart : List Char → Option (List Char × List Char)
  | [] => some ([], [])
  | c :: s =>
    if c = 'e' ∨ c = 'E' then
      match s with
      | [] => none
      | d :: s' =>
        if d = '+' ∨ d = '-' then do
          let (ds, rest) ← digits s'
          return (c :: d :: ds, rest)
        else do
          let (ds, rest) ← digits s
          return (c :: ds, rest)
    else some ([], c :: s)

def unsigned (s : List Char) : Option (List Char × List Char) := do
  let (i, s) ← integerPart s
  let (f, s) ← fractionPart s
  let (e, s) ← exponentPart s
  return (i ++ f ++ e, s)

def numeral : List Char → Option (List Char × List Char)
  | '-' :: s => do
    let (n, rest) ← unsigned s
    return ('-' :: n, rest)
  | s => unsigned s

/-! ### Values -/

def memberName (s : List Char) : Option (Option String × List Char) := do
  let s ← ['"'].isPrefixOf? (skipBlanks s)
  let (name, s) ← text s
  let s ← [':'].isPrefixOf? (skipBlanks s)
  return (name, s)

mutual

/-- The value at the start of `s`, in which `levels` levels may nest, and what follows it. `fuel`
bounds the steps: two for each character are enough. -/
def value : (fuel : Nat) → (levels : Nat) → List Char → Option (Json × List Char)
  | 0, _, _ => none
  | fuel + 1, levels, s =>
    match skipBlanks s with
    | [] => none
    | c :: s =>
      if c = '\x7b' then do
        let (members, rest) ← members fuel (levels - 1) s
        let object := match members with
          | some members => .object members
          | none => .invalid
        return (if levels = 0 then .invalid else object, rest)
      else if c = '[' then do
        let (items, rest) ← items fuel (levels - 1) s
        return (if levels = 0 then .invalid else .array items, rest)
      else if c = '"' then do
        let (s, rest) ← text s
        return (match s with
          | some s => .string s
          | none => .invalid, rest)
      else if c = 'n' then ("ull".toList.isPrefixOf? s).map (.null, ·)
      else if c = 't' then ("rue".toList.isPrefixOf? s).map (.bool true, ·)
      else if c = 'f' then ("alse".toList.isPrefixOf? s).map (.bool false, ·)
      else (numeral (c :: s)).map fun (n, rest) => (.number (String.ofList n), rest)

/-- The items behind an opening bracket, and what follows the closing one. -/
def items : (fuel : Nat) → (levels : Nat) → List Char → Option (List Json × List Char)
  | 0, _, _ => none
  | fuel + 1, levels, s =>
    match skipBlanks s with
    | ']' :: rest => some ([], rest)
    | s => do
      let (item, s) ← value fuel levels s
      let (items, rest) ← moreItems fuel levels s
      return (item :: items, rest)

def moreItems : (fuel : Nat) → (levels : Nat) → List Char → Option (List Json × List Char)
  | 0, _, _ => none
  | fuel + 1, levels, s =>
    match skipBlanks s with
    | ']' :: rest => some ([], rest)
    | ',' :: s => do
      let (item, s) ← value fuel levels s
      let (items, rest) ← moreItems fuel levels s
      return (item :: items, rest)
    | _ => none

/-- The members behind an opening brace, if all their names stand for text, and what follows the
closing one. -/
def members : (fuel : Nat) → (levels : Nat) → List Char →
    Option (Option (List (String × Json)) × List Char)
  | 0, _, _ => none
  | fuel + 1, levels, s =>
    match skipBlanks s with
    | '\x7d' :: rest => some (some [], rest)
    | s => do
      let (name, s) ← memberName s
      let (value, s) ← value fuel levels s
      let (members, rest) ← moreMembers fuel levels s
      return (do return (← name, value) :: (← members), rest)

/-- The members behind a member, if all their names stand for text, and what follows the closing
brace. -/
def moreMembers : (fuel : Nat) → (levels : Nat) → List Char →
    Option (Option (List (String × Json)) × List Char)
  | 0, _, _ => none
  | fuel + 1, levels, s =>
    match skipBlanks s with
    | '\x7d' :: rest => some (some [], rest)
    | ',' :: s => do
      let (name, s) ← memberName s
      let (value, s) ← value fuel levels s
      let (members, rest) ← moreMembers fuel levels s
      return (do return (← name, value) :: (← members), rest)
    | _ => none

end

def read (input : String) : Option Json := do
  let s := input.toList
  let (j, rest) ← value (2 * s.length + 2) maxNesting s
  if (skipBlanks rest).isEmpty then some j else none

end WireShape.Json
