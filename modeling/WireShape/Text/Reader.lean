import WireShape.Keyword
import WireShape.Text.Basic

/-! # Readers

A `Reader` takes a value from the start of a text. It fails at a place with a `Code` for what it looked
for there: a sequence fails as the part that fails, `alt` as the last alternative, `opt` not at all.
`tooDeep` is no failure in this sense and ends reading at once, inside `alt` and `opt` too. -/

namespace WireShape.Text

/-- What a reader looked for where it failed. -/
inductive Code
  | satisfy | char | tag | multiSpace | many0 | separatedList | eof
deriving DecidableEq, Repr

instance : Keyword Code where
  all := [.satisfy, .char, .tag, .multiSpace, .many0, .separatedList, .eof]
  word
    | .satisfy => "Satisfy"
    | .char => "Char"
    | .tag => "Tag"
    | .multiSpace => "MultiSpace"
    | .many0 => "Many0"
    | .separatedList => "SeparatedList"
    | .eof => "Eof"

/-- What comes of reading: a value and what follows it, `code` not found at the start of `rest`, or a
text nested too deep. -/
inductive Step (α : Type)
  | done (value : α) (rest : List Char)
  | fail (rest : List Char) (code : Code)
  | tooDeep
deriving DecidableEq, Repr

def Step.bind {α β : Type} (x : Step α) (next : α → List Char → Step β) : Step β :=
  match x with
  | .done a rest => next a rest
  | .fail rest code => .fail rest code
  | .tooDeep => .tooDeep

abbrev Reader (α : Type) := List Char → Step α

namespace Reader
variable {α : Type}

def satisfy (p : Char → Bool) : Reader Char
  | [] => .fail [] .satisfy
  | c :: s => if p c then .done c s else .fail (c :: s) .satisfy

def char (c : Char) : Reader Char
  | [] => .fail [] .char
  | c' :: s => if c' = c then .done c' s else .fail (c' :: s) .char

def tag (word : List Char) : Reader (List Char) := fun s =>
  match word.isPrefixOf? s with
  | some r => .done word r
  | none => .fail s .tag

/-- One blank or more. -/
def blanks1 : Reader Unit
  | [] => .fail [] .multiSpace
  | c :: s => if isBlank c then .done () (skipBlanks s) else .fail (c :: s) .multiSpace

def takeWhile (p : Char → Bool) : Reader (List Char) := fun s =>
  .done (s.takeWhile p) (s.dropWhile p)

/-- The text that `read` takes. -/
def recognize (read : Reader α) : Reader (List Char) := fun s =>
  (read s).bind fun _ r => .done (s.take (s.length - r.length)) r

def alt (read read' : Reader α) : Reader α := fun s =>
  match read s with
  | .fail _ _ => read' s
  | x => x

/-- What `read` takes, behind something else. -/
def preceded {β : Type} (before : Reader β) (read : Reader α) : Reader α := fun s =>
  (before s).bind fun _ r => read r

def opt (read : Reader α) : Reader (Option α) := fun s =>
  match read s with
  | .done a r => .done (some a) r
  | .fail _ _ => .done none s
  | .tooDeep => .tooDeep

/-- What `item` takes time after time, `fuel` times at most. An item that takes nothing is a failure. -/
def manyWithin (code : Code) (item : Reader α) : (fuel : Nat) → Reader (List α)
  | 0, s => .done [] s
  | fuel + 1, s =>
    match item s with
    | .done a r =>
      if r.length = s.length then .fail s code
      else (manyWithin code item fuel r).bind fun as r => .done (a :: as) r
    | .fail _ _ => .done [] s
    | .tooDeep => .tooDeep

/-- `manyWithin` with fuel for each character and one more time, so that it never runs out. -/
def manyWith (code : Code) (item : Reader α) : Reader (List α) := fun s =>
  manyWithin code item (s.length + 1) s

def many0 (item : Reader α) : Reader (List α) := manyWith .many0 item

/-- One `item` or more. A separator without an item behind it is not taken. -/
def separated1 {β : Type} (separator : Reader β) (item : Reader α) : Reader (List α) := fun s =>
  (item s).bind fun a r =>
    (manyWith .separatedList (preceded separator item) r).bind fun as r => .done (a :: as) r

/-- All of a text. -/
def allConsuming (read : Reader α) : Reader α := fun s =>
  (read s).bind fun a r => if r.isEmpty then .done a r else .fail r .eof

end Reader

end WireShape.Text
