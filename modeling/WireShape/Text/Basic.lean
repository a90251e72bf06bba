/-! # Characters

A character property is a list of closed ranges of code points, and membership is a plain search. The
`White_Space` property of Unicode 17 is what is trimmed at the end of a text. Between the parts of a
written value only `isBlank` characters may stand, and a number is written in digits. -/

namespace WireShape.Text

/-- A set of code points, given as closed ranges. -/
structure CodePoints where
  ranges : List (Nat × Nat)

def CodePoints.contains (s : CodePoints) (c : Char) : Bool :=
  s.ranges.any fun r => r.1 ≤ c.toNat && c.toNat ≤ r.2

def whiteSpace : CodePoints := ⟨[
    (0x9, 0xD), (0x20, 0x20), (0x85, 0x85), (0xA0, 0xA0), (0x1680, 0x1680), (0x2000, 0x200A),
    (0x2028, 0x2029), (0x202F, 0x202F), (0x205F, 0x205F), (0x3000, 0x3000)]⟩

/-- The `White_Space` property. -/
def isWhiteSpace (c : Char) : Bool :=
  whiteSpace.contains c

/-- `cs` without the white space at its end. -/
def trimEnd (cs : List Char) : List Char :=
  (cs.reverse.dropWhile isWhiteSpace).reverse

def isBlank (c : Char) : Bool :=
  c == ' ' || c == '\t' || c == '\r' || c == '\n'

def skipBlanks (s : List Char) : List Char :=
  s.dropWhile isBlank

theorem skipBlanks_cons {c : Char} (hc : isBlank c = false) (s : List Char) :
    skipBlanks (c :: s) = c :: s :=
  List.dropWhile_cons_of_neg (by rw [hc]; exact Bool.false_ne_true)

/-- The number below `2 ^ 64` that is written in `digits`, if these are digits. -/
def word64? (digits : List Char) : Option Nat :=
  let n := digits.foldl (fun n c => 10 * n + (c.toNat - '0'.toNat)) 0
  if digits.all Char.isDigit ∧ n < UInt64.size then some n else none

end WireShape.Text
