import Mathlib.Data.List.Basic
import WireShape.Json.Reader

/-! # Written text and numbers

What is written for a text is read as that text, whatever characters it has: a character is written as
itself or as one escape, and the one or the other is read as one piece that stands for the character
again. What is written for a natural number is read as a number, up to the end of its digits. -/

namespace WireShape.Json

/-- What may follow a value: a comma, a closing bracket or brace, or nothing. -/
def EndsValue (rest : List Char) : Prop := ∀ c ∈ rest.head?, c = ',' ∨ c = ']' ∨ c = '\x7d'

theorem endsValue_nil : EndsValue [] := nofun

section
variable {c e : Char} {n : Nat} (s : List Char)

theorem pieces_quote : pieces ('"' :: s) = some ([], s) := by
  rw [pieces.eq_def]
  simp only [if_true]

theorem pieces_char (hquote : c ≠ '"') (hcontrol : ¬ c.toNat < 32) (hbackslash : c ≠ '\\') :
    pieces (c :: s) = (pieces s).map fun r => (.char c :: r.1, r.2) := by
  rw [pieces.eq_def]
  simp only [if_neg hquote, if_neg hcontrol, if_neg hbackslash]
  cases pieces s <;> rfl

theorem pieces_escape (he : e ≠ 'u') (h : unescape e = some c) :
    pieces ('\\' :: e :: s) = (pieces s).map fun r => (.char c :: r.1, r.2) := by
  have hquote : '\\' ≠ '"' := by decide
  have hcontrol : ¬ '\\'.toNat < 32 := by decide
  rw [pieces.eq_def]
  simp only [if_neg hquote, if_neg hcontrol, if_true, if_neg he, h]
  cases pieces s <;> rfl

theorem pieces_unit {a b c d : Char} (h : hexQuad a b c d = some n) :
    pieces ('\\' :: 'u' :: a :: b :: c :: d :: s) =
      (pieces s).map fun r => (.unit n :: r.1, r.2) := by
  have hquote : '\\' ≠ '"' := by decide
  have hcontrol : ¬ '\\'.toNat < 32 := by decide
  rw [pieces.eq_def]
  simp only [if_neg hquote, if_neg hcontrol, if_true, h]
  cases pieces s <;> rfl

end

theorem hexQuad_digitChar :
    ∀ n < 32, hexQuad '0' '0' (Nat.digitChar (n / 16)) (Nat.digitChar (n % 16)) = some n := by
  decide

/-- A character is written as itself, as an escape of one letter, or by its number. -/
theorem escapeChar_cases (c : Char) :
    (escapeChar c = [c] ∧ c ≠ '"' ∧ ¬ c.toNat < 32 ∧ c ≠ '\\') ∨
    (∃ e, escapeChar c = ['\\', e] ∧ e ≠ 'u' ∧ unescape e = some c) ∨
    (escapeChar c =
        ['\\', 'u', '0', '0', Nat.digitChar (c.toNat / 16), Nat.digitChar (c.toNat % 16)] ∧
      c.toNat < 32) := by
  unfold escapeChar
  split
  · exact .inr (.inl ⟨'"', rfl, by decide, by simp [unescape, *]⟩)
  split
  · exact .inr (.inl ⟨'\\', rfl, by decide, by simp [unescape, *]⟩)
  split
  · exact .inr (.inl ⟨'b', rfl, by decide, by simp [unescape, *]⟩)
  split
  · exact .inr (.inl ⟨'f', rfl, by decide, by simp [unescape, *]⟩)
  split
  · exact .inr (.inl ⟨'n', rfl, by decide, by simp [unescape, *]⟩)
  split
  · exact .inr (.inl ⟨'r', rfl, by decide, by simp [unescape, *]⟩)
  split
  · exact .inr (.inl ⟨'t', rfl, by decide, by simp [unescape, *]⟩)
  split
  · exact .inr (.inr ⟨rfl, ‹_›⟩)
  · exact .inl ⟨rfl, ‹_›, ‹_›, ‹_›⟩

/-- Whatever `escapeChar c` is, it is read as one piece, which stands for `c`. -/
theorem exists_piece (c : Char) :
    ∃ p : Piece, (∀ s, pieces (escapeChar c ++ s) = (pieces s).map fun r => (p :: r.1, r.2)) ∧
      ∀ ps, joinPieces (p :: ps) = (joinPieces ps).map (c :: ·) := by
  rcases escapeChar_cases c with ⟨hc, hquote, hcontrol, hbackslash⟩ | ⟨e, hc, he, h⟩ | ⟨hc, hcontrol⟩
  · refine ⟨.char c, fun s => ?_, fun ps => rfl⟩
    rw [hc]
    exact pieces_char s hquote hcontrol hbackslash
  · refine ⟨.char c, fun s => ?_, fun ps => rfl⟩
    rw [hc]
    exact pieces_escape s he h
  · refine ⟨.unit c.toNat, fun s => ?_, fun ps => ?_⟩
    · rw [hc]
      exact pieces_unit s (hexQuad_digitChar c.toNat hcontrol)
    · have hhigh : ¬ (0xD800 ≤ c.toNat ∧ c.toNat < 0xDC00) := by omega
      have hlow : ¬ (0xDC00 ≤ c.toNat ∧ c.toNat < 0xE000) := by omega
      rw [joinPieces.eq_def]
      simp only [if_neg hhigh, if_neg hlow, Char.ofNat_toNat]

theorem text_escaped (s : String) (rest : List Char) :
    text (s.toList.flatMap escapeChar ++ '"' :: rest) = some (some s, rest) := by
  have hpieces (cs : List Char) : ∃ ps,
      pieces (cs.flatMap escapeChar ++ '"' :: rest) = some (ps, rest) ∧ joinPieces ps = some cs := by
    induction cs with
    | nil => exact ⟨[], pieces_quote rest, rfl⟩
    | cons c cs ih =>
      obtain ⟨ps, hps, hjoin⟩ := ih
      obtain ⟨p, hp, hpjoin⟩ := exists_piece c
      refine ⟨p :: ps, ?_, by rw [hpjoin, hjoin, Option.map_some]⟩
      rw [List.flatMap_cons, List.append_assoc, hp, hps, Option.map_some]
  obtain ⟨ps, hps, hjoin⟩ := hpieces s.toList
  simp [text, hps, hjoin]

theorem digits_append {ds rest : List Char} (hne : ds ≠ []) (hds : ∀ c ∈ ds, c.isDigit = true)
    (hrest : ∀ c ∈ rest.head?, c.isDigit = false) : digits (ds ++ rest) = some (ds, rest) := by
  have hstop : rest.takeWhile Char.isDigit = [] ∧ rest.dropWhile Char.isDigit = rest := by
    cases rest with
    | nil => exact ⟨rfl, rfl⟩
    | cons c rest => simp [hrest c rfl]
  rw [digits, List.takeWhile_append_of_pos hds, List.dropWhile_append_of_pos hds, hstop.1, hstop.2,
    List.append_nil]
  cases ds with
  | nil => exact absurd rfl hne
  | cons d ds => rfl

theorem digitChar_ne_zero : ∀ n < 10, n ≠ 0 → Nat.digitChar n ≠ '0' := by decide

theorem exists_toDigits {n : Nat} (hn : n ≠ 0) : ∃ d ds, Nat.toDigits 10 n = d :: ds ∧ d ≠ '0' := by
  induction n using Nat.strongRecOn with
  | ind n ih =>
    rw [Nat.toDigits_eq_if (by decide)]
    split
    next hlt => exact ⟨_, [], rfl, digitChar_ne_zero n hlt hn⟩
    next hge =>
      obtain ⟨d, ds, hdigits, hd⟩ := ih (n / 10) (by omega) (by omega)
      exact ⟨d, ds ++ [Nat.digitChar (n % 10)], by rw [hdigits, List.cons_append], hd⟩

theorem isDigit_of_mem_toDigits {n : Nat} {c : Char} (hc : c ∈ Nat.toDigits 10 n) :
    c.isDigit = true :=
  Nat.isDigit_of_mem_toDigits (by decide) (by decide) hc

section
variable {rest : List Char} (hrest : EndsValue rest) (n : Nat)
include hrest

theorem integerPart_toDigits :
    integerPart (Nat.toDigits 10 n ++ rest) = some (Nat.toDigits 10 n, rest) := by
  have hdigit : ∀ c ∈ rest.head?, c.isDigit = false := by
    intro c hc
    rcases hrest c hc with rfl | rfl | rfl <;> decide
  by_cases hn : n = 0
  · subst hn
    have hnone : rest.head?.any Char.isDigit = false := by
      cases h : rest.head? with
      | none => rfl
      | some c => exact hdigit c h
    rw [Nat.toDigits_zero, List.singleton_append, integerPart, if_pos rfl, hnone]
    rfl
  · obtain ⟨d, ds, hdigits, hd⟩ := exists_toDigits hn
    have hread : digits (Nat.toDigits 10 n ++ rest) = some (Nat.toDigits 10 n, rest) :=
      digits_append Nat.toDigits_ne_nil (fun c hc => isDigit_of_mem_toDigits hc) hdigit
    rw [hdigits, List.cons_append] at hread ⊢
    rw [integerPart, if_neg hd, hread]

theorem fractionPart_eq : fractionPart rest = some ([], rest) := by
  unfold fractionPart
  split
  · rcases hrest '.' rfl with h | h | h <;> exact absurd h (by decide)
  · rfl

theorem exponentPart_eq : exponentPart rest = some ([], rest) := by
  cases rest with
  | nil => rfl
  | cons c rest =>
    have hc : ¬ (c = 'e' ∨ c = 'E') := by
      rcases hrest c rfl with rfl | rfl | rfl <;> decide
    rw [exponentPart.eq_def]
    simp only [if_neg hc]

theorem numeral_toDigits :
    numeral (Nat.toDigits 10 n ++ rest) = some (Nat.toDigits 10 n, rest) := by
  have hunsigned : unsigned (Nat.toDigits 10 n ++ rest) = some (Nat.toDigits 10 n, rest) := by
    simp [unsigned, integerPart_toDigits hrest, fractionPart_eq hrest, exponentPart_eq hrest]
  unfold numeral
  split
  next s hs =>
    -- a minus sign is not a digit
    have hminus : '-' ∈ Nat.toDigits 10 n := by
      cases hdigits : Nat.toDigits 10 n with
      | nil => exact absurd hdigits Nat.toDigits_ne_nil
      | cons d ds =>
        rw [hdigits, List.cons_append] at hs
        rw [(List.cons.inj hs).1]
        exact List.mem_cons_self
    exact absurd (isDigit_of_mem_toDigits hminus) (by decide)
  next => exact hunsigned

end

end WireShape.Json
