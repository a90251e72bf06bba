import WireShape.Proofs.TypeExpr.Nodes
import WireShape.Proofs.TypeExpr.RoundTrip

/-! # The nesting that reading counts

Reading counts the dimensions of a type from the level of that type, and the levels of its arguments
from there too. Both lie one below the other, as the dimensions enclose the arguments, but only the
larger number is held against the limit. So what is read nests no deeper than the limit where no
dimensions enclose arguments, and up to 2144 levels deep where they do. -/

namespace WireShape.TypeExpr

/-- The number of dimensions of an array. -/
def rank : TypeExpr → Nat
  | .array component => component.rank + 1
  | .primitive _ | .declared .. | .parameter .. | .wildcard _ | .other _ => 0

mutual

/-- The number of levels that reading counts below `t`: dimensions, and what lies below the type that
they enclose, are not added. -/
def counted : TypeExpr → Nat
  | .primitive _ | .other _ | .parameter _ none | .wildcard none => 0
  | .declared _ arguments => countedList arguments
  | .array component => max (component.rank + 1) component.counted
  | .parameter _ (some bound) | .wildcard (some bound) => bound.counted + 1

def countedList : List TypeExpr → Nat
  | [] => 0
  | a :: as => max (a.counted + 1) (countedList as)

end

/-- The deepest nesting of which `n` levels are counted: `n` dimensions around a type with an argument
that nests as deep as it can with one level less. -/
def mostNesting : Nat → Nat
  | 0 => 0
  | n + 1 => mostNesting n + (n + 2)

/-- Dimensions enclose nothing but types without levels below them. -/
inductive FlatArrays : TypeExpr → Prop
  | arrays (k : Nat) {t : TypeExpr} : t.nesting = 0 → FlatArrays (arrays k t)
  | declared (name : TypeName) {arguments : List TypeExpr} : (∀ a ∈ arguments, FlatArrays a) →
    FlatArrays (.declared name arguments)
  | parameter (name : String) {bound : Option TypeExpr} : (∀ t ∈ bound, FlatArrays t) →
    FlatArrays (.parameter name bound)
  | wildcard {bound : Option TypeExpr} : (∀ t ∈ bound, FlatArrays t) → FlatArrays (.wildcard bound)

variable {a t : TypeExpr} {as : List TypeExpr} {n : Nat}

theorem countedList_le_iff : countedList as ≤ n ↔ ∀ a ∈ as, a.counted < n := by
  induction as with
  | nil => simp [countedList]
  | cons a as ih => rw [countedList, Nat.max_le, ih, List.forall_mem_cons, Nat.succ_le_iff]

theorem counted_lt_countedList (h : a ∈ as) : a.counted < countedList as :=
  countedList_le_iff.mp (Nat.le_refl _) a h

theorem rank_le_counted (t : TypeExpr) : t.rank ≤ t.counted := by
  cases t with
  | array component =>
    rw [rank, counted]
    omega
  | _ => exact Nat.zero_le _

theorem rank_arrays (k : Nat) (t : TypeExpr) : (arrays k t).rank = k + t.rank := by
  induction k with
  | zero => exact (Nat.zero_add _).symm
  | succ k ih =>
    rw [arrays, rank, ih]
    omega

theorem nesting_arrays (k : Nat) (t : TypeExpr) : (arrays k t).nesting = k + t.nesting := by
  induction k with
  | zero => exact (Nat.zero_add _).symm
  | succ k ih =>
    rw [arrays, nesting, ih]
    omega

theorem counted_arrays (k : Nat) (t : TypeExpr) :
    (arrays k t).counted = max (k + t.rank) t.counted := by
  induction k with
  | zero =>
    have := rank_le_counted t
    rw [arrays]
    omega
  | succ k ih =>
    rw [arrays, counted, rank_arrays, ih]
    omega

/-! ### Counted and uncounted levels -/

theorem le_mostNesting (n : Nat) : n ≤ mostNesting n := by
  induction n with
  | zero => exact Nat.le_refl 0
  | succ n ih =>
    rw [mostNesting]
    omega

theorem mostNesting_mono {m n : Nat} (h : m ≤ n) : mostNesting m ≤ mostNesting n := by
  induction h with
  | refl => exact Nat.le_refl _
  | step _ ih =>
    rw [mostNesting]
    omega

/-- Around a type with arguments that count `n` levels there may be as many dimensions as there may be
around one without. -/
theorem add_mostNesting_lt (k n : Nat) : k + mostNesting n < mostNesting (max k (n + 1)) := by
  obtain ⟨m, hm⟩ : ∃ m, max k (n + 1) = m + 1 := ⟨max k (n + 1) - 1, by omega⟩
  have hmono : mostNesting n ≤ mostNesting m := mostNesting_mono (by omega)
  rw [hm, mostNesting]
  omega

/-- Whatever dimensions are put around a type, they nest no deeper than their count allows. -/
theorem add_nesting_le (t : TypeExpr) (k : Nat) :
    k + t.nesting ≤ mostNesting (max (k + t.rank) t.counted) := by
  have hbound {b : TypeExpr} (ih : ∀ k, k + b.nesting ≤ mostNesting (max (k + b.rank) b.counted)) :
      b.nesting ≤ mostNesting b.counted := by
    have h := ih 0
    have hrank := rank_le_counted b
    rwa [Nat.zero_add, Nat.zero_add, Nat.max_eq_right hrank] at h
  have hleaf (k : Nat) : k + 0 ≤ mostNesting (max (k + 0) 0) := by
    rw [Nat.max_zero]
    exact le_mostNesting _
  have hinner {b : TypeExpr} (k : Nat)
      (ih : ∀ k, k + b.nesting ≤ mostNesting (max (k + b.rank) b.counted)) :
      k + (b.nesting + 1) ≤ mostNesting (max (k + 0) (b.counted + 1)) := by
    have := add_mostNesting_lt k b.counted
    have := hbound ih
    rw [Nat.add_zero k]
    omega
  induction t using TypeExpr.induction generalizing k with
  | primitive kind => exact hleaf k
  | declared name arguments ih =>
    show k + nestingList arguments ≤ mostNesting (max (k + 0) (countedList arguments))
    cases hcounted : countedList arguments with
    | zero =>
      have hnone : nestingList arguments ≤ 0 := nestingList_le_iff.mpr fun a ha => by
        have := counted_lt_countedList ha
        omega
      rw [Nat.le_zero.mp hnone]
      exact hleaf k
    | succ n =>
      have harguments : nestingList arguments ≤ mostNesting n + 1 := nestingList_le_iff.mpr fun a ha => by
        have hle := mostNesting_mono (Nat.le_of_lt_succ (hcounted ▸ counted_lt_countedList ha))
        exact Nat.lt_succ_of_le ((hbound (ih a ha)).trans hle)
      have := add_mostNesting_lt k n
      rw [Nat.add_zero k]
      omega
  | array component ih =>
    -- one more dimension around the component
    have h := ih (k + 1)
    have hmax : max (k + 1 + component.rank) component.counted ≤
        max (k + (component.rank + 1)) (max (component.rank + 1) component.counted) := by omega
    have hmono := mostNesting_mono hmax
    rw [nesting, rank, counted]
    omega
  | parameter name bound ih =>
    cases bound with
    | none => exact hleaf k
    | some b => exact hinner k (ih b rfl)
  | wildcard bound ih =>
    cases bound with
    | none => exact hleaf k
    | some b => exact hinner k (ih b rfl)
  | other kind => exact hleaf k

theorem nesting_le_mostNesting (t : TypeExpr) : t.nesting ≤ mostNesting t.counted := by
  have h := add_nesting_le t 0
  rwa [Nat.zero_add, Nat.zero_add, Nat.max_eq_right (rank_le_counted t)] at h

/-- Where no dimensions enclose arguments every level is counted. -/
theorem FlatArrays.nesting_le_counted (h : t.FlatArrays) : t.nesting ≤ t.counted := by
  induction h with
  | arrays k ht =>
    rw [nesting_arrays, counted_arrays, ht]
    omega
  | declared name _ ih =>
    exact nestingList_le_iff.mpr fun a ha => Nat.lt_of_le_of_lt (ih a ha) (counted_lt_countedList ha)
  | @parameter name bound _ ih =>
    cases bound with
    | none => exact Nat.le_refl 0
    | some b => exact Nat.succ_le_succ (ih b rfl)
  | @wildcard bound _ ih =>
    cases bound with
    | none => exact Nat.le_refl 0
    | some b => exact Nat.succ_le_succ (ih b rfl)

theorem WellFormed.add_counted_le {d : Nat} (h : WellFormed d t) : d + t.counted ≤ maxNesting := by
  induction h with
  | wildcard hd => exact hd
  | bounded _ _ ih =>
    rw [counted]
    omega
  | primitive hk =>
    rw [counted_arrays]
    simp only [rank, counted]
    omega
  | void hk =>
    rw [counted_arrays]
    simp only [rank, counted]
    omega
  | @declared d k name arguments hk _ _ _ ih =>
    have harguments : countedList arguments ≤ maxNesting - d := countedList_le_iff.mpr fun a ha => by
      have := ih a ha
      omega
    rw [counted_arrays]
    simp only [rank, counted]
    omega

/-- `parse` gives types of at most `maxNesting` levels that are `counted`. These are all levels of a
type with `FlatArrays`, and no type nests deeper than 2144 levels. -/
theorem nesting_of_parse {input : String} (h : parse input = .ok t) :
    t.counted ≤ maxNesting ∧ (t.FlatArrays → t.nesting ≤ maxNesting) ∧ t.nesting ≤ 2144 := by
  have hcounted : t.counted ≤ maxNesting := by
    have := (wellFormed_of_parse h).add_counted_le
    omega
  refine ⟨hcounted, fun hflat => hflat.nesting_le_counted.trans hcounted, ?_⟩
  calc t.nesting ≤ mostNesting t.counted := nesting_le_mostNesting t
    _ ≤ mostNesting maxNesting := mostNesting_mono hcounted
    _ = 2144 := by decide

/-- As many dimensions as are left at each level. -/
def deepest : Nat → TypeExpr
  | 0 => .raw ⟨"a"⟩
  | n + 1 => arrays (n + 1) (.declared ⟨"a"⟩ [deepest n])

theorem nesting_deepest (n : Nat) : (deepest n).nesting = mostNesting n := by
  induction n with
  | zero => rfl
  | succ n ih =>
    rw [deepest, nesting_arrays, nesting, nestingList, nestingList, ih, mostNesting]
    omega

theorem wellFormed_deepest {d : Nat} (n : Nat) (h : d + n ≤ maxNesting) : WellFormed d (deepest n) := by
  have hname : IsQualifiedName ['a'] := .single ⟨by decide +kernel, fun _ h => nomatch h⟩
  have hreserved : ¬ IsReserved "a" := by
    rintro (⟨kind, h⟩ | h)
    · revert h
      cases kind <;> decide
    · exact absurd h (by decide)
  induction n generalizing d with
  | zero => exact .declared (k := 0) h hname (fun _ => hreserved) fun _ h => nomatch h
  | succ n ih =>
    refine .declared h hname (fun h => nomatch h) fun a ha => ?_
    obtain rfl := List.mem_singleton.mp ha
    exact ih (by omega)

/-- The bound is met. -/
theorem nesting_of_parse_deepest :
    parse (deepest maxNesting).render = .ok (deepest maxNesting) ∧
      (deepest maxNesting).counted ≤ maxNesting ∧ (deepest maxNesting).nesting ≤ 2144 ∧
      (deepest maxNesting).nesting = 2144 := by
  have hparse : parse (deepest maxNesting).render = .ok (deepest maxNesting) :=
    parse_render (wellFormed_deepest maxNesting (Nat.le_of_eq (Nat.zero_add _)))
  obtain ⟨hcounted, -, hnesting⟩ := nesting_of_parse hparse
  exact ⟨hparse, hcounted, hnesting, nesting_deepest maxNesting⟩

/-- The argument of an array of 64 dimensions lies 65 levels deep, and is read. -/
theorem parse_array_of_generic :
    ∃ t, parse ("a<b>" ++ String.join (List.replicate 64 "[]")) = .ok t ∧ t.nesting = 65 ∧
      ¬ t.nesting ≤ maxNesting := by
  refine ⟨arrays 64 (.declared ⟨"a"⟩ [.raw ⟨"b"⟩]), by decide +kernel, ?_, ?_⟩ <;>
  · rw [nesting_arrays]
    decide

end WireShape.TypeExpr
