import WireShape.Proofs.Resolver.Wrapping
import WireShape.TypeExpr.Parser

/-! # Array dimensions

What is found for a type depends on how many levels are left for it, and not on how many lie above it:
the same run some levels further down finds the same shape, or fails as many levels further down. So an
array dimension takes one level and puts one array around the shape. Only the innermost dimension of
bytes does not, as these are one string there, nor that of a type without values. -/

namespace WireShape

/-- `n` arrays around a shape. -/
def Shape.arrays : Nat → Shape → Shape
  | 0, shape => shape
  | n + 1, shape => .array (arrays n shape)

/-- The same failure `n` levels further down. -/
def LimitExceeded.lower (n : Nat) (e : LimitExceeded) : LimitExceeded :=
  { e with depth := e.depth + n }

theorem TypeExpr.arrays_succ (n : Nat) (t : TypeExpr) : arrays (n + 1) t = arrays n (.array t) := by
  induction n with
  | zero => rfl
  | succ n ih => exact congrArg TypeExpr.array ih

namespace Resolver

open TypeExpr (arrays)

variable {r r' : Resolver} {t : TypeExpr}

/-- With as many levels left the result is the same `n` levels further down, up to `lower n`. -/
theorem result_lower (he : r.environment = r'.environment)
    (hp : r.settings.adapterPolicy = r'.settings.adapterPolicy) (levels : Nat) (t : TypeExpr)
    (p : Position) (depth n : Nat) (s : State) :
    ((r'.resolveWithin levels t ⟨p, depth + n⟩).run s).1 =
      ((r.resolveWithin levels t ⟨p, depth⟩).run s).1.mapError (·.lower n) := by
  have hlimit (u : TypeExpr) :
      (⟨u, depth + n + levels⟩ : LimitExceeded) = LimitExceeded.lower n ⟨u, depth + levels⟩ := by
    rw [LimitExceeded.lower, Nat.add_right_comm]
  have hcoupled : (Coupling.same True fun e e' => e' = e.lower n).Coupled s.stack s.stack Eq
      (r.resolveWithin levels t ⟨p, depth⟩) (r'.resolveWithin levels t ⟨p, depth + n⟩) :=
    Coupling.same_resolveWithin True _ he hp (Nat.le_refl levels) (fun _ => rfl) (by rfl)
      (fun _ => hlimit) t s.stack
  have hends := hcoupled s s ⟨rfl, rfl, rfl⟩
  cases hr : ((r.resolveWithin levels t ⟨p, depth⟩).run s).1 with
  | ok shape =>
    obtain ⟨_, hr', rfl, -⟩ := hends.ok shape hr
    exact hr'
  | error e =>
    obtain ⟨_, hr', rfl, -⟩ := hends.error trivial e hr
    exact hr'

theorem run_resolveWithin_array (r : Resolver) (levels : Nat) (t : TypeExpr) (c : Context)
    (s : State) :
    ((r.resolveWithin (levels + 1) (.array t) c).run s).1 =
      ((r.resolveWithin levels t (c.derive .arrayElement)).run
        (s.note (.resolving (.array t) c.position))).1.map c.wrap :=
  congrArg Prod.fst (Resolving.run_map _ c.wrap _)

theorem result_component {depth : Nat} (ht : WrapsAt t ⟨.arrayElement, depth⟩) (levels : Nat)
    {s s' : State} (hs : s.stack = s'.stack) :
    ((r.resolveWithin levels t ⟨.arrayElement, depth⟩).run s').1 =
      ((r.resolveWithin levels t ⟨.value, depth⟩).run s).1.map .array := by
  have hcoupled : (Coupling.appending s.adapters s'.adapters).Coupled s.stack s'.stack Eq
      (do return Shape.array (← r.resolveWithin levels t ⟨.value, depth⟩))
      (r.resolveWithin levels t ⟨.arrayElement, depth⟩) :=
    hs ▸ coupled_neutral s.adapters s'.adapters ht s.stack levels
  obtain ⟨_, hresult, -⟩ := hcoupled.exists_appended
  rw [Resolving.run_map] at hresult
  exact hresult.symm

theorem wrapsAt_arrays (hbyte : t ≠ .primitive .byte) (hother : ∀ kind, t ≠ .other kind) (n : Nat)
    (c : Context) : WrapsAt (arrays n t) c := by
  cases n with
  | zero => exact ⟨hother, fun h => hbyte h.1⟩
  | succ n => exact ⟨fun _ => TypeExpr.noConfusion, fun h => nomatch h.1⟩

/-- Each dimension takes one level, and puts an array around what is found there. -/
theorem result_arrays (hbyte : t ≠ .primitive .byte) (hother : ∀ kind, t ≠ .other kind)
    (levels n depth : Nat) (s : State) :
    ((r.resolveWithin (levels + n) (arrays n t) ⟨.value, depth⟩).run s).1 =
      ((r.resolveWithin levels t ⟨.value, depth + n⟩).run s).1.map (Shape.arrays n) := by
  induction n generalizing depth with
  | zero =>
    have hnone (x : Except LimitExceeded Shape) : x.map (Shape.arrays 0) = x := by
      cases x <;> rfl
    exact (hnone _).symm
  | succ n ih =>
    let s' := s.note (.resolving (arrays (n + 1) t) .value)
    have hstack : s.stack = s'.stack := rfl
    have hwraps : WrapsAt (arrays n t) ⟨.arrayElement, depth + 1⟩ := wrapsAt_arrays hbyte hother n _
    calc ((r.resolveWithin (levels + n + 1) (arrays (n + 1) t) ⟨.value, depth⟩).run s).1
        = ((r.resolveWithin (levels + n) (arrays n t) ⟨.arrayElement, depth + 1⟩).run s').1.map id :=
          run_resolveWithin_array r (levels + n) (arrays n t) ⟨.value, depth⟩ s
      _ = (((r.resolveWithin (levels + n) (arrays n t) ⟨.value, depth + 1⟩).run s).1.map
            .array).map id := by rw [result_component hwraps (levels + n) hstack]
      _ = ((((r.resolveWithin levels t ⟨.value, depth + (n + 1)⟩).run s).1.map
            (Shape.arrays n)).map .array).map id := by rw [ih, Nat.add_right_comm, Nat.add_assoc]
      _ = ((r.resolveWithin levels t ⟨.value, depth + (n + 1)⟩).run s).1.map
            (Shape.arrays (n + 1)) := by
          cases ((r.resolveWithin levels t ⟨.value, depth + (n + 1)⟩).run s).1 <;> rfl

theorem shape_arrays (e : Environment) (policy : AdapterPolicy) (m n : Nat)
    (hbyte : t ≠ .primitive .byte) (hother : ∀ kind, t ≠ .other kind) :
    (e.resolver (m + n) policy).shape (arrays n t) =
      (((e.resolver m policy).shape t).map (Shape.arrays n)).mapError (·.lower n) := by
  have hlevels : m + n + 1 = m + 1 + n := Nat.add_right_comm m n 1
  have he : (e.resolver m policy).environment = (e.resolver (m + n) policy).environment := rfl
  have hlower := result_lower he rfl (m + 1) t .value 0 n {}
  rw [shape, run_eq, hlevels, result_arrays hbyte hother, hlower, shape, run_eq]
  cases (((e.resolver m policy).resolveWithin (m + 1) t {}).run {}).1 <;> rfl

/-- Under `m + n` the shape of `arrays n t` is `Shape.arrays n` of that of `t` under `m`, and an
error lies `n` levels further down. For `byte` and for `other` it has one array less, around a
string and around `object`. -/
theorem arrays_law (e : Environment) (policy : AdapterPolicy) (m : Nat) {n : Nat} (hn : 1 ≤ n)
    (t : TypeExpr) :
    let r := e.resolver m policy
    let r' := e.resolver (m + n) policy
    (t ≠ .primitive .byte → (∀ kind, t ≠ .other kind) →
      r'.shape (arrays n t) = match r.shape t with
        | .ok shape => .ok (shape.arrays n)
        | .error error => .error { type := error.type, depth := error.depth + n }) ∧
    r'.shape (arrays n (.primitive .byte)) = .ok (.arrays (n - 1) (.primitive .string)) ∧
    ∀ kind, r'.shape (arrays n (.other kind)) = .ok (.arrays (n - 1) .object) := by
  intro r r'
  -- the innermost array has all levels but those of the other dimensions
  obtain ⟨k, rfl⟩ : ∃ k, n = k + 1 := ⟨n - 1, by omega⟩
  have hinner (u : TypeExpr) {shape : Shape}
      (h : (e.resolver (m + 1) policy).shape (.array u) = .ok shape) :
      r'.shape (arrays (k + 1) u) = .ok (.arrays k shape) := by
    have hlimit : m + (k + 1) = m + 1 + k := Nat.add_right_comm m k 1
    have harray := shape_arrays e policy (m + 1) k (t := .array u) TypeExpr.noConfusion
      fun _ => TypeExpr.noConfusion
    rw [h] at harray
    show (e.resolver (m + (k + 1)) policy).shape _ = _
    rw [hlimit, TypeExpr.arrays_succ, harray]
    rfl
  refine ⟨fun hbyte hother => ?_, hinner _ rfl, fun kind => hinner _ rfl⟩
  show (e.resolver (m + (k + 1)) policy).shape _ = _
  rw [shape_arrays e policy m (k + 1) hbyte hother]
  cases r.shape t <;> rfl

/-- An order is an array of lines, which are two levels below it. The two dimensions around it are met
by two levels more, also for the failure. -/
theorem arrays_law_orders :
    let order : TypeExpr := .raw ⟨"Order"⟩
    let e := orders.environment
    1 ≤ 2 ∧ order ≠ .primitive .byte ∧ (∀ kind, order ≠ .other kind) ∧
    (e.resolver (3 + 2) .useAdaptingShape).shape (arrays 2 order) =
      .ok (.array (.array (.array (.primitive .integer)))) ∧
    (e.resolver (2 + 2) .useAdaptingShape).shape (arrays 2 order) =
      .error ⟨.raw ⟨"Number"⟩, 5⟩ ∧
    (e.resolver (1 + 2) .useAdaptingShape).shape (arrays 2 (.primitive .byte)) =
      .ok (.array (.primitive .string)) := by
  intro order e
  have hn : 1 ≤ 2 := by decide
  have hbyte : order ≠ .primitive .byte := TypeExpr.noConfusion
  have hother : ∀ kind, order ≠ .other kind := fun _ => TypeExpr.noConfusion
  exact ⟨hn, hbyte, hother, (arrays_law e .useAdaptingShape 3 hn order).1 hbyte hother,
    (arrays_law e .useAdaptingShape 2 hn order).1 hbyte hother,
    (arrays_law e .useAdaptingShape 1 hn order).2.1⟩

end Resolver

end WireShape
