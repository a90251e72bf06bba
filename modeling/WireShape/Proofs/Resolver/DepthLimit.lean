import WireShape.Environment.Tables
import WireShape.Proofs.Resolver.Congruence

/-! # The depth limit

The limit decides whether there is an answer, and has no part in what the answer is. A run that ends
within its levels ends the same way with more of them, and one that does not fails exactly at the
first level beyond them. -/

namespace WireShape

/-- The resolver on an environment with a limit and a policy. -/
abbrev Environment.resolver (e : Environment) (maxDepth : Nat) (policy : AdapterPolicy) : Resolver where
  environment := e
  settings := { maxDepth, adapterPolicy := policy }

namespace Coupling

/-- Runs that find the same shapes and record the same adapters. -/
def same (strict : Prop) (errors : LimitExceeded → LimitExceeded → Prop) : Coupling where
  shapes := Eq
  types := Eq
  adapters := Eq
  errors := errors
  strict := strict
  shapes_simple := ⟨fun _ => rfl, rfl⟩
  shapes_array h := by rw [h]
  shapes_map h h' := by rw [h, h']
  types_refl _ := rfl
  register h h' h'' := by rw [h, h', h'']

theorem Coupled.run_eq {α : Type} {x x' : Resolving α} (s s' : State)
    (h : (same True Eq).Coupled s.stack s'.stack Eq x x') (hs : s.adapters = s'.adapters) :
    (x.run s).1 = (x'.run s').1 ∧ (x.run s).2.adapters = (x'.run s').2.adapters := by
  have hends := h s s' ⟨rfl, rfl, hs⟩
  cases hr : (x.run s).1 with
  | ok a =>
    obtain ⟨_, hr', rfl, h₁⟩ := hends.ok a hr
    exact ⟨hr'.symm, h₁.adapters⟩
  | error e =>
    obtain ⟨_, hr', rfl, h₁⟩ := hends.error trivial e hr
    exact ⟨hr'.symm, h₁.adapters⟩

/-- Runs over equal stacks are coupled, also at different depths, and if the second has more levels.
-/
theorem same_resolveWithin (strict : Prop) (errors : LimitExceeded → LimitExceeded → Prop)
    {r r' : Resolver} (he : r.environment = r'.environment)
    (hp : r.settings.adapterPolicy = r'.settings.adapterPolicy) {levels levels' : Nat}
    (hle : levels ≤ levels') (hstrict : strict → levels = levels') {c c' : Context}
    (hc : c.position = c'.position)
    (hlimit : strict → ∀ t, errors ⟨t, c.depth + levels⟩ ⟨t, c'.depth + levels⟩) (t : TypeExpr)
    (S : List String) :
    (same strict errors).Coupled S S Eq (r.resolveWithin levels t c)
      (r'.resolveWithin levels' t c') := by
  refine Coupled.resolveWithin (K := same strict errors) Eq (.inl hp) he
    (fun _ _ _ _ => rfl) ?_ ?_ hle hstrict
    hc hlimit rfl t
  · rintro S S' i rfl
    rfl
  · rintro S S' d rfl
    unfold Resolver.cuts
    rw [he]

end Coupling

namespace Resolver
variable {r r' : Resolver} {t : TypeExpr} {c : Context} {s s₁ : State}

/-- The depth of an error is that of the first level beyond `levels`. -/
theorem depth_of_resolveWithin_error {levels : Nat} {e : LimitExceeded}
    (h : (r.resolveWithin levels t c).run s = (.error e, s₁)) : e.depth = c.depth + levels := by
  have hcoupled := Coupling.same_resolveWithin True (fun e _ => e.depth = c.depth + levels)
    (r := r) rfl rfl (Nat.le_refl levels) (fun _ => rfl) (c := c) rfl (fun _ _ => rfl) t s.stack
  obtain ⟨_, _, he, _⟩ := (hcoupled s s ⟨rfl, rfl, rfl⟩).error trivial e (by rw [h])
  exact he

/-- What is found within `levels` is found within `levels'`. -/
theorem resolveWithin_mono (he : r.environment = r'.environment)
    (hp : r.settings.adapterPolicy = r'.settings.adapterPolicy) {levels levels' : Nat}
    (hle : levels ≤ levels') {shape : Shape}
    (h : (r.resolveWithin levels t c).run s = (.ok shape, s₁)) :
    ∃ s₁', (r'.resolveWithin levels' t c).run s = (.ok shape, s₁') ∧
      s₁'.stack = s.stack ∧ s₁'.adapters = s₁.adapters := by
  have hcoupled := Coupling.same_resolveWithin False Eq he hp hle False.elim (c := c) rfl
    (fun h => h.elim) t s.stack
  obtain ⟨_, hr', rfl, hs₁⟩ := (hcoupled s s ⟨rfl, rfl, rfl⟩).ok shape (by rw [h])
  rw [h] at hs₁
  exact ⟨_, Prod.ext hr' rfl, hs₁.stack', hs₁.adapters.symm⟩

theorem run_eq (r : Resolver) (t : TypeExpr) :
    r.run t = (r.resolveWithin (r.settings.maxDepth + 1) t {}).run {} := rfl

theorem depth_of_run_error {e : LimitExceeded} (h : (r.run t).1 = .error e) :
    e.depth = r.settings.maxDepth + 1 := by
  rcases hr : r.run t with ⟨result, s₁⟩
  rw [hr] at h
  obtain rfl : result = .error e := h
  rw [run_eq] at hr
  rw [depth_of_resolveWithin_error hr]
  exact Nat.zero_add _

theorem run_mono {e : Environment} {policy : AdapterPolicy} {m m' : Nat} (hle : m ≤ m')
    {shape : Shape} (h : ((e.resolver m policy).run t).1 = .ok shape) :
    ((e.resolver m' policy).run t).1 = .ok shape ∧
      ((e.resolver m' policy).run t).2.adapters = ((e.resolver m policy).run t).2.adapters := by
  rcases hr : (e.resolver m policy).run t with ⟨result, s₁⟩
  rw [hr] at h
  obtain rfl : result = .ok shape := h
  rw [run_eq] at hr
  have he : (e.resolver m policy).environment = (e.resolver m' policy).environment := rfl
  obtain ⟨s₁', hr', -, ha⟩ := resolveWithin_mono he rfl (Nat.add_le_add_right hle 1) hr
  rw [run_eq, hr']
  exact ⟨rfl, ha⟩

theorem report_eq_error_iff {e : LimitExceeded} :
    r.report t = .error e ↔ r.shape t = .error e := by
  unfold report shape
  cases (r.run t).1 <;> simp [Except.map]

theorem report_eq_ok_iff {resolution : Resolution} :
    r.report t = .ok resolution ↔
      (r.run t).1 = .ok resolution.shape ∧ (r.run t).2.adapters.toList = resolution.adapters := by
  unfold report
  cases (r.run t).1 <;> cases resolution <;> simp [Except.map]

/-- All errors of `shape` and `report` under the limit `m` are `recursionLimit` with depth `m + 1`,
and what they find under `m` they find under every `m'` from `m` on. -/
theorem limit_only_decides (e : Environment) (policy : AdapterPolicy) (t : TypeExpr) {m m' : Nat}
    (hle : m ≤ m') :
    (∀ error, (e.resolver m policy).shape t = .error error ∨
        (e.resolver m policy).report t = .error error →
      error.toError = .recursionLimit error.type.render (m + 1)) ∧
    (∀ shape, (e.resolver m policy).shape t = .ok shape →
      (e.resolver m' policy).shape t = .ok shape) ∧
    ∀ resolution, (e.resolver m policy).report t = .ok resolution →
      (e.resolver m' policy).report t = .ok resolution := by
  refine ⟨fun error h => ?_, fun shape h => (run_mono hle h).1, fun resolution h => ?_⟩
  · rw [report_eq_error_iff, or_self] at h
    rw [LimitExceeded.toError, depth_of_run_error h]
  · obtain ⟨hshape, hadapters⟩ := report_eq_ok_iff.mp h
    obtain ⟨hshape', hadapters'⟩ := run_mono hle hshape
    exact report_eq_ok_iff.mpr ⟨hshape', by rw [hadapters', hadapters]⟩

/-- Orders are treated as arrays of lines, and each line is adapted to its number. -/
def orders : AnswerTables where
  hints := [("Order", .array (.raw ⟨"Line"⟩))]
  adapters := [("Line", .raw ⟨"Number"⟩)]
  known := [("Number", .primitive .integer)]

theorem limit_only_decides_orders : 3 ≤ 64 ∧
    (orders.environment.resolver 64 .useAdaptingShape).report (.raw ⟨"Order"⟩) =
      .ok ⟨.array (.primitive .integer), [⟨⟨"Line"⟩, .raw ⟨"Number"⟩, .primitive .integer⟩]⟩ :=
  have hle : 3 ≤ 64 := by decide
  ⟨hle, (limit_only_decides orders.environment .useAdaptingShape _ hle).2.2 _ rfl⟩

end Resolver

end WireShape
