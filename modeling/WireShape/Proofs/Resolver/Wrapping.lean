import WireShape.Proofs.Resolver.Coarser

/-! # Wrapping

A type is resolved the same way at all positions, and then its shape is put into an array at the
element positions. So at an element position it has the array of the shape that it has as a value,
with the same failures and the same adapters. Two kinds of types are left out: bytes, which are one
string as the component of an array, and the types without values, which are `object` everywhere. -/

namespace WireShape

/-- The same place at the neutral position. -/
def Context.neutral (c : Context) : Context := { c with position := .value }

namespace Resolver
variable {r : Resolver} {t : TypeExpr} {c : Context}

/-- At `c` the shape of `t` is that of a value, as it stands there. -/
def WrapsAt (t : TypeExpr) (c : Context) : Prop :=
  (∀ kind, t ≠ .other kind) ∧ ¬ (t = .primitive .byte ∧ c.position = .arrayElement)

theorem declaredShape_eq_wrap (below : Below) (d : DeclaredType) (c : Context) :
    r.declaredShape below d c = do return c.wrap (← r.declaredShape below d c.neutral) := by
  have hneutral (shape : Shape) : c.neutral.wrap shape = shape := rfl
  unfold declaredShape
  simp only [hneutral, bind_assoc]
  refine congrArg _ (funext fun inProgress => ?_)
  split
  · simp only [bind_assoc, pure_bind]
  · simp only [bind_pure]
    rfl

theorem shapeOf_eq_wrap (below : Below) (ht : WrapsAt t c) :
    r.shapeOf below t c = do return c.wrap (← r.shapeOf below t c.neutral) := by
  have hneutral (shape : Shape) : c.neutral.wrap shape = shape := rfl
  match t with
  | .primitive kind =>
    have hbyte : ¬ (c.position = .arrayElement ∧ kind = .byte) := fun h => ht.2 ⟨by rw [h.2], h.1⟩
    have hvalue : ¬ (c.neutral.position = .arrayElement ∧ kind = .byte) := fun h => nomatch h.1
    simp only [shapeOf, if_neg hbyte, if_neg hvalue, hneutral, pure_bind]
  | .declared name arguments => exact declaredShape_eq_wrap below ⟨name, arguments⟩ c
  | .array component => simp only [shapeOf, hneutral, bind_pure]
  | .parameter _ (some bound) | .wildcard (some bound) => simp only [shapeOf, hneutral, bind_pure]
  | .parameter _ none | .wildcard none => simp only [shapeOf, hneutral, pure_bind]
  | .other kind => exact absurd rfl (ht.1 kind)

/-- The two runs meet the same types on the same levels, and only their first events differ. -/
theorem coupled_neutral (base base' : Array Registration) (ht : WrapsAt t c) (S : List String)
    (levels : Nat) :
    (Coupling.appending base base').Coupled S S Eq
      (do return c.wrap (← r.resolveWithin levels t c.neutral)) (r.resolveWithin levels t c) := by
  refine Coupling.Coupled.map_left (P := fun s s' => c.wrap s = s') ?_ fun _ _ h => h
  cases levels with
  | zero => exact .note _ _ (.throw fun _ => rfl)
  | succ levels =>
    refine .note _ _ ?_
    rw [shapeOf_eq_wrap _ ht]
    exact (Coupling.appending_shapeOf base base' rfl levels t c.neutral).map_right
      fun _ _ h => congrArg c.wrap h

/-- At a position that `wraps` a type has `.array` of the shape that it has at `.value`, with the
same adapters and the same errors. The bytes of an array are a string, and `other` is `object` at
all positions. -/
theorem wrap_law (r : Resolver) (t : TypeExpr) {p : Position} (hp : p.wraps = true) (depth : Nat)
    (s : State) :
    ((∀ kind, t ≠ .other kind) → ¬ (t = .primitive .byte ∧ p = .arrayElement) →
      ∃ new,
        ((r.resolve t ⟨p, depth⟩).run s).1 = ((r.resolve t ⟨.value, depth⟩).run s).1.map .array ∧
        ((r.resolve t ⟨p, depth⟩).run s).2.adapters = s.adapters ++ new ∧
        ((r.resolve t ⟨.value, depth⟩).run s).2.adapters = s.adapters ++ new) ∧
    (depth ≤ r.settings.maxDepth →
      ((r.resolve (.primitive .byte) ⟨.arrayElement, depth⟩).run s).1 = .ok (.primitive .string) ∧
      ∀ kind position, ((r.resolve (.other kind) ⟨position, depth⟩).run s).1 = .ok .object) := by
  refine ⟨fun hother hbyte => ?_, fun hdepth => ?_⟩
  · obtain ⟨new, hresult, -, hvalue, helement⟩ := (coupled_neutral (r := r) (c := ⟨p, depth⟩)
      s.adapters s.adapters ⟨hother, hbyte⟩ s.stack (r.settings.maxDepth + 1 - depth)).exists_appended
    have hwrap : Context.wrap ⟨p, depth⟩ = .array := funext fun shape => if_pos hp
    rw [Resolving.run_map, hwrap] at hresult hvalue
    exact ⟨new, hresult.symm, helement, hvalue⟩
  · have hlevels : r.settings.maxDepth + 1 - depth = r.settings.maxDepth - depth + 1 :=
      Nat.sub_add_comm hdepth
    simp only [resolve, hlevels]
    exact ⟨rfl, fun kind position => rfl⟩

/-- An order is an array of lines, so it is an array of those as an element; and under a limit of two
levels the numbers of its lines lie too deep in either place. -/
theorem wrap_law_orders :
    let order : TypeExpr := .raw ⟨"Order"⟩
    let r := orders.environment.resolver 3 .useAdaptingShape
    let r' := orders.environment.resolver 2 .useAdaptingShape
    Position.wraps .collectionElement = true ∧ (∀ kind, order ≠ .other kind) ∧
    ¬ (order = .primitive .byte ∧ Position.collectionElement = .arrayElement) ∧ 1 ≤ 3 ∧
    ((r.resolve order ⟨.collectionElement, 0⟩).run {}).1 = .ok (.array (.array (.primitive .integer))) ∧
    ((r'.resolve order ⟨.collectionElement, 0⟩).run {}).1 = .error ⟨.raw ⟨"Number"⟩, 3⟩ ∧
    ((r.resolve (.primitive .byte) ⟨.arrayElement, 1⟩).run {}).1 = .ok (.primitive .string) := by
  intro order r r'
  have hp : Position.wraps .collectionElement = true := rfl
  have hother : ∀ kind, order ≠ .other kind := fun _ => TypeExpr.noConfusion
  have hbyte : ¬ (order = .primitive .byte ∧ Position.collectionElement = .arrayElement) :=
    fun h => nomatch h.2
  have hdepth : 1 ≤ 3 := by decide
  obtain ⟨_, hresult, -⟩ := (wrap_law r order hp 0 {}).1 hother hbyte
  obtain ⟨_, hresult', -⟩ := (wrap_law r' order hp 0 {}).1 hother hbyte
  exact ⟨hp, hother, hbyte, hdepth, hresult, hresult', ((wrap_law r order hp 1 {}).2 hdepth).1⟩

end Resolver

end WireShape
