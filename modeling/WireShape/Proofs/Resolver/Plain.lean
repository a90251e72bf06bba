import WireShape.Proofs.Resolver.Coarser
import WireShape.Registry.Lookup

/-! # Plain uses

A use that nothing overrides has the shape of its structure. What else is asked about it has no part
in that shape: an adapter may only fail, and the rest does nothing but tell events. -/

namespace WireShape

namespace Resolving
variable {α β : Type} {x y : Resolving α} {f : α → Resolving β} {z : Resolving β} {a : α}

/-- `x` tells some events and then does what `y` does. -/
def After (x y : Resolving α) : Prop :=
  ∀ s : State, ∃ events, x.run s = y.run { s with events }

theorem After.refl (x : Resolving α) : x.After x := fun s => ⟨s.events, rfl⟩

theorem After.trans {z : Resolving α} (h : x.After y) (h' : y.After z) : x.After z := by
  intro s
  obtain ⟨events, h⟩ := h s
  obtain ⟨events', h'⟩ := h' { s with events }
  exact ⟨events', by rw [h, h']⟩

theorem After.bind (h : x.After y) (f : α → Resolving β) : (x >>= f).After (y >>= f) := by
  intro s
  obtain ⟨events, h⟩ := h s
  exact ⟨events, by rw [run_bind, run_bind, h]⟩

theorem Quiet.after (hx : x.Quiet a) (h : (f a).After z) : (x >>= f).After z := by
  intro s
  obtain ⟨events, hx⟩ := hx s
  obtain ⟨events', h⟩ := h { s with events }
  exact ⟨events', by rw [run_bind_ok hx, h]⟩

end Resolving

theorem Coupling.Coupled.after_left {K : Coupling} {S S' : List String} {α α' : Type}
    {P : α → α' → Prop} {x y : Resolving α} {x' : Resolving α'} (h : x.After y)
    (hy : K.Coupled S S' P y x') : K.Coupled S S' P x x' := by
  intro s s' hs
  obtain ⟨events, hr⟩ := h s
  rw [hr]
  exact hy _ s' (hs.withEvents events s'.events)

namespace Resolver
variable {r : Resolver} (below : Below) {d : DeclaredType} {t : TypeExpr} {shape : Shape}

open Resolving

theorem quiet_override (hno : r.environment.overrides d = false) :
    (r.override below d).Quiet none := by
  simp only [Environment.overrides, Bool.or_eq_false_iff, Option.isSome_eq_false_iff,
    Option.isNone_iff_eq_none] at hno
  obtain ⟨⟨hhint, hserializer⟩, htarget⟩ := hno
  have hserialized := Coupling.quiet_serialized r d
  rw [hserializer] at hserialized
  unfold override
  refine (Coupling.quiet_bound r d _).bind ?_
  rw [hhint]
  refine (Quiet.pure none).bind (hserialized.bind ((Coupling.quiet_bound r d _).bind ?_))
  rw [htarget]
  exact (Quiet.pure none).bind (.pure none)

theorem quiet_adapted (hadapter : r.environment.adapter d = none) :
    (r.adapted below d).Quiet none := by
  unfold adapted
  refine (Coupling.quiet_bound r d _).bind ?_
  rw [hadapter]
  exact .pure none

theorem quiet_structural (hmap : r.environment.mapTypes d = none)
    (hcomponent : r.environment.componentType d = none) :
    (r.structural below d).Quiet (r.environment.documented d) := by
  unfold structural
  refine (Coupling.quiet_bound r d _).bind ?_
  rw [hmap]
  refine (Coupling.quiet_bound r d _).bind ?_
  rw [hcomponent]
  exact .pure _

theorem structural_after (hmap : r.environment.mapTypes d = none)
    (hcomponent : r.environment.componentType d = some t) :
    (r.structural below d).After (do return some (← below .collectionElement t)) := by
  unfold structural
  refine (Coupling.quiet_bound r d _).after ?_
  rw [hmap]
  refine (Coupling.quiet_bound r d _).after ?_
  rw [hcomponent]
  exact .refl _

theorem framed_after_structural (hno : r.environment.overrides d = false)
    (hadapter : r.environment.adapter d = none) :
    (r.framed below d).After (r.structural below d >>= (r.settled d · none)) := by
  unfold framed
  refine (quiet_override below hno).after ((quiet_adapted below hadapter).after ?_)
  exact .refl _

theorem framed_after (hno : r.environment.overrides d = false)
    (hadapter : r.environment.adapter d = none) (hmap : r.environment.mapTypes d = none)
    (hcomponent : r.environment.componentType d = some t) :
    (r.framed below d).After (below .collectionElement t) := by
  have h := (structural_after below hmap hcomponent).bind (r.settled d · none)
  rw [bind_assoc] at h
  simp only [pure_bind, settled, bind_pure] at h
  exact (framed_after_structural below hno hadapter).trans h

theorem framed_after_entries {key value : TypeExpr} (hno : r.environment.overrides d = false)
    (hadapter : r.environment.adapter d = none)
    (hmap : r.environment.mapTypes d = some (key, value)) :
    (r.framed below d).After (do
      let k ← below .value key
      let v ← below .value value
      return .map k v) := by
  refine (framed_after_structural below hno hadapter).trans ?_
  unfold structural
  rw [bind_assoc]
  refine (Coupling.quiet_bound r d _).after ?_
  rw [hmap]
  simp only [bind_assoc, pure_bind, settled]
  exact .refl _

/-- Without a container, a use that nothing overrides has its `documented` shape, if there is one.
-/
theorem quiet_framed (hno : r.environment.overrides d = false)
    (hadapter : r.environment.adapter d = none) (hmap : r.environment.mapTypes d = none)
    (hcomponent : r.environment.componentType d = none) :
    (r.framed below d).Quiet ((r.environment.documented d).getD .object) := by
  unfold framed
  refine (quiet_override below hno).bind ((quiet_adapted below hadapter).bind ?_)
  refine (quiet_structural below hmap hcomponent).bind ?_
  unfold settled
  cases r.environment.documented d with
  | none => exact .pure _
  | some shape => exact .pure _

theorem run_framed_of_documented (hno : r.environment.overrides d = false)
    (hmap : r.environment.mapTypes d = none) (hcomponent : r.environment.componentType d = none)
    (hshape : r.environment.documented d = some shape) (s : State) :
    ((r.framed below d).run s).1 = .ok shape ∨
      (r.environment.adapter d).isSome = true ∧ ∃ e, ((r.framed below d).run s).1 = .error e := by
  obtain ⟨events, h⟩ := quiet_override below hno s
  unfold framed
  rw [run_bind_ok h]
  have hstructured := quiet_structural below hmap hcomponent
  rw [hshape] at hstructured
  rcases hr : (r.adapted below d).run { s with events } with ⟨e | a, s₁⟩
  · cases hadapter : r.environment.adapter d with
    | some t => exact .inr ⟨rfl, e, by rw [run_bind_error hr]⟩
    | none =>
      obtain ⟨events', h'⟩ := quiet_adapted below hadapter { s with events }
      rw [hr] at h'
      cases h'
  · obtain ⟨events', h'⟩ := hstructured s₁
    refine .inl ?_
    rw [run_bind_ok hr]
    show ((r.structural below d >>= fun shape => r.settled d shape a).run s₁).1 = .ok shape
    rw [run_bind_ok h']
    rfl

theorem shape_of_documented (hno : r.environment.overrides d = false)
    (hmap : r.environment.mapTypes d = none) (hcomponent : r.environment.componentType d = none)
    (hshape : r.environment.documented d = some shape) :
    r.shape d.toTypeExpr = .ok shape ∨
      (r.environment.adapter d).isSome = true ∧ ∃ e, r.shape d.toTypeExpr = .error e := by
  -- nothing is in progress at the top, so no cycle is broken there
  have hcut (e : Event) : ¬ r.cuts (({} : State).note e).stack d = true := by
    simp [cuts, State.note]
  unfold Resolver.shape
  rw [run_eq, run_resolveWithin_declared, Coupling.run_declaredShape, if_neg (hcut _)]
  rcases run_framed_of_documented _ hno hmap hcomponent hshape _ with h | ⟨hadapter, e, h⟩
  · refine .inl ?_
    rw [run_bind_ok (Prod.ext ((congrArg Prod.fst (run_inFrame ..)).trans h) rfl)]
    rfl
  · refine .inr ⟨hadapter, e, ?_⟩
    rw [run_bind_error (Prod.ext ((congrArg Prod.fst (run_inFrame ..)).trans h) rfl)]

end Resolver

/-- No type hint, no serializer of its own and no serialization target. -/
structure Declaration.Plain (d : Declaration) : Prop where
  typeHint : d.typeHint = none
  customSerializer : d.customSerializer = none
  serializationTarget : d.serializationTarget = none

theorem Registry.overrides_eq_false_iff {R : Registry} {u : DeclaredType} {d : Declaration}
    (h : R.get? u.name = some d) : R.environment.overrides u = false ↔ d.Plain := by
  have hserializer : R.environment.customSerializer u = d.customSerializer := by
    simp only [environment, h, Option.bind_some]
  simp only [Environment.overrides, typeHint_of_get? h, hserializer, serializeAs_of_get? h,
    Option.isSome_map, Bool.or_eq_false_iff, Option.isSome_eq_false_iff, Option.isNone_iff_eq_none]
  constructor
  · rintro ⟨⟨hhint, hserializer⟩, htarget⟩
    exact ⟨hhint, hserializer, htarget⟩
  · intro h
    exact ⟨⟨h.typeHint, h.customSerializer⟩, h.serializationTarget⟩

end WireShape
