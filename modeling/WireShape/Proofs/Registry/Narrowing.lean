import WireShape.Proofs.Registry.Instances
import WireShape.Proofs.Resolver.DepthLimit
import WireShape.Proofs.Resolver.Plain
import WireShape.Registry.Builtins

/-! # Bounds for wildcards

A wildcard has the shape of its bound, found one level deeper and put in its place. So a type has the
same shape if bounds stand in for some of its wildcards: it needs no more levels, and what differs in
the types met on the way are the wildcards that came in with the arguments. Bytes and the types
without values are left out, since their shapes are not those of other places in an array; so are uses
of the empty name, which are known by their arguments too. -/

namespace WireShape

/-- `t'` is `t` with some bounded wildcards replaced by their bounds. -/
def TypeExpr.Narrows : TypeExpr → TypeExpr → Prop := Rewrites fun s t => s = .wildcard (some t)

/-- What is no byte, no type without values and no use of the empty name. -/
def Node.Uniform : Node → Prop
  | .primitive kind => kind ≠ .byte
  | .declared name _ => name.text ≠ ""
  | .other _ => False
  | .array | .parameter _ | .wildcard => True

instance : DecidablePred Node.Uniform
  | .primitive kind => inferInstanceAs (Decidable (kind ≠ .byte))
  | .declared name _ => inferInstanceAs (Decidable (name.text ≠ ""))
  | .other _ => inferInstanceAs (Decidable False)
  | .array | .parameter _ | .wildcard => inferInstanceAs (Decidable True)

/-- All types that the declarations of `R` hold have no nodes but those of `P`. -/
def Registry.Holds (R : Registry) (P : Node → Prop) : Prop :=
  ∀ name d, R.get? name = some d → ∀ u ∈ d.held, u.Consists P

theorem Registry.Holds.insert {R : Registry} {P : Node → Prop} (h : R.Holds P) (name : TypeName)
    {d : Declaration} (hd : ∀ u ∈ d.held, u.Consists P) : (R.insert name d).Holds P := by
  intro name' d' h'
  rw [get?_insert] at h'
  split at h'
  · cases h'
    exact hd
  · exact h name' d' h'

/-- An adapter of the same type, with the same shape. -/
structure Registration.Agrees (a b : Registration) : Prop where
  adapted : a.adapted = b.adapted
  shape : a.shape = b.shape

namespace Coupling

/-- Runs of which the second meets narrower types, and finds the same shapes if the first has a
value. -/
def narrowing : Coupling where
  __ := same False fun _ _ => True
  types := TypeExpr.Narrows
  adapters as as' := List.Forall₂ Registration.Agrees as.toList as'.toList
  types_refl := TypeExpr.Rewrites.refl
  register h _ hs := Registration.forall₂_push h ⟨rfl, hs⟩

variable {R : Registry}

/-- What is found for `t` is found for a `t'` that narrows it within as many levels. The contexts
may differ, as a wildcard has the shape that its bound has in its place (`Placed`). -/
theorem narrowing_resolveWithin (settings : Settings) (hR : R.Holds Node.Uniform)
    {levels levels' : Nat} (hle : levels ≤ levels') {t t' : TypeExpr} (h : t.Narrows t')
    (ht : t.Consists Node.Uniform) (S : List String) (c c' : Context) :
    narrowing.Coupled S S (narrowing.Placed c c')
      (Resolver.resolveWithin ⟨R.environment, settings⟩ levels t c)
      (Resolver.resolveWithin ⟨R.environment, settings⟩ levels' t' c') := by
  induction levels generalizing levels' t t' S c c' with
  | zero => exact .of_throw id fun s => rfl
  | succ levels ih =>
    obtain ⟨levels', rfl⟩ : ∃ n, levels' = n + 1 := ⟨levels' - 1, by omega⟩
    have hle : levels ≤ levels' := Nat.le_of_succ_le_succ hle
    -- below, both runs stand at one position, so that what they find is the same
    have hbelow {t t' : TypeExpr} (h : t.Narrows t') (ht : t.Consists Node.Uniform)
        (S : List String) (p : Position) :
        narrowing.Coupled S S Eq
          (Resolver.resolveWithin ⟨R.environment, settings⟩ levels t (c.derive p))
          (Resolver.resolveWithin ⟨R.environment, settings⟩ levels' t' (c'.derive p)) :=
      (ih hle h ht S _ _).mono fun _ _ => Placed.shapes rfl
    have hplace {u u' : Shape} (hu : u = u') :
        narrowing.Placed c c' (c.wrap u) (c'.wrap u') := ⟨u, u', rfl, rfl, hu⟩
    cases h with
    | primitive kind =>
      have hkind : kind ≠ .byte := TypeExpr.Consists.primitive_iff.mp ht
      refine .note _ _ ?_
      simp only [Resolver.shapeOf, hkind, and_false, if_false]
      exact .pure (hplace rfl)
    | declared name has =>
      obtain ⟨hname, harguments⟩ := TypeExpr.Consists.declared_iff.mp ht
      have hidentity := DeclaredType.identity_of_ne_empty hname
      refine .note _ _ (.declaredShape_of_instances (fun _ => rfl) rfl
        ((hidentity _).trans (hidentity _).symm) fun d hd u hu p => ?_)
      have hinstance := TypeExpr.Rewrites.instantiate has d u
      exact ⟨hinstance, hbelow hinstance
        (Declaration.consists_instantiate (fun _ => trivial) harguments (hR name d hd) hu) _ p⟩
    | array h =>
      have h' := hbelow h (TypeExpr.Consists.array_iff.mp ht).2 S .arrayElement
      exact .note _ _ (h'.map fun _ _ => hplace)
    | parameter name h =>
      have hbound := (TypeExpr.Consists.parameter_iff.mp ht).2
      cases h with
      | none => exact .note _ _ (.pure (hplace rfl))
      | some h =>
        have h' := hbelow h (hbound _ rfl) S .value
        exact .note _ _ (h'.map fun _ _ => hplace)
    | wildcard h =>
      have hbound := (TypeExpr.Consists.wildcard_iff.mp ht).2
      cases h with
      | none => exact .note _ _ (.pure (hplace rfl))
      | some h =>
        have h' := hbelow h (hbound _ rfl) S .value
        exact .note _ _ (h'.map fun _ _ => hplace)
    | other kind => exact absurd (TypeExpr.Consists.other_iff.mp ht) id
    | step hrule h =>
      obtain rfl := hrule
      -- only the first run goes a level deeper, and there it stands at the neutral position
      have hbound := (TypeExpr.Consists.wildcard_iff.mp ht).2
      have h' := ih (Nat.le_succ_of_le hle) h (hbound _ rfl) S (c.derive .value) c'
      refine .after_left ((Resolving.Quiet.note _).after (.refl _)) (h'.map_left ?_)
      rintro u u' ⟨v, v', hu, hu', hv⟩
      exact ⟨u, v', rfl, hu', hu.trans hv⟩

end Coupling

namespace Registry

/-- If `t` has a report and `t.Narrows t'`, then `t'` has one of the same shape, with adapters that
agree one by one (`Registration.Agrees`). -/
theorem report_of_narrows (R : Registry) (hR : R.Holds Node.Uniform) (settings : Settings)
    {t t' : TypeExpr} (h : t.Narrows t') (ht : t.Consists Node.Uniform) {res : Resolver.Resolution}
    (hres : Resolver.report ⟨R.environment, settings⟩ t = .ok res) :
    ∃ res', Resolver.report ⟨R.environment, settings⟩ t' = .ok res' ∧ res'.shape = res.shape ∧
      List.Forall₂ Registration.Agrees res.adapters res'.adapters := by
  obtain ⟨hshape, hadapters⟩ := Resolver.report_eq_ok_iff.mp hres
  rw [Resolver.run_eq] at hshape hadapters
  have hcoupled := Coupling.narrowing_resolveWithin settings hR
    (Nat.le_refl (settings.maxDepth + 1)) h ht [] {} {}
  obtain ⟨shape', hshape', hplaced, h₁⟩ := (hcoupled {} {} ⟨rfl, rfl, .nil⟩).ok _ hshape
  refine ⟨⟨shape', _⟩, Resolver.report_eq_ok_iff.mpr ⟨hshape', rfl⟩, (hplaced.shapes rfl).symm, ?_⟩
  rw [← hadapters]
  exact h₁.adapters

theorem holds_builtins : builtins.Holds Node.Uniform := by
  intro name d h
  rcases cases_of_get?_builtins h with ⟨kind, rfl, -⟩ | ⟨kind, rfl, -⟩ | ⟨rfl, -⟩
  · show ∀ u ∈ [TypeExpr.raw ⟨"E"⟩], u.Consists Node.Uniform
    decide
  · show ∀ u ∈ [TypeExpr.raw ⟨"K"⟩, .raw ⟨"V"⟩], u.Consists Node.Uniform
    decide
  · show ∀ u ∈ [TypeExpr.raw ⟨"T"⟩], u.Consists Node.Uniform
    decide

/-- Boxes are adapted to the lists of what they hold, and keys are documented. -/
def boxes : Registry :=
  let list (t : TypeExpr) : TypeExpr := .declared ⟨"java.util.List"⟩ [t]
  (builtins.insert ⟨"Box"⟩ { parameters := [⟨"T", none⟩], adapter := some (list (.raw ⟨"T"⟩)) }).insert
    ⟨"Key"⟩ {}

theorem report_of_narrows_boxes :
    let list (t : TypeExpr) : TypeExpr := .declared ⟨"java.util.List"⟩ [t]
    let box (t : TypeExpr) : TypeExpr := .declared ⟨"Box"⟩ [t]
    let keys : TypeExpr := .wildcard (some (.raw ⟨"Key"⟩))
    let wide := list (.wildcard (some (box keys)))
    let narrow := list (box (.raw ⟨"Key"⟩))
    boxes.Holds Node.Uniform ∧ wide.Narrows narrow ∧ wide.Consists Node.Uniform ∧
      ∃ res res', Resolver.report ⟨boxes.environment, {}⟩ wide = .ok res ∧
        Resolver.report ⟨boxes.environment, {}⟩ narrow = .ok res' ∧ res'.shape = res.shape ∧
        List.Forall₂ Registration.Agrees res.adapters res'.adapters ∧
        res.adapters = [⟨⟨"Box"⟩, list keys, .array (.named ⟨⟨"Key"⟩, .object⟩)⟩] := by
  intro list box keys wide narrow
  have hR : boxes.Holds Node.Uniform :=
    (holds_builtins.insert _ (by decide)).insert _ (by decide)
  have hkey : TypeExpr.Narrows keys (.raw ⟨"Key"⟩) := .step rfl (.refl _)
  have hbox : TypeExpr.Narrows (.wildcard (some (box keys))) (box (.raw ⟨"Key"⟩)) :=
    .step rfl (.declared _ (.cons hkey .nil))
  have hnarrow : wide.Narrows narrow := .declared _ (.cons hbox .nil)
  have hwide : wide.Consists Node.Uniform := by decide
  have hreport : Resolver.report ⟨boxes.environment, {}⟩ wide = .ok
      ⟨.array (.named ⟨⟨"Box"⟩, .object⟩),
        [⟨⟨"Box"⟩, list keys, .array (.named ⟨⟨"Key"⟩, .object⟩)⟩]⟩ := by decide +kernel
  obtain ⟨res', hreport', hshape, hadapters⟩ :=
    report_of_narrows boxes hR {} hnarrow hwide hreport
  exact ⟨hR, hnarrow, hwide, _, res', hreport, hreport', hshape, hadapters, rfl⟩

end Registry

end WireShape
