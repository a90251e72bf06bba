import WireShape.Proofs.Registry.Narrowing
import WireShape.Proofs.Resolver.Coarser

/-! # Raw uses

A raw use of a declaration sees the type parameters themselves, with their bounds, in the types of the
declaration. Nothing but the name tells a parameter from a wildcard of the same bound, and the name has
no part in what is found. So a raw use is as good as a use with such wildcards for arguments. -/

namespace WireShape

/-- `t'` is `t` with some type parameters replaced by wildcards of the same bounds. -/
def TypeExpr.Forgets : TypeExpr → TypeExpr → Prop :=
  Rewrites fun s t => ∃ name bound, s = .parameter name bound ∧ t = .wildcard bound

namespace Declaration

/-- The arguments that say no more than the parameters do: wildcards of their bounds. -/
def wildcards (d : Declaration) : List TypeExpr := d.parameters.map fun p => .wildcard p.bound

/-- The parameters, each bound to the wildcard of its bound. -/
def asWildcards (d : Declaration) : Bindings :=
  d.parameters.map fun p => (p.name, .wildcard p.bound)

theorem instantiate_wildcards (d : Declaration) (t : TypeExpr) :
    d.instantiate d.wildcards t = t.substitute d.asWildcards := by
  rw [instantiate, bindings_eq, wildcards, List.length_map, if_pos rfl, List.zip_map', asWildcards]

theorem forgets_asWildcards (d : Declaration) (t : TypeExpr) :
    (t.substitute d.asVariables).Forgets (t.substitute d.asWildcards) := by
  refine TypeExpr.Rewrites.substitute ?_ t
  rw [asVariables, asWildcards, TypeExpr.Bound, List.forall₂_map_left_iff,
    List.forall₂_map_right_iff]
  exact List.forall₂_same.mpr fun p _ => ⟨rfl, .step ⟨p.name, p.bound, rfl, rfl⟩ (.refl _)⟩

/-- A raw use and one with `wildcards` see types that differ in the names of parameters only. -/
theorem forgets_instantiate (d : Declaration) (t : TypeExpr) :
    (d.instantiate [] t).Forgets (d.instantiate d.wildcards t) := by
  rw [instantiate_nil, instantiate_wildcards]
  exact d.forgets_asWildcards t

end Declaration

/-- The node has no empty name. -/
abbrev Node.Named : Node → Prop := Node.Within (·.text ≠ "")

theorem Resolver.shapeOf_parameter (r : Resolver) (below : Below) (name : String)
    (bound : Option TypeExpr) (c : Context) :
    r.shapeOf below (.parameter name bound) c = r.shapeOf below (.wildcard bound) c := by
  cases bound <;> rfl

namespace Coupling

/-- Runs that find the same shapes or fail at the same depth, and record the same adapters behind those
of `base` and `base'`, up to the names of parameters in the adapting types. -/
def forgetting (base base' : Array Registration) : Coupling where
  __ := same True fun e e' => e.depth = e'.depth
  types := TypeExpr.Forgets
  adapters := Grown (fun new new' => List.Forall₂ Registration.Agrees new.toList new'.toList) base base'
  types_refl := TypeExpr.Rewrites.refl
  register h _ hs := h.push fun _ _ h => Registration.forall₂_push h ⟨rfl, hs⟩

theorem Coupled.shapeOf_wildcard {K : Coupling} {S S' : List String} {r r' : Resolver}
    {below below' : Resolver.Below} {bound bound' : Option TypeExpr} (c : Context)
    (h : Option.Rel (fun t t' => K.Coupled S S' K.shapes (below .value t) (below' .value t'))
      bound bound') :
    K.Coupled S S' K.shapes (r.shapeOf below (.wildcard bound) c)
      (r'.shapeOf below' (.wildcard bound') c) := by
  cases h with
  | none => exact .pure (shapes_wrap rfl K.shapes_object)
  | some h => exact h.map fun _ _ => shapes_wrap rfl

variable {R : Registry} (hR : R.Holds Node.Named) (base base' : Array Registration)
  (settings : Settings) {levels : Nat} {S : List String} {c : Context}
include hR

/-- Two uses of `name` are coupled if the instances of the types that its declaration holds are
related by `Forgets`, and types so related are coupled one level below. -/
theorem forgetting_uses {name : TypeName} (hname : name.text ≠ "")
    {arguments arguments' : List TypeExpr} (harguments : ∀ a ∈ arguments, a.Consists Node.Named)
    (hinstances : ∀ d, R.get? name = some d → ∀ t ∈ d.held,
      (d.instantiate arguments t).Forgets (d.instantiate arguments' t))
    (hbelow : ∀ {t t'}, t.Forgets t' → t.Consists Node.Named → ∀ S c,
      (forgetting base base').Coupled S S Eq
        (Resolver.resolveWithin ⟨R.environment, settings⟩ levels t c)
        (Resolver.resolveWithin ⟨R.environment, settings⟩ levels t' c)) :
    (forgetting base base').Coupled S S Eq
      (Resolver.resolveWithin ⟨R.environment, settings⟩ (levels + 1) (.declared name arguments) c)
      (Resolver.resolveWithin ⟨R.environment, settings⟩ (levels + 1)
        (.declared name arguments') c) := by
  refine .uses_of_instances (fun _ => rfl) hname fun d hd u hu S p => ?_
  have hinstance := hinstances d hd u hu
  exact ⟨hinstance, hbelow hinstance
    (Declaration.consists_instantiate (Node.within_parameter _) harguments (hR name d hd) hu) _ _⟩

theorem forgetting_resolveWithin (levels : Nat) {t t' : TypeExpr} (h : t.Forgets t')
    (ht : t.Consists Node.Named) (S : List String) (c : Context) :
    (forgetting base base').Coupled S S Eq
      (Resolver.resolveWithin ⟨R.environment, settings⟩ levels t c)
      (Resolver.resolveWithin ⟨R.environment, settings⟩ levels t' c) := by
  induction levels generalizing t t' S c with
  | zero => exact .note _ _ (.throw fun _ => rfl)
  | succ levels ih =>
    have hbound {bound bound' : Option TypeExpr} (h : Option.Rel TypeExpr.Forgets bound bound')
        (ht : ∀ t ∈ bound, t.Consists Node.Named) :
        Option.Rel (fun t t' => (forgetting base base').Coupled S S Eq
          (Resolver.resolveWithin ⟨R.environment, settings⟩ levels t (c.derive .value))
          (Resolver.resolveWithin ⟨R.environment, settings⟩ levels t' (c.derive .value)))
          bound bound' := by
      cases h with
      | none => exact .none
      | some h => exact .some (ih h (ht _ rfl) S _)
    -- whether a bound stands in a parameter or in a wildcard makes no difference
    cases h with
    | primitive kind =>
      refine .note _ _ ?_
      simp only [Resolver.shapeOf]
      split
      · exact .pure rfl
      · exact .pure rfl
    | declared name has =>
      obtain ⟨hname, harguments⟩ := TypeExpr.Consists.declared_iff.mp ht
      exact forgetting_uses hR base base' settings (hname name rfl) harguments
        (fun d _ u _ => TypeExpr.Rewrites.instantiate has d u) ih
    | array h =>
      have hcomponent := ih h (TypeExpr.Consists.array_iff.mp ht).2 S (c.derive .arrayElement)
      exact .note _ _ (hcomponent.map fun _ _ => congrArg c.wrap)
    | parameter name h =>
      refine .note _ _ ?_
      rw [Resolver.shapeOf_parameter, Resolver.shapeOf_parameter]
      exact .shapeOf_wildcard c (hbound h (TypeExpr.Consists.parameter_iff.mp ht).2)
    | wildcard h =>
      exact .note _ _ (.shapeOf_wildcard c (hbound h (TypeExpr.Consists.wildcard_iff.mp ht).2))
    | other kind => exact .note _ _ (.pure rfl)
    | step hrule h =>
      obtain ⟨name, bound, rfl, rfl⟩ := hrule
      refine .note _ _ ?_
      rw [Resolver.shapeOf_parameter]
      cases h with
      | wildcard h =>
        exact .shapeOf_wildcard c (hbound h (TypeExpr.Consists.parameter_iff.mp ht).2)
      | step hrule => obtain ⟨_, _, h, -⟩ := hrule; cases h

end Coupling

namespace Registry

/-- `raw name` is resolved like `name` with `d.wildcards`: the two have the same shape or fail at
the same depth, and their new adapters agree one by one (`Registration.Agrees`). -/
theorem raw_eq_wildcards (R : Registry) (hR : R.Holds Node.Named) {name : TypeName}
    (hname : name.text ≠ "") {d : Declaration} (hd : R.get? name = some d) (settings : Settings)
    (c : Context) (s : State) :
    let run := (Resolver.resolve ⟨R.environment, settings⟩ (.raw name) c).run s
    let run' := (Resolver.resolve ⟨R.environment, settings⟩ (.declared name d.wildcards) c).run s
    (match run.1, run'.1 with
      | .ok shape, .ok shape' => shape = shape'
      | .error e, .error e' => e.depth = e'.depth
      | _, _ => False) ∧
    ∃ new new', run.2.adapters = s.adapters ++ new ∧ run'.2.adapters = s.adapters ++ new' ∧
      List.Forall₂ Registration.Agrees new.toList new'.toList := by
  intro run run'
  have hcoupled : (Coupling.forgetting s.adapters s.adapters).Coupled s.stack s.stack Eq
      (Resolver.resolve ⟨R.environment, settings⟩ (.raw name) c)
      (Resolver.resolve ⟨R.environment, settings⟩ (.declared name d.wildcards) c) := by
    unfold Resolver.resolve
    generalize settings.maxDepth + 1 - c.depth = levels
    cases levels with
    | zero => exact .note _ _ (.throw fun _ => rfl)
    | succ levels =>
      refine Coupling.forgetting_uses hR _ _ settings hname (fun a ha => nomatch ha) ?_
        (Coupling.forgetting_resolveWithin hR _ _ settings levels)
      intro d' hd' t _
      cases hd.symm.trans hd'
      exact d.forgets_instantiate t
  have hends := hcoupled s s ⟨rfl, rfl, #[], #[], by simp, by simp, .nil⟩
  cases hrun : run.1 with
  | ok shape =>
    obtain ⟨shape', hrun', hshape, hs⟩ := hends.ok shape hrun
    rw [hrun']
    exact ⟨hshape, hs.adapters⟩
  | error e =>
    obtain ⟨e', hrun', he, hs⟩ := hends.error trivial e hrun
    rw [hrun']
    exact ⟨he, hs.adapters⟩

/-- Folders hold folders of their own kind by keys, and are adapted to arrays of these. -/
def folder : Declaration where
  parameters := [
    ⟨"T", some (.declared ⟨"Folder"⟩ [.raw ⟨"T"⟩, .raw ⟨"K"⟩])⟩,
    ⟨"K", some (.raw ⟨"Key"⟩)⟩]
  adapter := some (.array (.raw ⟨"T"⟩))
  container := some (.map (.raw ⟨"K"⟩) (.raw ⟨"T"⟩))

def folders : Registry := (insert {} ⟨"Folder"⟩ folder).insert ⟨"Key"⟩ {}

theorem raw_eq_wildcards_folders :
    let r : Resolver := ⟨folders.environment, {}⟩
    let own : TypeExpr := .declared ⟨"Folder"⟩ [.raw ⟨"T"⟩, .raw ⟨"K"⟩]
    let applied : TypeExpr :=
      .declared ⟨"Folder"⟩ [.wildcard (some own), .wildcard (some (.raw ⟨"Key"⟩))]
    let shape : Shape := .map (.named ⟨⟨"Key"⟩, .object⟩) .object
    folders.Holds Node.Named ∧ "Folder" ≠ "" ∧
    folders.get? ⟨"Folder"⟩ = some folder ∧
    ((r.resolve (.raw ⟨"Folder"⟩) {}).run {}).1 = .ok shape ∧
    ((r.resolve (.raw ⟨"Folder"⟩) {}).run {}).2.adapters =
      #[⟨⟨"Folder"⟩, .array (.parameter "T" (some own)), .array .object⟩] ∧
    ((r.resolve applied {}).run {}).1 = .ok shape ∧
    List.Forall₂ Registration.Agrees
      [⟨⟨"Folder"⟩, .array (.parameter "T" (some own)), .array .object⟩]
      ((r.resolve applied {}).run {}).2.adapters.toList := by
  intro r own applied shape
  have hempty : Holds {} Node.Named := fun name d h => nomatch h
  have hR : folders.Holds Node.Named := by
    refine (hempty.insert ⟨"Folder"⟩ ?_).insert ⟨"Key"⟩ (fun u hu => nomatch hu)
    simp only [TypeExpr.consists_within_iff]
    decide
  have hget : folders.get? ⟨"Folder"⟩ = some folder := by rfl
  have hrun : ((r.resolve (.raw ⟨"Folder"⟩) {}).run {}).1 = .ok shape := by decide +kernel
  have hadapters : ((r.resolve (.raw ⟨"Folder"⟩) {}).run {}).2.adapters =
      #[⟨⟨"Folder"⟩, .array (.parameter "T" (some own)), .array .object⟩] := by decide +kernel
  obtain ⟨hshape, new, new', hnew, hnew', hagrees⟩ :=
    raw_eq_wildcards folders hR (by decide) hget {} {} {}
  have hwildcards : .declared ⟨"Folder"⟩ folder.wildcards = applied := rfl
  rw [hwildcards, Array.empty_append] at hnew'
  rw [hadapters, Array.empty_append] at hnew
  rw [hrun, hwildcards] at hshape
  rw [← hnew, ← hnew'] at hagrees
  cases hrun' : ((r.resolve applied {}).run {}).1 with
  | ok shape' =>
    rw [hrun'] at hshape
    exact ⟨hR, by decide, hget, hrun, hadapters, congrArg _ hshape.symm, hagrees⟩
  | error e =>
    rw [hrun'] at hshape
    exact hshape.elim

end Registry

end WireShape
