import WireShape.Proofs.Resolver.Congruence
import WireShape.Proofs.TypeExpr.Nodes
import WireShape.Registry.Lookup

/-! # Instances of a declaration

All that is resolved for a use of a declaration are instances of the types that the declaration holds.
So two uses of it are resolved alike if these instances are. The instances have no nodes but those of
the declaration and of the arguments, and are related if the arguments are. -/

namespace WireShape

namespace Declaration

/-- The types of a container. -/
def contained (d : Declaration) : List TypeExpr :=
  match d.container with
  | none => []
  | some (.map key value) => [key, value]
  | some (.collection element) | some (.stream element) => [element]

def bounds (d : Declaration) : List TypeExpr := d.parameters.filterMap (·.bound)

/-- The types that a declaration holds. The properties are not among them, as no use has to do with
them. -/
def held (d : Declaration) : List TypeExpr :=
  d.typeHint.toList ++ d.serializeAs.toList ++ d.adapter.toList ++ d.contained ++ d.bounds

variable {d : Declaration} {t : TypeExpr}

theorem mem_held_of_typeHint (h : d.typeHint = some t) : t ∈ d.held := by simp [held, h]

theorem mem_held_of_serializationTarget (h : d.serializationTarget = some t) : t ∈ d.held := by
  have hs : d.serializeAs = some t := (Option.filter_eq_some_iff.mp h).1
  simp [held, hs]

theorem mem_held_of_adapter (h : d.adapter = some t) : t ∈ d.held := by simp [held, h]

theorem mem_held_of_element (h : d.element? = some t) : t ∈ d.held := by
  rcases container_of_element h with hc | hc <;> simp [held, contained, hc]

theorem mem_held_of_entryTypes {m : TypeExpr × TypeExpr} (h : d.entryTypes? = some m) :
    m.1 ∈ d.held ∧ m.2 ∈ d.held := by
  unfold entryTypes? at h
  split at h
  next hc =>
    cases h
    simp [held, contained, hc]
  · cases h

theorem mem_held_of_bound {p : TypeParameter} (hp : p ∈ d.parameters) (h : p.bound = some t) :
    t ∈ d.held :=
  List.mem_append_right _ (List.mem_filterMap.mpr ⟨p, hp, h⟩)

theorem consists_bindings {P : Node → Prop} (hparameter : ∀ name, P (.parameter name))
    {arguments : List TypeExpr} (harguments : ∀ a ∈ arguments, a.Consists P)
    (hd : ∀ u ∈ d.held, u.Consists P) : ∀ b ∈ d.bindings arguments, b.2.Consists P := by
  intro b hb
  rw [bindings_eq] at hb
  split at hb
  · exact harguments _ (List.of_mem_zip hb).2
  · obtain ⟨p, hp, rfl⟩ := List.mem_map.mp hb
    exact TypeExpr.Consists.parameter_iff.mpr ⟨hparameter p.name,
      fun u hu => hd u (mem_held_of_bound hp hu)⟩

/-- An instance consists of nodes of the declaration and of the arguments. -/
theorem consists_instantiate {P : Node → Prop} (hparameter : ∀ name, P (.parameter name))
    {arguments : List TypeExpr} (harguments : ∀ a ∈ arguments, a.Consists P)
    (hd : ∀ u ∈ d.held, u.Consists P) (ht : t ∈ d.held) : (d.instantiate arguments t).Consists P :=
  (hd t ht).substitute (consists_bindings hparameter harguments hd)

end Declaration

namespace TypeExpr

/-- `t` comes from `s` by steps of `rule` at places of it, at outer places first. -/
inductive Rewrites (rule : TypeExpr → TypeExpr → Prop) : TypeExpr → TypeExpr → Prop
  | primitive (kind : PrimitiveKind) : Rewrites rule (.primitive kind) (.primitive kind)
  | declared (name : TypeName) {as bs : List TypeExpr} : List.Forall₂ (Rewrites rule) as bs →
    Rewrites rule (.declared name as) (.declared name bs)
  | array {s t : TypeExpr} : Rewrites rule s t → Rewrites rule (.array s) (.array t)
  | parameter (name : String) {s t : Option TypeExpr} : Option.Rel (Rewrites rule) s t →
    Rewrites rule (.parameter name s) (.parameter name t)
  | wildcard {s t : Option TypeExpr} : Option.Rel (Rewrites rule) s t →
    Rewrites rule (.wildcard s) (.wildcard t)
  | other (kind : OtherKind) : Rewrites rule (.other kind) (.other kind)
  | step {s u t : TypeExpr} : rule s u → Rewrites rule u t → Rewrites rule s t

/-- Bindings of the same names to related types. -/
def Bound (Q : TypeExpr → TypeExpr → Prop) : Bindings → Bindings → Prop :=
  List.Forall₂ fun b b' => b.1 = b'.1 ∧ Q b.2 b'.2

variable {Q : TypeExpr → TypeExpr → Prop} {bindings bindings' : Bindings}

theorem Bound.get? (h : Bound Q bindings bindings') (name : String) :
    Option.Rel Q (bindings.get? name) (bindings'.get? name) := by
  induction h with
  | nil => exact .none
  | @cons b b' _ _ hb _ ih =>
    rw [Bindings.get?_cons, Bindings.get?_cons, hb.1]
    refine Coupling.rel_or ih ?_
    split
    · exact .some hb.2
    · exact .none

theorem Bound.zip {as bs : List TypeExpr} (h : List.Forall₂ Q as bs) (names : List String) :
    Bound Q (names.zip as) (names.zip bs) := by
  induction h generalizing names with
  | nil => rw [List.zip_nil_right]; exact .nil
  | cons ha _ ih =>
    cases names with
    | nil => exact .nil
    | cons name names => exact .cons ⟨rfl, ha⟩ (ih names)

namespace Rewrites
variable {rule : TypeExpr → TypeExpr → Prop}

theorem refl (t : TypeExpr) : Rewrites rule t t := by
  induction t using TypeExpr.induction with
  | primitive kind => exact .primitive kind
  | declared name arguments ih => exact .declared name (List.forall₂_same.mpr ih)
  | array component ih => exact .array ih
  | parameter name bound ih => exact .parameter name (Coupling.rel_refl ih)
  | wildcard bound ih => exact .wildcard (Coupling.rel_refl ih)
  | other kind => exact .other kind

theorem substitute (h : Bound (Rewrites rule) bindings bindings') (t : TypeExpr) :
    Rewrites rule (t.substitute bindings) (t.substitute bindings') := by
  have hmap {bound : Option TypeExpr}
      (ih : ∀ t ∈ bound, Rewrites rule (t.substitute bindings) (t.substitute bindings')) :
      Option.Rel (Rewrites rule) (bound.map (TypeExpr.substitute bindings))
        (bound.map (TypeExpr.substitute bindings')) := by
    cases bound with
    | none => exact .none
    | some t => exact .some (ih t rfl)
  induction t using TypeExpr.induction with
  | primitive kind =>
    rw [substitute_primitive, substitute_primitive]
    exact .primitive kind
  | declared name arguments ih =>
    by_cases hraw : arguments = []
    · subst hraw
      have hget := h.get? name.text
      rw [substitute_raw, substitute_raw]
      generalize Bindings.get? bindings name.text = o, Bindings.get? bindings' name.text = o' at hget ⊢
      cases hget with
      | none => exact .refl _
      | some hget => exact hget
    · rw [substitute_declared _ name hraw, substitute_declared _ name hraw]
      refine .declared name ?_
      rw [List.forall₂_map_left_iff, List.forall₂_map_right_iff]
      exact List.forall₂_same.mpr ih
  | array component ih =>
    rw [substitute_array, substitute_array]
    exact .array ih
  | parameter name bound ih =>
    rw [substitute_parameter, substitute_parameter]
    exact .parameter name (hmap ih)
  | wildcard bound ih =>
    rw [substitute_wildcard, substitute_wildcard]
    exact .wildcard (hmap ih)
  | other kind =>
    rw [substitute_other, substitute_other]
    exact .other kind

theorem instantiate {arguments arguments' : List TypeExpr}
    (h : List.Forall₂ (Rewrites rule) arguments arguments') (d : Declaration) (t : TypeExpr) :
    Rewrites rule (d.instantiate arguments t) (d.instantiate arguments' t) := by
  refine substitute ?_ t
  rw [Declaration.bindings_eq, Declaration.bindings_eq, h.length_eq]
  split
  · exact .zip h _
  · exact List.forall₂_same.mpr fun b _ => ⟨rfl, .refl b.2⟩

end Rewrites

end TypeExpr

namespace Registry
variable {R R' : Registry} {name : TypeName} {arguments arguments' : List TypeExpr}

theorem documented_congr (hget : R.get? name = R'.get? name) :
    R.environment.documented ⟨name, arguments⟩ = R'.environment.documented ⟨name, arguments'⟩ := by
  have hkind : R.environment.kind ⟨name, arguments⟩ = R'.environment.kind ⟨name, arguments'⟩ := by
    simp only [environment, hget]
  have hknown : R.environment.knownShape ⟨name, arguments⟩ =
      R'.environment.knownShape ⟨name, arguments'⟩ := by
    simp only [environment, hget]
  have hdefinition : R.environment.definition ⟨name, arguments⟩ =
      R'.environment.definition ⟨name, arguments'⟩ := by
    simp only [environment, hget]
  rw [Environment.documented, Environment.documented, hkind, hknown, hdefinition]

end Registry

namespace Coupling
variable {K : Coupling} {S S' : List String} {below below' : Resolver.Below} {R R' : Registry}
  {name : TypeName} {arguments arguments' : List TypeExpr}

theorem rel_bind {α β : Type} {P : β → β → Prop} {o : Option α} {f f' : α → Option β}
    (h : ∀ a ∈ o, Option.Rel P (f a) (f' a)) : Option.Rel P (o >>= f) (o >>= f') := by
  cases o with
  | none => exact .none
  | some a => exact h a rfl

/-- Two registries with the same declaration of `name` answer alike about uses of it, if the
instances of the types that it holds are `Alike`. -/
theorem answers_of_instances (hshapes : ∀ s, K.shapes s s) (hget : R.get? name = R'.get? name)
    (h : ∀ d, R.get? name = some d → ∀ t ∈ d.held, ∀ p,
      K.Alike S S' below below' p (d.instantiate arguments t) (d.instantiate arguments' t)) :
    K.Answers S S' below below' R.environment R'.environment ⟨name, arguments⟩ ⟨name, arguments'⟩ := by
  have hlookup (p : Position) {field : Declaration → Option TypeExpr}
      (hfield : ∀ {d t}, field d = some t → t ∈ d.held) :
      Option.Rel (K.Alike S S' below below' p) (R.lookup ⟨name, arguments⟩ field)
        (R'.lookup ⟨name, arguments'⟩ field) := by
    unfold Registry.lookup
    rw [← hget]
    exact rel_bind fun d hd => rel_bind fun t ht => .some (h d hd t (hfield ht) p)
  refine ⟨rfl, hlookup _ Declaration.mem_held_of_typeHint, ?_,
    hlookup _ Declaration.mem_held_of_serializationTarget, hlookup _ Declaration.mem_held_of_adapter,
    fun _ => ?_, fun _ _ => hlookup _ Declaration.mem_held_of_element, fun _ => ?_⟩
  · simp only [Registry.environment, hget]
  · simp only [Registry.environment, ← hget]
    refine rel_bind fun d hd => rel_bind fun m hm => .some ?_
    obtain ⟨hkey, hvalue⟩ := Declaration.mem_held_of_entryTypes hm
    exact ⟨h d hd m.1 hkey _, h d hd m.2 hvalue _⟩
  · rw [← Registry.documented_congr hget]
    exact rel_refl fun s _ => hshapes s

/-- Two uses of `name` with one identity have related shapes, wherever they stand, if the instances
of the types that its declaration holds are `Alike`. -/
theorem Coupled.declaredShape_of_instances {settings : Settings} {c c' : Context}
    (hshapes : ∀ s, K.shapes s s) (hget : R.get? name = R'.get? name)
    (hidentity : DeclaredType.identity ⟨name, arguments⟩ = DeclaredType.identity ⟨name, arguments'⟩)
    (h : ∀ d, R.get? name = some d → ∀ t ∈ d.held, ∀ p,
      K.Alike (DeclaredType.identity ⟨name, arguments'⟩ :: S)
        (DeclaredType.identity ⟨name, arguments'⟩ :: S) below below' p
        (d.instantiate arguments t) (d.instantiate arguments' t)) :
    K.Coupled S S (K.Placed c c')
      (Resolver.declaredShape ⟨R.environment, settings⟩ below ⟨name, arguments⟩ c)
      (Resolver.declaredShape ⟨R'.environment, settings⟩ below' ⟨name, arguments'⟩ c') := by
  have hcuts : Resolver.cuts ⟨R.environment, settings⟩ S ⟨name, arguments⟩ =
      Resolver.cuts ⟨R'.environment, settings⟩ S ⟨name, arguments'⟩ := by
    rw [Resolver.cuts, Resolver.cuts, hidentity]
    simp only [Registry.environment, hget]
  refine .declaredShape_placed hcuts fun _ => ?_
  rw [hidentity]
  exact .framed (.inl rfl) (answers_of_instances hshapes hget h)

/-- Two uses of `name` in one context are coupled, if the instances of the types that its
declaration holds are so one level below. -/
theorem Coupled.uses_of_instances {settings : Settings} {levels : Nat} {c : Context}
    (hshapes : ∀ s, K.shapes s s) (hname : name.text ≠ "")
    (h : ∀ d, R.get? name = some d → ∀ t ∈ d.held, ∀ S p,
      K.types (d.instantiate arguments t) (d.instantiate arguments' t) ∧
      K.Coupled S S K.shapes
        (Resolver.resolveWithin ⟨R.environment, settings⟩ levels (d.instantiate arguments t) (c.derive p))
        (Resolver.resolveWithin ⟨R.environment, settings⟩ levels (d.instantiate arguments' t)
          (c.derive p))) :
    K.Coupled S S K.shapes
      (Resolver.resolveWithin ⟨R.environment, settings⟩ (levels + 1) (.declared name arguments) c)
      (Resolver.resolveWithin ⟨R.environment, settings⟩ (levels + 1) (.declared name arguments') c) := by
  have hidentity := DeclaredType.identity_of_ne_empty hname
  have hshape : K.Coupled S S (K.Placed c c)
      (Resolver.declaredShape ⟨R.environment, settings⟩
        (fun p t => Resolver.resolveWithin ⟨R.environment, settings⟩ levels t (c.derive p))
        ⟨name, arguments⟩ c)
      (Resolver.declaredShape ⟨R.environment, settings⟩
        (fun p t => Resolver.resolveWithin ⟨R.environment, settings⟩ levels t (c.derive p))
        ⟨name, arguments'⟩ c) :=
    .declaredShape_of_instances hshapes rfl ((hidentity _).trans (hidentity _).symm)
      fun d hd t ht p => h d hd t ht _ p
  exact .note _ _ (hshape.mono fun _ _ => Placed.shapes rfl)

end Coupling

end WireShape
