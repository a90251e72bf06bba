import WireShape.Proofs.Resolver.Coarser
import WireShape.Proofs.Resolver.Plain
import WireShape.Proofs.TypeExpr.Lexical
import WireShape.Registry.Builtins

/-! # Collections are arrays

A collection or stream of elements has the shape of an array of them. The frame of the collection
stays open while its elements are resolved, which breaks no further cycle, because collections are
never cut off. And the two element positions differ for bytes only, which an array writes as text. -/

namespace WireShape

open TypeExpr (IsQualifiedName)

namespace Declaration
variable {d : Declaration} {p : TypeParameter}

/-- A collection or stream of which nothing is known but that its elements are of the type of its only
parameter. -/
structure HoldsOnly (d : Declaration) (p : TypeParameter) : Prop where
  parameters : d.parameters = [p]
  element : d.element? = some (.raw ⟨p.name⟩)
  plain : d.Plain
  adapter : d.adapter = none

theorem HoldsOnly.instantiate (h : d.HoldsOnly p) (t : TypeExpr) :
    d.instantiate [t] (.raw ⟨p.name⟩) = t := by
  have hbindings : d.bindings [t] = [(p.name, t)] := by
    rw [bindings, h.parameters]
    rfl
  rw [Declaration.instantiate, hbindings]
  simp [Bindings.get?]

end Declaration

theorem DeclaredType.identity_of_isQualifiedName {name : TypeName}
    (hname : IsQualifiedName name.text.toList) (arguments : List TypeExpr) :
    DeclaredType.identity ⟨name, arguments⟩ = name.text := by
  refine identity_of_ne_empty (fun hempty => ?_) arguments
  obtain ⟨i, s, hs, -⟩ := hname.head
  rw [hempty] at hs
  cases hs

theorem DeclaredType.name_eq_of_identity {u : DeclaredType} {name : TypeName}
    (hname : IsQualifiedName name.text.toList) (h : u.identity = name.text) : u.name = name := by
  obtain ⟨i, s, hs, hi⟩ := hname.head
  obtain ⟨⟨text⟩, arguments⟩ := u
  unfold identity at h
  split at h
  next hempty =>
    -- the written form of a nameless use is empty, or starts with a bracket
    exfalso
    obtain rfl : text = "" := hempty
    rw [← h] at hs
    cases arguments with
    | nil => simp [TypeExpr.render] at hs
    | cons t ts =>
      simp only [TypeExpr.render, String.toList_append, String.toList_empty, List.nil_append] at hs
      obtain rfl : '<' = i := (List.cons.inj hs).1
      exact absurd hi (by decide +kernel)
  next =>
    obtain ⟨text'⟩ := name
    rw [show text = text' from h]

namespace Resolver
variable {r : Resolver} {S S' : List String} {below : Below} {t : TypeExpr}

/-- A frame that belongs to collections and streams alone breaks no cycle. -/
theorem cuts_cons_eq {i : String}
    (h : ∀ u : DeclaredType, u.identity = i → r.environment.isCollectionOrStream u = true) :
    r.cuts (i :: S) = r.cuts S := by
  funext u
  rw [cuts_cons]
  by_cases hi : u.identity = i
  · rw [h u hi, Bool.not_true, Bool.and_false, Bool.false_or]
  · rw [beq_false_of_ne hi, Bool.false_and, Bool.false_or]

theorem shapeOf_collectionElement (ht : t ≠ .primitive .byte) (depth : Nat) :
    r.shapeOf below t ⟨.collectionElement, depth⟩ = r.shapeOf below t ⟨.arrayElement, depth⟩ := by
  match t with
  | .primitive kind =>
    have hkind : kind ≠ .byte := fun h => ht (h ▸ rfl)
    simp [shapeOf, hkind, Context.wrap, Position.wrap, Position.wraps]
  | .declared .. | .array _ | .parameter _ none | .wildcard none | .parameter _ (some _)
  | .wildcard (some _) | .other _ => rfl

/-- At `.collectionElement` and at `.arrayElement` all types but `byte` are resolved alike, on
stacks that break the same cycles. -/
theorem coupled_elements (base base' : Array Registration) (h : r.cuts S = r.cuts S')
    (ht : t ≠ .primitive .byte) (levels depth : Nat) :
    (Coupling.appending base base').Coupled S S' Eq
      (r.resolveWithin levels t ⟨.collectionElement, depth⟩)
      (r.resolveWithin levels t ⟨.arrayElement, depth⟩) := by
  cases levels with
  | zero => exact .note _ _ (.throw fun _ => rfl)
  | succ levels =>
    refine .note _ _ ?_
    rw [shapeOf_collectionElement ht]
    exact Coupling.appending_shapeOf base base' h levels t ⟨.arrayElement, depth⟩

end Resolver

namespace Registry

/-- `name` is a name of the grammar, under which there is a collection or stream of the form above. -/
def HoldsElements (R : Registry) (name : TypeName) : Prop :=
  IsQualifiedName name.text.toList ∧ ∃ d p, R.get? name = some d ∧ d.HoldsOnly p

variable {R : Registry} {r : Resolver} {name : TypeName} {t : TypeExpr}

theorem HoldsElements.isCollectionOrStream (h : R.HoldsElements name) {u : DeclaredType}
    (hu : u.identity = name.text) : R.environment.isCollectionOrStream u = true := by
  obtain ⟨hname, d, p, hd, hp⟩ := h
  rw [← DeclaredType.name_eq_of_identity hname hu] at hd
  rw [isCollectionOrStream_of_get? hd, Declaration.isCollectionOrStream_of_element hp.element]

theorem framed_after_collection {d : Declaration} {p : TypeParameter} {u : DeclaredType}
    (he : r.environment = R.environment) (h : R.get? u.name = some d) (hd : d.HoldsOnly p)
    (below : Resolver.Below) :
    (r.framed below u).After
      (below .collectionElement (d.instantiate u.arguments (.raw ⟨p.name⟩))) := by
  apply Resolver.framed_after
  · rw [he]
    exact (overrides_eq_false_iff h).mpr hd.plain
  · rw [he, adapter_of_get? h, hd.adapter, Option.map_none]
  · rw [he, mapTypes_of_get? h, Declaration.entryTypes?_eq_none hd.element, Option.map_none]
  · rw [he, componentType_of_get? h, hd.element, Option.map_some]

theorem HoldsElements.framed_after (h : R.HoldsElements name) (he : r.environment = R.environment)
    (below : Resolver.Below) :
    (r.framed below ⟨name, [t]⟩).After (below .collectionElement t) := by
  obtain ⟨-, d, p, hd, hp⟩ := h
  have hafter := framed_after_collection (u := ⟨name, [t]⟩) he hd hp below
  rwa [hp.instantiate] at hafter

theorem HoldsElements.coupled (h : R.HoldsElements name) (he : r.environment = R.environment)
    (ht : t ≠ .primitive .byte) (base base' : Array Registration) (S : List String) (levels : Nat)
    (c : Context) :
    (Coupling.appending base base').Coupled S S Eq
      (r.resolveWithin (levels + 1) (.declared name [t]) c)
      (r.resolveWithin (levels + 1) (.array t) c) := by
  -- the frame would cut uses of `name` only, and these are never cut
  have hcuts : r.cuts (name.text :: S) = r.cuts S :=
    Resolver.cuts_cons_eq fun u hu => he ▸ h.isCollectionOrStream hu
  have hidentity : DeclaredType.identity ⟨name, [t]⟩ = name.text :=
    DeclaredType.identity_of_isQualifiedName h.1 _
  refine .note _ _ ?_
  intro s s' hs
  have hcut : r.cuts s.stack ⟨name, [t]⟩ = false := by
    rw [Resolver.cuts, he, h.isCollectionOrStream hidentity, Bool.not_true, Bool.and_false]
  show Coupling.Ends _ _ _ _ ((r.declaredShape _ ⟨name, [t]⟩ c).run s) _
  rw [Coupling.run_declaredShape, hcut, if_neg Bool.false_ne_true]
  refine Coupling.Coupled.map (P := Eq) (.inFrame_left _ (.after_left (h.framed_after he _) ?_))
    (fun _ _ hshape => by rw [hshape]) s s' hs
  rw [hidentity]
  exact Resolver.coupled_elements base base' hcuts ht levels _

theorem HoldsElements.insert {name' : TypeName} (h : R.HoldsElements name) (hne : name ≠ name')
    (d : Declaration) : (R.insert name' d).HoldsElements name := by
  obtain ⟨hname, d', p, hd, hp⟩ := h
  exact ⟨hname, d', p, by rw [get?_insert, if_neg hne, hd], hp⟩

theorem holdsElements_builtins {d : Declaration} (hd : builtins.get? name = some d)
    (hcontainer : d.isCollectionOrStream = true) : builtins.HoldsElements name := by
  have hnames : ∀ n ∈ collectionInterfaces ++ collectionClasses ++ ["java.util.stream.Stream"],
      TypeExpr.qualifiedName n.toList = .done n.toList [] := by decide +kernel
  have hqualified (hn : name.text ∈ collectionInterfaces ++ collectionClasses ++
      ["java.util.stream.Stream"]) : IsQualifiedName name.text.toList := by
    obtain ⟨_, -, rfl, hqualified⟩ := TypeExpr.takes_qualifiedName (hnames name.text hn)
    exact hqualified
  rcases cases_of_get?_builtins hd with ⟨_, rfl, hn⟩ | ⟨_, rfl, -⟩ | ⟨rfl, hn⟩
  · exact ⟨hqualified (List.mem_append_left _ hn), _, _, hd, rfl, rfl, ⟨rfl, rfl, rfl⟩, rfl⟩
  · cases hcontainer
  · have hlast := List.mem_append_right (collectionInterfaces ++ collectionClasses)
      (List.mem_singleton.mpr hn)
    exact ⟨hqualified hlast, _, _, hd, rfl, rfl, ⟨rfl, rfl, rfl⟩, rfl⟩

/-- A use of a name that `HoldsElements` is resolved like `.array t`: the result and the new
adapters are the same. The collections and streams of `builtins` are such names. -/
theorem elements_eq_array :
    (∀ name d, builtins.get? name = some d → d.isCollectionOrStream = true →
      builtins.HoldsElements name) ∧
    ∀ (R : Registry) (m : Nat) (policy : AdapterPolicy) (name : TypeName) (t : TypeExpr)
      (c : Context) (s : State), R.HoldsElements name → t ≠ .primitive .byte → c.depth ≤ m →
      ∃ new,
        (((R.environment.resolver m policy).resolve (.declared name [t]) c).run s).1 =
          (((R.environment.resolver m policy).resolve (.array t) c).run s).1 ∧
        (((R.environment.resolver m policy).resolve (.declared name [t]) c).run s).2.adapters =
          s.adapters ++ new ∧
        (((R.environment.resolver m policy).resolve (.array t) c).run s).2.adapters =
          s.adapters ++ new := by
  refine ⟨fun name d hd => holdsElements_builtins hd, fun R m policy name t c s h ht hc => ?_⟩
  have hlevels : m + 1 - c.depth = m - c.depth + 1 := Nat.sub_add_comm hc
  have hcoupled := h.coupled (r := R.environment.resolver m policy) rfl ht s.adapters s.adapters
    s.stack (m - c.depth) c
  obtain ⟨new, hresult, -, ha, ha'⟩ := hcoupled.exists_appended
  simp only [Resolver.resolve, hlevels]
  exact ⟨new, hresult, ha, ha'⟩

/-- A type with an adapter, beside the built-in declarations. -/
def keyed : Registry := builtins.insert ⟨"Key"⟩ { adapter := some (.primitive .int) }

theorem elements_eq_array_keyed :
    keyed.HoldsElements ⟨"java.util.List"⟩ ∧ TypeExpr.raw ⟨"Key"⟩ ≠ .primitive .byte ∧ 3 ≤ 64 ∧
    (((keyed.environment.resolver 64 .sideEffectOnly).resolve
      (.declared ⟨"java.util.List"⟩ [.raw ⟨"Key"⟩]) ⟨.value, 3⟩).run
        { stack := ["java.util.List"] }).1 = .ok (.array (.named ⟨⟨"Key"⟩, .object⟩)) := by
  have hlist : keyed.HoldsElements ⟨"java.util.List"⟩ :=
    (elements_eq_array.1 ⟨"java.util.List"⟩ _ rfl rfl).insert (by decide) _
  have hkey : TypeExpr.raw ⟨"Key"⟩ ≠ .primitive .byte := TypeExpr.noConfusion
  have hdepth : 3 ≤ 64 := by decide
  obtain ⟨_, h, _⟩ := elements_eq_array.2 keyed 64 .sideEffectOnly _ _ ⟨.value, 3⟩
    { stack := ["java.util.List"] } hlist hkey hdepth
  exact ⟨hlist, hkey, hdepth, h.trans (by decide +kernel)⟩

end Registry

end WireShape
