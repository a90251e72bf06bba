import Mathlib.Data.Finset.Card
import Mathlib.Data.Finset.Dedup
import WireShape.Proofs.Resolver.Settling
import WireShape.Proofs.TypeExpr.Nodes
import WireShape.Registry.Builtins
import WireShape.Registry.Lookup

/-! # Resolution ends

The identities in progress end every recursion that does not grow through a collection. Each call
either opens the frame of a registered name that was not in progress, of which there are finitely
many, or goes to a type that nests less deep: a component, a bound, or, through a collection, one of
the arguments of the use. -/

namespace WireShape

namespace Declaration
variable {d : Declaration} {p : TypeParameter} {arguments : List TypeExpr}

/-- The form of the built-in collections and streams: the elements are of the type of a parameter,
no parameter has a bound, and no other type is resolved for a use. -/
structure HoldsParameter (d : Declaration) : Prop where
  element : ∃ p ∈ d.parameters, d.element? = some (.raw ⟨p.name⟩)
  bound : ∀ p ∈ d.parameters, p.bound = none
  typeHint : d.typeHint = none
  serializationTarget : d.serializationTarget = none
  adapter : d.adapter = none

theorem instantiate_parameter (hp : p ∈ d.parameters) (arguments : List TypeExpr) :
    d.instantiate arguments (.raw ⟨p.name⟩) ∈ arguments ∨
      ∃ q ∈ d.parameters, d.instantiate arguments (.raw ⟨p.name⟩) = q.toTypeExpr := by
  have hp' : p.name ∈ (d.bindings arguments).map (·.1) :=
    d.map_fst_bindings arguments ▸ List.mem_map_of_mem hp
  obtain ⟨t, ht⟩ := Bindings.exists_get? hp'
  have hinst : d.instantiate arguments (.raw ⟨p.name⟩) = t := by
    rw [instantiate, TypeExpr.substitute_raw, ht, Option.getD_some]
  rw [hinst]
  have hmem := Bindings.mem_of_get? ht
  rw [bindings_eq] at hmem
  split at hmem
  · exact .inl (List.of_mem_zip hmem).2
  · obtain ⟨q, hq, he⟩ := List.mem_map.mp hmem
    exact .inr ⟨q, hq, (congrArg Prod.snd he).symm⟩

end Declaration

namespace Registry
variable {R : Registry} {r : Resolver} {S : List String} {t : TypeExpr} {name : TypeName}
  {u : DeclaredType} {d : Declaration}

/-- A registry with nothing under the empty name, of which the collections and streams all have the
form of the built-in ones. -/
structure Grounded (R : Registry) : Prop where
  nameless : R.get? ⟨""⟩ = none
  holds : ∀ name d, R.get? name = some d → d.isCollectionOrStream = true → d.HoldsParameter

theorem Grounded.text_ne (hR : R.Grounded) (h : R.get? name = some d) : name.text ≠ "" := by
  intro hempty
  obtain ⟨text⟩ := name
  obtain rfl : text = "" := hempty
  rw [hR.nameless] at h
  cases h

theorem asked_eq_nil (h : R.get? u.name = none) : R.environment.asked u = [] := by
  simp [Environment.asked, Environment.structure?, environment, lookup, h]

/-- A collection asks for an argument, or for a parameter without bound. -/
theorem nesting_of_asked (h : R.get? u.name = some d) (hd : d.HoldsParameter)
    {q : Position × TypeExpr} (hq : q ∈ R.environment.asked u) :
    q.2.nesting < u.toTypeExpr.nesting ∨ ∃ n, q.2 = .parameter n none := by
  obtain ⟨p, hp, helement⟩ := hd.element
  obtain rfl : q = (.collectionElement, d.instantiate u.arguments (.raw ⟨p.name⟩)) := by
    simp only [Environment.asked, Environment.structure?, typeHint_of_get? h, hd.typeHint,
      serializeAs_of_get? h, hd.serializationTarget, adapter_of_get? h, hd.adapter,
      mapTypes_of_get? h, Declaration.entryTypes?_eq_none helement, componentType_of_get? h,
      helement] at hq
    split at hq
    · simp at hq
    · simpa using hq
  rcases Declaration.instantiate_parameter hp u.arguments with h | ⟨p', hp', h⟩
  · exact .inl (TypeExpr.nesting_lt_declared h)
  · exact .inr ⟨p'.name, by rw [h, TypeParameter.toTypeExpr, hd.bound p' hp']⟩

/-- The registered names that are not in progress. -/
def waiting (R : Registry) (S : List String) : Finset String :=
  R.declarations.names.toFinset \ S.toFinset

theorem waiting_cons (R : Registry) (i : String) (S : List String) :
    R.waiting (i :: S) = (R.waiting S).erase i := by
  rw [waiting, List.toFinset_cons, Finset.sdiff_insert, waiting]

theorem card_waiting_cons_le (R : Registry) (i : String) (S : List String) :
    (R.waiting (i :: S)).card ≤ (R.waiting S).card := by
  rw [waiting_cons]
  exact Finset.card_erase_le

theorem card_waiting_cons_lt (h : R.get? name = some d) (hS : name.text ∉ S) :
    (R.waiting (name.text :: S)).card < (R.waiting S).card := by
  rw [waiting_cons]
  refine Finset.card_erase_lt_of_mem (Finset.mem_sdiff.mpr ⟨?_, ?_⟩)
  · exact List.mem_toFinset.mpr (NameTable.mem_names_of_get? h)
  · rwa [List.mem_toFinset]

/-- A frame opened for a name that holds no elements takes the name out of `waiting`. -/
theorem card_waiting_lt_of_cuts (he : r.environment = R.environment) (hR : R.Grounded)
    (h : R.get? u.name = some d) (hd : d.isCollectionOrStream = false)
    (hcut : r.cuts S u = false) :
    (R.waiting (u.identity :: S)).card < (R.waiting S).card := by
  have hi : u.identity = u.name.text := if_neg (hR.text_ne h)
  have hS : u.name.text ∉ S := by
    rw [Resolver.cuts, he, isCollectionOrStream_of_get? h, hd, hi] at hcut
    simpa using hcut
  rw [hi]
  exact card_waiting_cons_lt h hS

/-- Every call takes a name out of `waiting`, or puts none in and goes to a type that nests less
deep or to a parameter without bound. -/
theorem calls_decrease (he : r.environment = R.environment) (hR : R.Grounded) {q : Call}
    (hq : q ∈ r.calls S t) :
    (R.waiting (q.opened ++ S)).card < (R.waiting S).card ∨
      (R.waiting (q.opened ++ S)).card ≤ (R.waiting S).card ∧
        (q.type.nesting < t.nesting ∨ ∃ n, q.type = .parameter n none) := by
  match t with
  | .array component =>
    obtain rfl := List.mem_singleton.mp hq
    exact .inr ⟨Nat.le_refl _, .inl (Nat.lt_succ_self _)⟩
  | .parameter _ (some bound) | .wildcard (some bound) =>
    obtain rfl := List.mem_singleton.mp hq
    exact .inr ⟨Nat.le_refl _, .inl (Nat.lt_succ_self _)⟩
  | .declared name arguments =>
    cases hcut : r.cuts S ⟨name, arguments⟩ with
    | true => simp [Resolver.calls, hcut] at hq
    | false =>
      simp only [Resolver.calls, hcut, Bool.false_eq_true, if_false] at hq
      obtain ⟨a, ha, rfl⟩ := List.mem_map.mp hq
      rw [he] at ha
      cases hd : R.get? name with
      | none =>
        rw [asked_eq_nil hd] at ha
        cases ha
      | some d =>
        cases hc : d.isCollectionOrStream with
        | false => exact .inl (card_waiting_lt_of_cuts he hR hd hc hcut)
        | true =>
          -- its frame may have been open, so that only the type gets smaller
          have hle := card_waiting_cons_le R (DeclaredType.identity ⟨name, arguments⟩) S
          exact .inr ⟨hle, nesting_of_asked hd (hR.holds name d hd hc) ha⟩
  | .primitive _ | .parameter _ none | .wildcard none | .other _ => cases hq

theorem holdsParameter_of_element {name : String} (hp : d.parameters = [⟨name, none⟩])
    (helement : d.element? = some (.raw ⟨name⟩)) (hhint : d.typeHint = none)
    (htarget : d.serializeAs = none) (hadapter : d.adapter = none) : d.HoldsParameter where
  element := ⟨⟨name, none⟩, by simp [hp], helement⟩
  bound := by simp [hp]
  typeHint := hhint
  serializationTarget := by rw [Declaration.serializationTarget, htarget, Option.filter_none]
  adapter := hadapter

theorem grounded_builtins : builtins.Grounded where
  nameless := by
    cases h : builtins.get? ⟨""⟩ with
    | none => rfl
    | some d =>
      have hmem : "" ∈ builtinDeclarations.map (·.1) :=
        List.mem_map_of_mem (get?_builtins_iff.mp h)
      simp [builtinDeclarations, collectionInterfaces, collectionClasses, mapInterfaces,
        mapClasses] at hmem
  holds name d h hd := by
    rcases cases_of_get?_builtins h with ⟨_, rfl, -⟩ | ⟨_, rfl, -⟩ | ⟨rfl, -⟩
    · exact holdsParameter_of_element rfl rfl rfl rfl rfl
    · cases hd
    · exact holdsParameter_of_element rfl rfl rfl rfl rfl

theorem Grounded.insert (hR : R.Grounded) (hname : name.text ≠ "")
    (hd : d.isCollectionOrStream = true → d.HoldsParameter) : (R.insert name d).Grounded where
  nameless := by
    rw [get?_insert, if_neg, hR.nameless]
    rintro rfl
    exact hname rfl
  holds name' d' h hd' := by
    rw [get?_insert] at h
    split at h
    · cases h
      exact hd hd'
    · exact hR.holds name' d' h hd'

/-! ### The depth at which resolution ends -/

theorem exists_settles (he : r.environment = R.environment) (hR : R.Grounded) (S : List String)
    (t : TypeExpr) : ∃ levels, r.Settles levels S t := by
  refine Resolver.exists_settles_of_calls fun q hq => ?_
  rcases calls_decrease he hR hq with hcard | ⟨hcard, hnest | ⟨n, hn⟩⟩
  · exact exists_settles he hR _ _
  · exact exists_settles he hR _ _
  · rw [hn]
    exact ⟨1, Resolver.settles_succ fun q hq => nomatch hq⟩
termination_by ((R.waiting S).card, t.nesting)
decreasing_by
  -- a name less in waiting
  · exact Prod.Lex.left _ _ hcard
  -- no more names in waiting, and a type that nests less deep
  · exact Prod.Lex.right' _ hcard hnest

/-- Over a `Grounded` registry every type has a shape from some limit `D` on, which no longer
depends on the limit. -/
theorem exists_shape (R : Registry) (hR : R.Grounded) (t : TypeExpr) :
    ∃ D, ∀ policy, ∃ shape, ∀ m, D ≤ m →
      (R.environment.resolver m policy).shape t = .ok shape := by
  -- how many levels a type needs does not depend on the limit, which is left at 0 here
  have hsettles (policy : AdapterPolicy) : ∃ levels,
      (R.environment.resolver 0 policy).Settles levels [] t := exists_settles rfl hR [] t
  obtain ⟨levels, h⟩ := hsettles .sideEffectOnly
  obtain ⟨levels', h'⟩ := hsettles .useAdaptingShape
  refine ⟨max levels levels', fun policy => ?_⟩
  have hmax : (R.environment.resolver 0 policy).Settles (max levels levels') [] t := by
    cases policy with
    | sideEffectOnly => exact h.mono (Nat.le_max_left ..)
    | useAdaptingShape => exact h'.mono (Nat.le_max_right ..)
  obtain ⟨shape, hshape⟩ := hmax {} {} rfl
  refine ⟨shape, fun m hm => ?_⟩
  have he : (R.environment.resolver 0 policy).environment =
    (R.environment.resolver m policy).environment := rfl
  obtain ⟨s₁, hrun, -⟩ := Resolver.resolveWithin_mono he rfl (Nat.le_succ_of_le hm)
    (Prod.ext hshape rfl)
  rw [Resolver.shape, Resolver.run_eq, hrun]

/-- A declaration over the built-in ones with a hint that grows at each use. -/
def growing : Registry :=
  builtins.insert ⟨"Nest"⟩ {
    parameters := [⟨"T", none⟩]
    typeHint := some (.declared ⟨"Nest"⟩ [.declared ⟨"java.util.List"⟩ [.raw ⟨"T"⟩]]) }

theorem exists_shape_growing : growing.Grounded ∧ ∃ D, ∀ policy, ∃ shape, ∀ m, D ≤ m →
    (growing.environment.resolver m policy).shape (.declared ⟨"Nest"⟩ [.primitive .int]) =
      .ok shape :=
  have h : growing.Grounded := grounded_builtins.insert (by decide) (fun h => nomatch h)
  ⟨h, exists_shape growing h _⟩

end Registry

end WireShape
