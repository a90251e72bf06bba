import WireShape.Proofs.Registry.Describe
import WireShape.Proofs.Registry.Elements
import WireShape.Proofs.Resolver.FirstMatch

/-! # Runaway collections

A type has a shape only if all types have that are resolved directly below it. So a type from which one
comes to further types without end has none: under any limit it fails one level beyond. Collections that
hold themselves are such types, as no cycle is broken at a collection, and neither arrays, nor bounds,
nor other collections on the way, nor adapters beside it change that. -/

namespace WireShape

namespace Resolver
variable {r : Resolver} {S : List String} {t : TypeExpr} {c : Context}

/-- If `t` has a shape, so have all its `calls`. -/
theorem exists_shape_below {shape : Shape}
    (h : ((r.resolve t c).run { stack := S }).1 = .ok shape) {q : Call} (hq : q ∈ r.calls S t) :
    ∃ shape', ((r.resolve q.type (c.derive q.position)).run { stack := q.opened ++ S }).1 =
      .ok shape' := by
  have hle : c.depth ≤ r.settings.maxDepth := by
    by_contra hlt
    rw [resolve_of_lt (Nat.lt_of_not_le hlt)] at h
    cases h
  have hinner {p : Position} {u : TypeExpr} (hu : t.inner? = some (p, u)) :
      ∃ shape', ((r.resolve u (c.derive p)).run { stack := S }).1 = .ok shape' := by
    rw [resolve_of_le hle, shapeOf_of_inner hu] at h
    obtain ⟨hresult, -⟩ := unfolds_resolve r S u (c.derive p)
      (State.note { stack := S } (.resolving t c.position)) rfl
    cases hbelow : ((r.resolve u (c.derive p)).run { stack := S }).1 with
    | ok shape' => exact ⟨shape', rfl⟩
    | error e =>
      rw [Resolving.run_bind_ok (Resolving.run_note _ _), Resolving.run_map, hresult, hbelow] at h
      cases h
  match t with
  | .array component | .parameter _ (some bound) | .wildcard (some bound) =>
    obtain rfl := List.mem_singleton.mp hq
    exact hinner rfl
  | .declared name arguments =>
    cases hcut : r.cuts S ⟨name, arguments⟩ with
    | true => simp [calls, hcut] at hq
    | false =>
      simp only [calls, hcut, Bool.false_eq_true, if_false] at hq
      obtain ⟨asked, hasked, rfl⟩ := List.mem_map.mp hq
      rw [run_resolve_declared (d := ⟨name, arguments⟩) hle hcut, unlessFailed] at h
      cases hfailure : r.failure? ⟨⟨name, arguments⟩, S, c⟩
          (r.environment.requests ⟨name, arguments⟩) with
      | none => exact failure?_requests_eq_none_iff.mp hfailure asked hasked
      | some e =>
        rw [hfailure] at h
        cases h
  | .primitive _ | .parameter _ none | .wildcard none | .other _ => cases hq

/-- If every type of `P` has a type of `P` among its `calls`, none of them has a shape. -/
theorem exists_error_of_endless {P : TypeExpr → Prop}
    (hP : ∀ S t, P t → ∃ q ∈ r.calls S t, P q.type) (S : List String) (ht : P t) (c : Context) :
    ∃ e, ((r.resolve t c).run { stack := S }).1 = .error e := by
  induction hlevels : r.settings.maxDepth + 1 - c.depth generalizing S t c with
  | zero =>
    rw [resolve_of_lt (by omega)]
    exact ⟨_, rfl⟩
  | succ levels ih =>
    cases hr : ((r.resolve t c).run { stack := S }).1 with
    | error e => exact ⟨e, rfl⟩
    | ok shape =>
      -- the shape would need one of the type below, which has fewer levels
      obtain ⟨q, hq, hPq⟩ := hP S t ht
      obtain ⟨shape', hbelow⟩ := exists_shape_below hr hq
      have hlevels' : r.settings.maxDepth + 1 - (c.derive q.position).depth = levels := by
        show r.settings.maxDepth + 1 - (c.depth + 1) = levels
        omega
      obtain ⟨e, he⟩ := ih (q.opened ++ S) hPq (c.derive q.position) hlevels'
      rw [hbelow] at he
      cases he

end Resolver

namespace Registry
variable {R : Registry} {N : TypeName → Prop} {r : Resolver} {S : List String}

/-- Through array dimensions, bounds of wildcards and built-in collections, `t` comes to the raw use of a
name of `N`. -/
inductive LeadsTo (R : Registry) (N : TypeName → Prop) : TypeExpr → Prop
  | raw {name : TypeName} : N name → LeadsTo R N (.raw name)
  | array {t : TypeExpr} : LeadsTo R N t → LeadsTo R N (.array t)
  | wildcard {t : TypeExpr} : LeadsTo R N t → LeadsTo R N (.wildcard (some t))
  | collection {name : TypeName} {d : Declaration} {t : TypeExpr} :
    builtins.get? name = some d → d.isCollectionOrStream = true → R.get? name = some d →
    LeadsTo R N t → LeadsTo R N (.declared name [t])

/-- A collection or stream without parameters, of which nothing is known but an adapter perhaps, with
elements that lead to names of `N`. -/
structure RunsAway (R : Registry) (N : TypeName → Prop) (d : Declaration) : Prop where
  parameters : d.parameters = []
  plain : d.Plain
  element : ∃ t, d.element? = some t ∧ R.LeadsTo N t

/-- All names of `N` are registered for such collections. -/
def Runaway (R : Registry) (N : TypeName → Prop) : Prop :=
  ∀ name, N name → ∃ d, R.get? name = some d ∧ R.RunsAway N d

theorem mem_calls_of_element (he : r.environment = R.environment) {u : DeclaredType} {d : Declaration}
    {t : TypeExpr} (h : R.get? u.name = some d) (hplain : d.Plain) (helement : d.element? = some t)
    (S : List String) :
    ⟨[u.identity], .collectionElement, d.instantiate u.arguments t⟩ ∈ r.calls S u.toTypeExpr := by
  have hcut : r.cuts S u = false := by
    rw [Resolver.cuts, he, isCollectionOrStream_of_get? h,
      Declaration.isCollectionOrStream_of_element helement, Bool.not_true, Bool.and_false]
  have hstructure : r.environment.structure? u =
      [(.collectionElement, d.instantiate u.arguments t)] := by
    rw [Environment.structure?, he, mapTypes_of_get? h, Declaration.entryTypes?_eq_none helement,
      componentType_of_get? h, helement]
    rfl
  have hasked : (.collectionElement, d.instantiate u.arguments t) ∈ r.environment.asked u := by
    have hno : r.environment.overrides u = false := he ▸ (overrides_eq_false_iff h).mpr hplain
    rw [Environment.asked, hno, hstructure]
    exact List.mem_append_right _ (List.mem_singleton_self _)
  show _ ∈ if r.cuts S u = true then [] else _
  rw [hcut, if_neg Bool.false_ne_true]
  exact List.mem_map_of_mem (f := fun q : Position × TypeExpr => Call.mk [u.identity] q.1 q.2) hasked

theorem LeadsTo.exists_call (hN : R.Runaway N) (he : r.environment = R.environment) (S : List String)
    {t : TypeExpr} (h : R.LeadsTo N t) : ∃ q ∈ r.calls S t, R.LeadsTo N q.type := by
  cases h with
  | @raw name hname =>
    obtain ⟨d, hd, hd'⟩ := hN name hname
    obtain ⟨t, helement, ht⟩ := hd'.element
    have hcall := mem_calls_of_element (u := ⟨name, []⟩) he hd hd'.plain helement S
    rw [Declaration.instantiate_of_parameters_eq_nil hd'.parameters] at hcall
    exact ⟨_, hcall, ht⟩
  | array h => exact ⟨_, List.mem_singleton_self _, h⟩
  | wildcard h => exact ⟨_, List.mem_singleton_self _, h⟩
  | @collection name d t hbuiltin hcontainer hd h =>
    obtain ⟨-, d', p, hd', hp⟩ := holdsElements_builtins hbuiltin hcontainer
    obtain rfl : d = d' := Option.some.inj (hbuiltin.symm.trans hd')
    have hcall := mem_calls_of_element (u := ⟨name, [t]⟩) he hd hp.plain hp.element S
    rw [hp.instantiate] at hcall
    exact ⟨_, hcall, h⟩

/-- The names of a set that is `Runaway` have no shape, whatever the limit `m` and the policy are:
`shape` and `describe` fail with `recursionLimit` and depth `m + 1`. -/
theorem runaway_reported (R : Registry) {N : TypeName → Prop} (hN : R.Runaway N) {name : TypeName}
    (hname : N name) (m : Nat) (policy : AdapterPolicy) :
    ∃ typeName error, (R.environment.resolver m policy).shape (.raw name) = .error error ∧
      error.toError = .recursionLimit typeName (m + 1) ∧
      (describe { R with settings := ⟨m, policy⟩ } name).result =
        .error (.recursionLimit typeName (m + 1)) := by
  have hendless (S : List String) (t : TypeExpr) :
      R.LeadsTo N t → ∃ q ∈ (R.environment.resolver m policy).calls S t, R.LeadsTo N q.type :=
    fun h => h.exists_call hN rfl S
  obtain ⟨error, herror⟩ : ∃ error, (R.environment.resolver m policy).shape (.raw name) = .error error :=
    Resolver.exists_error_of_endless hendless [] (.raw hname) {}
  have hdepth : error.depth = m + 1 := Resolver.depth_of_run_error herror
  have htoError : error.toError = .recursionLimit error.type.render (m + 1) := by
    rw [LimitExceeded.toError, hdepth]
  obtain ⟨d, hd, -⟩ := hN name hname
  have hd' : get? { R with settings := ⟨m, policy⟩ } name = some d := hd
  have hresolver : resolver { R with settings := ⟨m, policy⟩ } = R.environment.resolver m policy := rfl
  refine ⟨error.type.render, error, herror, htoError, ?_⟩
  rw [describe_eq_error_iff hd', hresolver]
  exact ⟨error, .type herror, htoError⟩

/-- Rings hold lists of chains, and chains stream arrays of rings. Chains are adapted to their keys, and
rings to themselves. -/
def rings : Registry :=
  let chain : Declaration := {
    adapter := some (.raw ⟨"Key"⟩)
    container := some (.stream (.array (.raw ⟨"Ring"⟩))) }
  let ring : Declaration := {
    adapter := some (.raw ⟨"Ring"⟩)
    container := some (.collection
      (.declared ⟨"java.util.List"⟩ [.wildcard (some (.array (.raw ⟨"Chain"⟩)))])) }
  (builtins.insert ⟨"Ring"⟩ ring).insert ⟨"Chain"⟩ chain

theorem runaway_reported_rings :
    let N (name : TypeName) : Prop := name ∈ [⟨"Ring"⟩, ⟨"Chain"⟩]
    rings.Runaway N ∧ N ⟨"Chain"⟩ ∧
    (∃ typeName error,
      (rings.environment.resolver 64 .sideEffectOnly).shape (.raw ⟨"Chain"⟩) = .error error ∧
      error.toError = .recursionLimit typeName 65) ∧
    ∃ typeName, (describe { rings with settings := ⟨64, .sideEffectOnly⟩ } ⟨"Chain"⟩).result =
      .error (.recursionLimit typeName 65) := by
  intro N
  have hlist : builtins.get? ⟨"java.util.List"⟩ = some (collectionDeclaration .interfaceType) := rfl
  have hring : rings.LeadsTo N (.array (.raw ⟨"Ring"⟩)) := .array (.raw (by decide))
  have hchain : rings.LeadsTo N
      (.declared ⟨"java.util.List"⟩ [.wildcard (some (.array (.raw ⟨"Chain"⟩)))]) :=
    .collection hlist rfl rfl (.wildcard (.array (.raw (by decide))))
  have hN : rings.Runaway N := by
    intro name hname
    rcases List.mem_cons.mp hname with rfl | hname
    · exact ⟨_, rfl, rfl, ⟨rfl, rfl, rfl⟩, _, rfl, hchain⟩
    · obtain rfl := List.mem_singleton.mp hname
      exact ⟨_, rfl, rfl, ⟨rfl, rfl, rfl⟩, _, rfl, hring⟩
  have hname : N ⟨"Chain"⟩ := by decide
  obtain ⟨typeName, error, hshape, herror, hdescribe⟩ :=
    runaway_reported rings hN hname 64 .sideEffectOnly
  exact ⟨hN, hname, ⟨typeName, error, hshape, herror⟩, typeName, hdescribe⟩

end Registry

end WireShape
