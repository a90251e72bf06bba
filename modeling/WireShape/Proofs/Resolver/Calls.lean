import WireShape.Resolver.Basic

/-! # Calls

Which types are resolved directly below a type, at which positions and with which frame opened. It
depends on the answers of the environment and on the identities in progress, never on a shape. -/

namespace WireShape

/-- The type right inside of a type that is no use of a declaration, with its position. -/
def TypeExpr.inner? : TypeExpr → Option (Position × TypeExpr)
  | .array component => some (.arrayElement, component)
  | .parameter _ (some bound) | .wildcard (some bound) => some (.value, bound)
  | .primitive _ | .declared .. | .parameter _ none | .wildcard none | .other _ => none

namespace Environment

/-- Whether a type hint, a serializer or a serialization target overrides the structure of `d`. -/
def overrides (e : Environment) (d : DeclaredType) : Bool :=
  (e.typeHint d).isSome || (e.customSerializer d).isSome || (e.serializeAs d).isSome

/-- The types that the structure of `d` is made of. -/
def structure? (e : Environment) (d : DeclaredType) : List (Position × TypeExpr) :=
  match e.mapTypes d with
  | some (key, value) => [(.value, key), (.value, value)]
  | none => (e.componentType d).toList.map (.collectionElement, ·)

/-- The types asked for once the frame of `d` is open, in the order in which they are resolved. -/
def asked (e : Environment) (d : DeclaredType) : List (Position × TypeExpr) :=
  (e.typeHint d).toList.map (.value, ·) ++ (e.serializeAs d).toList.map (.value, ·) ++
    (e.adapter d).toList.map (.value, ·) ++ if e.overrides d then [] else e.structure? d

end Environment

/-- A type resolved directly below another one. -/
structure Call where
  /-- The identities whose frames are opened for it. -/
  opened : List String
  position : Position
  type : TypeExpr

namespace Resolver

/-- Whether `d` is a cycle while the identities of `S` are in progress. -/
def cuts (r : Resolver) (S : List String) (d : DeclaredType) : Bool :=
  S.contains d.identity && !r.environment.isCollectionOrStream d

theorem cuts_cons (r : Resolver) (i : String) (S : List String) (d : DeclaredType) :
    r.cuts (i :: S) d =
      (d.identity == i && !r.environment.isCollectionOrStream d || r.cuts S d) := by
  rw [cuts, List.contains_cons, Bool.and_or_distrib_right, cuts]

/-- The types resolved directly below `t` while the identities of `S` are in progress. -/
def calls (r : Resolver) (S : List String) : TypeExpr → List Call
  | .array component => [⟨[], .arrayElement, component⟩]
  | .parameter _ (some bound) | .wildcard (some bound) => [⟨[], .value, bound⟩]
  | .declared name arguments =>
    let d : DeclaredType := ⟨name, arguments⟩
    if r.cuts S d then [] else (r.environment.asked d).map fun q => ⟨[d.identity], q.1, q.2⟩
  | .primitive _ | .parameter _ none | .wildcard none | .other _ => []

theorem calls_of_inner {r : Resolver} {S : List String} {t : TypeExpr} {q : Position × TypeExpr}
    (hq : q ∈ t.inner?) : ⟨[], q.1, q.2⟩ ∈ r.calls S t := by
  match t with
  | .array component | .parameter _ (some bound) | .wildcard (some bound) =>
    cases hq
    exact List.mem_singleton_self _
  | .primitive _ | .declared .. | .parameter _ none | .wildcard none | .other _ => cases hq

end Resolver

end WireShape
