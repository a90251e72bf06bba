import WireShape.TypeExpr.Substitution

/-! # Nodes

The nodes of a type expression: what stands at each of its places, without the types below. A
substitution brings in no node but those of the types that it puts in. `nesting` counts the levels of
nodes below the topmost one. -/

namespace WireShape

inductive Node
  | primitive (kind : PrimitiveKind)
  /-- A use of a declaration, with the number of its arguments. -/
  | declared (name : TypeName) (arity : Nat)
  | array
  | parameter (name : String)
  | wildcard
  | other (kind : OtherKind)
deriving DecidableEq, Repr

namespace TypeExpr

mutual

def nodes : TypeExpr → List Node
  | .primitive kind => [.primitive kind]
  | .declared name arguments => .declared name arguments.length :: nodesOfList arguments
  | .array component => .array :: component.nodes
  | .parameter name none => [.parameter name]
  | .parameter name (some bound) => .parameter name :: bound.nodes
  | .wildcard none => [.wildcard]
  | .wildcard (some bound) => .wildcard :: bound.nodes
  | .other kind => [.other kind]

def nodesOfList : List TypeExpr → List Node
  | [] => []
  | a :: as => a.nodes ++ nodesOfList as

end

@[simp] theorem nodesOfList_eq_flatMap (as : List TypeExpr) : nodesOfList as = as.flatMap nodes := by
  induction as with
  | nil => rfl
  | cons a as ih => rw [nodesOfList, ih, List.flatMap_cons]

/-- Every node of `t` satisfies `P`. -/
def Consists (P : Node → Prop) (t : TypeExpr) : Prop := ∀ n ∈ t.nodes, P n

instance (P : Node → Prop) [DecidablePred P] (t : TypeExpr) : Decidable (t.Consists P) :=
  inferInstanceAs (Decidable (∀ n ∈ t.nodes, P n))

namespace Consists
variable {P : Node → Prop}

theorem primitive_iff {kind : PrimitiveKind} :
    (primitive kind).Consists P ↔ P (.primitive kind) := by
  simp [Consists, nodes]

theorem other_iff {kind : OtherKind} : (other kind).Consists P ↔ P (.other kind) := by
  simp [Consists, nodes]

theorem declared_iff {name : TypeName} {arguments : List TypeExpr} :
    (declared name arguments).Consists P ↔
      P (.declared name arguments.length) ∧ ∀ a ∈ arguments, a.Consists P := by
  simp only [Consists, nodes, nodesOfList_eq_flatMap, List.forall_mem_cons, List.mem_flatMap]
  exact and_congr_right fun _ => ⟨fun h a ha n hn => h n ⟨a, ha, hn⟩,
    fun h n ⟨a, ha, hn⟩ => h a ha n hn⟩

theorem array_iff {component : TypeExpr} :
    (array component).Consists P ↔ P .array ∧ component.Consists P := by
  simp only [Consists, nodes, List.forall_mem_cons]

theorem parameter_iff {name : String} {bound : Option TypeExpr} :
    (parameter name bound).Consists P ↔ P (.parameter name) ∧ ∀ t ∈ bound, t.Consists P := by
  cases bound <;> simp [Consists, nodes]

theorem wildcard_iff {bound : Option TypeExpr} :
    (wildcard bound).Consists P ↔ P .wildcard ∧ ∀ t ∈ bound, t.Consists P := by
  cases bound <;> simp [Consists, nodes]

theorem substitute {bindings : Bindings} {t : TypeExpr} (ht : t.Consists P)
    (hbindings : ∀ b ∈ bindings, b.2.Consists P) : (t.substitute bindings).Consists P := by
  induction t using TypeExpr.induction with
  | primitive kind => rwa [substitute_primitive]
  | declared name arguments ih =>
    by_cases hraw : arguments = []
    · subst hraw
      rw [substitute_raw]
      cases hget : bindings.get? name.text with
      | none => exact ht
      | some u => exact hbindings _ (Bindings.mem_of_get? hget)
    · rw [declared_iff] at ht
      rw [substitute_declared bindings name hraw, declared_iff, List.length_map]
      refine ⟨ht.1, fun b hb => ?_⟩
      obtain ⟨a, ha, rfl⟩ := List.mem_map.mp hb
      exact ih a ha (ht.2 a ha)
  | array component ih =>
    rw [array_iff] at ht
    rw [substitute_array, array_iff]
    exact ⟨ht.1, ih ht.2⟩
  | parameter name bound ih =>
    rw [parameter_iff] at ht
    rw [substitute_parameter, parameter_iff]
    refine ⟨ht.1, fun u hu => ?_⟩
    obtain ⟨t, ht', rfl⟩ := Option.map_eq_some_iff.mp hu
    exact ih t ht' (ht.2 t ht')
  | wildcard bound ih =>
    rw [wildcard_iff] at ht
    rw [substitute_wildcard, wildcard_iff]
    refine ⟨ht.1, fun u hu => ?_⟩
    obtain ⟨t, ht', rfl⟩ := Option.map_eq_some_iff.mp hu
    exact ih t ht' (ht.2 t ht')
  | other kind => rwa [substitute_other]

end Consists

end TypeExpr

/-- The name of a use of a declaration. -/
def Node.name? : Node → Option TypeName
  | .declared name _ => some name
  | .primitive _ | .array | .parameter _ | .wildcard | .other _ => none

/-- The node has no name but those of `N`. -/
def Node.Within (N : TypeName → Prop) (n : Node) : Prop := ∀ name ∈ n.name?, N name

theorem Node.within_parameter (N : TypeName → Prop) (name : String) :
    (Node.parameter name).Within N := by
  intro name' h
  cases h

namespace TypeExpr

/-- The names of the declarations used in a type. -/
def names (t : TypeExpr) : List TypeName := t.nodes.filterMap Node.name?

theorem consists_within_iff {N : TypeName → Prop} {t : TypeExpr} :
    t.Consists (Node.Within N) ↔ ∀ name ∈ t.names, N name := by
  simp only [names, List.mem_filterMap]
  exact ⟨fun h name ⟨n, hn, hname⟩ => h n hn name hname,
    fun h n hn name hname => h name ⟨n, hn, hname⟩⟩

end TypeExpr

/-! ### Nesting -/

namespace TypeExpr

mutual

/-- The number of levels below `t`: each step into an argument, a bound or a component is one. -/
def nesting : TypeExpr → Nat
  | .primitive _ | .other _ | .parameter _ none | .wildcard none => 0
  | .declared _ arguments => nestingList arguments
  | .array component => component.nesting + 1
  | .parameter _ (some bound) | .wildcard (some bound) => bound.nesting + 1

def nestingList : List TypeExpr → Nat
  | [] => 0
  | a :: as => max (a.nesting + 1) (nestingList as)

end

theorem nestingList_le_iff {as : List TypeExpr} {n : Nat} :
    nestingList as ≤ n ↔ ∀ a ∈ as, a.nesting < n := by
  induction as with
  | nil => simp [nestingList]
  | cons a as ih => rw [nestingList, Nat.max_le, ih, List.forall_mem_cons, Nat.succ_le_iff]

theorem nesting_lt_declared {a : TypeExpr} {name : TypeName} {arguments : List TypeExpr}
    (h : a ∈ arguments) : a.nesting < (declared name arguments).nesting :=
  nestingList_le_iff.mp (Nat.le_refl _) a h

end TypeExpr

end WireShape
