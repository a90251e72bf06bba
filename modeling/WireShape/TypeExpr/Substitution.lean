import WireShape.TypeExpr.Basic

/-! # Substitution

Replacing the uses of type parameters by the types they are bound to. A use is a declared type
without arguments; a name with arguments, or the name of a `parameter` node, is never one. All uses
are replaced at once: what replaces a use is not searched again. -/

namespace WireShape

/-- Types bound to names. A name bound twice has its last binding. -/
abbrev Bindings := List (String × TypeExpr)

namespace Bindings

def get? (bindings : Bindings) (name : String) : Option TypeExpr :=
  match bindings with
  | [] => none
  | (key, t) :: rest => (get? rest name).or (if key = name then some t else none)

theorem get?_cons (key : String) (t : TypeExpr) (rest : Bindings) (name : String) :
    get? ((key, t) :: rest) name = (get? rest name).or (if key = name then some t else none) := rfl

theorem mem_of_get? {bindings : Bindings} {name : String} {t : TypeExpr}
    (h : bindings.get? name = some t) : (name, t) ∈ bindings := by
  induction bindings with
  | nil => cases h
  | cons b bindings ih =>
    rw [get?_cons, Option.or_eq_some_iff] at h
    rcases h with h | ⟨-, h⟩
    · exact List.mem_cons_of_mem _ (ih h)
    · split at h
      next hname =>
        cases h
        rw [← hname]
        exact List.mem_cons_self
      · cases h

theorem exists_get? {bindings : Bindings} {name : String} (h : name ∈ bindings.map (·.1)) :
    ∃ t, bindings.get? name = some t := by
  induction bindings with
  | nil => cases h
  | cons b bindings ih =>
    rw [get?_cons]
    cases hget : get? bindings name with
    | some t => exact ⟨t, rfl⟩
    | none =>
      rcases List.mem_cons.mp h with hname | h
      · exact ⟨b.2, by rw [Option.none_or, if_pos hname.symm]⟩
      · obtain ⟨t, ht⟩ := ih h
        rw [hget] at ht
        cases ht

end Bindings

namespace TypeExpr

mutual

/-- `t` with every use of a bound name replaced. -/
def substitute (bindings : Bindings) (t : TypeExpr) : TypeExpr :=
  if bindings.isEmpty then t
  else
    match t with
    | .primitive kind => .primitive kind
    | .declared name [] => (bindings.get? name.text).getD (.declared name [])
    | .declared name (a :: as) =>
      .declared name (a.substitute bindings :: substituteList bindings as)
    | .array component => .array (component.substitute bindings)
    | .parameter name none => .parameter name none
    | .parameter name (some bound) => .parameter name (some (bound.substitute bindings))
    | .wildcard none => .wildcard none
    | .wildcard (some bound) => .wildcard (some (bound.substitute bindings))
    | .other kind => .other kind

def substituteList (bindings : Bindings) : List TypeExpr → List TypeExpr
  | [] => []
  | a :: as => a.substitute bindings :: substituteList bindings as

end

theorem substituteList_eq_map (bindings : Bindings) (as : List TypeExpr) :
    substituteList bindings as = as.map (substitute bindings) := by
  induction as with
  | nil => rfl
  | cons a as ih => rw [substituteList, ih, List.map_cons]

@[simp] theorem substitute_nil : substitute [] = id := by
  funext t
  rw [substitute.eq_def]
  rfl

section
variable (bindings : Bindings)

@[simp] theorem substitute_primitive (kind : PrimitiveKind) :
    (primitive kind).substitute bindings = .primitive kind := by
  cases bindings <;> rfl

@[simp] theorem substitute_other (kind : OtherKind) :
    (other kind).substitute bindings = .other kind := by
  cases bindings <;> rfl

@[simp] theorem substitute_raw (name : TypeName) :
    (raw name).substitute bindings = (bindings.get? name.text).getD (.raw name) := by
  cases bindings <;> rfl

theorem substitute_declared (name : TypeName) {arguments : List TypeExpr} (h : arguments ≠ []) :
    (declared name arguments).substitute bindings =
      .declared name (arguments.map (substitute bindings)) := by
  cases arguments with
  | nil => exact absurd rfl h
  | cons a as =>
    cases bindings with
    | nil => simp
    | cons b bindings => rw [List.map_cons, ← substituteList_eq_map]; rfl

@[simp] theorem substitute_array (component : TypeExpr) :
    (array component).substitute bindings = .array (component.substitute bindings) := by
  cases bindings with
  | nil => simp
  | cons b bindings => rfl

@[simp] theorem substitute_parameter (name : String) (bound : Option TypeExpr) :
    (parameter name bound).substitute bindings = .parameter name (bound.map (substitute bindings)) := by
  cases bindings with
  | nil => simp
  | cons b bindings => cases bound <;> rfl

@[simp] theorem substitute_wildcard (bound : Option TypeExpr) :
    (wildcard bound).substitute bindings = .wildcard (bound.map (substitute bindings)) := by
  cases bindings with
  | nil => simp
  | cons b bindings => cases bound <;> rfl

end

end TypeExpr

end WireShape
