import Mathlib.Data.List.Nodup
import WireShape.Proofs.TypeExpr.Nodes

/-! # Substituting twice

A substitution depends on the bindings of the names used in the type and on nothing else, and one after
another they are one substitution, whose bindings are those of the first with the second carried out in
them, and behind these those of the second. -/

namespace WireShape

namespace Bindings
variable {b b' : Bindings} {name : String} {t : TypeExpr}

theorem get?_append (b b' : Bindings) (name : String) :
    get? (b ++ b') name = (get? b' name).or (get? b name) := by
  induction b with
  | nil => exact (Option.or_none).symm
  | cons e b ih =>
    rw [List.cons_append, get?_cons, get?_cons, ih, Option.or_assoc]

theorem get?_map (b : Bindings) (f : TypeExpr → TypeExpr) (name : String) :
    get? (b.map fun e => (e.1, f e.2)) name = (get? b name).map f := by
  induction b with
  | nil => rfl
  | cons e b ih =>
    rw [List.map_cons, get?_cons, get?_cons, ih]
    cases get? b name with
    | some u => rfl
    | none => by_cases he : e.1 = name <;> simp [he]

theorem get?_of_mem (hb : (b.map (·.1)).Nodup) (h : (name, t) ∈ b) : b.get? name = some t := by
  obtain ⟨u, hu⟩ := exists_get? (List.mem_map_of_mem (f := (·.1)) h)
  have heq : (name, u) = (name, t) := List.inj_on_of_nodup_map hb (mem_of_get? hu) h rfl
  rw [hu, (Prod.mk.inj heq).2]

/-- First `b`, then `b'`. -/
def andThen (b b' : Bindings) : Bindings :=
  b' ++ b.map fun e => (e.1, e.2.substitute b')

theorem get?_andThen (b b' : Bindings) (name : String) :
    (b.andThen b').get? name = ((b.get? name).map (TypeExpr.substitute b')).or (b'.get? name) := by
  rw [andThen, get?_append, get?_map]

end Bindings

/-- The name that is used at a node, without arguments. -/
def Node.use? : Node → Option String
  | .declared name 0 => some name.text
  | .declared _ (_ + 1) | .primitive _ | .array | .parameter _ | .wildcard | .other _ => none

namespace TypeExpr

/-- The names used without arguments in a type. -/
def uses (t : TypeExpr) : List String := t.nodes.filterMap Node.use?

theorem forall_uses_iff {P : String → Prop} {t : TypeExpr} :
    (∀ name ∈ t.uses, P name) ↔ t.Consists fun n => ∀ name ∈ n.use?, P name := by
  simp only [uses, List.mem_filterMap]
  exact ⟨fun h n hn name hname => h name ⟨n, hn, hname⟩,
    fun h name ⟨n, hn, hname⟩ => h n hn name hname⟩

/-- Two substitutions of `t` are equal exactly if they put the same in the place of each of
`t.uses`. -/
theorem substitute_eq_iff {b b' : Bindings} {t : TypeExpr} :
    t.substitute b = t.substitute b' ↔
      ∀ name ∈ t.uses, (b.get? name).getD (.raw ⟨name⟩) = (b'.get? name).getD (.raw ⟨name⟩) := by
  rw [forall_uses_iff]
  have hbound {bound : Option TypeExpr} {P : TypeExpr → Prop}
      (ih : ∀ t ∈ bound, (t.substitute b = t.substitute b' ↔ P t)) :
      bound.map (substitute b) = bound.map (substitute b') ↔ ∀ t ∈ bound, P t := by
    cases bound with
    | none => simp
    | some t => simpa using ih t rfl
  induction t using TypeExpr.induction with
  | primitive kind => simp [Consists.primitive_iff, Node.use?]
  | declared name arguments ih =>
    rw [Consists.declared_iff]
    by_cases hraw : arguments = []
    · subst hraw
      simp [Node.use?]
    · have hlength : arguments.length ≠ 0 := by simpa using hraw
      obtain ⟨arity, harity⟩ := Nat.exists_eq_succ_of_ne_zero hlength
      rw [substitute_declared b name hraw, substitute_declared b' name hraw, declared.injEq,
        List.map_inj_left, harity]
      constructor
      · rintro ⟨-, h⟩
        exact ⟨by simp [Node.use?], fun a ha => (ih a ha).mp (h a ha)⟩
      · rintro ⟨-, h⟩
        exact ⟨rfl, fun a ha => (ih a ha).mpr (h a ha)⟩
  | array component ih =>
    rw [substitute_array, substitute_array, array.injEq, Consists.array_iff]
    simpa [Node.use?] using ih
  | parameter name bound ih =>
    rw [substitute_parameter, substitute_parameter, parameter.injEq, Consists.parameter_iff, hbound ih]
    simp [Node.use?]
  | wildcard bound ih =>
    rw [substitute_wildcard, substitute_wildcard, wildcard.injEq, Consists.wildcard_iff, hbound ih]
    simp [Node.use?]
  | other kind => simp [Consists.other_iff, Node.use?]

theorem substitute_congr {b b' : Bindings} {t : TypeExpr}
    (h : ∀ name ∈ t.uses, b.get? name = b'.get? name) : t.substitute b = t.substitute b' :=
  substitute_eq_iff.mpr fun name hname => by rw [h name hname]

theorem substitute_substitute (b b' : Bindings) (t : TypeExpr) :
    (t.substitute b).substitute b' = t.substitute (b.andThen b') := by
  have hmap {bound : Option TypeExpr}
      (ih : ∀ t ∈ bound, (t.substitute b).substitute b' = t.substitute (b.andThen b')) :
      (bound.map (substitute b)).map (substitute b') = bound.map (substitute (b.andThen b')) := by
    rw [Option.map_map]
    exact Option.map_congr ih
  induction t using TypeExpr.induction with
  | primitive kind => simp
  | declared name arguments ih =>
    by_cases hraw : arguments = []
    · subst hraw
      rw [substitute_raw, substitute_raw, Bindings.get?_andThen]
      cases b.get? name.text with
      | none => rw [Option.getD_none, substitute_raw, Option.map_none, Option.none_or]
      | some u => rfl
    · have hraw' : arguments.map (substitute b) ≠ [] := by simpa using hraw
      rw [substitute_declared b name hraw, substitute_declared b' name hraw',
        substitute_declared _ name hraw, List.map_map]
      exact congrArg (declared name) (List.map_congr_left ih)
  | array component ih => rw [substitute_array, substitute_array, substitute_array, ih]
  | parameter name bound ih =>
    rw [substitute_parameter, substitute_parameter, substitute_parameter, hmap ih]
  | wildcard bound ih =>
    rw [substitute_wildcard, substitute_wildcard, substitute_wildcard, hmap ih]
  | other kind => simp

/-- `substitute []` changes nothing, and `substitute b` and then `b'` is
`substitute (b.andThen b')`, where the names of `b` come first. A substitution of `t` goes by the
names of `t.uses`, and by every one of them. -/
theorem substitution_laws (t : TypeExpr) (b b' : Bindings) :
    t.substitute [] = t ∧
    (t.substitute b).substitute b' = t.substitute (b.andThen b') ∧
    (∀ name, (b.andThen b').get? name = match b.get? name with
      | some u => some (u.substitute b')
      | none => b'.get? name) ∧
    ((∀ name ∈ t.uses, b.get? name = b'.get? name) → t.substitute b = t.substitute b') ∧
    (t.substitute b = t.substitute b' →
      ∀ name ∈ t.uses, (b.get? name).getD (.raw ⟨name⟩) = (b'.get? name).getD (.raw ⟨name⟩)) := by
  refine ⟨congrFun substitute_nil t, substitute_substitute b b' t, fun name => ?_, substitute_congr,
    substitute_eq_iff.mp⟩
  rw [Bindings.get?_andThen]
  cases b.get? name with
  | some u => rfl
  | none => rfl

/-- `T` is used twice. `U` is not used: it has arguments in one place and is a type parameter in the
other. -/
theorem substitution_laws_map :
    let t : TypeExpr := .declared ⟨"Map"⟩
      [.raw ⟨"T"⟩, .declared ⟨"U"⟩ [.wildcard (some (.array (.raw ⟨"T"⟩)))], .parameter "U" none]
    let b : Bindings := [("T", .declared ⟨"List"⟩ [.raw ⟨"U"⟩])]
    let b' : Bindings := [("U", .primitive .int), ("T", .raw ⟨"String"⟩)]
    let b'' : Bindings := [("U", .other .void), ("T", .declared ⟨"List"⟩ [.raw ⟨"U"⟩])]
    let listOfInt : TypeExpr := .declared ⟨"List"⟩ [.primitive .int]
    t.uses = ["T", "T"] ∧
    (t.substitute b).substitute b' = .declared ⟨"Map"⟩
      [listOfInt, .declared ⟨"U"⟩ [.wildcard (some (.array listOfInt))], .parameter "U" none] ∧
    (t.substitute b).substitute b' = t.substitute (b.andThen b') ∧
    (b.andThen b').get? "T" = some listOfInt ∧ (b.andThen b').get? "U" = some (.primitive .int) ∧
    (∀ name ∈ t.uses, b.get? name = b''.get? name) ∧ t.substitute b = t.substitute b'' ∧
    t.substitute b ≠ t.substitute b' := by
  intro t b b' b'' listOfInt
  obtain ⟨-, htwice, hget, -, hexact⟩ := substitution_laws t b b'
  obtain ⟨-, -, -, hagree, -⟩ := substitution_laws t b b''
  have huses : ∀ name ∈ t.uses, b.get? name = b''.get? name := by decide
  refine ⟨rfl, by decide, htwice, hget "T", hget "U", huses, hagree huses, fun heq => ?_⟩
  exact absurd (hexact heq "T" (by decide)) (by decide)

end TypeExpr

end WireShape
