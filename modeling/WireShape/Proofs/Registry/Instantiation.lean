import WireShape.Proofs.Registry.Instances
import WireShape.Proofs.TypeExpr.Composition

/-! # Instances and substitution

The parameters of a declaration are names like any other, and an argument may use the name of a
parameter. Still it makes no difference if a substitution is carried out in what a use sees or in the
arguments of the use, as all parameters are replaced at once and an argument is not searched for them
again. -/

namespace WireShape

namespace Declaration
variable {d : Declaration} {arguments : List TypeExpr} {σ : Bindings} {t : TypeExpr}

def parameterNames (d : Declaration) : List String := d.parameters.map (·.name)

/-- Of the names that are used in the declaration, `σ` binds none but parameters. -/
def SparedBy (d : Declaration) (σ : Bindings) : Prop :=
  ∀ t ∈ d.held, ∀ name ∈ t.uses, name ∉ d.parameterNames → σ.get? name = none

instance (d : Declaration) (σ : Bindings) : Decidable (d.SparedBy σ) :=
  inferInstanceAs (Decidable (∀ t ∈ d.held, ∀ name ∈ t.uses, _ → _))

theorem bindings_of_length_eq (hlength : arguments.length = d.parameters.length) :
    d.bindings arguments = d.parameterNames.zip arguments := by
  rw [bindings_eq, if_pos hlength.symm, parameterNames]

theorem bindings_map (hlength : arguments.length = d.parameters.length) (f : TypeExpr → TypeExpr) :
    d.bindings (arguments.map f) = (d.bindings arguments).map fun b => (b.1, f b.2) := by
  rw [bindings_of_length_eq hlength, bindings_of_length_eq (by rwa [List.length_map]),
    List.zip_map_right]
  rfl

/-- Parameters of different names are each replaced by their own argument, whatever names are used
in that. -/
theorem instantiate_own (hlength : arguments.length = d.parameters.length)
    (hnames : d.parameterNames.Nodup) {name : String} {a : TypeExpr}
    (h : (name, a) ∈ d.parameterNames.zip arguments) :
    d.instantiate arguments (.raw ⟨name⟩) = a := by
  rw [← bindings_of_length_eq hlength] at h
  rw [parameterNames, ← d.map_fst_bindings arguments] at hnames
  rw [instantiate, TypeExpr.substitute_raw, Bindings.get?_of_mem hnames h, Option.getD_some]

/-- A substitution that spares `d` can as well be carried out in the arguments. -/
theorem instantiate_substitute (hlength : arguments.length = d.parameters.length)
    (hσ : d.SparedBy σ) (ht : t ∈ d.held) :
    (d.instantiate arguments t).substitute σ =
      d.instantiate (arguments.map (TypeExpr.substitute σ)) t := by
  unfold instantiate
  rw [TypeExpr.substitute_substitute, bindings_map hlength]
  refine TypeExpr.substitute_congr fun name hname => ?_
  rw [Bindings.get?_andThen, Bindings.get?_map]
  by_cases hparameter : name ∈ d.parameterNames
  · rw [parameterNames, ← d.map_fst_bindings arguments] at hparameter
    obtain ⟨a, ha⟩ := Bindings.exists_get? hparameter
    rw [ha, Option.map_some, Option.some_or]
  · rw [hσ t ht name hname hparameter, Option.or_none]

end Declaration

namespace Registry
variable {R : Registry} {name : TypeName} {d : Declaration}

/-- Each of the five lookups commutes with a substitution that spares `d`: `σ` carried out in what
is found for `u` gives what is found for `u'`. Parameters are replaced at once, each by its own
argument. -/
theorem lookups_substitute (hget : R.get? name = some d) {arguments : List TypeExpr}
    (hlength : arguments.length = d.parameters.length) {σ : Bindings} (hσ : d.SparedBy σ) :
    let e := R.environment
    let u : DeclaredType := ⟨name, arguments⟩
    let u' : DeclaredType := ⟨name, arguments.map (TypeExpr.substitute σ)⟩
    (e.typeHint u).map (TypeExpr.substitute σ) = e.typeHint u' ∧
    (e.serializeAs u).map (TypeExpr.substitute σ) = e.serializeAs u' ∧
    (e.adapter u).map (TypeExpr.substitute σ) = e.adapter u' ∧
    (e.mapTypes u).map (Prod.map (TypeExpr.substitute σ) (TypeExpr.substitute σ)) = e.mapTypes u' ∧
    (e.componentType u).map (TypeExpr.substitute σ) = e.componentType u' ∧
    (d.parameterNames.Nodup → ∀ p a, (p, a) ∈ d.parameterNames.zip arguments →
      d.instantiate arguments (.raw ⟨p⟩) = a) := by
  intro e u u'
  have hinstance {t : TypeExpr} (ht : t ∈ d.held) :
      (d.instantiate u.arguments t).substitute σ = d.instantiate u'.arguments t :=
    Declaration.instantiate_substitute hlength hσ ht
  have hlookup {field : Option TypeExpr} (hheld : ∀ t, field = some t → t ∈ d.held) :
      (field.map (d.instantiate u.arguments)).map (TypeExpr.substitute σ) =
        field.map (d.instantiate u'.arguments) := by
    rw [Option.map_map]
    exact Option.map_congr fun t ht => hinstance (hheld t ht)
  refine ⟨?_, ?_, ?_, ?_, ?_, fun hnames p a h =>
    Declaration.instantiate_own hlength hnames h⟩
  · rw [typeHint_of_get? hget, typeHint_of_get? hget]
    exact hlookup fun t => Declaration.mem_held_of_typeHint
  · rw [serializeAs_of_get? hget, serializeAs_of_get? hget]
    exact hlookup fun t => Declaration.mem_held_of_serializationTarget
  · rw [adapter_of_get? hget, adapter_of_get? hget]
    exact hlookup fun t => Declaration.mem_held_of_adapter
  · rw [mapTypes_of_get? hget, mapTypes_of_get? hget, Option.map_map]
    refine Option.map_congr fun m hm => ?_
    obtain ⟨hkey, hvalue⟩ := Declaration.mem_held_of_entryTypes hm
    exact Prod.ext (hinstance hkey) (hinstance hvalue)
  · rw [componentType_of_get? hget, componentType_of_get? hget]
    exact hlookup fun t => Declaration.mem_held_of_element

/-- Two things, with all that may be bound to names. -/
def twofold : Declaration where
  parameters := [⟨"A", none⟩, ⟨"B", some (.raw ⟨"Key"⟩)⟩]
  typeHint := some (.declared ⟨"Map"⟩ [.raw ⟨"A"⟩, .array (.raw ⟨"B"⟩)])
  serializeAs := some (.raw ⟨"A"⟩)
  adapter := some (.array (.raw ⟨"B"⟩))
  container := some (.map (.raw ⟨"B"⟩) (.declared ⟨"A"⟩ [.raw ⟨"A"⟩]))

/-- Each argument uses the name of the other parameter, and one of them becomes the type that would
stand for no serialization target if it were declared. -/
theorem lookups_substitute_twofold :
    let R : Registry := insert {} ⟨"Two"⟩ twofold
    let σ : Bindings := [("A", .raw ⟨"Text"⟩), ("B", .raw ⟨"java.lang.Void"⟩)]
    let u : DeclaredType := ⟨⟨"Two"⟩, [.raw ⟨"B"⟩, .wildcard (some (.raw ⟨"A"⟩))]⟩
    let u' : DeclaredType :=
      ⟨⟨"Two"⟩, [.raw ⟨"java.lang.Void"⟩, .wildcard (some (.raw ⟨"Text"⟩))]⟩
    R.get? ⟨"Two"⟩ = some twofold ∧ u.arguments.length = twofold.parameters.length ∧
    twofold.SparedBy σ ∧ twofold.parameterNames.Nodup ∧
    R.environment.typeHint u =
      some (.declared ⟨"Map"⟩ [.raw ⟨"B"⟩, .array (.wildcard (some (.raw ⟨"A"⟩)))]) ∧
    R.environment.typeHint u' = some (.declared ⟨"Map"⟩
      [.raw ⟨"java.lang.Void"⟩, .array (.wildcard (some (.raw ⟨"Text"⟩)))]) ∧
    R.environment.serializeAs u' = some (.raw ⟨"java.lang.Void"⟩) ∧
    R.environment.adapter u' = some (.array (.wildcard (some (.raw ⟨"Text"⟩)))) ∧
    R.environment.mapTypes u' = some
      (.wildcard (some (.raw ⟨"Text"⟩)), .declared ⟨"A"⟩ [.raw ⟨"java.lang.Void"⟩]) ∧
    R.environment.componentType u' = none ∧
    twofold.instantiate u.arguments (.raw ⟨"A"⟩) = .raw ⟨"B"⟩ := by
  intro R σ u u'
  have hget : R.get? ⟨"Two"⟩ = some twofold := by rw [get?_insert, if_pos rfl]
  have hlength : u.arguments.length = twofold.parameters.length := rfl
  have hspared : twofold.SparedBy σ := by decide
  obtain ⟨hhint, htarget, hadapter, hentries, helement, hown⟩ :=
    lookups_substitute hget hlength hspared
  exact ⟨hget, hlength, hspared, by decide, rfl, hhint.symm, htarget.symm, hadapter.symm, hentries.symm,
    helement.symm, hown (by decide) _ _ List.mem_cons_self⟩

end Registry

end WireShape
