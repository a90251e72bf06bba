import WireShape.Registry.Basic
import WireShape.Registry.KnownTypes
import WireShape.Resolver.Basic
import WireShape.TypeExpr.Substitution

/-! # Looking up in a registry

A registry as an environment. A use binds the parameters of its declaration: to its arguments, or,
without arguments or with a wrong number of them, to themselves with their bounds. -/

namespace WireShape

namespace Declaration

/-- The parameters, each bound to the variable of its name and bound. -/
def asVariables (d : Declaration) : Bindings := d.parameters.map fun p => (p.name, p.toTypeExpr)

/-- The types bound to the parameters by a use with `arguments`. -/
def bindings (d : Declaration) (arguments : List TypeExpr) : Bindings :=
  if d.parameters.isEmpty then []
  else if d.parameters.length = arguments.length then
    (d.parameters.map (·.name)).zip arguments
  else d.asVariables

theorem bindings_eq (d : Declaration) (arguments : List TypeExpr) :
    d.bindings arguments =
      if d.parameters.length = arguments.length then (d.parameters.map (·.name)).zip arguments
      else d.asVariables := by
  unfold bindings
  split
  next h =>
    rw [asVariables, List.isEmpty_iff.mp h]
    split <;> rfl
  next => rfl

@[simp] theorem map_fst_asVariables (d : Declaration) :
    d.asVariables.map (·.1) = d.parameters.map (·.name) := by
  simp [asVariables]

theorem map_fst_bindings (d : Declaration) (arguments : List TypeExpr) :
    (d.bindings arguments).map (·.1) = d.parameters.map (·.name) := by
  rw [bindings_eq]
  split
  next hlen => exact List.map_fst_zip (by simp [hlen])
  next => exact d.map_fst_asVariables

/-- Without arguments the parameters are bound `asVariables`. -/
theorem bindings_nil (d : Declaration) : d.bindings [] = d.asVariables := by
  rw [bindings_eq]
  split
  next h =>
    rw [asVariables, List.eq_nil_of_length_eq_zero h]
    rfl
  next => rfl

/-- A type of the declaration as a use with `arguments` sees it. -/
def instantiate (d : Declaration) (arguments : List TypeExpr) (t : TypeExpr) : TypeExpr :=
  t.substitute (d.bindings arguments)

theorem instantiate_nil (d : Declaration) (t : TypeExpr) :
    d.instantiate [] t = t.substitute d.asVariables := by
  rw [instantiate, bindings_nil]

theorem instantiate_of_parameters_eq_nil {d : Declaration} (h : d.parameters = [])
    (arguments : List TypeExpr) (t : TypeExpr) : d.instantiate arguments t = t := by
  rw [instantiate, bindings, if_pos (List.isEmpty_iff.mpr h), TypeExpr.substitute_nil, id]

/-- The number of parameters, when some but not as many arguments are given to it. -/
def misfit (d : Declaration) (arguments : List TypeExpr) : Option Nat :=
  if d.parameters.isEmpty ∨ d.parameters.length = arguments.length ∨ arguments.isEmpty then none
  else some d.parameters.length

/-- The names that stand for no serializer at all. -/
def noSerializer : List String := [
  "com.fasterxml.jackson.databind.JsonSerializer$None",
  "com.fasterxml.jackson.databind.JsonSerializer.None"]

/-- The custom serializer, if there really is one. -/
def customSerializer (d : Declaration) : Option String :=
  d.serializeUsing.filter fun name => name ∉ noSerializer

/-- Whether a serialization target stands for none at all. -/
def isNoTarget : TypeExpr → Bool
  | .declared name _ => name.text == "java.lang.Void"
  | .other .void => true
  | _ => false

def serializationTarget (d : Declaration) : Option TypeExpr :=
  d.serializeAs.filter fun t => !isNoTarget t

/-- The definition of a documented type. A container or a type of known shape is not documented. -/
def definition (d : Declaration) (name : TypeName) : Option DefinitionRef :=
  if d.container.isSome ∨ d.known.isSome then none
  else match d.kind with
    | .classType | .interfaceType => some ⟨name, .object⟩
    | .enumType => some ⟨name, .enum⟩
    | .annotationType | .other => none

end Declaration

namespace Registry

/-- A type that the declaration of a use holds, as the use sees it. -/
def lookup (r : Registry) (u : DeclaredType) (field : Declaration → Option TypeExpr) :
    Option TypeExpr := do
  let d ← r.get? u.name
  return d.instantiate u.arguments (← field d)

def environment (r : Registry) : Environment where
  kind u :=
    match r.get? u.name with
    | some d => d.kind
    | none => if (KnownTypes.shape? u.name).isSome then .classType else .other
  typeHint u := r.lookup u (·.typeHint)
  customSerializer u := (r.get? u.name).bind (·.customSerializer)
  serializeAs u := r.lookup u (·.serializationTarget)
  adapter u := r.lookup u (·.adapter)
  mapTypes u := do
    let d ← r.get? u.name
    let (key, value) ← d.entryTypes?
    return (d.instantiate u.arguments key, d.instantiate u.arguments value)
  componentType u := r.lookup u (·.element?)
  knownShape u := ((r.get? u.name).bind (·.known)).or (KnownTypes.shape? u.name)
  definition u := (r.get? u.name).bind (·.definition u.name)
  isCollectionOrStream u := (r.get? u.name).any (·.isCollectionOrStream)
  misfit u := (r.get? u.name).bind (·.misfit u.arguments)

section
variable {r : Registry} {u : DeclaredType} {d : Declaration} (h : r.get? u.name = some d)
include h

theorem lookup_of_get? (field : Declaration → Option TypeExpr) :
    r.lookup u field = (field d).map (d.instantiate u.arguments) := by
  cases hf : field d with
  | none => simp [lookup, h, hf]
  | some t => simp [lookup, h, hf]

theorem typeHint_of_get? :
    r.environment.typeHint u = d.typeHint.map (d.instantiate u.arguments) :=
  lookup_of_get? h _

theorem serializeAs_of_get? :
    r.environment.serializeAs u = d.serializationTarget.map (d.instantiate u.arguments) :=
  lookup_of_get? h _

theorem adapter_of_get? : r.environment.adapter u = d.adapter.map (d.instantiate u.arguments) :=
  lookup_of_get? h _

theorem componentType_of_get? :
    r.environment.componentType u = d.element?.map (d.instantiate u.arguments) :=
  lookup_of_get? h _

theorem mapTypes_of_get? :
    r.environment.mapTypes u =
      d.entryTypes?.map fun m => (d.instantiate u.arguments m.1, d.instantiate u.arguments m.2) := by
  cases hm : d.entryTypes? with
  | none => simp [environment, h, hm]
  | some m => simp [environment, h, hm]

theorem isCollectionOrStream_of_get? :
    r.environment.isCollectionOrStream u = d.isCollectionOrStream := by
  simp only [environment, h, Option.any_some]

end

def resolver (r : Registry) : Resolver where
  environment := r.environment
  settings := r.settings

end Registry

end WireShape
