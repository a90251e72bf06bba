import WireShape.Registry.Lookup

/-! # What has no part in the resolution

The properties of a declaration are there to be described only, and some serializers and
serialization targets are written where none is meant. A resolution sees nothing of them: it has the
same result and leaves the same trace over two registries that differ in these alone. -/

namespace WireShape

namespace Declaration
variable {d d' : Declaration}

/-- The declaration without properties, without a serializer that stands for none, and without a
serialization target that stands for none. -/
def cleared (d : Declaration) : Declaration :=
  { d with
    serializeUsing :=
      if d.serializeUsing = some "com.fasterxml.jackson.databind.JsonSerializer$None" ∨
        d.serializeUsing = some "com.fasterxml.jackson.databind.JsonSerializer.None"
      then none else d.serializeUsing
    serializeAs :=
      match d.serializeAs with
      | some (.other .void) => none
      | some (.declared name arguments) =>
        if name = ⟨"java.lang.Void"⟩ then none else some (.declared name arguments)
      | target => target
    properties := .empty }

theorem customSerializer_eq_cleared (d : Declaration) :
    d.customSerializer = d.cleared.serializeUsing := by
  unfold customSerializer cleared
  cases d.serializeUsing with
  | none => rfl
  | some serializer =>
    have hmem : serializer ∈ noSerializer ↔
        some serializer = some "com.fasterxml.jackson.databind.JsonSerializer$None" ∨
          some serializer = some "com.fasterxml.jackson.databind.JsonSerializer.None" := by
      simp [noSerializer]
    by_cases h : serializer ∈ noSerializer
    · rw [if_pos (hmem.mp h), Option.filter_some, if_neg (by simpa using h)]
    · rw [if_neg (mt hmem.mpr h), Option.filter_some, if_pos (by simpa using h)]

theorem serializationTarget_eq_cleared (d : Declaration) :
    d.serializationTarget = d.cleared.serializeAs := by
  unfold serializationTarget cleared
  cases d.serializeAs with
  | none => rfl
  | some target =>
    cases target with
    | declared name arguments =>
      obtain ⟨name⟩ := name
      simp [Option.filter_some, isNoTarget]
    | other kind => cases kind <;> rfl
    | primitive kind => rfl
    | array component => rfl
    | parameter name bound => rfl
    | wildcard bound => rfl

/-- No resolution can tell the declarations apart. -/
structure Alike (d d' : Declaration) : Prop where
  kind : d.kind = d'.kind
  parameters : d.parameters = d'.parameters
  typeHint : d.typeHint = d'.typeHint
  customSerializer : d.customSerializer = d'.customSerializer
  serializationTarget : d.serializationTarget = d'.serializationTarget
  adapter : d.adapter = d'.adapter
  container : d.container = d'.container
  known : d.known = d'.known

namespace Alike

theorem refl (d : Declaration) : d.Alike d := ⟨rfl, rfl, rfl, rfl, rfl, rfl, rfl, rfl⟩

theorem with_properties (d : Declaration) (properties : NameTable TypeExpr) :
    d.Alike { d with properties } := ⟨rfl, rfl, rfl, rfl, rfl, rfl, rfl, rfl⟩

theorem of_cleared_eq (h : d.cleared = d'.cleared) : d.Alike d' where
  kind := congrArg (·.kind) h
  parameters := congrArg (·.parameters) h
  typeHint := congrArg (·.typeHint) h
  customSerializer := by rw [customSerializer_eq_cleared, customSerializer_eq_cleared, h]
  serializationTarget := by rw [serializationTarget_eq_cleared, serializationTarget_eq_cleared, h]
  adapter := congrArg (·.adapter) h
  container := congrArg (·.container) h
  known := congrArg (·.known) h

variable (h : d.Alike d')
include h

theorem instantiate (arguments : List TypeExpr) :
    d.instantiate arguments = d'.instantiate arguments := by
  funext t
  rw [Declaration.instantiate, Declaration.instantiate, bindings_eq, bindings_eq, asVariables, asVariables,
    h.parameters]

theorem misfit (arguments : List TypeExpr) : d.misfit arguments = d'.misfit arguments := by
  rw [Declaration.misfit, Declaration.misfit, h.parameters]

theorem entryTypes? : d.entryTypes? = d'.entryTypes? := by
  rw [Declaration.entryTypes?, Declaration.entryTypes?, h.container]

theorem element? : d.element? = d'.element? := by
  rw [Declaration.element?, Declaration.element?, h.container]

theorem isCollectionOrStream : d.isCollectionOrStream = d'.isCollectionOrStream := by
  rw [Declaration.isCollectionOrStream, Declaration.isCollectionOrStream, h.container]

theorem definition (name : TypeName) : d.definition name = d'.definition name := by
  rw [Declaration.definition, Declaration.definition, h.container, h.known, h.kind]

end Alike

end Declaration

namespace Registry
variable {R R' : Registry}

/-- Registries whose declarations are `Alike` have one environment. -/
theorem environment_congr (h : ∀ name, Option.Rel Declaration.Alike (R.get? name) (R'.get? name)) :
    R.environment = R'.environment := by
  unfold environment lookup
  rw [Environment.mk.injEq]
  refine ⟨?_, ?_, ?_, ?_, ?_, ?_, ?_, ?_, ?_, ?_, ?_⟩ <;>
  · funext u
    have hu := h u.name
    generalize R.get? u.name = o, R'.get? u.name = o' at hu ⊢
    cases hu with
    | none => rfl
    | some hd =>
      simp [hd.kind, hd.typeHint, hd.customSerializer, hd.serializationTarget, hd.adapter, hd.known,
        hd.instantiate, hd.misfit, hd.entryTypes?, hd.element?, hd.isCollectionOrStream,
        hd.definition]

/-- Of a declaration only what is left in `cleared` matters: the runs of `resolve` over `R` and `R'`
are the same, result and state. -/
theorem resolve_eq_of_cleared_eq
    (h : ∀ name, (R.get? name).map Declaration.cleared = (R'.get? name).map Declaration.cleared)
    (settings : Settings) (t : TypeExpr) (c : Context) (s : State) :
    (Resolver.resolve ⟨R.environment, settings⟩ t c).run s =
      (Resolver.resolve ⟨R'.environment, settings⟩ t c).run s := by
  have halike : ∀ name, Option.Rel Declaration.Alike (R.get? name) (R'.get? name) := by
    intro name
    have hname := h name
    generalize R.get? name = o, R'.get? name = o' at hname ⊢
    cases o with
    | none =>
      rw [Option.map_none, eq_comm, Option.map_eq_none_iff] at hname
      rw [hname]
      exact .none
    | some d =>
      obtain ⟨d', rfl, hd⟩ := Option.map_eq_some_iff.mp hname.symm
      exact .some (.of_cleared_eq hd.symm)
  rw [environment_congr halike]

/-- Goods in stock, written with all that stands for nothing. -/
def stock : Registry :=
  let goods : Declaration := {
    parameters := [⟨"T", none⟩]
    serializeUsing := some "com.fasterxml.jackson.databind.JsonSerializer.None"
    serializeAs := some (.other .void)
    adapter := some (.raw ⟨"Ware"⟩)
    container := some (.collection (.raw ⟨"T"⟩)) }
  let ware : Declaration := {
    serializeUsing := some "com.fasterxml.jackson.databind.JsonSerializer$None"
    serializeAs := some (.declared ⟨"java.lang.Void"⟩ [.raw ⟨"Ware"⟩])
    properties := .ofList [("price", .primitive .int)] }
  (insert {} ⟨"Goods"⟩ goods).insert ⟨"Ware"⟩ ware

/-- The same goods, with as little as possible. -/
def plainStock : Registry :=
  let goods : Declaration := {
    parameters := [⟨"T", none⟩]
    adapter := some (.raw ⟨"Ware"⟩)
    container := some (.collection (.raw ⟨"T"⟩)) }
  (insert {} ⟨"Goods"⟩ goods).insert ⟨"Ware"⟩ {}

theorem resolve_eq_of_cleared_eq_stock :
    let run (R : Registry) :=
      (Resolver.resolve ⟨R.environment, {}⟩ (.declared ⟨"Goods"⟩ [.raw ⟨"Ware"⟩]) {}).run {}
    (∀ name, (stock.get? name).map Declaration.cleared =
      (plainStock.get? name).map Declaration.cleared) ∧
    run stock = run plainStock ∧
    (run stock).1 = .ok (.array (.named ⟨⟨"Ware"⟩, .object⟩)) ∧
    (run stock).2.adapters = #[⟨⟨"Goods"⟩, .raw ⟨"Ware"⟩, .named ⟨⟨"Ware"⟩, .object⟩⟩] := by
  intro run
  have hcleared : ∀ name, (stock.get? name).map Declaration.cleared =
      (plainStock.get? name).map Declaration.cleared := by
    intro name
    simp only [stock, plainStock, get?_insert]
    split
    · rfl
    · split
      · rfl
      · rfl
  have hruns : run stock = run plainStock :=
    resolve_eq_of_cleared_eq hcleared {} (.declared ⟨"Goods"⟩ [.raw ⟨"Ware"⟩]) {} {}
  exact ⟨hcleared, hruns, by rfl, by rfl⟩

end Registry

end WireShape
