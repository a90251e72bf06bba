import WireShape.Environment.Basic
import WireShape.NameTable

/-! # Declarations

What a registry knows about a type. The types in a declaration are written in terms of its own type
parameters, as plain names. -/

namespace WireShape

inductive Container
  | map (key value : TypeExpr)
  | collection (element : TypeExpr)
  | stream (element : TypeExpr)
deriving DecidableEq, Repr

structure Declaration where
  kind : DeclarationKind := .classType
  parameters : List TypeParameter := []
  typeHint : Option TypeExpr := none
  serializeUsing : Option String := none
  serializeAs : Option TypeExpr := none
  adapter : Option TypeExpr := none
  container : Option Container := none
  known : Option Shape := none
  properties : NameTable TypeExpr := .empty
deriving Inhabited

namespace Declaration

/-- Whether the declaration holds elements. -/
def isCollectionOrStream (d : Declaration) : Bool :=
  match d.container with
  | some (.collection _) | some (.stream _) => true
  | some (.map ..) | none => false

def element? (d : Declaration) : Option TypeExpr :=
  match d.container with
  | some (.collection element) | some (.stream element) => some element
  | some (.map ..) | none => none

def entryTypes? (d : Declaration) : Option (TypeExpr × TypeExpr) :=
  match d.container with
  | some (.map key value) => some (key, value)
  | _ => none

section
variable {d : Declaration} {element : TypeExpr} (h : d.element? = some element)
include h

theorem container_of_element :
    d.container = some (.collection element) ∨ d.container = some (.stream element) := by
  unfold element? at h
  split at h
  next hc => exact .inl (by rw [hc, Option.some.inj h])
  next hc => exact .inr (by rw [hc, Option.some.inj h])
  · cases h
  · cases h

theorem isCollectionOrStream_of_element : d.isCollectionOrStream = true := by
  unfold isCollectionOrStream
  rcases container_of_element h with hc | hc <;> rw [hc]

theorem entryTypes?_eq_none : d.entryTypes? = none := by
  unfold entryTypes?
  rcases container_of_element h with hc | hc <;> rw [hc]

end

end Declaration

end WireShape
