import WireShape.Registry.Lookup
import WireShape.Shape.Json
import WireShape.Telling
import WireShape.TypeExpr.Parser

/-! # Describing types

The documentation view of a registered type: its own shape, and the shape of each of its properties.
Each is resolved from the top, so no property depends on another or on the type itself. The JSON of
descriptions and of resolutions is here too. -/

namespace WireShape

def Registration.toJson (r : Registration) : Json :=
  .object [("adapted", .string r.adapted.text), ("adapting_type", r.adaptingType.toJson),
    ("shape", r.shape.toJson)]

def Resolver.Resolution.toJson (r : Resolver.Resolution) : Json :=
  .object [("shape", r.shape.toJson), ("adapters", .array (r.adapters.map Registration.toJson))]

structure PropertyShape where
  name : String
  /-- The declared type, in which the parameters of the owner are not bound. -/
  type : TypeExpr
  shape : Shape
deriving DecidableEq, Repr

structure Description where
  name : TypeName
  kind : DeclarationKind
  /-- The shape of a use without arguments. -/
  shape : Shape
  /-- The properties, in the order of their names. -/
  properties : List PropertyShape
deriving DecidableEq, Repr

namespace PropertyShape

def toJson (p : PropertyShape) : Json :=
  .object [("name", .string p.name), ("type", p.type.toJson), ("shape", p.shape.toJson)]

end PropertyShape

namespace Description

def toJson (d : Description) : Json :=
  .object [("name", .string d.name.text), ("kind", .string (word d.kind)),
    ("shape", d.shape.toJson), ("properties", .array (d.properties.map PropertyShape.toJson))]

end Description

namespace Resolver

/-- The shape of `t` and the adapters met, with the events of resolving it. -/
def tellReport (r : Resolver) (t : TypeExpr) : Telling Error Resolution :=
  let (result, state) := r.run t
  { result := (result.map fun shape => { shape, adapters := state.adapters.toList }).mapError
      LimitExceeded.toError
    events := state.events.toList }

def tellShape (r : Resolver) (t : TypeExpr) : Telling Error Shape :=
  return (← r.tellReport t).shape

end Resolver

namespace Registry

/-- The documentation of a property of `owner`, in which the parameters of the owner are variables. -/
def describeProperty (r : Registry) (owner : TypeName) (d : Declaration)
    (property : String × TypeExpr) : Telling Error PropertyShape := do
  let (name, type) := property
  let shape ← r.resolver.tellShape (type.substitute d.asVariables)
  Telling.tell [.propertyResolved owner name shape]
  return { name, type, shape }

def describe (r : Registry) (name : TypeName) : Telling Error Description := do
  let d ← r.require name
  let shape ← r.resolver.tellShape (.raw name)
  let properties ← d.properties.entries.mapM (r.describeProperty name d)
  return { name, kind := d.kind, shape, properties }

end Registry

end WireShape
