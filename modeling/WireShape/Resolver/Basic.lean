import WireShape.Resolver.State

/-! # Resolution

The shape of a type, found by walking it and what its environment tells about it. For a declared type:

* a type whose identity is in progress, collections and streams apart, has the shape `object`;
* a type hint, a custom serializer and a serialization target override the structure, the later ones
  the earlier ones;
* the adapter is resolved and recorded, whatever else there is;
* without an override the structure decides: map, collection or stream, known shape, definition;
* the shape of the adapting type comes last, where the settings say so, and then `object`.

What is found is put into an array at the element positions. Every type below another is resolved one
level deeper, and the settings bound the levels. -/

namespace WireShape

structure Resolver where
  environment : Environment
  settings : Settings := {}

namespace Resolver

def withSettings (environment : Environment) (settings : Settings) : Except Error Resolver := do
  settings.validate
  return { environment, settings }

/-- Resolving a type one level below, at a position. -/
abbrev Below := Position → TypeExpr → Resolving Shape

section
variable (r : Resolver) (below : Below)

/-- An answer of the environment that depends on the arguments of the use. -/
def bound {α : Type} (d : DeclaredType) (answer : DeclaredType → Option α) :
    Resolving (Option α) := do
  match r.environment.misfit d with
  | some parameters => Resolving.note (.arityMismatch d parameters)
  | none => pure ()
  return answer d

/-- The shape of a type that stands in for the declared one, if there is such a type. -/
def standIn (event : TypeExpr → Event) : Option TypeExpr → Resolving (Option Shape)
  | none => return none
  | some t => do
    Resolving.note (event t)
    return some (← below .value t)

/-- The shape that a serializer of its own gives, of which nothing is known. -/
def serialized (d : DeclaredType) : Resolving (Option Shape) := do
  match r.environment.customSerializer d with
  | none => return none
  | some serializer =>
    Resolving.note (.customSerializer d serializer)
    return some .object

/-- The shape set by the directives on the declaration: the last one wins. -/
def override (d : DeclaredType) : Resolving (Option Shape) := do
  let hint ← r.bound d r.environment.typeHint
  let hinted ← standIn below (.hinted d) hint
  let serialized ← r.serialized d
  let target ← r.bound d r.environment.serializeAs
  let targeted ← standIn below (.serializedAs d) target
  return targeted.or (serialized.or hinted)

/-- The shape of the adapting type, which is recorded. -/
def adapted (d : DeclaredType) : Resolving (Option Shape) := do
  match ← r.bound d r.environment.adapter with
  | none => return none
  | some t => do
    let shape ← below .value t
    Resolving.note (.adapted d t shape)
    Resolving.register { adapted := d.name, adaptingType := t, shape }
    return some shape

/-- The shape that a map, a collection or stream, or a documented type has. -/
def structural (d : DeclaredType) : Resolving (Option Shape) := do
  match ← r.bound d r.environment.mapTypes with
  | some (key, value) => do
    let key ← below .value key
    let value ← below .value value
    return some (.map key value)
  | none =>
    match ← r.bound d r.environment.componentType with
    | some element => return some (← below .collectionElement element)
    | none => return r.environment.documented d

def structured (d : DeclaredType) : Option Shape → Resolving (Option Shape)
  | some shape => return some shape
  | none => r.structural below d

/-- The shape found, or else that of the adapting type where the settings say so, or else `object`. -/
def settled (d : DeclaredType) (shape adapted : Option Shape) : Resolving Shape := do
  match shape, adapted with
  | some shape, _ => return shape
  | none, some adapted =>
    if r.settings.adapterPolicy = .useAdaptingShape then
      Resolving.note (.adaptingShapeTaken d)
      return adapted
    else return .object
  | none, none => return .object

def framed (d : DeclaredType) : Resolving Shape := do
  let override ← r.override below d
  let adapted ← r.adapted below d
  let shape ← r.structured below d override
  r.settled d shape adapted

def declaredShape (d : DeclaredType) (c : Context) : Resolving Shape := do
  if (← Resolving.isInProgress d.identity) && !r.environment.isCollectionOrStream d then
    Resolving.note (.cycleBroken d.identity)
    return c.wrap .object
  else
    return c.wrap (← Resolving.inFrame d.identity c.depth (r.framed below d))

/-- The shape of a type, given how to resolve the types below it. The bytes of an array are written
as one string. -/
def shapeOf (t : TypeExpr) (c : Context) : Resolving Shape :=
  match t with
  | .primitive kind =>
    if c.position = .arrayElement ∧ kind = .byte then return .primitive .string
    else return c.wrap (.primitive kind.json)
  | .declared name arguments => r.declaredShape below ⟨name, arguments⟩ c
  | .array component => return c.wrap (← below .arrayElement component)
  | .parameter _ none | .wildcard none => return c.wrap .object
  | .parameter _ (some bound) | .wildcard (some bound) =>
    return c.wrap (← below .value bound)
  | .other _ => return .object

end

/-- The shape of a type of which `levels` levels may be resolved. -/
def resolveWithin (r : Resolver) : (levels : Nat) → TypeExpr → Context → Resolving Shape
  | 0, t, c => do
    Resolving.note (.limitExceeded t c.depth)
    throw ⟨t, c.depth⟩
  | levels + 1, t, c => do
    Resolving.note (.resolving t c.position)
    r.shapeOf (fun position t => r.resolveWithin levels t (c.derive position)) t c

def resolve (r : Resolver) (t : TypeExpr) (c : Context) : Resolving Shape :=
  r.resolveWithin (r.settings.maxDepth + 1 - c.depth) t c

structure Resolution where
  shape : Shape
  adapters : List Registration
deriving DecidableEq, Repr

def run (r : Resolver) (t : TypeExpr) : Except LimitExceeded Shape × State :=
  (r.resolve t {}).run {}

def shape (r : Resolver) (t : TypeExpr) : Except LimitExceeded Shape :=
  (r.run t).1

/-- The shape of `t` and the adapters met, in the order in which they were resolved. -/
def report (r : Resolver) (t : TypeExpr) : Except LimitExceeded Resolution :=
  (r.run t).1.map fun shape => { shape, adapters := (r.run t).2.adapters.toList }

def events (r : Resolver) (t : TypeExpr) : List Event :=
  (r.run t).2.events.toList

end Resolver

end WireShape
