import WireShape.Registry.Basic
import WireShape.Shape.Json
import WireShape.Telling
import WireShape.TypeExpr.Parser

/-! # Registry documents

A document is a JSON record of settings and declarations. Loading one lays it over a registry, all of
it or nothing. -/

namespace WireShape

namespace Container

def ofJson? (j : Json) : Option Container := do
  let (name, held) ← j.case?
  if name = "map" then
    match ← Json.required (Json.fields? ["key", "value"] .refused) held with
    | [key, value] =>
      return .map (← Json.required TypeExpr.ofJson? key) (← Json.required TypeExpr.ofJson? value)
    | _ => none
  else if name = "collection" then return .collection (← Json.required TypeExpr.ofJson? held)
  else if name = "stream" then return .stream (← Json.required TypeExpr.ofJson? held)
  else none

end Container

namespace Declaration

def fieldNames : List String := [
  "kind", "type_parameters", "type_hint", "serialize_using", "serialize_as", "adapter", "container",
  "known", "properties"]

/-- The declaration written as `j`. What is left out has its default. -/
def ofJson? (j : Json) : Option Declaration := do
  match ← j.fields? fieldNames .refused with
  | [kind, parameters, typeHint, serializeUsing, serializeAs, adapter, container, known,
      properties] =>
    return {
      kind := ← Json.optional Json.keyword? .classType kind
      parameters := ← Json.optional (Json.listOf TypeParameter.ofJson?) [] parameters
      typeHint := ← Json.optional (Json.nullable TypeExpr.ofJson?) none typeHint
      serializeUsing := ← Json.optional (Json.nullable Json.text?) none serializeUsing
      serializeAs := ← Json.optional (Json.nullable TypeExpr.ofJson?) none serializeAs
      adapter := ← Json.optional (Json.nullable TypeExpr.ofJson?) none adapter
      container := ← Json.optional (Json.nullable Container.ofJson?) none container
      known := ← Json.optional (Json.nullable Shape.ofJson?) none known
      properties :=
        .ofList (← Json.optional (Json.membersOf TypeExpr.ofJson?) [] properties) }
  | _ => none

end Declaration

structure Document where
  settings : Option Settings
  declarations : NameTable Declaration

namespace Document

/-- What is given for the settings and for the declarations. -/
def fields? (j : Json) : Option (Option Json × Option Json) := do
  match ← j.fields? ["resolver", "types"] .refused with
  | [resolver, types] => some (resolver, types)
  | _ => none

/-- The document written as `j`. A name declared twice has its last declaration. -/
def ofJson? (j : Json) : Option Document := do
  let (resolver, types) ← fields? j
  return {
    settings := ← Json.optional (Json.nullable Settings.ofJson?) none resolver
    declarations := .ofList (← Json.optional (Json.membersOf Declaration.ofJson?) [] types) }

def read (text : String) : Option Document := do
  ofJson? (← Json.read text)

end Document

inductive LoadError
  /-- The file cannot be read, or is not text. -/
  | unreadable (path : String)
  | malformed (source : String)
  | badSettings (source : String) (cause : Error)
deriving DecidableEq, Repr

namespace LoadError

def toError : LoadError → Error
  | .unreadable path => .fileOperation "read registry" path
  | .malformed source => .registryLoad source "malformed document"
  | .badSettings source _ => .registryLoad source "bad resolver settings"

def causes : LoadError → List Error
  | .unreadable _ | .malformed _ => []
  | .badSettings _ cause => [cause]

end LoadError

namespace Registry

def registerAll (r : Registry) : List (String × Declaration) → Registry × List Event
  | [] => (r, [])
  | (name, d) :: declarations =>
    let (r, replaced) := r.register ⟨name⟩ d
    let (r, events) := r.registerAll declarations
    (r, replaced ++ events)

end Registry

/-- An order for the declarations of a document, which has them in none. -/
structure Arrangement where
  arrange : List (String × Declaration) → List (String × Declaration)
  perm : ∀ declarations, (arrange declarations).Perm declarations

def Arrangement.byName : Arrangement := ⟨id, fun _ => .refl _⟩

/-- A registry that is loaded into, and the events told meanwhile. -/
structure Loading where
  registry : Registry
  events : List Event := []

/-- Work on a registry that may fail. What it has changed by then stays changed. -/
abbrev Updating := ExceptT LoadError (StateM Loading)

namespace Updating

/-- Replaces the current settings, if there are others, which have to be valid. -/
def settle (source : String) : Option Settings → Updating Unit
  | none => pure ()
  | some settings => do
    match (← get).registry.setSettings settings with
    | .error cause => throw (.badSettings source cause)
    | .ok registry => modify fun l => { l with registry }

def registerAll (declarations : List (String × Declaration)) : Updating Unit :=
  modify fun l =>
    let (registry, replaced) := l.registry.registerAll declarations
    { registry, events := l.events ++ replaced }

def tell (event : Event) : Updating Unit :=
  modify fun l => { l with events := l.events ++ [event] }

/-- Lays the document written in `text` over the registry. -/
def load (order : Arrangement) (text source : String) : Updating Unit := do
  match Document.read text with
  | none => throw (.malformed source)
  | some document =>
    settle source document.settings
    registerAll (order.arrange document.declarations.entries)
    tell (.loaded document.declarations.size source)

end Updating

namespace Registry

/-- The registry with the document written in `text` laid over it. -/
def load (r : Registry) (text source : String) : Telling LoadError Registry :=
  let (result, l) := (Updating.load .byName text source).run { registry := r }
  { result := result.map fun () => l.registry, events := l.events }

/-- Lays the document in the file at `path` over the registry. `readText` gives the text of a file
that can be read. -/
def loadFile (r : Registry) (readText : String → Option String) (path : String) :
    Telling LoadError Registry :=
  match readText path with
  | some text => r.load text path
  | none => { result := .error (.unreadable path) }

end Registry

end WireShape
