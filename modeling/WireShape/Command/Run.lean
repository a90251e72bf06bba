import WireShape.Catalog
import WireShape.Command.Arguments
import WireShape.Registry.Builtins
import WireShape.Registry.Document
import WireShape.Text.Basic

/-! # Running the command

A run loads the registry, settles the settings, carries out its task and gives the text to print.
Flags override the settings of the document, which override the defaults. -/

namespace WireShape.Command

inductive Failure
  | registry (cause : LoadError)
  | settings (cause : Error)
  | resolve (source : String) (cause : Error)
  | describe (name : String) (cause : Error)
deriving DecidableEq, Repr

namespace Failure

def kind : Failure → String
  | .registry _ => "Registry"
  | .settings _ => "Settings"
  | .resolve .. => "Resolve"
  | .describe .. => "Describe"

def message : Failure → String
  | .registry _ => "Failed to load registry"
  | .settings _ => "Invalid resolver settings"
  | .resolve source _ => "Failed to resolve '" ++ source ++ "'"
  | .describe name _ => "Failed to describe '" ++ name ++ "'"

/-- The errors beneath, outermost first. -/
def causes : Failure → List Error
  | .registry cause => cause.toError :: cause.causes
  | .settings cause | .resolve _ cause | .describe _ cause => [cause]

end Failure

/-- The settings of a registry with those of the command line in their place. -/
def effectiveSettings (a : Arguments) (s : Settings) : Settings where
  maxDepth := a.maxDepth.getD s.maxDepth
  adapterPolicy := a.adapterPolicy.getD s.adapterPolicy

/-- The registry that a run starts from, with the document loaded. -/
def loadRegistry (readText : String → Option String) (a : Arguments) :
    Telling LoadError Registry :=
  let r : Registry := if a.noBuiltins then {} else .builtins
  match a.registry with
  | none => return r
  | some path => r.loadFile readText path

/-- The registry of a run, with its settings. -/
def prepare (readText : String → Option String) (a : Arguments) : Telling Failure Registry := do
  let r ← (loadRegistry readText a).mapError .registry
  let r ← (r.setSettings (effectiveSettings a r.settings)).mapError Failure.settings
  Telling.tell [.running r.size r.settings]
  return r

/-- A resolved type expression. -/
structure Resolved where
  type : TypeExpr
  shape : Shape
  /-- The adapters met, if they are asked for. -/
  adapters : Option (List Registration)
deriving DecidableEq, Repr

namespace Resolved

def toJson (r : Resolved) : Json :=
  .object ([("type", r.type.toJson), ("shape", r.shape.toJson)] ++
    match r.adapters with
    | none => []
    | some adapters => [("adapters", .array (adapters.map Registration.toJson))])

def lines (r : Resolved) : List String :=
  (r.type.render ++ ": " ++ r.shape.render) ::
    (r.adapters.getD []).map fun a =>
      "  adapter " ++ a.adapted.text ++ " -> " ++ a.adaptingType.render ++ ": " ++ a.shape.render

end Resolved

def descriptionLines (d : Description) : List String :=
  (d.name.text ++ " (" ++ word d.kind ++ "): " ++ d.shape.render) ::
    d.properties.map fun p =>
      "  " ++ p.name ++ ": " ++ p.type.render ++ " => " ++ p.shape.render

/-- The text of `lines`, without white space at the end. -/
def textOfLines (lines : List String) : String :=
  String.ofList (Text.trimEnd (String.join (lines.map (· ++ "\n"))).toList)

def render {α : Type} (format : OutputFormat) (toJson : α → Json) (text : List α → String)
    (results : List α) : String :=
  match format with
  | .json => (Json.array (results.map toJson)).pretty
  | .text => text results

def resolveType (r : Registry) (report : Bool) (source : String) : Telling Failure Resolved := do
  let t ← (TypeExpr.parseOrError source).mapError (Failure.resolve source)
  let resolution ← (r.resolver.tellReport t).mapError (.resolve source)
  return {
    type := t
    shape := resolution.shape
    adapters := if report then some resolution.adapters else none }

def describeType (r : Registry) (name : String) : Telling Failure Description :=
  (r.describe ⟨name⟩).mapError (.describe name)

def run (readText : String → Option String) (a : Arguments) : Telling Failure String := do
  let r ← prepare readText a
  match a.task with
  | .resolve types report =>
    let results ← types.mapM (resolveType r report)
    return render a.format Resolved.toJson (fun rs => textOfLines (rs.flatMap Resolved.lines)) results
  | .describe names =>
    let results ← names.mapM (describeType r)
    return render a.format Description.toJson
      (fun ds => textOfLines (ds.flatMap descriptionLines)) results
  | .list =>
    return render a.format (fun n => .string n.text)
      (fun ns => "\n".intercalate (ns.map TypeName.text)) r.names

end WireShape.Command
