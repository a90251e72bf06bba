import WireShape.Event

/-! # Arguments of the command

The command line is read from left to right. An option's value may be attached to it or follow it; a
value that follows is only looked at when something else is acted on, so a request for help may come
first. Options stand before or behind the name of the command; what stands behind it wins. -/

namespace WireShape.Command

inductive OutputFormat
  | json
  | text
deriving DecidableEq, Repr

instance : Keyword OutputFormat where
  all := [.json, .text]
  word
    | .json => "json"
    | .text => "text"

inductive Task
  | resolve (types : List String) (report : Bool)
  | describe (names : List String)
  | list
deriving DecidableEq, Repr

structure Arguments where
  registry : Option String := none
  noBuiltins : Bool := false
  maxDepth : Option Nat := none
  adapterPolicy : Option AdapterPolicy := none
  format : OutputFormat := .text
  logLevel : Level := .warn
  task : Task
deriving DecidableEq, Repr

/-- Why no run comes of the arguments. -/
inductive Usage
  | help | version
  | invalid
deriving DecidableEq, Repr

/-- An option that has a value. -/
inductive Setting
  | registry | maxDepth | adapterPolicy | format | logLevel
deriving DecidableEq, Repr

instance : Keyword Setting where
  all := [.registry, .maxDepth, .adapterPolicy, .format, .logLevel]
  word
    | .registry => "registry"
    | .maxDepth => "max-depth"
    | .adapterPolicy => "adapter-policy"
    | .format => "format"
    | .logLevel => "log-level"

/-- The options given on one side of the command's name. -/
structure Options where
  registry : Option String := none
  noBuiltins : Bool := false
  maxDepth : Option Nat := none
  adapterPolicy : Option AdapterPolicy := none
  format : Option OutputFormat := none
  logLevel : Option Level := none
deriving DecidableEq, Repr

/-- A natural number below `2 ^ 64` in decimal digits, with or without a plus sign. -/
def word64? (s : String) : Option Nat :=
  let digits : List Char := match s.toList with
    | '+' :: cs => cs
    | cs => cs
  if digits.isEmpty then none else Text.word64? digits

/-- A policy by its word, written with hyphens. -/
def adapterPolicy? (s : String) : Option AdapterPolicy :=
  (Keyword.all : List AdapterPolicy).find? fun p =>
    (word p).toList.map (fun c => if c = '_' then '-' else c) == s.toList

namespace Options

/-- Gives `setting` a value. It has none before, and the value is one that it can have. -/
def set (o : Options) (setting : Setting) (value : String) : Option Options :=
  match setting with
  | .registry => if o.registry.isSome ∨ value = "" then none else some { o with registry := value }
  | .maxDepth =>
    if o.maxDepth.isSome then none else (word64? value).map fun n => { o with maxDepth := n }
  | .adapterPolicy =>
    if o.adapterPolicy.isSome then none
    else (adapterPolicy? value).map fun p => { o with adapterPolicy := p }
  | .format =>
    if o.format.isSome then none
    else (Keyword.ofWord? value).map fun (f : OutputFormat) => { o with format := f }
  | .logLevel =>
    if o.logLevel.isSome then none
    else (Keyword.ofWord? value).map fun (l : Level) => { o with logLevel := l }

/-- The options of both sides. What stands behind the command's name wins. -/
def within (outer inner : Options) : Options where
  registry := inner.registry.or outer.registry
  noBuiltins := outer.noBuiltins || inner.noBuiltins
  maxDepth := inner.maxDepth.or outer.maxDepth
  adapterPolicy := inner.adapterPolicy.or outer.adapterPolicy
  format := inner.format.or outer.format
  logLevel := inner.logLevel.or outer.logLevel

def toArguments (o : Options) (task : Task) : Arguments where
  registry := o.registry
  noBuiltins := o.noBuiltins
  maxDepth := o.maxDepth
  adapterPolicy := o.adapterPolicy
  format := o.format.getD .text
  logLevel := o.logLevel.getD .warn
  task

end Options

/-! ### Reading -/

inductive Verb
  | resolve | describe | list
deriving DecidableEq, Repr

instance : Keyword Verb where
  all := [.resolve, .describe, .list]
  word
    | .resolve => "resolve"
    | .describe => "describe"
    | .list => "list"

/-- How far one side of the command's name has been read. -/
structure Progress where
  options : Options := {}
  /-- An option whose value, if there is one yet, has not been looked at. -/
  pending : Option (Setting × Option String) := none
  report : Bool := false
  operands : List String := []

inductive Token
  | long (name : String) (value : Option String)
  | short (letter : Char) (value : Option String)
  | endOfOptions
  | plain (text : String)

namespace Token

def ofArgument (argument : String) : Token :=
  match argument.toList with
  | ['-', '-'] => .endOfOptions
  | '-' :: '-' :: cs =>
    .long (String.ofList (cs.takeWhile (· ≠ '=')))
      (match cs.dropWhile (· ≠ '=') with
        | [] => none
        | _ :: value => some (String.ofList value))
  | '-' :: c :: cs =>
    .short c (match cs with
      | [] => none
      | '=' :: value => some (String.ofList value)
      | value => some (String.ofList value))
  | _ => .plain argument

end Token

namespace Progress

def settle (p : Progress) : Except Usage Progress :=
  match p.pending with
  | none => .ok p
  | some (_, none) => .error .invalid
  | some (setting, some value) =>
    match p.options.set setting value with
    | some options => .ok { p with options, pending := none }
    | none => .error .invalid

/-- Takes up `setting`, with its value if one is attached. -/
def takeSetting (p : Progress) (setting : Setting) (value : Option String) :
    Except Usage Progress := do
  let p ← p.settle
  match value with
  | none => return { p with pending := some (setting, none) }
  | some value => settle { p with pending := some (setting, some value) }

/-- Ends reading for `usage`, unless the pending option is wrong. -/
def stop (p : Progress) (usage : Usage) : Except Usage Progress := do
  let _ ← p.settle
  throw usage

/-- Takes up the option `token`; `verb` is the command's name if it stands before. -/
def takeOption (p : Progress) (verb : Option Verb) : Token → Except Usage Progress
  | .long name value =>
    match (Keyword.ofWord? name : Option Setting), value with
    | some setting, value => p.takeSetting setting value
    | none, none =>
      if name = "help" then p.stop .help
      else if name = "version" ∧ verb = none then p.stop .version
      else if name = "no-builtins" then do
        let p ← p.settle
        if p.options.noBuiltins then throw .invalid
        return { p with options := { p.options with noBuiltins := true } }
      else if name = "report" ∧ verb = some .resolve then do
        let p ← p.settle
        if p.report then throw .invalid
        return { p with report := true }
      else throw .invalid
    | none, some _ => throw .invalid
  | .short letter value =>
    if letter = 'r' then p.takeSetting .registry value
    else if letter = 'h' then p.stop .help
    else if letter = 'V' ∧ verb = none then p.stop .version
    else throw .invalid
  | .endOfOptions | .plain _ => throw .invalid

def takeValue (p : Progress) (setting : Setting) (text : String) : Progress :=
  { p with pending := some (setting, some text) }

def takeOperand (p : Progress) (verb : Verb) (text : String) : Except Usage Progress := do
  let p ← p.settle
  if verb = .list then throw .invalid
  return { p with operands := p.operands ++ [text] }

end Progress

/-- Reads what stands behind the name of the command. -/
def readInner (verb : Verb) (p : Progress) : List String → Except Usage Progress
  | [] => p.settle
  | argument :: arguments =>
    match Token.ofArgument argument, p.pending with
    | .plain text, some (setting, none) => readInner verb (p.takeValue setting text) arguments
    | .plain text, _ => do readInner verb (← p.takeOperand verb text) arguments
    | .endOfOptions, some (_, none) => throw .invalid
    | .endOfOptions, _ => do (← arguments.foldlM (·.takeOperand verb ·) p).settle
    | token, _ => do readInner verb (← p.takeOption (some verb) token) arguments

def taskOf (verb : Verb) (p : Progress) : Except Usage Task :=
  match verb with
  | .list => .ok .list
  | .resolve => if p.operands = [] then .error .invalid else .ok (.resolve p.operands p.report)
  | .describe => if p.operands = [] then .error .invalid else .ok (.describe p.operands)

/-- The answer to `help` with the names of commands behind it. -/
def helpFor : List String → Usage
  | [] => .help
  | [name] =>
    if name = "help" ∨ (Keyword.ofWord? name : Option Verb).isSome then .help else .invalid
  | _ => .invalid

/-- Reads what stands before the name of the command, and then the rest. -/
def readOuter (p : Progress) : List String → Except Usage Arguments
  | [] => .error .invalid
  | argument :: arguments =>
    match Token.ofArgument argument, p.pending with
    | .plain text, some (setting, none) => readOuter (p.takeValue setting text) arguments
    | .plain text, _ =>
      if text = "help" then .error (helpFor arguments)
      else match (Keyword.ofWord? text : Option Verb) with
        | none => .error .invalid
        | some verb => do
          let inner ← readInner verb {} arguments
          let task ← taskOf verb inner
          let outer ← p.settle
          return (outer.options.within inner.options).toArguments task
    | .endOfOptions, _ => .error .invalid
    | token, _ => do readOuter (← p.takeOption none token) arguments

def Arguments.ofList (words : List String) : Except Usage Arguments :=
  readOuter {} words

end WireShape.Command
