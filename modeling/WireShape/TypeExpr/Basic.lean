import WireShape.Keyword
import WireShape.TypeName

/-! # Type expressions

The types that occur in declarations, and their written form: `int`, `byte[]`,
`java.util.Map<java.lang.String, T[]>`, `? extends com.example.Animal`. -/

namespace WireShape

inductive PrimitiveKind
  | boolean | byte | short | int | long | char | float | double
deriving DecidableEq, Repr

instance : Keyword PrimitiveKind where
  all := [.boolean, .byte, .short, .int, .long, .char, .float, .double]
  word
    | .boolean => "boolean"
    | .byte => "byte"
    | .short => "short"
    | .int => "int"
    | .long => "long"
    | .char => "char"
    | .float => "float"
    | .double => "double"

/-- Types that have no values worth telling apart. -/
inductive OtherKind
  | void | null | error | intersection | union
deriving DecidableEq, Repr

instance : Keyword OtherKind where
  all := [.void, .null, .error, .intersection, .union]
  word
    | .void => "void"
    | .null => "null"
    | .error => "error"
    | .intersection => "intersection"
    | .union => "union"

inductive TypeExpr
  | primitive (kind : PrimitiveKind)
  /-- A use of a declaration; a use without arguments may also stand for a type parameter. -/
  | declared (name : TypeName) (arguments : List TypeExpr)
  | array (component : TypeExpr)
  /-- A type parameter with its upper bound. -/
  | parameter (name : String) (bound : Option TypeExpr)
  /-- A `?` argument with its upper bound. -/
  | wildcard (bound : Option TypeExpr)
  | other (kind : OtherKind)
deriving Repr, Inhabited

/-- A use of a declaration with its type arguments. -/
structure DeclaredType where
  name : TypeName
  arguments : List TypeExpr
deriving Repr, Inhabited

namespace TypeExpr

mutual

def decEq : (s t : TypeExpr) → Decidable (s = t)
  | .primitive a, .primitive b =>
    if h : a = b then isTrue (by rw [h]) else isFalse (by simp [h])
  | .declared m as, .declared n bs =>
    if h : m = n then
      match decEqList as bs with
      | isTrue h' => isTrue (by rw [h, h'])
      | isFalse h' => isFalse (by simp [h'])
    else isFalse (by simp [h])
  | .array s, .array t =>
    match decEq s t with
    | isTrue h => isTrue (by rw [h])
    | isFalse h => isFalse (by simp [h])
  | .parameter m none, .parameter n none =>
    if h : m = n then isTrue (by rw [h]) else isFalse (by simp [h])
  | .parameter m (some s), .parameter n (some t) =>
    if h : m = n then
      match decEq s t with
      | isTrue h' => isTrue (by rw [h, h'])
      | isFalse h' => isFalse (by simp [h'])
    else isFalse (by simp [h])
  | .parameter _ none, .parameter _ (some _) => isFalse (by simp)
  | .parameter _ (some _), .parameter _ none => isFalse (by simp)
  | .wildcard none, .wildcard none => isTrue rfl
  | .wildcard (some s), .wildcard (some t) =>
    match decEq s t with
    | isTrue h => isTrue (by rw [h])
    | isFalse h => isFalse (by simp [h])
  | .wildcard none, .wildcard (some _) => isFalse (by simp)
  | .wildcard (some _), .wildcard none => isFalse (by simp)
  | .other a, .other b =>
    if h : a = b then isTrue (by rw [h]) else isFalse (by simp [h])
  | .primitive _, .declared .. | .primitive _, .array _ | .primitive _, .parameter ..
  | .primitive _, .wildcard _ | .primitive _, .other _
  | .declared .., .primitive _ | .declared .., .array _ | .declared .., .parameter ..
  | .declared .., .wildcard _ | .declared .., .other _
  | .array _, .primitive _ | .array _, .declared .. | .array _, .parameter ..
  | .array _, .wildcard _ | .array _, .other _
  | .parameter .., .primitive _ | .parameter .., .declared .. | .parameter .., .array _
  | .parameter .., .wildcard _ | .parameter .., .other _
  | .wildcard _, .primitive _ | .wildcard _, .declared .. | .wildcard _, .array _
  | .wildcard _, .parameter .. | .wildcard _, .other _
  | .other _, .primitive _ | .other _, .declared .. | .other _, .array _
  | .other _, .parameter .. | .other _, .wildcard _ => isFalse (by simp)

def decEqList : (as bs : List TypeExpr) → Decidable (as = bs)
  | [], [] => isTrue rfl
  | [], _ :: _ => isFalse (by simp)
  | _ :: _, [] => isFalse (by simp)
  | a :: as, b :: bs =>
    match decEq a b, decEqList as bs with
    | isTrue h, isTrue h' => isTrue (by rw [h, h'])
    | isFalse h, _ => isFalse (by simp [h])
    | _, isFalse h => isFalse (by simp [h])

end

instance : DecidableEq TypeExpr := decEq

mutual

/-- The written form. A type parameter is written without its bound. -/
def render : TypeExpr → String
  | .primitive kind => word kind
  | .declared name [] => name.text
  | .declared name (a :: as) => name.text ++ "<" ++ a.render ++ renderTail as ++ ">"
  | .array component => component.render ++ "[]"
  | .parameter name _ => name
  | .wildcard none => "?"
  | .wildcard (some bound) => "? extends " ++ bound.render
  | .other kind => word kind

def renderTail : List TypeExpr → String
  | [] => ""
  | a :: as => ", " ++ a.render ++ renderTail as

end

instance : ToString TypeExpr := ⟨render⟩

/-- Induction on a type expression, with a hypothesis for each argument and for the bound, if there
is one. -/
theorem induction {P : TypeExpr → Prop} (primitive : ∀ kind, P (.primitive kind))
    (declared : ∀ name arguments, (∀ a ∈ arguments, P a) → P (.declared name arguments))
    (array : ∀ component, P component → P (.array component))
    (parameter : ∀ name bound, (∀ t ∈ bound, P t) → P (.parameter name bound))
    (wildcard : ∀ bound, (∀ t ∈ bound, P t) → P (.wildcard bound))
    (other : ∀ kind, P (.other kind)) (t : TypeExpr) : P t := by
  refine TypeExpr.rec (motive_1 := P) (motive_2 := fun as => ∀ a ∈ as, P a)
    (motive_3 := fun bound => ∀ t ∈ bound, P t) primitive declared array parameter wildcard other
    ?_ ?_ ?_ ?_ t
  · exact fun a ha => nomatch ha
  · intro a as iha ihas b hb
    rcases List.mem_cons.mp hb with rfl | hb
    · exact iha
    · exact ihas b hb
  · exact fun t ht => nomatch ht
  · intro t ih t' ht'
    exact Option.some.inj ht' ▸ ih

/-- A use of `name` without arguments. -/
abbrev raw (name : TypeName) : TypeExpr := .declared name []

end TypeExpr

deriving instance DecidableEq for DeclaredType

namespace DeclaredType

abbrev toTypeExpr (d : DeclaredType) : TypeExpr := .declared d.name d.arguments

def isRaw (d : DeclaredType) : Bool := d.arguments.isEmpty

/-- What a cycle is recognised by: the name, whatever the arguments. A use of the empty name is known
by its written form. -/
def identity (d : DeclaredType) : String :=
  if d.name.text = "" then d.toTypeExpr.render else d.name.text

theorem identity_of_ne_empty {name : TypeName} (h : name.text ≠ "") (arguments : List TypeExpr) :
    identity ⟨name, arguments⟩ = name.text := if_neg h

end DeclaredType

instance : ToString DeclaredType := ⟨fun d => d.toTypeExpr.render⟩

/-- A type parameter of a declaration. -/
structure TypeParameter where
  name : String
  bound : Option TypeExpr
deriving DecidableEq, Repr, Inhabited

namespace TypeParameter

/-- What a use without arguments binds the parameter to. -/
def toTypeExpr (p : TypeParameter) : TypeExpr := .parameter p.name p.bound

def render (p : TypeParameter) : String :=
  match p.bound with
  | none => p.name
  | some bound => p.name ++ " extends " ++ bound.render

end TypeParameter

instance : ToString TypeParameter := ⟨TypeParameter.render⟩

end WireShape
