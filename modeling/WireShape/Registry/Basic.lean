import WireShape.Event
import WireShape.Registry.Declaration

/-! # Registries

Declarations by qualified name, with the settings that come with them. -/

namespace WireShape

structure Registry where
  declarations : NameTable Declaration := .empty
  settings : Settings := {}
deriving Inhabited

namespace Registry

def get? (r : Registry) (name : TypeName) : Option Declaration :=
  r.declarations.get? name.text

/-- The declaration of `name`, which has to be there. -/
def require (r : Registry) (name : TypeName) : Except Error Declaration :=
  match r.get? name with
  | some d => .ok d
  | none => .error (.notRegistered name.text)

/-- The type of the uses of `name` without arguments; `name` has to be registered. -/
def declaredType (r : Registry) (name : TypeName) : Except Error DeclaredType := do
  let _ ← r.require name
  return ⟨name, []⟩

/-- The registry with `d` for `name`, in the place of what it had before. -/
def insert (r : Registry) (name : TypeName) (d : Declaration) : Registry :=
  { r with declarations := r.declarations.insert name.text d }

def erase (r : Registry) (name : TypeName) : Registry :=
  { r with declarations := r.declarations.erase name.text }

/-- Registers `d`, and tells if there is a declaration that it replaces, which is returned. -/
def replace (r : Registry) (name : TypeName) (d : Declaration) :
    Option Declaration × Registry × List Event :=
  let previous := r.get? name
  (previous, r.insert name d, if previous.isSome then [.replaced name] else [])

/-- `replace` where nobody asks for what was there before. -/
def register (r : Registry) (name : TypeName) (d : Declaration) : Registry × List Event :=
  (r.replace name d).2

/-- The registry with other settings, if they are valid. -/
def setSettings (r : Registry) (settings : Settings) : Except Error Registry := do
  settings.validate
  return { r with settings }

def names (r : Registry) : List TypeName :=
  r.declarations.names.map (⟨·⟩)

def size (r : Registry) : Nat := r.declarations.size

def isEmpty (r : Registry) : Bool := r.size == 0

theorem get?_insert (r : Registry) (name name' : TypeName) (d : Declaration) :
    (r.insert name d).get? name' = if name' = name then some d else r.get? name' := by
  unfold insert get?
  rw [NameTable.get?_insert]
  cases name; cases name'
  simp

theorem get?_erase (r : Registry) (name name' : TypeName) :
    (r.erase name).get? name' = if name' = name then none else r.get? name' := by
  unfold erase get?
  rw [NameTable.get?_erase]
  cases name; cases name'
  simp

end Registry

end WireShape
