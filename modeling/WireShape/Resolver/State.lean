import WireShape.Event
import WireShape.Environment.Basic

/-! # The state of a resolution

One state belongs to one resolution from the top. It holds the identities of the types in progress,
the adapters met so far, and the events. Types are resolved in a context: a position, and how deep it
lies below the top. -/

namespace WireShape

/-- An adapter met while its type was resolved. -/
structure Registration where
  adapted : TypeName
  adaptingType : TypeExpr
  shape : Shape
deriving DecidableEq, Repr

/-- Where a type is resolved. -/
structure Context where
  position : Position := .value
  /-- The number of contexts between this one and the top. -/
  depth : Nat := 0
deriving DecidableEq, Repr, Inhabited

namespace Context

/-- The context one level deeper, at `position`. -/
def derive (c : Context) (position : Position) : Context :=
  { position, depth := c.depth + 1 }

/-- Whether the context lies deeper than `limit`. -/
def exceeds (c : Context) (limit : Nat) : Bool := limit < c.depth

def wrap (c : Context) (shape : Shape) : Shape := c.position.wrap shape

end Context

structure State where
  /-- The identities of the types in progress, innermost first. -/
  stack : List String := []
  adapters : Array Registration := #[]
  events : Array Event := #[]
deriving Repr, Inhabited

/-- A type lies deeper than the settings allow. -/
structure LimitExceeded where
  type : TypeExpr
  depth : Nat
deriving DecidableEq, Repr

def LimitExceeded.toError (e : LimitExceeded) : Error :=
  .recursionLimit e.type.render e.depth

/-- Work on a state that may meet the depth limit. -/
abbrev Resolving := ExceptT LimitExceeded (StateM State)

namespace State

def note (s : State) (e : Event) : State :=
  { s with events := s.events.push e }

def register (s : State) (r : Registration) : State :=
  { s with adapters := s.adapters.push r }

def enter (s : State) (identity : String) (depth : Nat) : State :=
  { s.note (.entering identity depth) with stack := identity :: s.stack }

def leave (s : State) : State :=
  match s.stack with
  | [] => s
  | identity :: stack => { s.note (.leaving identity) with stack }

end State

namespace Resolving
variable {α : Type}

def note (e : Event) : Resolving Unit :=
  modify fun s => s.note e

def register (r : Registration) : Resolving Unit :=
  modify fun s => s.register r

def isInProgress (identity : String) : Resolving Bool := do
  return (← get).stack.contains identity

/-- `body` inside a frame for `identity`. The frame is closed however `body` ends. -/
def inFrame (identity : String) (depth : Nat) (body : Resolving α) : Resolving α :=
  ExceptT.mk do
    modify fun s => s.enter identity depth
    let result ← body.run
    modify State.leave
    return result

end Resolving

end WireShape
