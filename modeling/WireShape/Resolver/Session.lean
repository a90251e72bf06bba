import WireShape.Resolver.Basic

/-! # Sessions

Walking by hand through the contexts and frames of one state. Each level that is opened remembers what
it was opened in; leaving it goes back there. -/

namespace WireShape

/-- An open level. -/
inductive Scope
  /-- A context derived from `outer`. -/
  | derived (outer : Context)
  | frame
deriving DecidableEq, Repr

/-- One state, the context reached, and the levels open around it. -/
structure Session where
  context : Context := {}
  /-- The open levels, innermost first. -/
  scopes : List Scope := []
  state : State := {}
deriving Repr, Inhabited

namespace Session

def derive (s : Session) (position : Position) : Session :=
  { s with context := s.context.derive position, scopes := .derived s.context :: s.scopes }

def enter (s : Session) (identity : String) : Session :=
  { s with scopes := .frame :: s.scopes, state := s.state.enter identity s.context.depth }

/-- Leaves the innermost level, if one is open. -/
def leave? (s : Session) : Option Session :=
  match s.scopes with
  | [] => none
  | .derived outer :: scopes => some { s with context := outer, scopes }
  | .frame :: scopes => some { s with scopes, state := s.state.leave }

def register (s : Session) (r : Registration) : Session :=
  { s with state := s.state.register r }

def resolve (s : Session) (r : Resolver) (t : TypeExpr) : Except LimitExceeded Shape × Session :=
  let (result, state) := (r.resolve t s.context).run s.state
  (result, { s with state })

/-- The identities in progress, outermost first. -/
def stack (s : Session) : List String := s.state.stack.reverse

def isInProgress (s : Session) (identity : String) : Bool := s.state.stack.contains identity

end Session

end WireShape
