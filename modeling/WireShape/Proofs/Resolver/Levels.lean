import WireShape.Proofs.Resolver.SharedState
import WireShape.Resolver.Session

/-! # Levels of a session

A history of a session tells which of its levels are open. They alone decide where the session stands:
the frames among them are the stack, the derived contexts among them give depth and position. So
leaving a level goes back to where the session stood when the level was opened, whatever was done
since, and only the adapters stay. -/

namespace WireShape.Session

/-- One thing done in a session. Where no level is open, leaving does nothing. -/
inductive Action
  | derive (position : Position)
  | enter (identity : String)
  | leave
  | register (registration : Registration)
  /-- A whole resolution, however it ends. -/
  | resolve (resolver : Resolver) (type : TypeExpr)

def act (s : Session) : Action → Session
  | .derive position => s.derive position
  | .enter identity => s.enter identity
  | .leave => s.leave?.getD s
  | .register registration => s.register registration
  | .resolve resolver type => (s.resolve resolver type).2

/-- The session after a history, which has the latest action first. -/
def after : List Action → Session
  | [] => {}
  | action :: earlier => (after earlier).act action

/-- An open level, with the history before it was opened. -/
inductive Level
  | derived (position : Position) (before : List Action)
  | frame (identity : String) (before : List Action)

namespace Level

def before : Level → List Action
  | derived _ before | frame _ before => before

def position? : Level → Option Position
  | derived position _ => some position
  | frame .. => none

def identity? : Level → Option String
  | derived .. => none
  | frame identity _ => some identity

end Level

/-- The levels open after a history, innermost first. -/
def levels : List Action → List Level
  | [] => []
  | .derive position :: earlier => .derived position earlier :: levels earlier
  | .enter identity :: earlier => .frame identity earlier :: levels earlier
  | .leave :: earlier => (levels earlier).tail
  | .register _ :: earlier | .resolve .. :: earlier => levels earlier

variable {h later : List Action} {level : Level} {outer : List Level}

/-- The context reached through open levels. -/
def contextOf : List Level → Context
  | [] => {}
  | .derived position _ :: outer => (contextOf outer).derive position
  | .frame .. :: outer => contextOf outer

/-- What a session remembers of its open levels. -/
def scopesOf : List Level → List Scope
  | [] => []
  | .derived .. :: outer => .derived (contextOf outer) :: scopesOf outer
  | .frame .. :: outer => .frame :: scopesOf outer

theorem contextOf_depth (levels : List Level) :
    (contextOf levels).depth = (levels.filterMap Level.position?).length := by
  induction levels with
  | nil => rfl
  | cons level outer ih =>
    cases level with
    | derived position before => exact congrArg (· + 1) ih
    | frame identity before => exact ih

theorem contextOf_position (levels : List Level) :
    (contextOf levels).position = (levels.filterMap Level.position?).head?.getD .value := by
  induction levels with
  | nil => rfl
  | cons level outer ih =>
    cases level with
    | derived position before => rfl
    | frame identity before => exact ih

/-- A session stands where the open levels lead. -/
structure Stands (s : Session) (levels : List Level) : Prop where
  context : s.context = contextOf levels
  scopes : s.scopes = scopesOf levels
  stack : s.state.stack = levels.filterMap Level.identity?

namespace Stands
variable {s : Session} {levels : List Level}

theorem derive (hs : s.Stands levels) (position : Position) (before : List Action) :
    (s.derive position).Stands (.derived position before :: levels) where
  context := congrArg (·.derive position) hs.context
  scopes := by
    show .derived s.context :: s.scopes = _
    rw [hs.context, hs.scopes]
    rfl
  stack := hs.stack

theorem enter (hs : s.Stands levels) (identity : String) (before : List Action) :
    (s.enter identity).Stands (.frame identity before :: levels) where
  context := hs.context
  scopes := congrArg (Scope.frame :: ·) hs.scopes
  stack := congrArg (identity :: ·) hs.stack

theorem leave (hs : s.Stands levels) : (s.act .leave).Stands levels.tail := by
  match levels with
  | [] =>
    have hleave : s.leave? = none := by rw [leave?, hs.scopes]; rfl
    rw [act, hleave]
    exact hs
  | .derived position before :: outer =>
    have hleave : s.leave? = some { s with context := contextOf outer, scopes := scopesOf outer } := by
      rw [leave?, hs.scopes]
      rfl
    rw [act, hleave]
    exact ⟨rfl, rfl, hs.stack⟩
  | .frame identity before :: outer =>
    have hleave : s.leave? = some { s with scopes := scopesOf outer, state := s.state.leave } := by
      rw [leave?, hs.scopes]
      rfl
    -- The frame pops whatever is innermost on the stack, which is its own identity.
    have hstack : s.state.stack = identity :: outer.filterMap Level.identity? := hs.stack
    rw [act, hleave, State.leave_eq hstack]
    exact ⟨hs.context, rfl, rfl⟩

theorem resolve (hs : s.Stands levels) (r : Resolver) (t : TypeExpr) :
    (s.resolve r t).2.Stands levels where
  context := hs.context
  scopes := hs.scopes
  stack := (Resolver.run_resolve_alone r t s.context s.state).2.1.trans hs.stack

end Stands

/-- After every history the session `Stands` where its open `levels` lead. -/
theorem stands_after (h : List Action) : (after h).Stands (levels h) := by
  induction h with
  | nil => exact ⟨rfl, rfl, rfl⟩
  | cons action earlier ih =>
    cases action with
    | derive position => exact ih.derive position earlier
    | enter identity => exact ih.enter identity earlier
    | leave => exact ih.leave
    | register registration => exact ⟨ih.context, ih.scopes, ih.stack⟩
    | resolve r t => exact ih.resolve r t

theorem stack_after (h : List Action) :
    (after h).stack = ((levels h).filterMap Level.identity?).reverse :=
  congrArg List.reverse (stands_after h).stack

theorem exists_adapters_act (s : Session) (action : Action) :
    ∃ new, (s.act action).state.adapters = s.state.adapters ++ new := by
  cases action with
  | derive position => exact ⟨#[], Array.append_empty.symm⟩
  | enter identity => exact ⟨#[], Array.append_empty.symm⟩
  | leave =>
    refine ⟨#[], ?_⟩
    rw [Array.append_empty, act, leave?]
    split
    · rfl
    · rfl
    · show s.state.leave.adapters = s.state.adapters
      unfold State.leave
      split <;> rfl
  | register registration => exact ⟨#[registration], rfl⟩
  | resolve r t => exact ⟨_, (Resolver.run_resolve_alone r t s.context s.state).2.2⟩

theorem exists_adapters_after (h later : List Action) :
    ∃ new, (after (later ++ h)).state.adapters = (after h).state.adapters ++ new := by
  induction later with
  | nil => exact ⟨#[], Array.append_empty.symm⟩
  | cons action later ih =>
    obtain ⟨new, hnew⟩ := ih
    obtain ⟨new', hnew'⟩ := exists_adapters_act (after (later ++ h)) action
    refine ⟨new ++ new', ?_⟩
    rw [List.cons_append, after, hnew', hnew, Array.append_assoc]

theorem levels_before (hlevel : level :: outer <:+ levels h) : levels level.before = outer := by
  induction h with
  | nil => cases List.suffix_nil.mp hlevel
  | cons action earlier ih =>
    -- Either `action` has opened the level, or the level was open before it already.
    cases action with
    | derive position =>
      rcases List.suffix_cons_iff.mp hlevel with heq | hlevel
      · cases heq
        rfl
      · exact ih hlevel
    | enter identity =>
      rcases List.suffix_cons_iff.mp hlevel with heq | hlevel
      · cases heq
        rfl
      · exact ih hlevel
    | leave => exact ih (hlevel.trans (List.tail_suffix _))
    | register registration => exact ih hlevel
    | resolve r t => exact ih hlevel

theorem levels_leaves (h : List Action) (n : Nat) :
    levels (List.replicate n .leave ++ h) = (levels h).drop n := by
  induction n with
  | zero => rfl
  | succ n ih =>
    rw [List.replicate_succ, List.cons_append, levels, ih, List.tail_drop]

/-- After every history the open `levels` decide: the stack holds their identities, `depth` counts
their positions, and `position` is the innermost of them. `leave` goes back to the context and the
stack of `level.before`, `adapters` grows at its end only, and without open levels the stack is
empty. -/
theorem levels_decide (h : List Action) :
    (after h).stack = ((levels h).filterMap Level.identity?).reverse ∧
    (after h).context.depth = ((levels h).filterMap Level.position?).length ∧
    (after h).context.position = ((levels h).filterMap Level.position?).head?.getD .value ∧
    (∀ level outer, levels h = level :: outer → levels level.before = outer ∧
      (after (.leave :: h)).context = (after level.before).context ∧
      (after (.leave :: h)).stack = (after level.before).stack) ∧
    (∀ later, ∃ new, (after (later ++ h)).state.adapters = (after h).state.adapters ++ new) ∧
    (levels h = [] → (after h).stack = []) ∧
    (after (List.replicate (levels h).length .leave ++ h)).stack = [] := by
  refine ⟨stack_after h, ?_, ?_, fun level outer hlevel => ?_, exists_adapters_after h, fun hnil => ?_,
    ?_⟩
  · rw [(stands_after h).context, contextOf_depth]
  · rw [(stands_after h).context, contextOf_position]
  · have hsuffix : level :: outer <:+ levels h := ⟨[], hlevel.symm⟩
    have hbefore : levels level.before = outer := levels_before hsuffix
    have hleave : levels (.leave :: h) = levels level.before := by
      rw [levels, hlevel, hbefore, List.tail_cons]
    refine ⟨hbefore, ?_, ?_⟩
    · rw [(stands_after _).context, (stands_after _).context, hleave]
    · rw [stack_after, stack_after, hleave]
  · rw [stack_after, hnil]
    rfl
  · rw [stack_after, levels_leaves, List.drop_length]
    rfl

/-- Inside of a shop, before anything is resolved there. -/
def inShop : List Action := [.enter "Shop", .derive .arrayElement]

/-- Inside of a shop, at the elements of a collection, after a resolution that failed. -/
def failedInShop : List Action :=
  [.resolve (Resolver.orders.environment.resolver 3 .useAdaptingShape) (.raw ⟨"Order"⟩),
    .derive .collectionElement] ++ inShop

theorem levels_decide_failedInShop :
    ((after (.derive .collectionElement :: inShop)).resolve
      (Resolver.orders.environment.resolver 3 .useAdaptingShape) (.raw ⟨"Order"⟩)).1 =
        .error ⟨.raw ⟨"Line"⟩, 4⟩ ∧
    levels failedInShop = .derived .collectionElement inShop :: levels inShop ∧
    (after failedInShop).context.position = .collectionElement ∧
    (after failedInShop).context.depth = 2 ∧
    (after (.leave :: failedInShop)).context = ⟨.arrayElement, 1⟩ ∧
    (after (.leave :: failedInShop)).stack = ["Shop"] := by
  have hlevels : levels failedInShop = .derived .collectionElement inShop :: levels inShop := rfl
  obtain ⟨-, hdepth, hposition, hleave, -⟩ := levels_decide failedInShop
  obtain ⟨-, hcontext, hstack⟩ := hleave _ _ hlevels
  exact ⟨rfl, hlevels, hposition, hdepth, hcontext, hstack⟩

end WireShape.Session
