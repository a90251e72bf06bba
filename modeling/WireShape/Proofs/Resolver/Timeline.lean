import WireShape.Proofs.Resolver.Coarser

/-! # Timelines

What happens to the frames of a resolution, moment after moment: a frame is opened, types are asked for
inside of it one after another, the shape of the adapting type is recorded once it is there, and the
frame is closed. The first type without a shape ends all this, and only open frames are closed then.

The timeline of a resolution is made of the requests in its frames and of the answers to these alone.
Every resolution goes through its timeline: what it tells of its frames and adapters are the moments of
it, and so are the registrations. -/

namespace WireShape

/-- A type that is asked for in a frame. -/
structure Request where
  position : Position
  type : TypeExpr
  /-- Whether the type is an adapting one, the shape of which is recorded. -/
  recorded : Bool

namespace Environment
variable (e : Environment) (d : DeclaredType)

/-- The requests for the types that stand in for `d`. -/
def standIns : List Request :=
  (e.typeHint d).toList.map (⟨.value, ·, false⟩) ++ (e.serializeAs d).toList.map (⟨.value, ·, false⟩)

def adapting : List Request := (e.adapter d).toList.map (⟨.value, ·, true⟩)

/-- The requests for the types that the structure of `d` is made of, which is of no account where
something overrides it. -/
def structuring : List Request :=
  (if e.overrides d then [] else e.structure? d).map fun q => ⟨q.1, q.2, false⟩

/-- All requests in the frame of `d`, in the order in which they are made. -/
def requests : List Request := e.standIns d ++ (e.adapting d ++ e.structuring d)

theorem requests_asked : (e.requests d).map (fun q => (q.position, q.type)) = e.asked d := by
  simp [requests, standIns, adapting, structuring, asked, Function.comp_def]

end Environment

/-- A frame that a resolution opens. -/
structure Frame where
  declared : DeclaredType
  /-- The identities in progress around the frame, innermost first. -/
  outer : List String
  context : Context
deriving DecidableEq

/-- The identities in progress inside of the frame. -/
def Frame.stack (f : Frame) : List String := f.declared.identity :: f.outer

inductive Moment
  | opened (f : Frame)
  /-- The adapting type of the frame's type has its shape. -/
  | adapted (f : Frame) (adapting : TypeExpr) (shape : Shape)
  | closed (f : Frame)
deriving DecidableEq

namespace Moment

/-- What is told of the moment. -/
def event : Moment → Event
  | .opened f => .entering f.declared.identity f.context.depth
  | .adapted f adapting shape => .adapted f.declared adapting shape
  | .closed f => .leaving f.declared.identity

/-- What is recorded at the moment. -/
def registration? : Moment → Option Registration
  | .adapted f adapting shape => some ⟨f.declared.name, adapting, shape⟩
  | .opened _ | .closed _ => none

end Moment

/-- Whether an event tells of a moment. -/
def Event.isMoment : Event → Bool
  | .entering .. | .leaving _ | .adapted .. => true
  | _ => false

/-! ### The timeline of a resolution -/

namespace Resolver

/-- What is found for `t` inside of the frame, at position `p`. -/
def inside (r : Resolver) (f : Frame) (p : Position) (t : TypeExpr) : Except LimitExceeded Shape :=
  ((r.resolve t (f.context.derive p)).run { stack := f.stack }).1

/-- The first failure among `requests`, made one after another inside of the frame. -/
def failure? (r : Resolver) (f : Frame) (requests : List Request) : Option LimitExceeded :=
  requests.findSome? fun q =>
    match r.inside f q.position q.type with
    | .ok _ => none
    | .error e => some e

/-- `a`, unless one of `requests` fails. -/
def unlessFailed {α : Type} (r : Resolver) (f : Frame) (requests : List Request) (a : α) :
    Except LimitExceeded α :=
  match r.failure? f requests with
  | none => .ok a
  | some e => .error e

/-- The moments while `requests` are made one after another inside of the frame, given those of the
types asked for. -/
def moments (r : Resolver) (below : Position → TypeExpr → List Moment) (f : Frame) :
    List Request → List Moment
  | [] => []
  | q :: requests =>
    below q.position q.type ++
      match r.inside f q.position q.type with
      | .ok shape =>
        (if q.recorded then [.adapted f q.type shape] else []) ++ r.moments below f requests
      | .error _ => []

def timelineWithin (r : Resolver) : (levels : Nat) → List String → TypeExpr → Context → List Moment
  | 0, _, _, _ => []
  | levels + 1, S, .declared name arguments, c =>
    let f : Frame := ⟨⟨name, arguments⟩, S, c⟩
    if r.cuts S f.declared then []
    else
      .opened f ::
        r.moments (fun p t => r.timelineWithin levels f.stack t (c.derive p)) f
          (r.environment.requests f.declared) ++
        [.closed f]
  | levels + 1, S, t, c =>
    match t.inner? with
    | some (p, t) => r.timelineWithin levels S t (c.derive p)
    | none => []

/-- The moments of resolving `t` at `c` while the identities of `S` are in progress. -/
def timeline (r : Resolver) (S : List String) (t : TypeExpr) (c : Context) : List Moment :=
  r.timelineWithin (r.settings.maxDepth + 1 - c.depth) S t c

/-- The moments of a type asked for inside of the frame. -/
def timelineInside (r : Resolver) (f : Frame) (p : Position) (t : TypeExpr) : List Moment :=
  r.timeline f.stack t (f.context.derive p)

/-- The moments of the frame. -/
def timelineOf (r : Resolver) (f : Frame) : List Moment :=
  .opened f :: r.moments (r.timelineInside f) f (r.environment.requests f.declared) ++ [.closed f]

variable {r : Resolver} {f : Frame} {q : Request} {requests requests' : List Request}
  {below : Position → TypeExpr → List Moment} {S : List String} {t : TypeExpr} {c : Context}

theorem failure?_eq_none_iff :
    r.failure? f requests = none ↔
      ∀ q ∈ requests, ∃ shape, r.inside f q.position q.type = .ok shape := by
  rw [failure?, List.findSome?_eq_none_iff]
  refine forall₂_congr fun q _ => ?_
  cases r.inside f q.position q.type <;> simp

theorem failure?_append :
    r.failure? f (requests ++ requests') = (r.failure? f requests).or (r.failure? f requests') :=
  List.findSome?_append

theorem failure?_cons_of_ok {shape : Shape} (h : r.inside f q.position q.type = .ok shape) :
    r.failure? f (q :: requests) = r.failure? f requests := by
  rw [failure?, List.findSome?_cons, h]
  rfl

theorem failure?_cons_of_error {e : LimitExceeded} (h : r.inside f q.position q.type = .error e) :
    r.failure? f (q :: requests) = some e := by
  rw [failure?, List.findSome?_cons, h]

theorem moments_cons_of_ok {shape : Shape} (h : r.inside f q.position q.type = .ok shape) :
    r.moments below f (q :: requests) =
      below q.position q.type ++
        ((if q.recorded then [.adapted f q.type shape] else []) ++ r.moments below f requests) := by
  rw [moments, h]

theorem moments_cons_of_error {e : LimitExceeded} (h : r.inside f q.position q.type = .error e) :
    r.moments below f (q :: requests) = below q.position q.type := by
  rw [moments, h, List.append_nil]

theorem moments_append (h : r.failure? f requests = none) :
    r.moments below f (requests ++ requests') =
      r.moments below f requests ++ r.moments below f requests' := by
  induction requests with
  | nil => rfl
  | cons q requests ih =>
    obtain ⟨shape, hq⟩ := failure?_eq_none_iff.mp h q List.mem_cons_self
    rw [failure?_cons_of_ok hq] at h
    rw [List.cons_append, moments_cons_of_ok hq, moments_cons_of_ok hq, ih h]
    simp only [List.append_assoc]

/-- Nothing is asked for after a failure. -/
theorem moments_append_of_failure {e : LimitExceeded} (h : r.failure? f requests = some e) :
    r.moments below f (requests ++ requests') = r.moments below f requests := by
  induction requests with
  | nil => cases h
  | cons q requests ih =>
    cases hq : r.inside f q.position q.type with
    | ok shape =>
      rw [failure?_cons_of_ok hq] at h
      rw [List.cons_append, moments_cons_of_ok hq, moments_cons_of_ok hq, ih h]
    | error e => rw [List.cons_append, moments_cons_of_error hq, moments_cons_of_error hq]

/-! ### One level of a resolution -/

theorem levels_eq (h : c.depth ≤ r.settings.maxDepth) :
    r.settings.maxDepth + 1 - c.depth = r.settings.maxDepth + 1 - (c.depth + 1) + 1 := by
  omega

theorem resolve_of_le (h : c.depth ≤ r.settings.maxDepth) :
    r.resolve t c = (do
      Resolving.note (.resolving t c.position)
      r.shapeOf (fun p u => r.resolve u (c.derive p)) t c) := by
  rw [resolve, levels_eq h]
  rfl

theorem resolve_of_lt (h : r.settings.maxDepth < c.depth) :
    r.resolve t c = (do
      Resolving.note (.limitExceeded t c.depth)
      throw ⟨t, c.depth⟩) := by
  rw [resolve, Nat.sub_eq_zero_of_le h]
  rfl

theorem timeline_of_lt (h : r.settings.maxDepth < c.depth) : r.timeline S t c = [] := by
  rw [timeline, Nat.sub_eq_zero_of_le h, timelineWithin]

theorem timeline_of_cuts {name : TypeName} {arguments : List TypeExpr}
    (hcut : r.cuts S ⟨name, arguments⟩ = true) : r.timeline S (.declared name arguments) c = [] := by
  rcases Nat.lt_or_ge r.settings.maxDepth c.depth with h | h
  · exact timeline_of_lt h
  · rw [timeline, levels_eq h]
    exact if_pos hcut

theorem timeline_declared (h : c.depth ≤ r.settings.maxDepth) {d : DeclaredType}
    (hcut : r.cuts S d = false) : r.timeline S d.toTypeExpr c = r.timelineOf ⟨d, S, c⟩ := by
  rw [timeline, levels_eq h]
  exact if_neg (Bool.eq_false_iff.mp hcut)

theorem timeline_of_le (h : c.depth ≤ r.settings.maxDepth)
    (ht : ∀ name arguments, t ≠ .declared name arguments) :
    r.timeline S t c =
      match t.inner? with
      | some (p, u) => r.timeline S u (c.derive p)
      | none => [] := by
  rw [timeline, levels_eq h, timelineWithin]
  · rfl
  · exact ht

theorem timeline_of_inner (h : c.depth ≤ r.settings.maxDepth) {p : Position} {u : TypeExpr}
    (hu : t.inner? = some (p, u)) : r.timeline S t c = r.timeline S u (c.derive p) := by
  rw [timeline_of_le h, hu]
  rintro name arguments rfl
  cases hu

theorem shapeOf_of_inner {below : Below} {p : Position} {u : TypeExpr} (hu : t.inner? = some (p, u)) :
    r.shapeOf below t c = do return c.wrap (← below p u) := by
  match t with
  | .array _ | .parameter _ (some _) | .wildcard (some _) =>
    cases hu
    rfl
  | .primitive _ | .declared .. | .parameter _ none | .wildcard none | .other _ => cases hu

theorem exists_shapeOf_eq_pure (r : Resolver) (below : Below) (c : Context)
    (ht : ∀ name arguments, t ≠ .declared name arguments) (hinner : t.inner? = none) :
    ∃ shape, r.shapeOf below t c = pure shape := by
  match t with
  | .primitive kind =>
    simp only [shapeOf]
    split
    · exact ⟨_, rfl⟩
    · exact ⟨_, rfl⟩
  | .declared name arguments => exact absurd rfl (ht name arguments)
  | .array _ | .parameter _ (some _) | .wildcard (some _) => cases hinner
  | .parameter _ none | .wildcard none | .other _ => exact ⟨_, rfl⟩

/-- Induction on the calls of a resolution, with the hypothesis for all types resolved directly
below. -/
theorem call_induction (r : Resolver) {P : List String → TypeExpr → Context → Prop}
    (exceeded : ∀ S t c, r.settings.maxDepth < c.depth → P S t c)
    (leaf : ∀ S t c, c.depth ≤ r.settings.maxDepth → (∀ name arguments, t ≠ .declared name arguments) →
      t.inner? = none → P S t c)
    (inner : ∀ S t c p u, c.depth ≤ r.settings.maxDepth → t.inner? = some (p, u) →
      P S u (c.derive p) → P S t c)
    (cycle : ∀ S name arguments c, c.depth ≤ r.settings.maxDepth →
      r.cuts S ⟨name, arguments⟩ = true → P S (.declared name arguments) c)
    (frame : ∀ f : Frame, f.context.depth ≤ r.settings.maxDepth → r.cuts f.outer f.declared = false →
      (∀ p t, P f.stack t (f.context.derive p)) → P f.outer f.declared.toTypeExpr f.context)
    (S : List String) (t : TypeExpr) (c : Context) : P S t c := by
  induction hlevels : r.settings.maxDepth + 1 - c.depth generalizing S t c with
  | zero => exact exceeded S t c (by omega)
  | succ levels ih =>
    have hle : c.depth ≤ r.settings.maxDepth := by omega
    have hbelow (S : List String) (t : TypeExpr) (p : Position) : P S t (c.derive p) := by
      refine ih S t (c.derive p) ?_
      show r.settings.maxDepth + 1 - (c.depth + 1) = levels
      omega
    match t with
    | .declared name arguments =>
      cases hcut : r.cuts S ⟨name, arguments⟩ with
      | true => exact cycle S name arguments c hle hcut
      | false => exact frame ⟨⟨name, arguments⟩, S, c⟩ hle hcut fun p t => hbelow _ t p
    | .array u | .parameter _ (some u) | .wildcard (some u) =>
      exact inner S _ c _ u hle rfl (hbelow S u _)
    | .primitive _ | .parameter _ none | .wildcard none | .other _ =>
      exact leaf S _ c hle (fun _ _ => TypeExpr.noConfusion) rfl

/-- Induction on the frames of a timeline. -/
theorem timeline_induction (r : Resolver) {P : List Moment → Prop} (nil : P [])
    (frame : ∀ f : Frame, (∀ p t, P (r.timelineInside f p t)) → P (r.timelineOf f))
    (S : List String) (t : TypeExpr) (c : Context) : P (r.timeline S t c) := by
  induction S, t, c using r.call_induction with
  | exceeded S t c h => rwa [timeline_of_lt h]
  | leaf S t c h ht hinner => rwa [timeline_of_le h ht, hinner]
  | inner S t c p u h hu ih => rwa [timeline_of_inner h hu]
  | cycle S name arguments c h hcut => rwa [timeline_of_cuts hcut]
  | frame f h hcut ih =>
    rw [timeline_declared h hcut]
    exact frame f ih

end Resolver

/-! ### Work that goes through moments -/

/-- Work that leads from `s` to `s'` goes through `moments`, and has closed the frames it has opened. -/
structure State.Through (s s' : State) (moments : List Moment) : Prop where
  stack : s'.stack = s.stack
  adapters : s'.adapters.toList = s.adapters.toList ++ moments.filterMap Moment.registration?
  events : s'.events.toList.filter Event.isMoment =
    s.events.toList.filter Event.isMoment ++ moments.map Moment.event

namespace State.Through
variable {s s' s'' : State} {ms ms' : List Moment}

theorem refl (s : State) : s.Through s [] :=
  ⟨rfl, (List.append_nil _).symm, (List.append_nil _).symm⟩

theorem trans (h : s.Through s' ms) (h' : s'.Through s'' ms') : s.Through s'' (ms ++ ms') where
  stack := h'.stack.trans h.stack
  adapters := by rw [h'.adapters, h.adapters, List.filterMap_append, List.append_assoc]
  events := by rw [h'.events, h.events, List.map_append, List.append_assoc]

theorem note {e : Event} (h : e.isMoment = false) (s : State) : s.Through (s.note e) [] where
  stack := rfl
  adapters := (List.append_nil _).symm
  events := by simp [State.note, List.filter_append, h]

theorem filter_note (s : State) (m : Moment) :
    (s.note m.event).events.toList.filter Event.isMoment =
      s.events.toList.filter Event.isMoment ++ [m.event] := by
  have hm : m.event.isMoment = true := by cases m <;> rfl
  rw [State.note, Array.toList_push, List.filter_append, List.filter_cons_of_pos hm, List.filter_nil]

theorem adapted (f : Frame) (t : TypeExpr) (shape : Shape) (s : State) :
    s.Through ((s.note (.adapted f.declared t shape)).register ⟨f.declared.name, t, shape⟩)
      [.adapted f t shape] where
  stack := rfl
  adapters := Array.toList_push
  events := filter_note s (.adapted f t shape)

theorem inFrame {f : Frame} (h : (s.enter f.declared.identity f.context.depth).Through s' ms) :
    s.Through s'.leave (.opened f :: ms ++ [.closed f]) := by
  have hstack : s'.stack = f.declared.identity :: s.stack := h.stack
  have hevents : s'.events.toList.filter Event.isMoment =
      (s.note (Moment.opened f).event).events.toList.filter Event.isMoment ++ ms.map Moment.event :=
    h.events
  rw [State.leave_eq hstack]
  refine ⟨rfl, ?_, ?_⟩
  · rw [List.filterMap_append]
    exact h.adapters.trans (congrArg _ (List.append_nil _).symm)
  · refine (filter_note s' (.closed f)).trans ?_
    rw [hevents, filter_note, List.map_append, List.map_cons, List.append_assoc, List.append_assoc]
    rfl

end State.Through

namespace Resolving
variable {α β : Type} {S : List String} {x : Resolving α} {g : α → Resolving β} {a : α}
  {e : LimitExceeded} {result : Except LimitExceeded α} {result' : Except LimitExceeded β}
  {ms ms' : List Moment}

/-- While the identities of `S` are in progress, `x` goes through `moments` and ends with `result`. -/
def Unfolds (S : List String) (x : Resolving α) (result : Except LimitExceeded α)
    (moments : List Moment) : Prop :=
  ∀ s : State, s.stack = S → (x.run s).1 = result ∧ s.Through (x.run s).2 moments

namespace Unfolds

theorem pure (a : α) : Unfolds S (pure a) (.ok a) [] := fun s _ => ⟨rfl, .refl s⟩

theorem throw (e : LimitExceeded) : Unfolds S (throw e : Resolving α) (.error e) [] :=
  fun s _ => ⟨rfl, .refl s⟩

theorem note {e : Event} (h : e.isMoment = false) : Unfolds S (note e) (.ok ()) [] :=
  fun s _ => ⟨rfl, .note h s⟩

theorem bind (hx : Unfolds S x (.ok a) ms) (hg : Unfolds S (g a) result' ms') :
    Unfolds S (x >>= g) result' (ms ++ ms') := by
  intro s hs
  obtain ⟨hresult, hthrough⟩ := hx s hs
  rw [run_bind_ok (Prod.ext hresult rfl)]
  obtain ⟨hresult', hthrough'⟩ := hg _ (hthrough.stack.trans hs)
  exact ⟨hresult', hthrough.trans hthrough'⟩

theorem bind_error (hx : Unfolds S x (.error e) ms) : Unfolds S (x >>= g) (.error e) ms := by
  intro s hs
  obtain ⟨hresult, hthrough⟩ := hx s hs
  rw [run_bind_error (Prod.ext hresult rfl)]
  exact ⟨rfl, hthrough⟩

theorem map (hx : Unfolds S x result ms) (f : α → β) :
    Unfolds S (do return f (← x)) (result.map f) ms := by
  intro s hs
  obtain ⟨hresult, hthrough⟩ := hx s hs
  rw [run_map, hresult]
  exact ⟨rfl, hthrough⟩

theorem noteThen {e : Event} (h : e.isMoment = false) (hx : Unfolds S x result ms) :
    Unfolds S (do Resolving.note e; x) result ms :=
  bind (note h) hx

theorem inFrame {f : Frame} (hx : Unfolds f.stack x result ms) :
    Unfolds f.outer (inFrame f.declared.identity f.context.depth x) result
      (.opened f :: ms ++ [.closed f]) := by
  intro s hs
  obtain ⟨hresult, hthrough⟩ := hx (s.enter f.declared.identity f.context.depth)
    (congrArg (f.declared.identity :: ·) hs)
  rw [run_inFrame]
  exact ⟨hresult, hthrough.inFrame⟩

theorem result_eq (hx : Unfolds S x result ms) : (x.run { stack := S }).1 = result :=
  (hx { stack := S } rfl).1

end Unfolds

end Resolving

namespace Resolver
variable {α β : Type} {r : Resolver} {f : Frame} {x : Resolving α} {g : α → Resolving β} {a : α} {b : β}
  {requests requests' : List Request} {below : Below}

open Resolving (Unfolds)

/-- `x` makes `requests` one after another in the frame, up to the first failure, and gives `a` if there
is none. -/
def Asks (r : Resolver) (f : Frame) (x : Resolving α) (requests : List Request) (a : α) : Prop :=
  Unfolds f.stack x (r.unlessFailed f requests a) (r.moments (r.timelineInside f) f requests)

/-- The types below the frame are resolved as they are inside of it. -/
def Resolves (r : Resolver) (f : Frame) (below : Below) : Prop :=
  ∀ p t, Unfolds f.stack (below p t) (r.inside f p t) (r.timelineInside f p t)

namespace Asks

theorem pure (a : α) : r.Asks f (pure a) [] a := Unfolds.pure a

theorem note {e : Event} (h : e.isMoment = false) : r.Asks f (Resolving.note e) [] () := Unfolds.note h

theorem bind (hx : r.Asks f x requests a)
    (hg : r.failure? f requests = none → r.Asks f (g a) requests' b) :
    r.Asks f (x >>= g) (requests ++ requests') b := by
  unfold Asks unlessFailed at hx ⊢
  rw [failure?_append]
  cases h : r.failure? f requests with
  | none =>
    rw [h] at hx
    rw [moments_append h]
    exact Unfolds.bind hx (hg h)
  | some e =>
    rw [h] at hx
    rw [moments_append_of_failure h]
    exact Unfolds.bind_error hx

theorem bind_quiet (hx : r.Asks f x [] a) (hg : r.Asks f (g a) requests b) :
    r.Asks f (x >>= g) requests b :=
  hx.bind fun _ => hg

theorem quietly (hx : r.Asks f x requests a) (hg : r.Asks f (g a) [] b) :
    r.Asks f (x >>= g) requests b := by
  have h := hx.bind fun _ => hg
  rwa [List.append_nil] at h

theorem map (hx : r.Asks f x requests a) (g : α → β) : r.Asks f (do return g (← x)) requests (g a) :=
  hx.quietly (.pure (g a))

theorem request (hbelow : r.Resolves f below) (q : Request) {g : Shape → Resolving β}
    (hg : ∀ shape, r.inside f q.position q.type = .ok shape →
      Unfolds f.stack (g shape) (r.unlessFailed f requests b)
        ((if q.recorded then [.adapted f q.type shape] else []) ++
          r.moments (r.timelineInside f) f requests)) :
    r.Asks f (below q.position q.type >>= g) (q :: requests) b := by
  have hq := hbelow q.position q.type
  unfold Asks
  cases h : r.inside f q.position q.type with
  | ok shape =>
    rw [h] at hq
    rw [unlessFailed, failure?_cons_of_ok h, moments_cons_of_ok h]
    exact hq.bind (hg shape h)
  | error e =>
    rw [h] at hq
    rw [unlessFailed, failure?_cons_of_error h, moments_cons_of_error h]
    exact hq.bind_error

end Asks

end Resolver

end WireShape
