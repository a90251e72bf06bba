import WireShape.Proofs.Resolver.DepthLimit

/-! # Traces

The events of a resolution tell which frames it opens and leaves. Each frame is left under its own
identity, and before the frame around it. A failure is told once, and from then on frames are only left:
those still open, the innermost first. -/

namespace WireShape

namespace Event

/-- The frames open after an event, innermost first, with those open before it. A frame that is not
the innermost one cannot be left. -/
def frames? (frames : List String) : Event → Option (List String)
  | .entering identity _ => some (identity :: frames)
  | .leaving identity =>
    match frames with
    | [] => none
    | innermost :: outer => if identity = innermost then some outer else none
  | _ => some frames

/-- Whether an event neither opens nor leaves a frame, nor tells of a failure. -/
def isPlain : Event → Bool
  | .entering .. | .leaving _ | .limitExceeded .. => false
  | _ => true

theorem frames?_of_isPlain {e : Event} (h : e.isPlain = true) (frames : List String) :
    e.frames? frames = some frames := by
  cases e <;> first | rfl | cases h

theorem frames?_append {e : Event} {frames frames' : List String} (h : e.frames? frames = some frames')
    (outer : List String) : e.frames? (frames ++ outer) = some (frames' ++ outer) := by
  cases e with
  | entering identity depth =>
    cases h
    rfl
  | leaving identity =>
    match frames with
    | [] => cases h
    | innermost :: frames =>
      replace h : (if identity = innermost then some frames else none) = some frames' := h
      show (if identity = innermost then some (frames ++ outer) else none) = some (frames' ++ outer)
      split at h
      next hi =>
        cases h
        exact if_pos hi
      next => cases h
  | _ =>
    cases h
    rfl

/-- The frames open after a trace that can happen while those of `frames` are open. -/
def framesAfter? (frames : List String) (trace : List Event) : Option (List String) :=
  trace.foldlM Event.frames? frames

theorem framesAfter?_cons (frames : List String) (e : Event) (trace : List Event) :
    framesAfter? frames (e :: trace) = (e.frames? frames).bind (framesAfter? · trace) :=
  List.foldlM_cons

theorem framesAfter?_append (frames : List String) (trace trace' : List Event) :
    framesAfter? frames (trace ++ trace') =
      (framesAfter? frames trace).bind (framesAfter? · trace') :=
  List.foldlM_append

theorem framesAfter?_outer {frames frames' : List String} {trace : List Event}
    (h : framesAfter? frames trace = some frames') (outer : List String) :
    framesAfter? (frames ++ outer) trace = some (frames' ++ outer) := by
  induction trace generalizing frames with
  | nil =>
    cases h
    rfl
  | cons e trace ih =>
    rw [framesAfter?_cons] at h
    obtain ⟨between, he, h⟩ := Option.bind_eq_some_iff.mp h
    rw [framesAfter?_cons, frames?_append he]
    exact ih h

theorem framesAfter?_leaving (frames : List String) :
    framesAfter? frames (frames.map .leaving) = some [] := by
  induction frames with
  | nil => rfl
  | cons identity frames ih =>
    rw [List.map_cons, framesAfter?_cons, frames?, if_pos rfl]
    exact ih

/-- A trace that tells of no failure, and after which the frames `frames` are open. -/
structure Unbroken (limit : Nat) (frames : List String) (trace : List Event) : Prop where
  frames : framesAfter? [] trace = some frames
  depth : ∀ identity depth, .entering identity depth ∈ trace → depth ≤ limit
  within : ∀ type depth, .limitExceeded type depth ∉ trace

namespace Unbroken
variable {limit : Nat} {frames frames' : List String} {trace trace' : List Event}

theorem nil : Unbroken limit [] [] := ⟨rfl, fun _ _ h => (nomatch h), fun _ _ h => (nomatch h)⟩

theorem of_isPlain {e : Event} (h : e.isPlain = true) : Unbroken limit [] [e] where
  frames := by
    rw [framesAfter?_cons, frames?_of_isPlain h]
    rfl
  depth identity depth he := by
    cases List.mem_singleton.mp he
    cases h
  within type depth he := by
    cases List.mem_singleton.mp he
    cases h

theorem entering {depth : Nat} (h : depth ≤ limit) (identity : String) :
    Unbroken limit [identity] [.entering identity depth] where
  frames := rfl
  depth identity depth he := by
    cases List.mem_singleton.mp he
    exact h
  within type depth he := by
    cases List.mem_singleton.mp he

theorem append (h : Unbroken limit frames trace) (h' : Unbroken limit frames' trace') :
    Unbroken limit (frames' ++ frames) (trace ++ trace') where
  frames := by
    rw [framesAfter?_append, h.frames]
    exact framesAfter?_outer h'.frames frames
  depth identity depth he := by
    rcases List.mem_append.mp he with he | he
    · exact h.depth identity depth he
    · exact h'.depth identity depth he
  within type depth he := by
    rcases List.mem_append.mp he with he | he
    · exact h.within type depth he
    · exact h'.within type depth he

theorem closed (h : Unbroken limit frames trace) :
    Unbroken limit [] (trace ++ frames.map .leaving) where
  frames := by
    rw [framesAfter?_append, h.frames]
    exact framesAfter?_leaving frames
  depth identity depth he := by
    rcases List.mem_append.mp he with he | he
    · exact h.depth identity depth he
    · obtain ⟨_, -, he⟩ := List.mem_map.mp he
      cases he
  within type depth he := by
    rcases List.mem_append.mp he with he | he
    · exact h.within type depth he
    · obtain ⟨_, -, he⟩ := List.mem_map.mp he
      cases he

end Unbroken

/-- The trace of work that ends with `result`. -/
def Ended {α : Type} (limit : Nat) : Except LimitExceeded α → List Event → Prop
  | .ok _, trace => Unbroken limit [] trace
  | .error e, trace => ∃ before frames, Unbroken limit frames before ∧
      trace = before ++ .limitExceeded e.type e.depth :: frames.map .leaving

end Event

open Event

namespace Resolving
variable {α β : Type} {limit : Nat} {x : Resolving α}

variable (limit) in
/-- `x` leaves the stack as it was, and its trace is that of work which ends as `x` does. -/
def Traced (x : Resolving α) : Prop :=
  ∀ s : State, (x.run s).2.stack = s.stack ∧
    ∃ trace, (x.run s).2.events.toList = s.events.toList ++ trace ∧ Ended limit (x.run s).1 trace

namespace Traced

theorem pure (a : α) : Traced limit (pure a : Resolving α) :=
  fun _ => ⟨rfl, [], (List.append_nil _).symm, .nil⟩

theorem note {e : Event} (h : e.isPlain = true) : Traced limit (note e) :=
  fun _ => ⟨rfl, [e], Array.toList_push, .of_isPlain h⟩

theorem register (r : Registration) : Traced limit (register r) :=
  fun _ => ⟨rfl, [], (List.append_nil _).symm, .nil⟩

theorem exceeded (t : TypeExpr) (depth : Nat) :
    Traced limit (do Resolving.note (.limitExceeded t depth); throw ⟨t, depth⟩ : Resolving α) :=
  fun _ => ⟨rfl, [.limitExceeded t depth], Array.toList_push, [], [], .nil, rfl⟩

theorem bind {f : α → Resolving β} (hx : Traced limit x) (hf : ∀ a, Traced limit (f a)) :
    Traced limit (x >>= f) := by
  intro s
  obtain ⟨hstack, trace, htrace, hend⟩ := hx s
  rcases hr : x.run s with ⟨e | a, s₁⟩
  · -- Nothing follows a failure of `x`.
    rw [hr] at hstack htrace hend
    rw [run_bind_error hr]
    exact ⟨hstack, trace, htrace, hend⟩
  · rw [hr] at hstack htrace hend
    rw [run_bind_ok hr]
    obtain ⟨hstack', trace', htrace', hend'⟩ := hf a s₁
    refine ⟨hstack'.trans hstack, trace ++ trace', ?_, ?_⟩
    · rw [htrace', htrace, List.append_assoc]
    · replace hend : Unbroken limit [] trace := hend
      cases hresult : ((f a).run s₁).1 with
      | ok b =>
        rw [hresult] at hend'
        exact hend.append hend'
      | error e =>
        rw [hresult] at hend'
        obtain ⟨before, frames, hbefore, rfl⟩ := hend'
        refine ⟨trace ++ before, frames, ?_, (List.append_assoc ..).symm⟩
        simpa using hend.append hbefore

theorem map (hx : Traced limit x) (f : α → β) : Traced limit (x >>= fun a => Pure.pure (f a)) :=
  hx.bind fun a => .pure (f a)

theorem inFrame {depth : Nat} (hdepth : depth ≤ limit) (identity : String) (hx : Traced limit x) :
    Traced limit (inFrame identity depth x) := by
  intro s
  obtain ⟨hstack, trace, htrace, hend⟩ := hx (s.enter identity depth)
  replace hstack : (x.run (s.enter identity depth)).2.stack = identity :: s.stack := hstack
  have hevents : (s.enter identity depth).events.toList =
      s.events.toList ++ [.entering identity depth] := Array.toList_push
  rw [run_inFrame, State.leave_eq hstack]
  refine ⟨rfl, .entering identity depth :: trace ++ [.leaving identity], ?_, ?_⟩
  · show ((x.run (s.enter identity depth)).2.events.push (.leaving identity)).toList = _
    rw [Array.toList_push, htrace, hevents]
    simp
  · have hentered := Unbroken.entering hdepth identity
    cases hresult : (x.run (s.enter identity depth)).1 with
    | ok a =>
      rw [hresult] at hend
      replace hend : Unbroken limit [] trace := hend
      exact (hentered.append hend).closed
    | error e =>
      rw [hresult] at hend
      obtain ⟨before, frames, hbefore, rfl⟩ := hend
      -- The frame is around all that the failure has left open, so it is the last to be left.
      exact ⟨.entering identity depth :: before, frames ++ [identity], hentered.append hbefore,
        by simp⟩

end Traced

end Resolving

namespace Resolver
variable {limit : Nat} {below : Below}

open Resolving (Traced)

/-! ### Traces of the resolver's steps -/

theorem traced_bound {α : Type} (r : Resolver) (d : DeclaredType)
    (answer : DeclaredType → Option α) : Traced limit (r.bound d answer) := by
  unfold bound
  split
  · exact (Traced.note rfl).bind fun _ => .pure _
  · exact (Traced.pure ()).bind fun _ => .pure _

theorem traced_serialized (r : Resolver) (d : DeclaredType) : Traced limit (r.serialized d) := by
  unfold serialized
  cases r.environment.customSerializer d with
  | none => exact .pure none
  | some serializer => exact (Traced.note rfl).bind fun _ => .pure _

theorem traced_settled (r : Resolver) (d : DeclaredType) (shape adapted : Option Shape) :
    Traced limit (r.settled d shape adapted) := by
  unfold settled
  split
  · exact .pure _
  · split
    · exact (Traced.note rfl).bind fun _ => .pure _
    · exact .pure _
  · exact .pure _

section
variable (hbelow : ∀ position t, Traced limit (below position t))
include hbelow

theorem traced_standIn {event : TypeExpr → Event} (hevent : ∀ t, (event t).isPlain = true)
    (t : Option TypeExpr) : Traced limit (standIn below event t) := by
  cases t with
  | none => exact .pure _
  | some t => exact (Traced.note (hevent t)).bind fun _ => (hbelow .value t).map _

theorem traced_override (r : Resolver) (d : DeclaredType) : Traced limit (r.override below d) := by
  unfold override
  refine (traced_bound r d _).bind fun hint => ?_
  refine (traced_standIn hbelow (fun _ => rfl) hint).bind fun hinted => ?_
  refine (traced_serialized r d).bind fun serialized => ?_
  refine (traced_bound r d _).bind fun target => ?_
  exact (traced_standIn hbelow (fun _ => rfl) target).map _

theorem traced_adapted (r : Resolver) (d : DeclaredType) : Traced limit (r.adapted below d) := by
  unfold adapted
  refine (traced_bound r d _).bind fun adapter => ?_
  split
  · exact .pure _
  · next t =>
    refine (hbelow .value t).bind fun shape => (Traced.note rfl).bind fun _ => ?_
    exact (Traced.register _).bind fun _ => .pure _

theorem traced_structural (r : Resolver) (d : DeclaredType) : Traced limit (r.structural below d) := by
  unfold structural
  refine (traced_bound r d _).bind fun entry => ?_
  split
  · next key value => exact (hbelow .value key).bind fun _ => (hbelow .value value).map _
  · refine (traced_bound r d _).bind fun element => ?_
    split
    · next element => exact (hbelow .collectionElement element).map _
    · exact .pure _

theorem traced_framed (r : Resolver) (d : DeclaredType) : Traced limit (r.framed below d) := by
  unfold framed
  refine (traced_override hbelow r d).bind fun override => ?_
  refine (traced_adapted hbelow r d).bind fun adapted => ?_
  have hstructured : Traced limit (r.structured below d override) := by
    cases override with
    | some shape => exact .pure _
    | none => exact traced_structural hbelow r d
  exact hstructured.bind fun shape => traced_settled r d shape adapted

theorem traced_declaredShape (r : Resolver) (d : DeclaredType) {c : Context} (hc : c.depth ≤ limit) :
    Traced limit (r.declaredShape below d c) := by
  intro s
  rw [Coupling.run_declaredShape]
  split
  · exact ((Traced.note rfl).bind fun _ => .pure (c.wrap .object)) s
  · exact (((traced_framed hbelow r d).inFrame hc d.identity).map _) s

theorem traced_shapeOf (r : Resolver) (t : TypeExpr) {c : Context} (hc : c.depth ≤ limit) :
    Traced limit (r.shapeOf below t c) := by
  match t with
  | .primitive kind =>
    simp only [shapeOf]
    split
    · exact .pure _
    · exact .pure _
  | .declared name arguments => exact traced_declaredShape hbelow r ⟨name, arguments⟩ hc
  | .array component => exact (hbelow .arrayElement component).map _
  | .parameter _ (some bound) | .wildcard (some bound) => exact (hbelow .value bound).map _
  | .parameter _ none | .wildcard none | .other _ => exact .pure _

end

theorem traced_resolveWithin (r : Resolver) (levels : Nat) (t : TypeExpr) {c : Context}
    (hlevels : ∀ n < levels, c.depth + n ≤ limit) : Traced limit (r.resolveWithin levels t c) := by
  induction levels generalizing t c with
  | zero => exact .exceeded t c.depth
  | succ levels ih =>
    have hc : c.depth ≤ limit := hlevels 0 (Nat.succ_pos levels)
    refine (Traced.note rfl).bind fun _ => traced_shapeOf (fun position t => ih t fun n hn => ?_) r t hc
    -- One level down there is one level less to go.
    show c.depth + 1 + n ≤ limit
    have := hlevels (n + 1) (Nat.succ_lt_succ hn)
    omega

theorem traced_resolve (r : Resolver) (t : TypeExpr) (c : Context) :
    Traced r.settings.maxDepth (r.resolve t c) :=
  traced_resolveWithin r _ t fun n hn => by omega

/-- The trace of `resolve` has the frames opened and left in order (`framesAfter?`), and each
`entering` within the limit. With a shape there is no `limitExceeded` in it. With an error there is
one, that of the error, and behind it only `leaving`, for the frames open there and the innermost
first. -/
theorem trace_unwinds (r : Resolver) (t : TypeExpr) (c : Context) (s : State) :
    ∃ trace, ((r.resolve t c).run s).2.events.toList = s.events.toList ++ trace ∧
      framesAfter? [] trace = some [] ∧
      (∀ identity depth, .entering identity depth ∈ trace → depth ≤ r.settings.maxDepth) ∧
      (∀ shape, ((r.resolve t c).run s).1 = .ok shape → ∀ type depth, .limitExceeded type depth ∉ trace) ∧
      ∀ e, ((r.resolve t c).run s).1 = .error e → ∃ before frames,
        trace = before ++ .limitExceeded e.type e.depth :: frames.map .leaving ∧
        framesAfter? [] before = some frames ∧ ∀ type depth, .limitExceeded type depth ∉ before := by
  obtain ⟨-, trace, htrace, hend⟩ := traced_resolve r t c s
  refine ⟨trace, htrace, ?_⟩
  cases hresult : ((r.resolve t c).run s).1 with
  | ok shape =>
    rw [hresult] at hend
    replace hend : Unbroken r.settings.maxDepth [] trace := hend
    exact ⟨hend.frames, hend.depth, fun _ _ => hend.within, fun e he => (nomatch he)⟩
  | error e =>
    rw [hresult] at hend
    obtain ⟨before, frames, hbefore, rfl⟩ := hend
    refine ⟨?_, ?_, fun shape h => (nomatch h), fun e' he => ?_⟩
    · rw [framesAfter?_append, hbefore.frames]
      exact framesAfter?_leaving frames
    · intro identity depth he
      rcases List.mem_append.mp he with he | he
      · exact hbefore.depth identity depth he
      · simp at he
    · cases he
      exact ⟨before, frames, rfl, hbefore.frames, hbefore.within⟩

/-- A shop is treated as its orders, and these as arrays of lines. -/
def shops : AnswerTables where
  hints := [("Shop", .raw ⟨"Order"⟩), ("Order", .array (.raw ⟨"Line"⟩))]

/-- Under a limit of two levels, lines lie too deep below a shop; three levels are enough. -/
theorem trace_unwinds_shops :
    let r := shops.environment.resolver 2 .sideEffectOnly
    let r' := shops.environment.resolver 3 .sideEffectOnly
    r.shape (.raw ⟨"Shop"⟩) = .error ⟨.raw ⟨"Line"⟩, 3⟩ ∧
    framesAfter? [] (r.events (.raw ⟨"Shop"⟩)) = some [] ∧
    (∃ before frames, framesAfter? [] before = some frames ∧
      r.events (.raw ⟨"Shop"⟩) = before ++ .limitExceeded (.raw ⟨"Line"⟩) 3 :: frames.map .leaving) ∧
    [.limitExceeded (.raw ⟨"Line"⟩) 3, .leaving "Order", .leaving "Shop"] <:+
      r.events (.raw ⟨"Shop"⟩) ∧
    r'.shape (.raw ⟨"Shop"⟩) = .ok (.array .object) ∧
    ∀ type depth, .limitExceeded type depth ∉ r'.events (.raw ⟨"Shop"⟩) := by
  intro r r'
  have herror : r.shape (.raw ⟨"Shop"⟩) = .error ⟨.raw ⟨"Line"⟩, 3⟩ := rfl
  have hok : r'.shape (.raw ⟨"Shop"⟩) = .ok (.array .object) := rfl
  obtain ⟨trace, htrace, hframes, -, -, hfail⟩ := trace_unwinds r (.raw ⟨"Shop"⟩) {} {}
  obtain ⟨before, frames, hbefore, hopen, -⟩ := hfail _ herror
  obtain ⟨trace', htrace', -, -, hwithin, -⟩ := trace_unwinds r' (.raw ⟨"Shop"⟩) {} {}
  replace htrace : r.events (.raw ⟨"Shop"⟩) = trace := htrace
  replace htrace' : r'.events (.raw ⟨"Shop"⟩) = trace' := htrace'
  rw [htrace']
  refine ⟨herror, htrace ▸ hframes, ⟨before, frames, hopen, htrace.trans hbefore⟩, ?_, hok,
    hwithin _ hok⟩
  exact List.suffix_iff_eq_drop.mpr rfl

end Resolver

end WireShape
