import WireShape.Proofs.Resolver.FirstMatch

/-! # The adapter report

A resolution records one adapter for each frame whose type has one, when the adapting type has its shape
there. What decides the shape of the frame's type has no part in that, nor has the adapter policy. Where
a resolution fails, it has recorded the adapters whose types had their shapes before. -/

namespace WireShape

namespace Moment

/-- The frame that is opened. -/
def opened? : Moment → Option Frame
  | .opened f => some f
  | .adapted .. | .closed _ => none

/-- The frame whose adapter is recorded. -/
def adapted? : Moment → Option Frame
  | .adapted f _ _ => some f
  | .opened _ | .closed _ => none

end Moment

/-- The frames that are opened, in order. -/
def openedFrames (ms : List Moment) : List Frame := ms.filterMap Moment.opened?

/-- The frames whose adapters are recorded, in order. -/
def adaptedFrames (ms : List Moment) : List Frame := ms.filterMap Moment.adapted?

theorem openedFrames_append (ms ms' : List Moment) :
    openedFrames (ms ++ ms') = openedFrames ms ++ openedFrames ms' :=
  List.filterMap_append

theorem adaptedFrames_append (ms ms' : List Moment) :
    adaptedFrames (ms ++ ms') = adaptedFrames ms ++ adaptedFrames ms' :=
  List.filterMap_append

namespace Resolver

/-- Whether the frame's type has an adapter of which the adapting type has a shape, and no type that is
asked for before it fails. -/
def adapts (r : Resolver) (f : Frame) : Bool :=
  (r.environment.adapter f.declared).isSome &&
    (r.failure? f (r.environment.standIns f.declared ++ r.environment.adapting f.declared)).isNone

/-- The moments in the frame before its adapter is recorded. -/
def untilAdapted (r : Resolver) (f : Frame) (adapting : TypeExpr) : List Moment :=
  .opened f ::
    (r.moments (r.timelineInside f) f (r.environment.standIns f.declared) ++
      r.timelineInside f .value adapting)

variable {r : Resolver} {f : Frame} {ms ms' : List Moment} {requests : List Request} {t : TypeExpr}
  {shape : Shape}

theorem not_recorded_standIns {d : DeclaredType} {q : Request} (hq : q ∈ r.environment.standIns d) :
    q.recorded = false := by
  rw [Environment.standIns, List.mem_append, List.mem_map, List.mem_map] at hq
  rcases hq with ⟨t, -, rfl⟩ | ⟨t, -, rfl⟩ <;> rfl

theorem not_recorded_structuring {d : DeclaredType} {q : Request}
    (hq : q ∈ r.environment.structuring d) : q.recorded = false := by
  rw [Environment.structuring, List.mem_map] at hq
  obtain ⟨_, -, rfl⟩ := hq
  rfl

theorem adapting_eq (h : r.environment.adapter f.declared = some t) :
    r.environment.adapting f.declared = [⟨.value, t, true⟩] := by
  rw [Environment.adapting, h]
  rfl

theorem moments_of_not_adapts (h : r.adapts f = false) :
    ∃ requests : List Request, (∀ q ∈ requests, q.recorded = false) ∧
      r.moments (r.timelineInside f) f (r.environment.requests f.declared) =
        r.moments (r.timelineInside f) f requests := by
  cases hfailure : r.failure? f (r.environment.standIns f.declared) with
  | some e => exact ⟨_, fun _ => not_recorded_standIns, moments_append_of_failure hfailure⟩
  | none =>
    rw [Environment.requests, moments_append hfailure]
    cases hadapter : r.environment.adapter f.declared with
    | none =>
      refine ⟨r.environment.standIns f.declared ++ r.environment.structuring f.declared,
        List.forall_mem_append.mpr ⟨fun _ => not_recorded_standIns, fun _ => not_recorded_structuring⟩,
        ?_⟩
      rw [moments_append hfailure, Environment.adapting, hadapter]
      rfl
    | some t =>
      rw [adapts, failure?_append, hfailure, hadapter, adapting_eq hadapter] at h
      cases hshape : r.inside f .value t with
      | ok shape =>
        rw [failure?_cons_of_ok (q := ⟨.value, t, true⟩) hshape] at h
        cases h
      | error e =>
        refine ⟨r.environment.standIns f.declared ++ [⟨.value, t, false⟩],
          List.forall_mem_append.mpr ⟨fun _ => not_recorded_standIns, by simp⟩, ?_⟩
        rw [moments_append hfailure, adapting_eq hadapter, List.singleton_append,
          moments_cons_of_error (q := ⟨.value, t, true⟩) hshape,
          moments_cons_of_error (q := ⟨.value, t, false⟩) hshape]

theorem timelineOf_of_adapts (h : r.adapts f = true) :
    ∃ t shape, r.environment.adapter f.declared = some t ∧ r.inside f .value t = .ok shape ∧
      r.timelineOf f = r.untilAdapted f t ++ .adapted f t shape ::
        (r.moments (r.timelineInside f) f (r.environment.structuring f.declared) ++ [.closed f]) := by
  rw [adapts, Bool.and_eq_true, Option.isSome_iff_exists, Option.isNone_iff_eq_none,
    failure?_append, Option.or_eq_none_iff] at h
  obtain ⟨⟨t, hadapter⟩, hfailure, hshape⟩ := h
  rw [adapting_eq hadapter, failure?_eq_none_iff] at hshape
  obtain ⟨shape, hshape⟩ := hshape _ List.mem_cons_self
  refine ⟨t, shape, hadapter, hshape, ?_⟩
  rw [timelineOf, untilAdapted, Environment.requests, moments_append hfailure, adapting_eq hadapter,
    List.singleton_append, moments_cons_of_ok hshape]
  simp only [if_true, List.append_assoc, List.cons_append, List.nil_append]

/-- Induction on a timeline, with one case for the frames that adapt and one for all others. -/
theorem adapter_induction (r : Resolver) {P : List Moment → Prop} (nil : P [])
    (append : ∀ {ms ms'}, P ms → P ms' → P (ms ++ ms'))
    (plain : ∀ f ms, r.adapts f = false → P ms → P (.opened f :: ms ++ [.closed f]))
    (adapted : ∀ f t shape before after, r.adapts f = true → r.environment.adapter f.declared = some t →
      r.inside f .value t = .ok shape → r.untilAdapted f t = .opened f :: before →
      P before → P after → P (.opened f :: before ++ .adapted f t shape :: (after ++ [.closed f])))
    (S : List String) (t : TypeExpr) (c : Context) : P (r.timeline S t c) := by
  refine r.timeline_induction nil (fun f hbelow => ?_) S t c
  have hmoments (requests : List Request) (hrequests : ∀ q ∈ requests, q.recorded = false) :
      P (r.moments (r.timelineInside f) f requests) := by
    induction requests with
    | nil => exact nil
    | cons q requests ih =>
      cases hshape : r.inside f q.position q.type with
      | ok shape =>
        rw [moments_cons_of_ok hshape, hrequests q List.mem_cons_self]
        exact append (hbelow _ _) (ih fun q hq => hrequests q (List.mem_cons_of_mem _ hq))
      | error e =>
        rw [moments_cons_of_error hshape]
        exact hbelow _ _
  cases hadapts : r.adapts f with
  | false =>
    obtain ⟨requests, hrequests, heq⟩ := moments_of_not_adapts hadapts
    rw [timelineOf, heq]
    exact plain f _ hadapts (hmoments requests hrequests)
  | true =>
    obtain ⟨t, shape, hadapter, hshape, heq⟩ := timelineOf_of_adapts hadapts
    rw [heq]
    exact adapted f t shape _ _ hadapts hadapter hshape rfl
      (append (hmoments _ fun _ => not_recorded_standIns) (hbelow _ t))
      (hmoments _ fun _ => not_recorded_structuring)

/-- One adapter is recorded for each frame opened that adapts, and no other. -/
def Tallies (r : Resolver) (ms : List Moment) : Prop :=
  (adaptedFrames ms).Perm ((openedFrames ms).filter r.adapts)

theorem tallies_timeline (r : Resolver) (S : List String) (t : TypeExpr) (c : Context) :
    r.Tallies (r.timeline S t c) := by
  refine r.adapter_induction (P := r.Tallies) (.refl []) ?append ?plain ?adapted S t c
  case append =>
    intro ms ms' h h'
    rw [Tallies, adaptedFrames_append, openedFrames_append, List.filter_append]
    exact h.append h'
  case plain =>
    intro f ms hadapts h
    have hopened : openedFrames (.opened f :: ms ++ [.closed f]) = f :: openedFrames ms := by
      simp [openedFrames, List.filterMap_cons, Moment.opened?]
    have hadapted : adaptedFrames (.opened f :: ms ++ [.closed f]) = adaptedFrames ms := by
      simp [adaptedFrames, List.filterMap_cons, Moment.adapted?]
    rw [Tallies, hopened, hadapted, List.filter_cons_of_neg (Bool.eq_false_iff.mp hadapts)]
    exact h
  case adapted =>
    intro f t shape ms ms' hadapts _ _ _ h h'
    have hopened : openedFrames (.opened f :: ms ++ .adapted f t shape :: (ms' ++ [.closed f])) =
        f :: (openedFrames ms ++ openedFrames ms') := by
      simp [openedFrames, List.filterMap_cons, Moment.opened?]
    have hadapted : adaptedFrames (.opened f :: ms ++ .adapted f t shape :: (ms' ++ [.closed f])) =
        adaptedFrames ms ++ f :: adaptedFrames ms' := by
      simp [adaptedFrames, List.filterMap_cons, Moment.adapted?]
    rw [Tallies, hopened, hadapted, List.filter_cons_of_pos hadapts, List.filter_append]
    exact List.perm_middle.trans ((h.append h').cons f)

/-! ### What is recorded -/

/-- Each adapter recorded is the one that the environment answers, with the shape that its adapting type
has inside of the frame; and it is recorded in the frame as soon as that type is resolved. -/
def Faithful (r : Resolver) (ms : List Moment) : Prop :=
  ∀ before f t shape after, ms = before ++ .adapted f t shape :: after →
    r.environment.adapter f.declared = some t ∧ r.inside f .value t = .ok shape ∧
      r.untilAdapted f t <:+ before

namespace Faithful

theorem nil : r.Faithful [] := by
  intro before f t shape after h
  cases before <;> cases h

theorem append (h : r.Faithful ms) (h' : r.Faithful ms') : r.Faithful (ms ++ ms') := by
  intro before f t shape after heq
  rcases List.append_eq_append_iff.mp heq with ⟨middle, rfl, hmiddle⟩ | ⟨middle, hmiddle, hafter⟩
  · obtain ⟨hadapter, hshape, hsuffix⟩ := h' middle f t shape after hmiddle
    exact ⟨hadapter, hshape, hsuffix.trans (List.suffix_append ms middle)⟩
  · cases middle with
    | nil =>
      obtain ⟨hadapter, hshape, hsuffix⟩ := h' [] f t shape after hafter.symm
      exact ⟨hadapter, hshape, hsuffix.trans List.nil_suffix⟩
    | cons m middle =>
      cases hafter
      exact h before f t shape middle hmiddle

theorem singleton {m : Moment} (hm : m.adapted? = none) : r.Faithful [m] := by
  intro before f t shape after h
  cases before with
  | nil =>
    cases h
    cases hm
  | cons m' before =>
    obtain ⟨-, h⟩ := List.cons.inj h
    cases before <;> cases h

theorem recorded (hadapter : r.environment.adapter f.declared = some t)
    (hshape : r.inside f .value t = .ok shape) (h : r.Faithful ms)
    (hsuffix : r.untilAdapted f t <:+ ms) : r.Faithful (ms ++ [.adapted f t shape]) := by
  intro before f' t' shape' after heq
  rcases List.eq_nil_or_concat after with rfl | ⟨middle, m, rfl⟩
  · obtain ⟨rfl, hm⟩ := List.append_inj' heq rfl
    cases hm
    exact ⟨hadapter, hshape, hsuffix⟩
  · rw [List.concat_eq_append, ← List.cons_append, ← List.append_assoc] at heq
    exact h before f' t' shape' middle (List.append_inj' heq rfl).1

end Faithful

theorem faithful_timeline (r : Resolver) (S : List String) (t : TypeExpr) (c : Context) :
    r.Faithful (r.timeline S t c) := by
  have hopened (f : Frame) : r.Faithful [.opened f] := .singleton rfl
  have hclosed (f : Frame) : r.Faithful [.closed f] := .singleton rfl
  refine r.adapter_induction .nil .append ?plain ?adapted S t c
  case plain =>
    intro f ms _ h
    exact ((hopened f).append h).append (hclosed f)
  case adapted =>
    intro f t shape ms ms' _ hadapter hshape huntil h h'
    have hrecorded : r.Faithful (.opened f :: ms ++ [.adapted f t shape]) :=
      .recorded hadapter hshape ((hopened f).append h) (huntil ▸ List.suffix_rfl)
    have hall := hrecorded.append (h'.append (hclosed f))
    rwa [List.append_assoc] at hall

theorem mem_openedFrames_moments {g : Frame}
    (hg : g ∈ openedFrames (r.moments (r.timelineInside f) f requests)) :
    ∃ q ∈ requests, g ∈ openedFrames (r.timelineInside f q.position q.type) := by
  induction requests with
  | nil => cases hg
  | cons q requests ih =>
    cases hshape : r.inside f q.position q.type with
    | error e =>
      rw [moments_cons_of_error hshape] at hg
      exact ⟨q, List.mem_cons_self, hg⟩
    | ok shape =>
      have hadapted : openedFrames (if q.recorded then [.adapted f q.type shape] else []) = [] := by
        split <;> rfl
      rw [moments_cons_of_ok hshape, openedFrames_append, openedFrames_append, hadapted,
        List.nil_append, List.mem_append] at hg
      rcases hg with hg | hg
      · exact ⟨q, List.mem_cons_self, hg⟩
      · obtain ⟨q', hq', hg⟩ := ih hg
        exact ⟨q', List.mem_cons_of_mem _ hq', hg⟩

theorem failure?_of_mem_openedFrames {S : List String} {t : TypeExpr} {c : Context} {shape : Shape}
    (h : ((r.resolve t c).run { stack := S }).1 = .ok shape) {g : Frame}
    (hg : g ∈ openedFrames (r.timeline S t c)) :
    r.failure? g (r.environment.requests g.declared) = none := by
  induction S, t, c using r.call_induction generalizing shape with
  | exceeded S t c hlt =>
    rw [timeline_of_lt hlt] at hg
    cases hg
  | leaf S t c hle ht hinner =>
    rw [timeline_of_le hle ht, hinner] at hg
    cases hg
  | inner S t c p u hle hu ih =>
    rw [timeline_of_inner hle hu] at hg
    rw [resolve_of_le hle, shapeOf_of_inner hu] at h
    rw [(Resolving.Unfolds.noteThen rfl ((unfolds_resolve r S u (c.derive p)).map c.wrap)).result_eq]
      at h
    cases hbound : ((r.resolve u (c.derive p)).run { stack := S }).1 with
    | ok shape' => exact ih hbound hg
    | error e =>
      rw [hbound] at h
      cases h
  | cycle S name arguments c hle hcut =>
    rw [timeline_of_cuts hcut] at hg
    cases hg
  | frame f hle hcut ih =>
    rw [run_resolve_declared (s := { stack := f.outer }) hle hcut, unlessFailed] at h
    cases hfailure : r.failure? f (r.environment.requests f.declared) with
    | some e =>
      rw [hfailure] at h
      cases h
    | none =>
      have hopened : openedFrames (r.timelineOf f) =
          f :: openedFrames (r.moments (r.timelineInside f) f (r.environment.requests f.declared)) := by
        simp [timelineOf, openedFrames, List.filterMap_cons, Moment.opened?]
      rw [timeline_declared hle hcut, hopened, List.mem_cons] at hg
      rcases hg with rfl | hg
      · exact hfailure
      · obtain ⟨q, hq, hg⟩ := mem_openedFrames_moments hg
        obtain ⟨shape', hshape⟩ := failure?_eq_none_iff.mp hfailure q hq
        exact ih _ _ hshape hg

theorem adapts_of_failure?_eq_none (h : r.failure? f (r.environment.requests f.declared) = none) :
    r.adapts f = (r.environment.adapter f.declared).isSome := by
  rw [Environment.requests, ← List.append_assoc, failure?_append, Option.or_eq_none_iff] at h
  rw [adapts, h.1, Option.isNone_none, Bool.and_true]

/-- `resolve` goes `Through` its `timeline`. What is `adapted` there has the adapting type of its
frame and the shape of that, and comes right after `untilAdapted`. The frames that are `adapted` are
those `opened` that `adapts` is true of, and if there is a shape, all those `opened` that have an
adapter. -/
theorem adapters_recorded (r : Resolver) (t : TypeExpr) (c : Context) (s : State) :
    let ms := r.timeline s.stack t c
    s.Through ((r.resolve t c).run s).2 ms ∧
    (∀ before f u shape after, ms = before ++ .adapted f u shape :: after →
      r.environment.adapter f.declared = some u ∧ r.inside f .value u = .ok shape ∧
        r.untilAdapted f u <:+ before) ∧
    (adaptedFrames ms).Perm ((openedFrames ms).filter r.adapts) ∧
    ∀ shape, ((r.resolve t c).run s).1 = .ok shape →
      (adaptedFrames ms).Perm
        ((openedFrames ms).filter fun f => (r.environment.adapter f.declared).isSome) := by
  intro ms
  obtain ⟨hresult, hthrough⟩ := unfolds_resolve r s.stack t c s rfl
  have htallies : r.Tallies ms := tallies_timeline r s.stack t c
  refine ⟨hthrough, faithful_timeline r s.stack t c, htallies, fun shape hshape => ?_⟩
  have hadapts : ∀ f ∈ openedFrames ms, r.adapts f = (r.environment.adapter f.declared).isSome :=
    fun f hf => adapts_of_failure?_eq_none (failure?_of_mem_openedFrames (hresult ▸ hshape) hf)
  rwa [Tallies, List.filter_congr hadapts] at htallies

/-- Shipments are hinted to be parcels, which are items, and adapted to arrays of these. -/
def shipments : AnswerTables where
  hints := [("Shipment", .raw ⟨"Parcel"⟩)]
  adapters := [("Shipment", .array (.raw ⟨"Parcel"⟩)), ("Parcel", .raw ⟨"Item"⟩)]

/-- The adapter of a shipment is recorded after those of the parcels, also of the one inside of its
adapting type. Under a limit of two levels that type has no shape, and only the first parcel, which the
shipment is hinted to be, has its adapter recorded. -/
theorem adapters_recorded_shipments :
    let shipment : Frame := ⟨⟨⟨"Shipment"⟩, []⟩, [], {}⟩
    let parcels : TypeExpr := .array (.raw ⟨"Parcel"⟩)
    let r := shipments.environment.resolver 3 .useAdaptingShape
    let r' := shipments.environment.resolver 2 .useAdaptingShape
    let ms := r.timeline [] (.raw ⟨"Shipment"⟩) {}
    let ms' := r'.timeline [] (.raw ⟨"Shipment"⟩) {}
    ((r.resolve (.raw ⟨"Shipment"⟩) {}).run {}).1 = .ok .object ∧
    ms = ms.dropLast.dropLast ++ [.adapted shipment parcels (.array .object), .closed shipment] ∧
    r.untilAdapted shipment parcels <:+ ms.dropLast.dropLast ∧
    (adaptedFrames ms).map (·.declared.name.text) = ["Parcel", "Parcel", "Shipment"] ∧
    (adaptedFrames ms).Perm
      ((openedFrames ms).filter fun f => (r.environment.adapter f.declared).isSome) ∧
    (adaptedFrames ms').map (·.declared.name.text) = ["Parcel"] ∧
    (openedFrames ms').map (·.declared.name.text) = ["Shipment", "Parcel", "Item", "Parcel"] ∧
    (adaptedFrames ms').Perm ((openedFrames ms').filter r'.adapts) := by
  intro shipment parcels r r' ms ms'
  have hshape : ((r.resolve (.raw ⟨"Shipment"⟩) {}).run {}).1 = .ok .object := by decide +kernel
  have hsplit : ms = ms.dropLast.dropLast ++
      [.adapted shipment parcels (.array .object), .closed shipment] := by decide +kernel
  obtain ⟨-, hfaithful, -, hall⟩ := adapters_recorded r (.raw ⟨"Shipment"⟩) {} {}
  obtain ⟨-, -, huntil⟩ := hfaithful _ _ _ _ _ hsplit
  obtain ⟨-, -, htallies, -⟩ := adapters_recorded r' (.raw ⟨"Shipment"⟩) {} {}
  exact ⟨hshape, hsplit, huntil, by decide +kernel, hall _ hshape, by decide +kernel,
    by decide +kernel, htallies⟩

end Resolver

end WireShape
