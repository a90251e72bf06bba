import WireShape.Proofs.Resolver.Timeline

/-! # The first match

What a use of a declaration is resolved to: the first that exists of the shapes it may have. All types
that are asked for on the way are resolved, also those whose shapes are of no account, and the first of
them without a shape is what the use fails with. -/

namespace WireShape.Resolver

/-- The shape found for `t` inside of the frame, if there is one. -/
def shapeInside? (r : Resolver) (f : Frame) (p : Position) (t : TypeExpr) : Option Shape :=
  (r.inside f p t).toOption

/-- The shape that the directives on the declaration set. -/
def overriding? (r : Resolver) (f : Frame) : Option Shape :=
  ((r.environment.serializeAs f.declared).bind (r.shapeInside? f .value)).or <|
  ((r.environment.customSerializer f.declared).map fun _ => .object).or <|
  (r.environment.typeHint f.declared).bind (r.shapeInside? f .value)

/-- The shape of the map, of the collection or stream, or of the documented type. -/
def structural? (r : Resolver) (f : Frame) : Option Shape :=
  ((r.environment.mapTypes f.declared).bind fun entry => do
    return .map (← r.shapeInside? f .value entry.1) (← r.shapeInside? f .value entry.2)).or <|
  ((r.environment.componentType f.declared).bind (r.shapeInside? f .collectionElement)).or <|
  r.environment.documented f.declared

/-- The shape of the adapting type. -/
def adapting? (r : Resolver) (f : Frame) : Option Shape :=
  (r.environment.adapter f.declared).bind (r.shapeInside? f .value)

/-- The first that exists of the shapes that the frame's type may have. -/
def firstMatch (r : Resolver) (f : Frame) : Shape :=
  Option.getD ((r.overriding? f).or <| (r.structural? f).or <|
    if r.settings.adapterPolicy = .useAdaptingShape then r.adapting? f else none) .object

variable {r : Resolver} {f : Frame} {below : Below} {S : List String} {t : TypeExpr} {c : Context}
  {d : DeclaredType} {p : Position} {o : Option TypeExpr} {shape : Shape}

open Resolving (Unfolds)

theorem shapeInside?_of_ok (h : r.inside f p t = .ok shape) : r.shapeInside? f p t = some shape := by
  rw [shapeInside?, h]
  rfl

theorem isSome_bind_shapeInside? (h : ∀ t ∈ o, ∃ shape, r.inside f p t = .ok shape) :
    (o.bind (r.shapeInside? f p)).isSome = o.isSome := by
  cases o with
  | none => rfl
  | some t =>
    obtain ⟨shape, hshape⟩ := h t rfl
    rw [Option.bind_some, shapeInside?_of_ok hshape]
    rfl

theorem isSome_overriding? (h : r.failure? f (r.environment.standIns f.declared) = none) :
    (r.overriding? f).isSome = r.environment.overrides f.declared := by
  have hstandIns := failure?_eq_none_iff.mp h
  have hhint : ∀ t ∈ r.environment.typeHint f.declared, ∃ shape, r.inside f .value t = .ok shape :=
    fun t ht => hstandIns ⟨.value, t, false⟩ (by simp [Environment.standIns, Option.mem_def.mp ht])
  have htarget : ∀ t ∈ r.environment.serializeAs f.declared, ∃ shape, r.inside f .value t = .ok shape :=
    fun t ht => hstandIns ⟨.value, t, false⟩ (by simp [Environment.standIns, Option.mem_def.mp ht])
  rw [overriding?, Option.isSome_or, Option.isSome_or, isSome_bind_shapeInside? hhint,
    isSome_bind_shapeInside? htarget, Option.isSome_map, Environment.overrides, Bool.or_comm,
    Bool.or_comm (r.environment.customSerializer f.declared).isSome]

theorem asks_bound {α : Type} (d : DeclaredType) (answer : DeclaredType → Option α) :
    r.Asks f (r.bound d answer) [] (answer d) := by
  unfold bound
  split
  · exact (Asks.note rfl).bind_quiet (.pure _)
  · exact .pure _

theorem asks_serialized (d : DeclaredType) :
    r.Asks f (r.serialized d) [] ((r.environment.customSerializer d).map fun _ => .object) := by
  unfold serialized
  cases r.environment.customSerializer d with
  | none => exact .pure none
  | some serializer => exact (Asks.note rfl).bind_quiet (.pure _)

theorem asks_settled (d : DeclaredType) (shape adapted : Option Shape) :
    r.Asks f (r.settled d shape adapted) [] (Option.getD (shape.or <|
      if r.settings.adapterPolicy = .useAdaptingShape then adapted else none) .object) := by
  cases shape with
  | some shape => exact .pure shape
  | none =>
    cases adapted with
    | none =>
      rw [ite_self]
      exact .pure _
    | some adapted =>
      by_cases hpolicy : r.settings.adapterPolicy = .useAdaptingShape
      · simp only [settled, hpolicy, if_true]
        exact (Asks.note rfl).bind_quiet (.pure adapted)
      · simp only [settled, hpolicy, if_false]
        exact .pure _

section
variable (hbelow : r.Resolves f below)
include hbelow

theorem asks_standIn {event : TypeExpr → Event} (hevent : ∀ t, (event t).isMoment = false)
    (o : Option TypeExpr) :
    r.Asks f (standIn below event o) (o.toList.map (⟨.value, ·, false⟩))
      (o.bind (r.shapeInside? f .value)) := by
  cases o with
  | none => exact .pure none
  | some t =>
    refine (Asks.note (hevent t)).bind_quiet (.request hbelow ⟨.value, t, false⟩ fun shape h => ?_)
    rw [Option.bind_some, shapeInside?_of_ok h]
    exact .pure (some shape)

theorem asks_override :
    r.Asks f (r.override below f.declared) (r.environment.standIns f.declared) (r.overriding? f) := by
  unfold override
  refine (asks_bound _ _).bind_quiet ?_
  refine (asks_standIn hbelow (fun _ => rfl) _).bind fun _ => ?_
  refine (asks_serialized _).bind_quiet ((asks_bound _ _).bind_quiet ?_)
  exact (asks_standIn hbelow (fun _ => rfl) _).map _

theorem asks_adapted :
    r.Asks f (r.adapted below f.declared) (r.environment.adapting f.declared) (r.adapting? f) := by
  unfold adapted
  refine (asks_bound _ _).bind_quiet ?_
  unfold Environment.adapting adapting?
  cases r.environment.adapter f.declared with
  | none => exact .pure none
  | some t =>
    refine .request hbelow ⟨.value, t, true⟩ fun shape h => ?_
    rw [Option.bind_some, shapeInside?_of_ok h]
    intro s _
    exact ⟨rfl, .adapted f t shape s⟩

theorem asks_structural (hno : r.environment.overrides f.declared = false) :
    r.Asks f (r.structural below f.declared) (r.environment.structuring f.declared)
      (r.structural? f) := by
  unfold structural
  refine (asks_bound _ _).bind_quiet ?_
  unfold Environment.structuring Environment.structure? structural?
  rw [hno]
  cases r.environment.mapTypes f.declared with
  | some entry =>
    obtain ⟨key, value⟩ := entry
    refine .request hbelow ⟨.value, key, false⟩ fun k hk => ?_
    refine Asks.request hbelow ⟨.value, value, false⟩ fun v hv => ?_
    simp only [Option.bind_some, shapeInside?_of_ok hk, shapeInside?_of_ok hv]
    exact .pure _
  | none =>
    refine (asks_bound _ _).bind_quiet ?_
    cases r.environment.componentType f.declared with
    | some element =>
      refine .request hbelow ⟨.collectionElement, element, false⟩ fun shape h => ?_
      simp only [Option.bind_some, Option.bind_none, shapeInside?_of_ok h]
      exact .pure _
    | none => exact .pure _

theorem asks_framed :
    r.Asks f (r.framed below f.declared) (r.environment.requests f.declared) (r.firstMatch f) := by
  unfold framed
  refine (asks_override hbelow).bind fun hfailure => ?_
  refine (asks_adapted hbelow).bind fun _ => ?_
  -- the structure is asked for where nothing overrides it
  have hoverrides := isSome_overriding? hfailure
  unfold firstMatch
  cases h : r.overriding? f with
  | some shape =>
    rw [h] at hoverrides
    rw [Environment.structuring, ← hoverrides]
    exact (Asks.pure _).bind_quiet (asks_settled _ _ _)
  | none =>
    rw [h] at hoverrides
    exact (asks_structural hbelow hoverrides.symm).quietly (asks_settled _ _ _)

end

/-! ### Every resolution goes through its timeline -/

theorem unfolds_declared (h : c.depth ≤ r.settings.maxDepth) (hcut : r.cuts S d = false)
    (hbelow : r.Resolves ⟨d, S, c⟩ fun p t => r.resolve t (c.derive p)) :
    Unfolds S (r.resolve d.toTypeExpr c)
      ((r.unlessFailed ⟨d, S, c⟩ (r.environment.requests d) (r.firstMatch ⟨d, S, c⟩)).map c.wrap)
      (r.timelineOf ⟨d, S, c⟩) := by
  rw [resolve_of_le h]
  refine .noteThen rfl fun s hs => ?_
  show ((r.declaredShape _ d c).run s).1 = _ ∧ s.Through ((r.declaredShape _ d c).run s).2 _
  rw [Coupling.run_declaredShape, hs, hcut, if_neg Bool.false_ne_true]
  exact ((asks_framed (f := ⟨d, S, c⟩) hbelow).inFrame.map c.wrap) s hs

theorem unfolds_resolve (r : Resolver) (S : List String) (t : TypeExpr) (c : Context) :
    Unfolds S (r.resolve t c) ((r.resolve t c).run { stack := S }).1 (r.timeline S t c) := by
  suffices h : ∃ result, Unfolds S (r.resolve t c) result (r.timeline S t c) by
    obtain ⟨result, h⟩ := h
    obtain rfl := h.result_eq
    exact h
  induction S, t, c using r.call_induction with
  | exceeded S t c h =>
    rw [resolve_of_lt h, timeline_of_lt h]
    exact ⟨_, .noteThen rfl (.throw _)⟩
  | leaf S t c h ht hinner =>
    obtain ⟨shape, hshape⟩ :=
      exists_shapeOf_eq_pure r (fun p u => r.resolve u (c.derive p)) c ht hinner
    rw [resolve_of_le h, timeline_of_le h ht, hinner, hshape]
    exact ⟨_, .noteThen rfl (.pure shape)⟩
  | inner S t c p u h hu ih =>
    obtain ⟨result, ih⟩ := ih
    rw [resolve_of_le h, timeline_of_inner h hu, shapeOf_of_inner hu]
    exact ⟨_, .noteThen rfl (ih.map c.wrap)⟩
  | cycle S name arguments c h hcut =>
    rw [resolve_of_le h, timeline_of_cuts hcut]
    refine ⟨.ok (c.wrap .object), .noteThen rfl fun s hs => ?_⟩
    show ((r.declaredShape _ _ c).run s).1 = _ ∧ s.Through ((r.declaredShape _ _ c).run s).2 _
    rw [Coupling.run_declaredShape, hs, if_pos hcut]
    exact ⟨rfl, .note rfl s⟩
  | frame f h hcut ih =>
    rw [timeline_declared h hcut]
    refine ⟨_, unfolds_declared h hcut fun p t => ?_⟩
    obtain ⟨result, ih⟩ := ih p t
    obtain rfl := ih.result_eq
    exact ih

theorem run_resolve_declared (h : c.depth ≤ r.settings.maxDepth) {s : State}
    (hcut : r.cuts s.stack d = false) :
    ((r.resolve d.toTypeExpr c).run s).1 =
      (r.unlessFailed ⟨d, s.stack, c⟩ (r.environment.requests d)
        (r.firstMatch ⟨d, s.stack, c⟩)).map c.wrap :=
  (unfolds_declared h hcut (fun _ t => unfolds_resolve r _ t _) s rfl).1

theorem failure?_requests_eq_none_iff :
    r.failure? f (r.environment.requests f.declared) = none ↔
      ∀ q ∈ r.environment.asked f.declared, ∃ shape, r.inside f q.1 q.2 = .ok shape := by
  rw [failure?_eq_none_iff, ← Environment.requests_asked, List.forall_mem_map]

/-- A use that `cuts` is false of has a shape exactly if all types have that are `asked` for in its
frame. Its shape is then the `firstMatch` of that frame, wrapped for `c`. -/
theorem resolve_first_match (r : Resolver) {d : DeclaredType} {c : Context} {s : State}
    (hc : c.depth ≤ r.settings.maxDepth) (hcut : r.cuts s.stack d = false) :
    ((∃ shape, ((r.resolve d.toTypeExpr c).run s).1 = .ok shape) ↔
      ∀ q ∈ r.environment.asked d, ∃ shape, r.inside ⟨d, s.stack, c⟩ q.1 q.2 = .ok shape) ∧
    ∀ shape, ((r.resolve d.toTypeExpr c).run s).1 = .ok shape →
      shape = c.wrap (r.firstMatch ⟨d, s.stack, c⟩) := by
  rw [run_resolve_declared hc hcut, ← failure?_requests_eq_none_iff (f := ⟨d, s.stack, c⟩),
    unlessFailed]
  cases r.failure? ⟨d, s.stack, c⟩ (r.environment.requests d) with
  | none =>
    refine ⟨⟨fun _ => rfl, fun _ => ⟨_, rfl⟩⟩, fun shape h => ?_⟩
    cases h
    rfl
  | some e =>
    refine ⟨⟨?_, ?_⟩, ?_⟩
    · rintro ⟨shape, h⟩
      cases h
    · intro h
      cases h
    · intro shape h
      cases h

/-- Parcels are written as their labels. They have a serializer, a type hint and an adapter as well. -/
def parcels : AnswerTables where
  hints := [("Parcel", .array (.array (.raw ⟨"Item"⟩)))]
  serializers := [("Parcel", "ParcelSerializer")]
  targets := [("Parcel", .raw ⟨"Label"⟩)]
  adapters := [("Parcel", .raw ⟨"Item"⟩)]
  known := [("Label", .primitive .string)]

/-- The hint is of no account for the shape of a parcel, and yet a parcel fails with it under a limit of
two levels. -/
theorem resolve_first_match_parcels :
    let parcel : DeclaredType := ⟨⟨"Parcel"⟩, []⟩
    let c : Context := ⟨.collectionElement, 0⟩
    let r := parcels.environment.resolver 3 .useAdaptingShape
    let r' := parcels.environment.resolver 2 .useAdaptingShape
    0 ≤ 3 ∧ 0 ≤ 2 ∧ r.cuts ["Item"] parcel = false ∧ r'.cuts ["Item"] parcel = false ∧
    .array (.primitive .string) = c.wrap (r.firstMatch ⟨parcel, ["Item"], c⟩) ∧
    ¬ ∃ shape, ((r'.resolve parcel.toTypeExpr c).run { stack := ["Item"] }).1 = .ok shape := by
  intro parcel c r r'
  have hdepth : 0 ≤ 3 := by decide
  have hdepth' : 0 ≤ 2 := by decide
  have hcut : r.cuts ["Item"] parcel = false := by decide
  have hcut' : r'.cuts ["Item"] parcel = false := by decide
  have hshape := (resolve_first_match r (c := c) (s := { stack := ["Item"] }) hdepth hcut).2
  have hiff := (resolve_first_match r' (c := c) (s := { stack := ["Item"] }) hdepth' hcut').1
  refine ⟨hdepth, hdepth', hcut, hcut', hshape _ rfl, fun h => ?_⟩
  obtain ⟨shape, hhint⟩ := hiff.mp h (.value, .array (.array (.raw ⟨"Item"⟩))) (by decide)
  cases hhint

end WireShape.Resolver
