import WireShape.Proofs.Resolver.Calls
import WireShape.Proofs.Resolver.Coupling

/-! # Resolution is a congruence

What is found for a type is made of what is found for the types below it, and which types these are
depends on no shape. So resolution keeps every coupling that holds of the types below: one lemma for
each function of the resolver, and an induction on the levels. -/

namespace WireShape

open Resolver

namespace Coupling
variable {K : Coupling} {S S' : List String} {r r' : Resolver} {below below' : Below}
  {d d' : DeclaredType} {c c' : Context}

variable (K S S' below below') in
/-- Two types with coupled resolutions, which are also related where they are recorded. -/
def Alike (p : Position) (t t' : TypeExpr) : Prop :=
  K.types t t' ∧ K.Coupled S S' K.shapes (below p t) (below' p t')

variable (K S S' below below') in
/-- The answers about two uses ask for the same things, and for types that are alike. -/
structure Answers (e e' : Environment) (d d' : DeclaredType) : Prop where
  name : d.name = d'.name
  typeHint : Option.Rel (K.Alike S S' below below' .value) (e.typeHint d) (e'.typeHint d')
  customSerializer : (e.customSerializer d).isSome = (e'.customSerializer d').isSome
  serializeAs : Option.Rel (K.Alike S S' below below' .value) (e.serializeAs d) (e'.serializeAs d')
  adapter : Option.Rel (K.Alike S S' below below' .value) (e.adapter d) (e'.adapter d')
  mapTypes : e.overrides d = false →
    Option.Rel (fun m m' => K.Alike S S' below below' .value m.1 m'.1 ∧
      K.Alike S S' below below' .value m.2 m'.2) (e.mapTypes d) (e'.mapTypes d')
  componentType : e.overrides d = false → e.mapTypes d = none →
    Option.Rel (K.Alike S S' below below' .collectionElement) (e.componentType d)
      (e'.componentType d')
  documented : e.overrides d = false → Option.Rel K.shapes (e.documented d) (e'.documented d')

variable (K) in
/-- The adapter policies of two resolvers: the same, or the first keeps `object` where the second
takes another shape and that is allowed. -/
def Policies (r r' : Resolver) : Prop :=
  r.settings.adapterPolicy = r'.settings.adapterPolicy ∨
    r.settings.adapterPolicy = .sideEffectOnly ∧ ∀ s, K.shapes .object s

theorem quiet_bound {α : Type} (r : Resolver) (d : DeclaredType) (answer : DeclaredType → Option α) :
    (r.bound d answer).Quiet (answer d) := by
  unfold bound
  split
  · exact (Resolving.Quiet.note _).bind (.pure _)
  · exact (Resolving.Quiet.pure _).bind (.pure _)

theorem Coupled.bound {α α' : Type} (answer : DeclaredType → Option α)
    (answer' : DeclaredType → Option α') :
    K.Coupled S S' (fun a a' => a = answer d ∧ a' = answer' d') (r.bound d answer)
      (r'.bound d' answer') :=
  .quiet (quiet_bound r d answer) (quiet_bound r' d' answer') ⟨rfl, rfl⟩

theorem Coupled.standIn {event event' : TypeExpr → Event} {t t' : Option TypeExpr}
    (h : Option.Rel (K.Alike S S' below below' .value) t t') :
    K.Coupled S S' (fun o o' => Option.Rel K.shapes o o' ∧ o.isSome = t.isSome)
      (standIn below event t) (standIn below' event' t') := by
  cases h with
  | none => exact .pure ⟨.none, rfl⟩
  | some h => exact .note _ _ (h.2.map fun _ _ hs => ⟨.some hs, rfl⟩)

theorem quiet_serialized (r : Resolver) (d : DeclaredType) :
    (r.serialized d).Quiet ((r.environment.customSerializer d).map fun _ => .object) := by
  unfold serialized
  cases r.environment.customSerializer d with
  | none => exact .pure none
  | some serializer => exact (Resolving.Quiet.note _).bind (.pure _)

theorem Coupled.serialized
    (h : (r.environment.customSerializer d).isSome = (r'.environment.customSerializer d').isSome) :
    K.Coupled S S'
      (fun o o' => Option.Rel K.shapes o o' ∧ o.isSome = (r.environment.customSerializer d).isSome)
      (r.serialized d) (r'.serialized d') := by
  refine .quiet (quiet_serialized r d) (quiet_serialized r' d') ⟨?_, by simp⟩
  cases hs : r.environment.customSerializer d <;> cases hs' : r'.environment.customSerializer d' <;>
    simp only [hs, hs', Option.isSome_none, Option.isSome_some, Bool.false_eq_true,
      Bool.true_eq_false] at h
  · exact .none
  · exact .some shapes_object

theorem rel_or {α : Type} {P : α → α → Prop} {o o' q q' : Option α} (h : Option.Rel P o o')
    (h' : Option.Rel P q q') : Option.Rel P (o.or q) (o'.or q') := by
  cases h with
  | none => exact h'
  | some h => exact .some h

theorem Coupled.override
    (h : K.Answers S S' below below' r.environment r'.environment d d') :
    K.Coupled S S'
      (fun o o' => Option.Rel K.shapes o o' ∧ o.isSome = r.environment.overrides d)
      (r.override below d) (r'.override below' d') := by
  unfold Resolver.override
  refine bind (.bound _ _) ?_
  rintro _ _ ⟨rfl, rfl⟩
  refine bind (.standIn h.typeHint) fun hinted hinted' hh => ?_
  refine bind (.serialized h.customSerializer) fun serialized serialized' hs => ?_
  refine bind (.bound _ _) ?_
  rintro _ _ ⟨rfl, rfl⟩
  refine (Coupled.standIn h.serializeAs).map fun targeted targeted' ht => ?_
  refine ⟨rel_or ht.1 (rel_or hs.1 hh.1), ?_⟩
  rw [Option.isSome_or, Option.isSome_or, ht.2, hs.2, hh.2, Environment.overrides, Bool.or_comm,
    Bool.or_comm (r.environment.customSerializer d).isSome]

theorem Coupled.adapted
    (h : K.Answers S S' below below' r.environment r'.environment d d') :
    K.Coupled S S' (Option.Rel K.shapes) (r.adapted below d) (r'.adapted below' d') := by
  unfold Resolver.adapted
  refine bind (.bound _ _) ?_
  rintro _ _ ⟨rfl, rfl⟩
  have ha := h.adapter
  generalize r.environment.adapter d = o, r'.environment.adapter d' = o' at ha ⊢
  cases ha with
  | none => exact .pure .none
  | some ht =>
    refine bind ht.2 fun shape shape' hs => .note _ _ (bind (.register fun as as' has => ?_) ?_)
    · rw [h.name]
      exact K.register has ht.1 hs
    · exact fun _ _ _ => .pure (.some hs)

theorem Coupled.structural (hno : r.environment.overrides d = false)
    (h : K.Answers S S' below below' r.environment r'.environment d d') :
    K.Coupled S S' (Option.Rel K.shapes) (r.structural below d) (r'.structural below' d') := by
  unfold Resolver.structural
  refine bind (.bound _ _) ?_
  rintro _ _ ⟨rfl, rfl⟩
  have hm := h.mapTypes hno
  have hc := h.componentType hno
  generalize r.environment.mapTypes d = o, r'.environment.mapTypes d' = o' at hm hc ⊢
  cases hm with
  | some hm =>
    exact bind hm.1.2 fun _ _ hk => hm.2.2.map fun _ _ hv => .some (K.shapes_map hk hv)
  | none =>
    refine bind (.bound _ _) ?_
    rintro _ _ ⟨rfl, rfl⟩
    have hc := hc rfl
    generalize r.environment.componentType d = o, r'.environment.componentType d' = o' at hc ⊢
    cases hc with
    | some hc => exact hc.2.map fun _ _ hs => .some hs
    | none => exact .pure (h.documented hno)

/-- The structure is only asked for where nothing overrides it. -/
theorem Coupled.structured {o o' : Option Shape} (ho : Option.Rel K.shapes o o')
    (hno : o.isSome = r.environment.overrides d)
    (h : K.Answers S S' below below' r.environment r'.environment d d') :
    K.Coupled S S' (Option.Rel K.shapes) (r.structured below d o) (r'.structured below' d' o') := by
  cases ho with
  | some hs => exact .pure (.some hs)
  | none => exact .structural hno.symm h

theorem Coupled.settled (hp : K.Policies r r') {o o' a a' : Option Shape}
    (ho : Option.Rel K.shapes o o') (ha : Option.Rel K.shapes a a') :
    K.Coupled S S' K.shapes (r.settled d o a) (r'.settled d' o' a') := by
  cases ho with
  | some hs => exact .pure hs
  | none =>
    cases ha with
    | none => exact .pure shapes_object
    | some hs =>
      unfold Resolver.settled
      rcases hp with hp | ⟨hp, hobject⟩
      · simp only [← hp]
        split
        · exact .note _ _ (.pure hs)
        · exact .pure shapes_object
      · simp only [hp, reduceCtorEq, if_false]
        split
        · exact .quiet (.pure _) ((Resolving.Quiet.note _).bind (.pure _)) (hobject _)
        · exact .pure shapes_object

theorem Coupled.framed (hp : K.Policies r r')
    (h : K.Answers S S' below below' r.environment r'.environment d d') :
    K.Coupled S S' K.shapes (r.framed below d) (r'.framed below' d') := by
  unfold Resolver.framed
  refine bind (.override h) fun o o' ho => ?_
  refine bind (.adapted h) fun a a' ha => ?_
  exact bind (.structured ho.1 ho.2 h) fun s s' hs => .settled hp hs ha

theorem rel_refl {α : Type} {P : α → α → Prop} {o : Option α} (h : ∀ a ∈ o, P a a) :
    Option.Rel P o o := by
  cases o with
  | none => exact .none
  | some a => exact .some (h a rfl)

variable (K) in
/-- The documented shapes of an environment are related to themselves where they are asked for. -/
def Documents (e : Environment) : Prop :=
  ∀ d, e.overrides d = false → ∀ s ∈ e.documented d, K.shapes s s

theorem Answers.refl {e : Environment} (hdoc : K.Documents e)
    (h : ∀ q ∈ e.asked d, K.Coupled S S' K.shapes (below q.1 q.2) (below' q.1 q.2)) :
    K.Answers S S' below below' e e d d := by
  have halike : ∀ q ∈ e.asked d, K.Alike S S' below below' q.1 q.2 q.2 :=
    fun q hq => ⟨K.types_refl q.2, h q hq⟩
  have hmem : ∀ q ∈ e.structure? d, e.overrides d = false → q ∈ e.asked d := fun q hq hno => by
    simp [Environment.asked, hno, hq]
  refine ⟨rfl, rel_refl fun t ht => ?_, rfl, rel_refl fun t ht => ?_, rel_refl fun t ht => ?_,
    fun hno => rel_refl fun m hm => ⟨?_, ?_⟩, fun hno hmap => rel_refl fun t ht => ?_,
    fun hno => rel_refl (hdoc d hno)⟩
  · exact halike (.value, t) (by simp [Environment.asked, Option.mem_def.mp ht])
  · exact halike (.value, t) (by simp [Environment.asked, Option.mem_def.mp ht])
  · exact halike (.value, t) (by simp [Environment.asked, Option.mem_def.mp ht])
  · exact halike (.value, m.1) (hmem _ (by simp [Environment.structure?, Option.mem_def.mp hm]) hno)
  · exact halike (.value, m.2) (hmem _ (by simp [Environment.structure?, Option.mem_def.mp hm]) hno)
  · exact halike (.collectionElement, t)
      (hmem _ (by simp [Environment.structure?, hmap, Option.mem_def.mp ht]) hno)

theorem run_declaredShape (r : Resolver) (below : Below) (d : DeclaredType) (c : Context)
    (s : State) :
    (r.declaredShape below d c).run s =
      if r.cuts s.stack d then (.ok (c.wrap .object), s.note (.cycleBroken d.identity))
      else (Resolving.inFrame d.identity c.depth (r.framed below d) >>= fun shape =>
        pure (c.wrap shape)).run s := by
  unfold declaredShape cuts
  rw [Resolving.run_bind_ok (Resolving.run_isInProgress _ _)]
  split <;> rfl

variable (K c c') in
/-- Shapes found in two contexts: related ones, as they stand there. -/
def Placed (s s' : Shape) : Prop :=
  ∃ u u', s = c.wrap u ∧ s' = c'.wrap u' ∧ K.shapes u u'

theorem Placed.shapes (hc : c.position = c'.position) {s s' : Shape} (h : K.Placed c c' s s') :
    K.shapes s s' := by
  obtain ⟨u, u', rfl, rfl, hu⟩ := h
  exact shapes_wrap hc hu

theorem Coupled.declaredShape_placed (hcuts : r.cuts S d = r'.cuts S' d')
    (h : r.cuts S d = false → K.Coupled (d.identity :: S) (d'.identity :: S') K.shapes
      (r.framed below d) (r'.framed below' d')) :
    K.Coupled S S' (K.Placed c c') (r.declaredShape below d c) (r'.declaredShape below' d' c') := by
  intro s s' hs
  rw [run_declaredShape, run_declaredShape, hs.stack, hs.stack', ← hcuts]
  cases hcut : r.cuts S d with
  | true =>
    exact Coupled.note (.cycleBroken d.identity) (.cycleBroken d'.identity)
      (.pure ⟨_, _, rfl, rfl, shapes_object⟩) s s' hs
  | false =>
    exact ((h hcut).inFrame _ _).map (fun u u' hu => ⟨u, u', rfl, rfl, hu⟩) s s' hs

theorem Coupled.declaredShape (hc : c.position = c'.position) (hcuts : r.cuts S d = r'.cuts S' d')
    (h : r.cuts S d = false → K.Coupled (d.identity :: S) (d'.identity :: S') K.shapes
      (r.framed below d) (r'.framed below' d')) :
    K.Coupled S S' K.shapes (r.declaredShape below d c) (r'.declaredShape below' d' c') :=
  (declaredShape_placed hcuts h).mono fun _ _ => Placed.shapes hc

theorem Coupled.shapeOf_of_inner {t : TypeExpr} (hc : c.position = c'.position)
    (hdeclared : ∀ name arguments, t = .declared name arguments →
      K.Coupled S S' K.shapes (r.declaredShape below ⟨name, arguments⟩ c)
        (r'.declaredShape below' ⟨name, arguments⟩ c'))
    (h : ∀ q ∈ t.inner?, K.Coupled S S' K.shapes (below q.1 q.2) (below' q.1 q.2)) :
    K.Coupled S S' K.shapes (r.shapeOf below t c) (r'.shapeOf below' t c') := by
  match t with
  | .primitive kind =>
    simp only [Resolver.shapeOf, hc]
    split
    · exact .pure (shapes_primitive _)
    · exact .pure (shapes_wrap hc (shapes_primitive _))
  | .declared name arguments => exact hdeclared name arguments rfl
  | .array component => exact (h _ rfl).map fun _ _ => shapes_wrap hc
  | .parameter _ (some bound) | .wildcard (some bound) => exact (h _ rfl).map fun _ _ => shapes_wrap hc
  | .parameter _ none | .wildcard none => exact .pure (shapes_wrap hc shapes_object)
  | .other _ => exact .pure shapes_object

theorem Coupled.shapeOf {t : TypeExpr} (hp : K.Policies r r') (he : r.environment = r'.environment)
    (hdoc : K.Documents r.environment) (hc : c.position = c'.position)
    (hcuts : ∀ name arguments, t = .declared name arguments →
      r.cuts S ⟨name, arguments⟩ = r'.cuts S' ⟨name, arguments⟩)
    (h : ∀ q ∈ r.calls S t, K.Coupled (q.opened ++ S) (q.opened ++ S') K.shapes
      (below q.position q.type) (below' q.position q.type)) :
    K.Coupled S S' K.shapes (r.shapeOf below t c) (r'.shapeOf below' t c') := by
  refine .shapeOf_of_inner hc (fun name arguments ht => ?_) fun q hq => h _ (calls_of_inner hq)
  subst ht
  refine .declaredShape hc (hcuts _ _ rfl) fun hcut => .framed hp ?_
  rw [← he]
  refine .refl hdoc fun q hq => h ⟨[_], q.1, q.2⟩ ?_
  simp only [calls, hcut, Bool.false_eq_true, if_false]
  exact List.mem_map_of_mem hq

theorem rel_append (Θ : List String → List String → Prop)
    (hpush : ∀ {S S'} i, Θ S S' → Θ (i :: S) (i :: S')) (hS : Θ S S') (opened : List String) :
    Θ (opened ++ S) (opened ++ S') := by
  induction opened with
  | nil => exact hS
  | cons i opened ih => exact hpush i ih

/-- Two runs of `resolveWithin` are coupled if they stand at one position and `Θ` relates their
stacks, which break the same cycles then. The second run may lie at another depth, and it may have
more levels if `K` is not strict. -/
theorem Coupled.resolveWithin (Θ : List String → List String → Prop)
    (hp : K.Policies r r') (he : r.environment = r'.environment) (hdoc : K.Documents r.environment)
    (hpush : ∀ {S S'} i, Θ S S' → Θ (i :: S) (i :: S'))
    (hcuts : ∀ {S S'} d, Θ S S' → r.cuts S d = r'.cuts S' d) {levels levels' : Nat}
    (hle : levels ≤ levels') (hstrict : K.strict → levels = levels') {c c' : Context}
    (hc : c.position = c'.position)
    (hlimit : K.strict → ∀ t, K.errors ⟨t, c.depth + levels⟩ ⟨t, c'.depth + levels⟩)
    (hS : Θ S S') (t : TypeExpr) :
    K.Coupled S S' K.shapes (r.resolveWithin levels t c) (r'.resolveWithin levels' t c') := by
  induction levels generalizing levels' c c' S S' t with
  | zero =>
    by_cases hK : K.strict
    · cases hstrict hK
      exact .note _ _ (.throw fun hK => hlimit hK t)
    · exact .of_throw hK fun s => rfl
  | succ levels ih =>
    obtain ⟨levels', rfl⟩ : ∃ n, levels' = n + 1 := ⟨levels' - 1, by omega⟩
    refine .note _ _ (.shapeOf hp he hdoc hc (fun _ _ _ => hcuts _ hS) fun q _ => ?_)
    refine ih (by omega) (fun hK => by have := hstrict hK; omega) (by rfl) (fun hK u => ?_)
      (rel_append Θ hpush hS q.opened) q.type
    -- the types below have a level less and lie a level deeper, so the limit is met where it was
    have hbelow (c : Context) : (c.derive q.position).depth + levels = c.depth + (levels + 1) :=
      Nat.add_right_comm c.depth 1 levels
    rw [hbelow, hbelow]
    exact hlimit hK u

end Coupling

end WireShape
