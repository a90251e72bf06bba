import Mathlib.Data.List.Forall2
import WireShape.Resolver.Basic

/-! # Coupled runs

Two pieces of work, run side by side from states whose stacks are given and whose adapter lists are
related, end alike: with related values, or, where the coupling is strict, with related errors. The
stacks are then what they were, and the adapter lists are related again. A property of one run is a
coupling of the run with itself. -/

namespace WireShape

theorem State.leave_eq {s : State} {i : String} {S : List String} (h : s.stack = i :: S) :
    s.leave = { s.note (.leaving i) with stack := S } := by
  unfold State.leave
  rw [h]

theorem Registration.forall₂_push {P : Registration → Registration → Prop}
    {as as' : Array Registration} {a a' : Registration} (h : List.Forall₂ P as.toList as'.toList)
    (ha : P a a') : List.Forall₂ P (as.push a).toList (as'.push a').toList := by
  rw [Array.toList_push, Array.toList_push]
  exact List.rel_append h (.cons ha .nil)

namespace Resolving
variable {α β : Type}

theorem run_bind (x : Resolving α) (f : α → Resolving β) (s : State) :
    (x >>= f).run s = match x.run s with
      | (.ok a, s) => (f a).run s
      | (.error e, s) => (.error e, s) := by
  show (ExceptT.bind x f).run s = _
  show (ExceptT.bindCont f (x.run s).1) (x.run s).2 = _
  rcases x.run s with ⟨_ | _, _⟩ <;> rfl

theorem run_bind_ok {x : Resolving α} {f : α → Resolving β} {s s' : State} {a : α}
    (h : x.run s = (.ok a, s')) : (x >>= f).run s = (f a).run s' := by
  rw [run_bind, h]

theorem run_bind_error {x : Resolving α} {f : α → Resolving β} {s s' : State} {e : LimitExceeded}
    (h : x.run s = (.error e, s')) : (x >>= f).run s = (.error e, s') := by
  rw [run_bind, h]

theorem exists_of_run_bind_ok {x : Resolving α} {f : α → Resolving β} {s s' : State} {b : β}
    (h : (x >>= f).run s = (.ok b, s')) :
    ∃ a s₁, x.run s = (.ok a, s₁) ∧ (f a).run s₁ = (.ok b, s') := by
  rcases hx : x.run s with ⟨e | a, s₁⟩
  · rw [run_bind_error hx] at h
    cases h
  · exact ⟨a, s₁, rfl, run_bind_ok hx ▸ h⟩

theorem run_map (x : Resolving α) (f : α → β) (s : State) :
    (do return f (← x) : Resolving β).run s = ((x.run s).1.map f, (x.run s).2) := by
  rw [run_bind]
  rcases x.run s with ⟨_ | _, _⟩ <;> rfl

@[simp] theorem run_note (e : Event) (s : State) : (note e).run s = (.ok (), s.note e) := rfl

@[simp] theorem run_register (a : Registration) (s : State) :
    (register a).run s = (.ok (), s.register a) := rfl

@[simp] theorem run_isInProgress (identity : String) (s : State) :
    (isInProgress identity).run s = (.ok (s.stack.contains identity), s) := rfl

@[simp] theorem run_throw (e : LimitExceeded) (s : State) :
    (throw e : Resolving α).run s = (.error e, s) := rfl

theorem run_inFrame (identity : String) (depth : Nat) (x : Resolving α) (s : State) :
    (inFrame identity depth x).run s =
      ((x.run (s.enter identity depth)).1, (x.run (s.enter identity depth)).2.leave) := rfl

/-- Work that gives `a` and does nothing but tell events. -/
def Quiet (x : Resolving α) (a : α) : Prop :=
  ∀ s : State, ∃ events, x.run s = (.ok a, { s with events })

theorem Quiet.pure (a : α) : Quiet (pure a) a := fun s => ⟨s.events, rfl⟩

theorem Quiet.note (e : Event) : Quiet (note e) () := fun s => ⟨s.events.push e, rfl⟩

theorem Quiet.bind {x : Resolving α} {f : α → Resolving β} {a : α} {b : β} (hx : Quiet x a)
    (hf : Quiet (f a) b) : Quiet (x >>= f) b := by
  intro s
  obtain ⟨events, h⟩ := hx s
  obtain ⟨events', h'⟩ := hf { s with events }
  exact ⟨events', by rw [run_bind_ok h, h']⟩

end Resolving

/-- How two runs are compared. -/
structure Coupling where
  shapes : Shape → Shape → Prop
  /-- The adapting types recorded. -/
  types : TypeExpr → TypeExpr → Prop
  adapters : Array Registration → Array Registration → Prop
  errors : LimitExceeded → LimitExceeded → Prop
  /-- Whether the second run has to fail where the first one does. -/
  strict : Prop
  /-- The shapes that resolution gives of itself; all others are made of these and documented ones. -/
  shapes_simple : (∀ kind, shapes (.primitive kind) (.primitive kind)) ∧ shapes .object .object
  shapes_array : ∀ {s s'}, shapes s s' → shapes (.array s) (.array s')
  shapes_map : ∀ {k k' v v'}, shapes k k' → shapes v v' → shapes (.map k v) (.map k' v')
  types_refl : ∀ t, types t t
  register : ∀ {as as' n t t' s s'}, adapters as as' → types t t' → shapes s s' →
    adapters (as.push ⟨n, t, s⟩) (as'.push ⟨n, t', s'⟩)

namespace Coupling
variable (K : Coupling)

/-- States with the stacks `S` and `S'` and related adapter lists. -/
structure States (S S' : List String) (s s' : State) : Prop where
  stack : s.stack = S
  stack' : s'.stack = S'
  adapters : K.adapters s.adapters s'.adapters

/-- The ends of two runs: where the first has a value, the second has a related one. -/
structure Ends {α α' : Type} (S S' : List String) (Q : α → α' → Prop)
    (x : Except LimitExceeded α × State) (x' : Except LimitExceeded α' × State) : Prop where
  ok : ∀ a, x.1 = .ok a → ∃ a', x'.1 = .ok a' ∧ Q a a' ∧ K.States S S' x.2 x'.2
  error : K.strict → ∀ e, x.1 = .error e →
    ∃ e', x'.1 = .error e' ∧ K.errors e e' ∧ K.States S S' x.2 x'.2

/-- `x` and `x'` end alike from all states with the stacks `S` and `S'`. -/
def Coupled {α α' : Type} (S S' : List String) (Q : α → α' → Prop) (x : Resolving α)
    (x' : Resolving α') : Prop :=
  ∀ s s', K.States S S' s s' → K.Ends S S' Q (x.run s) (x'.run s')

variable {K} {α α' β β' : Type} {S S' : List String} {P : α → α' → Prop} {Q : β → β' → Prop}

theorem shapes_primitive (kind : JsonPrimitive) : K.shapes (.primitive kind) (.primitive kind) :=
  K.shapes_simple.1 kind

theorem shapes_object : K.shapes .object .object := K.shapes_simple.2

theorem shapes_wrap {c c' : Context} (h : c.position = c'.position) {s s' : Shape}
    (hs : K.shapes s s') : K.shapes (c.wrap s) (c'.wrap s') := by
  unfold Context.wrap Position.wrap
  rw [h]
  split
  · exact K.shapes_array hs
  · exact hs

theorem States.withEvents {s s' : State} (h : K.States S S' s s') (events events' : Array Event) :
    K.States S S' { s with events } { s' with events := events' } :=
  ⟨h.stack, h.stack', h.adapters⟩

theorem States.enter {s s' : State} (h : K.States S S' s s') (i i' : String) (d d' : Nat) :
    K.States (i :: S) (i' :: S') (s.enter i d) (s'.enter i' d') :=
  ⟨congrArg (i :: ·) h.stack, congrArg (i' :: ·) h.stack', h.adapters⟩

theorem States.leave {s s' : State} {i i' : String} (h : K.States (i :: S) (i' :: S') s s') :
    K.States S S' s.leave s'.leave := by
  rw [State.leave_eq h.stack, State.leave_eq h.stack']
  exact ⟨rfl, rfl, h.adapters⟩

namespace Coupled

theorem quiet {x : Resolving α} {x' : Resolving α'} {a : α} {a' : α'} (hx : x.Quiet a)
    (hx' : x'.Quiet a') (h : P a a') : K.Coupled S S' P x x' := by
  intro s s' hs
  obtain ⟨events, hr⟩ := hx s
  obtain ⟨events', hr'⟩ := hx' s'
  rw [hr, hr']
  exact ⟨fun b hb => ⟨a', rfl, by cases hb; exact h, hs.withEvents events events'⟩,
    fun _ e he => by cases he⟩

theorem pure {a : α} {a' : α'} (h : P a a') : K.Coupled S S' P (pure a) (pure a') :=
  quiet (.pure a) (.pure a') h

theorem bind {x : Resolving α} {x' : Resolving α'} {f : α → Resolving β} {f' : α' → Resolving β'}
    (hx : K.Coupled S S' P x x') (hf : ∀ a a', P a a' → K.Coupled S S' Q (f a) (f' a')) :
    K.Coupled S S' Q (x >>= f) (x' >>= f') := by
  intro s s' hs
  have h := hx s s' hs
  rcases hr : x.run s with ⟨e | a, s₁⟩
  · rw [Resolving.run_bind_error hr]
    refine ⟨fun b hb => (nomatch hb), fun hK _ he => ?_⟩
    cases he
    rw [hr] at h
    obtain ⟨e', hr', herr, hs₁⟩ := h.error hK e rfl
    rw [Resolving.run_bind_error (Prod.ext hr' rfl)]
    exact ⟨e', rfl, herr, hs₁⟩
  · rw [hr] at h
    obtain ⟨a', hr', ha, hs₁⟩ := h.ok a rfl
    rw [Resolving.run_bind_ok hr, Resolving.run_bind_ok (Prod.ext hr' rfl)]
    exact hf a a' ha _ _ hs₁

theorem map {x : Resolving α} {x' : Resolving α'} {f : α → β} {f' : α' → β'}
    (hx : K.Coupled S S' P x x') (hf : ∀ a a', P a a' → Q (f a) (f' a')) :
    K.Coupled S S' Q (x >>= fun a => Pure.pure (f a)) (x' >>= fun a' => Pure.pure (f' a')) :=
  hx.bind fun a a' ha => .pure (hf a a' ha)

theorem map_left {Q : β → α' → Prop} {x : Resolving α} {x' : Resolving α'} {f : α → β}
    (hx : K.Coupled S S' P x x') (hf : ∀ a a', P a a' → Q (f a) a') :
    K.Coupled S S' Q (x >>= fun a => Pure.pure (f a)) x' := by
  have hmap : K.Coupled S S' Q (x >>= fun a => Pure.pure (f a)) (x' >>= Pure.pure) := hx.map hf
  rwa [bind_pure] at hmap

theorem map_right {Q : α → β' → Prop} {x : Resolving α} {x' : Resolving α'} {f' : α' → β'}
    (hx : K.Coupled S S' P x x') (hf : ∀ a a', P a a' → Q a (f' a')) :
    K.Coupled S S' Q x (x' >>= fun a' => Pure.pure (f' a')) := by
  have hmap : K.Coupled S S' Q (x >>= Pure.pure) (x' >>= fun a' => Pure.pure (f' a')) := hx.map hf
  rwa [bind_pure] at hmap

theorem mono {P' : α → α' → Prop} {x : Resolving α} {x' : Resolving α'}
    (h : K.Coupled S S' P x x') (hP : ∀ a a', P a a' → P' a a') : K.Coupled S S' P' x x' := by
  intro s s' hs
  refine ⟨fun a ha => ?_, (h s s' hs).error⟩
  obtain ⟨a', ha', h, hs₁⟩ := (h s s' hs).ok a ha
  exact ⟨a', ha', hP a a' h, hs₁⟩

theorem note {x : Resolving α} {x' : Resolving α'} (e e' : Event) (hx : K.Coupled S S' P x x') :
    K.Coupled S S' P (do Resolving.note e; x) (do Resolving.note e'; x') :=
  bind (P := fun _ _ => True) (quiet (.note e) (.note e') trivial) fun _ _ _ => hx

theorem register {a a' : Registration}
    (h : ∀ as as', K.adapters as as' → K.adapters (as.push a) (as'.push a')) :
    K.Coupled S S' (fun _ _ => True) (Resolving.register a) (Resolving.register a') := by
  intro s s' hs
  refine ⟨fun u _ => ⟨u, rfl, trivial, hs.stack, hs.stack', h _ _ hs.adapters⟩, fun _ e he => ?_⟩
  rw [Resolving.run_register] at he
  cases he

theorem inFrame {x : Resolving α} {x' : Resolving α'} {i i' : String} (d d' : Nat)
    (hx : K.Coupled (i :: S) (i' :: S') P x x') :
    K.Coupled S S' P (Resolving.inFrame i d x) (Resolving.inFrame i' d' x') := by
  intro s s' hs
  have h := hx _ _ (hs.enter i i' d d')
  rw [Resolving.run_inFrame, Resolving.run_inFrame]
  refine ⟨fun a ha => ?_, fun hK e he => ?_⟩
  · obtain ⟨a', ha', hP, hs₁⟩ := h.ok a ha
    exact ⟨a', ha', hP, hs₁.leave⟩
  · obtain ⟨e', he', herr, hs₁⟩ := h.error hK e he
    exact ⟨e', he', herr, hs₁.leave⟩

theorem inFrame_left {x : Resolving α} {x' : Resolving α'} {i : String} (d : Nat)
    (hx : K.Coupled (i :: S) S' P x x') : K.Coupled S S' P (Resolving.inFrame i d x) x' := by
  intro s s' hs
  have h := hx (s.enter i d) s' ⟨congrArg (i :: ·) hs.stack, hs.stack', hs.adapters⟩
  have hleave {s s' : State} (h : K.States (i :: S) S' s s') : K.States S S' s.leave s' := by
    rw [State.leave_eq h.stack]
    exact ⟨rfl, h.stack', h.adapters⟩
  rw [Resolving.run_inFrame]
  refine ⟨fun a ha => ?_, fun hK e he => ?_⟩
  · obtain ⟨a', ha', hP, hs₁⟩ := h.ok a ha
    exact ⟨a', ha', hP, hleave hs₁⟩
  · obtain ⟨e', he', herr, hs₁⟩ := h.error hK e he
    exact ⟨e', he', herr, hleave hs₁⟩

theorem throw {e e' : LimitExceeded} (h : K.strict → K.errors e e') :
    K.Coupled S S' P (throw e : Resolving α) (throw e' : Resolving α') := by
  intro s s' hs
  rw [Resolving.run_throw, Resolving.run_throw]
  refine ⟨fun a ha => (nomatch ha), fun hK _ he => ?_⟩
  cases he
  exact ⟨e', rfl, h hK, hs⟩

/-- Where the first run fails and `K` is not strict, nothing is asked of the second. -/
theorem of_throw {x : Resolving α} {x' : Resolving α'} {e : LimitExceeded}
    (hK : ¬ K.strict) (hx : ∀ s, (x.run s).1 = .error e) : K.Coupled S S' P x x' :=
  fun s _ _ => ⟨fun a ha => (by rw [hx s] at ha; cases ha), fun h => absurd h hK⟩

end Coupled

end Coupling

end WireShape
