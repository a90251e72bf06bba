import WireShape.Proofs.Resolver.Plain

/-! # What work yields

Where no adapter is met, work leaves nothing behind but events, and what it yields is a value or
nothing. So resolving a type yields what is put together from the types below it. -/

namespace WireShape

namespace Resolving
variable {α β : Type} {S : List String} {x y : Resolving α} {f : α → Resolving β} {o : Option α}

/-- While the identities of `S` are in progress, `x` has the value in `o`, or fails if there is none,
and does nothing else but tell events. -/
def Yields (S : List String) (x : Resolving α) (o : Option α) : Prop :=
  ∀ s : State, s.stack = S →
    ∃ result events, x.run s = (result, { s with events }) ∧ result.toOption = o

theorem Quiet.yields {a : α} (h : Quiet x a) : Yields S x (some a) := by
  intro s _
  obtain ⟨events, h⟩ := h s
  exact ⟨.ok a, events, h, rfl⟩

theorem After.yields (h : x.After y) (hy : Yields S y o) : Yields S x o := by
  intro s hs
  obtain ⟨events, h⟩ := h s
  obtain ⟨result, events', hy, ho⟩ := hy { s with events } hs
  exact ⟨result, events', by rw [h, hy], ho⟩

theorem Yields.throw (e : LimitExceeded) : Yields S (throw e : Resolving α) none :=
  fun s _ => ⟨.error e, s.events, rfl, rfl⟩

theorem Yields.bind {g : α → Option β} (hx : Yields S x o) (hf : ∀ a, Yields S (f a) (g a)) :
    Yields S (x >>= f) (o.bind g) := by
  intro s hs
  obtain ⟨result, events, hr, rfl⟩ := hx s hs
  cases result with
  | error e => exact ⟨.error e, events, run_bind_error hr, rfl⟩
  | ok a =>
    obtain ⟨result, events', ha, ho⟩ := hf a { s with events } hs
    exact ⟨result, events', by rw [run_bind_ok hr, ha], ho⟩

theorem Yields.map (hx : Yields S x o) (f : α → β) :
    Yields S (x >>= fun a => Pure.pure (f a)) (o.map f) := by
  rw [Option.map_eq_bind]
  exact hx.bind fun a => (Quiet.pure (f a)).yields

theorem Yields.note (e : Event) (hx : Yields S x o) : Yields S (do note e; x) o :=
  Yields.bind (o := some ()) (Quiet.note e).yields fun _ => hx

theorem Yields.inFrame {i : String} (d : Nat) (hx : Yields (i :: S) x o) :
    Yields S (inFrame i d x) o := by
  intro s hs
  obtain ⟨result, events, hx, ho⟩ := hx (s.enter i d) (congrArg (i :: ·) hs)
  refine ⟨result, events.push (.leaving i), ?_, ho⟩
  rw [run_inFrame, hx]
  show (result, State.leave _) = _
  rw [State.leave_eq rfl]
  rfl

end Resolving

namespace Resolver
variable {r : Resolver} {below : Below} {S : List String} {d : DeclaredType} {c : Context}

open Resolving

theorem yields_declaredShape_of_cuts (h : r.cuts S d = true) :
    Yields S (r.declaredShape below d c) (some (c.wrap .object)) := by
  intro s hs
  rw [← hs] at h
  rw [Coupling.run_declaredShape, if_pos h]
  exact ⟨.ok (c.wrap .object), s.events.push (.cycleBroken d.identity), rfl, rfl⟩

theorem yields_declaredShape {o : Option Shape} (hcut : r.cuts S d = false)
    (h : Yields (d.identity :: S) (r.framed below d) o) :
    Yields S (r.declaredShape below d c) (o.map c.wrap) := by
  intro s hs
  rw [← hs] at hcut
  rw [Coupling.run_declaredShape, hcut, if_neg Bool.false_ne_true]
  exact (h.inFrame c.depth).map c.wrap s hs

end Resolver

end WireShape
