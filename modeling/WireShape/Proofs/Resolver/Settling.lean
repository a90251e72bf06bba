import WireShape.Proofs.Resolver.DepthLimit

/-! # Settling

A type settles within some levels if its resolution has a shape there, whatever its position and
whatever was recorded before. It does so exactly one level after the types resolved directly below
it, so a bound on the levels is found by going through these. -/

namespace WireShape.Resolver
variable {r : Resolver} {S : List String} {t : TypeExpr} {levels levels' : Nat}

/-- Within `levels` levels there is a shape for `t` while the identities of `S` are in progress. -/
def Settles (r : Resolver) (levels : Nat) (S : List String) (t : TypeExpr) : Prop :=
  ∀ (c : Context) (s : State), s.stack = S →
    ∃ shape, ((r.resolveWithin levels t c).run s).1 = .ok shape

theorem Settles.mono (h : r.Settles levels S t) (hle : levels ≤ levels') :
    r.Settles levels' S t := by
  intro c s hs
  obtain ⟨shape, hr⟩ := h c s hs
  obtain ⟨s₁, hr', -⟩ := resolveWithin_mono (r := r) rfl rfl hle (Prod.ext hr rfl)
  exact ⟨shape, by rw [hr']⟩

/-- Runs that do not fail: no error is related to any. -/
theorem Settles.coupled (h : r.Settles levels S t) (c : Context) :
    (Coupling.same True fun _ _ => False).Coupled S S Eq (r.resolveWithin levels t c)
      (r.resolveWithin levels t c) := by
  intro s s' hs
  have hends := Coupling.same_resolveWithin True (fun _ _ => True) (r := r) rfl rfl
    (Nat.le_refl levels) (fun _ => rfl) (c := c) rfl (fun _ _ => trivial) t S s s'
    ⟨hs.stack, hs.stack', hs.adapters⟩
  refine ⟨fun shape hr => ?_, fun _ e he => ?_⟩
  · obtain ⟨shape', hr', hshape, h₁⟩ := hends.ok shape hr
    exact ⟨shape', hr', hshape, h₁.stack, h₁.stack', h₁.adapters⟩
  · obtain ⟨shape, hr⟩ := h c s hs.stack
    rw [hr] at he
    cases he

theorem settles_succ (h : ∀ q ∈ r.calls S t, r.Settles levels (q.opened ++ S) q.type) :
    r.Settles (levels + 1) S t := by
  intro c s hs
  have hcoupled : (Coupling.same True fun _ _ => False).Coupled S S Eq
      (r.resolveWithin (levels + 1) t c) (r.resolveWithin (levels + 1) t c) :=
    .note _ _ (.shapeOf (.inl rfl) rfl (fun _ _ _ _ => rfl) rfl (fun _ _ _ => rfl)
      fun q hq => (h q hq).coupled _)
  cases hr : ((r.resolveWithin (levels + 1) t c).run s).1 with
  | ok shape => exact ⟨shape, rfl⟩
  | error e =>
    obtain ⟨_, _, hfalse, _⟩ := (hcoupled s s ⟨hs, hs, rfl⟩).error trivial e hr
    exact hfalse.elim

/-- Types that settle do so within one number of levels. -/
theorem exists_settles_all {calls : List Call}
    (h : ∀ q ∈ calls, ∃ levels, r.Settles levels (q.opened ++ S) q.type) :
    ∃ levels, ∀ q ∈ calls, r.Settles levels (q.opened ++ S) q.type := by
  induction calls with
  | nil => exact ⟨0, fun q hq => nomatch hq⟩
  | cons q calls ih =>
    obtain ⟨levels, hq⟩ := h q (List.mem_cons_self ..)
    obtain ⟨levels', hcalls⟩ := ih fun q hq => h q (List.mem_cons_of_mem _ hq)
    refine ⟨max levels levels', fun q' hq' => ?_⟩
    rcases List.mem_cons.mp hq' with rfl | hq'
    · exact hq.mono (Nat.le_max_left ..)
    · exact (hcalls q' hq').mono (Nat.le_max_right ..)

theorem exists_settles_of_calls
    (h : ∀ q ∈ r.calls S t, ∃ levels, r.Settles levels (q.opened ++ S) q.type) :
    ∃ levels, r.Settles levels S t := by
  obtain ⟨levels, hcalls⟩ := exists_settles_all h
  exact ⟨levels + 1, settles_succ hcalls⟩

end WireShape.Resolver
