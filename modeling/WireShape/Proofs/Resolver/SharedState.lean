import WireShape.Proofs.Resolver.Coarser

/-! # Sharing a state

A resolution closes the frames that it opens, also where it fails, and nothing it does depends on the
adapters recorded before. So types can be resolved one after another over one state, and each of them
has the answer that it has alone. -/

namespace WireShape.Resolver
variable {r : Resolver} {t : TypeExpr} {c : Context} {s : State} {calls : List (TypeExpr × Context)}

/-- Resolves types one after another over one state, going on where a type cannot be resolved. -/
def resolveEach (r : Resolver) :
    List (TypeExpr × Context) → State → List (Except LimitExceeded Shape) × State
  | [], s => ([], s)
  | (t, c) :: calls, s =>
    let (result, s) := (r.resolve t c).run s
    let (results, s) := r.resolveEach calls s
    (result :: results, s)

theorem resolveEach_cons :
    r.resolveEach ((t, c) :: calls) s =
      (((r.resolve t c).run s).1 :: (r.resolveEach calls ((r.resolve t c).run s).2).1,
        (r.resolveEach calls ((r.resolve t c).run s).2).2) := rfl

theorem run_resolve_alone (r : Resolver) (t : TypeExpr) (c : Context) (s : State) :
    ((r.resolve t c).run s).1 = ((r.resolve t c).run { stack := s.stack }).1 ∧
      ((r.resolve t c).run s).2.stack = s.stack ∧
      ((r.resolve t c).run s).2.adapters =
        s.adapters ++ ((r.resolve t c).run { stack := s.stack }).2.adapters := by
  have hsame : ∀ i, i ∈ s.stack ↔ i ∈ ({ stack := s.stack } : State).stack := fun _ => Iff.rfl
  obtain ⟨new, hresult, hstack, hnew, halone⟩ :=
    resolveWithin_congr (r := r) hsame (r.settings.maxDepth + 1 - c.depth) t c
  refine ⟨hresult, hstack, ?_⟩
  have halone : ((r.resolve t c).run { stack := s.stack }).2.adapters = new :=
    halone.trans Array.empty_append
  rw [halone]
  exact hnew

theorem run_resolveEach (r : Resolver) (calls : List (TypeExpr × Context)) (s : State) :
    (r.resolveEach calls s).1 =
        calls.map (fun q => ((r.resolve q.1 q.2).run { stack := s.stack }).1) ∧
      (r.resolveEach calls s).2.stack = s.stack ∧
      ∃ new, (r.resolveEach calls s).2.adapters = s.adapters ++ new := by
  induction calls generalizing s with
  | nil => exact ⟨rfl, rfl, #[], Array.append_empty.symm⟩
  | cons q calls ih =>
    obtain ⟨t, c⟩ := q
    obtain ⟨hresult, hstack, hadapters⟩ := run_resolve_alone r t c s
    obtain ⟨hresults, hstacks, new, hnew⟩ := ih ((r.resolve t c).run s).2
    rw [hstack] at hresults
    rw [resolveEach_cons]
    refine ⟨?_, hstacks.trans hstack,
      ((r.resolve t c).run { stack := s.stack }).2.adapters ++ new, ?_⟩
    · rw [hresult, hresults, List.map_cons]
    · rw [hnew, hadapters, Array.append_assoc]

/-- `resolve`, which may fail, leaves the stack as it was and puts adapters behind those of `s`, and
so does `resolveEach`, whose results are those of each call over a state with the stack alone. -/
theorem resolve_leaves_state (r : Resolver) (s : State) :
    (∀ t c, ((r.resolve t c).run s).2.stack = s.stack ∧
      ∃ new, ((r.resolve t c).run s).2.adapters = s.adapters ++ new) ∧
    ∀ calls, (r.resolveEach calls s).2.stack = s.stack ∧
      (∃ new, (r.resolveEach calls s).2.adapters = s.adapters ++ new) ∧
      (r.resolveEach calls s).1 =
        calls.map fun q => ((r.resolve q.1 q.2).run { stack := s.stack }).1 := by
  refine ⟨fun t c => ?_, fun calls => ?_⟩
  · obtain ⟨-, hstack, hadapters⟩ := run_resolve_alone r t c s
    exact ⟨hstack, _, hadapters⟩
  · obtain ⟨hresults, hstack, hadapters⟩ := run_resolveEach r calls s
    exact ⟨hstack, hadapters, hresults⟩

/-- A failure at some depth closes the frames that were open there. -/
example : (((orders.environment.resolver 1 .useAdaptingShape).resolve (.raw ⟨"Order"⟩) {}).run
    { stack := ["Shop"] }).2.stack = ["Shop"] := rfl

end WireShape.Resolver
