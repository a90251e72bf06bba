import Mathlib.Data.List.Duplicate
import WireShape.Proofs.Resolver.DepthLimit
import WireShape.Registry.Builtins
import WireShape.Registry.Lookup

/-! # Open frames

While a type is resolved, the stack holds the identities of the uses whose frames are open. Never are
more frames open than levels lie above, no level lies more than one beyond the limit, and where an
identity stands twice on the stack, the later frame is that of a collection or stream.

This is said of every call that a resolution makes. What these calls are is told by traps: with a trap
set at a call, resolution fails as soon as it comes to that call, and goes on as ever otherwise. So a
call is made exactly if a trap there changes the result. -/

namespace WireShape

/-- A call of resolution. -/
structure Site where
  /-- The uses whose frames are open, innermost first. -/
  frames : List DeclaredType
  stack : List String
  type : TypeExpr
  context : Context
deriving DecidableEq

/-- The uses whose frames are open below `t`, with those of `frames` open at `t`. -/
def TypeExpr.framesBelow (frames : List DeclaredType) : TypeExpr → List DeclaredType
  | .declared name arguments => ⟨name, arguments⟩ :: frames
  | .primitive _ | .array _ | .parameter .. | .wildcard _ | .other _ => frames

namespace Resolver

/-- Does `x`, unless the call is `q`, which fails with `e`. -/
def unlessAt (q : Site) (e : LimitExceeded) (frames : List DeclaredType) (t : TypeExpr) (c : Context)
    (x : Resolving Shape) : Resolving Shape := do
  let s ← get
  if ⟨frames, s.stack, t, c⟩ = q then throw e else x

/-- Resolution with a trap at `q`. -/
def resolveTrapped (r : Resolver) (q : Site) (e : LimitExceeded) :
    (levels : Nat) → List DeclaredType → TypeExpr → Context → Resolving Shape
  | 0, frames, t, c => unlessAt q e frames t c do
    Resolving.note (.limitExceeded t c.depth)
    throw ⟨t, c.depth⟩
  | levels + 1, frames, t, c => unlessAt q e frames t c do
    Resolving.note (.resolving t c.position)
    r.shapeOf (fun position t' =>
      r.resolveTrapped q e levels (t.framesBelow frames) t' (c.derive position)) t c

/-- Resolving `t` from the top makes the call `q`. -/
def ComesTo (r : Resolver) (t : TypeExpr) (q : Site) : Prop :=
  ∃ e, ((r.resolveTrapped q e (r.settings.maxDepth + 1) [] t {}).run {}).1 ≠ r.shape t

theorem run_unlessAt (q : Site) (e : LimitExceeded) (frames : List DeclaredType) (t : TypeExpr)
    (c : Context) (x : Resolving Shape) (s : State) :
    (unlessAt q e frames t c x).run s =
      if ⟨frames, s.stack, t, c⟩ = q then (.error e, s) else x.run s := by
  have hget : (get : Resolving State).run s = (.ok s, s) := rfl
  unfold unlessAt
  rw [Resolving.run_bind_ok hget]
  split <;> rfl

end Resolver

/-! ### What each call keeps -/

/-- The frames of a call fit its stack, its context and the limit. -/
structure Site.Sound (e : Environment) (limit : Nat) (q : Site) : Prop where
  stack : q.stack = q.frames.map DeclaredType.identity
  length : q.frames.length ≤ q.context.depth
  depth : q.context.depth ≤ limit + 1
  repeats : q.frames.Pairwise fun inner outer =>
    inner.identity = outer.identity → e.isCollectionOrStream inner = true

namespace Resolver
variable {r : Resolver} {limit : Nat} {q : Site}

/-- A call opens a frame only for a use that `cuts` is false of. -/
theorem calls_cases {S : List String} {t : TypeExpr} {call : Call} (h : call ∈ r.calls S t)
    (frames : List DeclaredType) :
    call.opened = [] ∧ t.framesBelow frames = frames ∨
      ∃ d : DeclaredType, r.cuts S d = false ∧ call.opened = [d.identity] ∧
        t.framesBelow frames = d :: frames := by
  match t with
  | .array component =>
    obtain rfl := List.mem_singleton.mp h
    exact .inl ⟨rfl, rfl⟩
  | .parameter _ (some bound) | .wildcard (some bound) =>
    obtain rfl := List.mem_singleton.mp h
    exact .inl ⟨rfl, rfl⟩
  | .declared name arguments =>
    cases hcut : r.cuts S ⟨name, arguments⟩ with
    | true => simp [calls, hcut] at h
    | false =>
      simp only [calls, hcut, Bool.false_eq_true, if_false] at h
      obtain ⟨a, -, rfl⟩ := List.mem_map.mp h
      exact .inr ⟨⟨name, arguments⟩, hcut, rfl, rfl⟩
  | .primitive _ | .parameter _ none | .wildcard none | .other _ => cases h

/-- The calls below a `Sound` site make `Sound` sites. -/
theorem sound_below (h : q.Sound r.environment limit) (hdepth : q.context.depth ≤ limit)
    {call : Call} (hcall : call ∈ r.calls q.stack q.type) :
    Site.Sound r.environment limit ⟨q.type.framesBelow q.frames, call.opened ++ q.stack, call.type,
      q.context.derive call.position⟩ := by
  have hlimit : q.context.depth + 1 ≤ limit + 1 := Nat.succ_le_succ hdepth
  rcases calls_cases hcall q.frames with ⟨hopened, hframes⟩ | ⟨d, hcut, hopened, hframes⟩
  · rw [hopened, hframes]
    exact ⟨h.stack, Nat.le_succ_of_le h.length, hlimit, h.repeats⟩
  · rw [hopened, hframes]
    refine ⟨congrArg (d.identity :: ·) h.stack, Nat.succ_le_succ h.length, hlimit,
      List.pairwise_cons.mpr ⟨fun outer houter hidentity => ?_, h.repeats⟩⟩
    -- `d` is in progress already, so that it is only entered because it is never cut off
    have hmem : d.identity ∈ q.stack := by
      rw [h.stack, hidentity]
      exact List.mem_map_of_mem houter
    simpa [cuts, hmem] using hcut

theorem coupled_unlessAt {e : LimitExceeded} {frames : List DeclaredType} {S : List String}
    {t : TypeExpr} {c : Context} {x x' : Resolving Shape} (hne : ⟨frames, S, t, c⟩ ≠ q)
    (h : (Coupling.same True Eq).Coupled S S Eq x x') :
    (Coupling.same True Eq).Coupled S S Eq (unlessAt q e frames t c x) x' := by
  intro s s' hs
  rw [run_unlessAt, hs.stack, if_neg hne]
  exact h s s' hs

/-- A trap at a site that is not `Sound` changes nothing. -/
theorem coupled_resolveTrapped (hq : ¬ q.Sound r.environment limit) (e : LimitExceeded)
    (levels : Nat) {frames : List DeclaredType} {S : List String} {t : TypeExpr} {c : Context}
    (h : Site.Sound r.environment limit ⟨frames, S, t, c⟩) (hlevels : c.depth + levels = limit + 1) :
    (Coupling.same True Eq).Coupled S S Eq (r.resolveTrapped q e levels frames t c)
      (r.resolveWithin levels t c) := by
  have hne {frames S t c} (h : Site.Sound r.environment limit ⟨frames, S, t, c⟩) :
      ⟨frames, S, t, c⟩ ≠ q := by
    rintro rfl
    exact hq h
  induction levels generalizing frames S t c with
  | zero => exact coupled_unlessAt (hne h) (.note _ _ (.throw fun _ => rfl))
  | succ levels ih =>
    refine coupled_unlessAt (hne h) (.note _ _ (.shapeOf (.inl rfl) rfl (fun _ _ _ _ => rfl) rfl
      (fun _ _ _ => rfl) fun call hcall => ?_))
    have hdepth : c.depth ≤ limit := by omega
    have hbelow : (c.derive call.position).depth + levels = limit + 1 := by
      show c.depth + 1 + levels = limit + 1
      omega
    exact ih (sound_below h hdepth hcall) hbelow

theorem sound_of_comesTo {t : TypeExpr} (h : r.ComesTo t q) :
    q.Sound r.environment r.settings.maxDepth := by
  by_contra hq
  obtain ⟨e, hne⟩ := h
  have htop : Site.Sound r.environment r.settings.maxDepth ⟨[], [], t, {}⟩ :=
    ⟨rfl, Nat.le_refl 0, Nat.zero_le _, .nil⟩
  have hcoupled := coupled_resolveTrapped hq e (r.settings.maxDepth + 1) htop (Nat.zero_add _)
  exact hne (Coupling.Coupled.run_eq {} {} hcoupled rfl).1

end Resolver

theorem exists_of_duplicate {P : DeclaredType → Prop} {frames : List DeclaredType} {i : String}
    (h : frames.Pairwise fun inner outer => inner.identity = outer.identity → P inner)
    (hi : List.Duplicate i (frames.map DeclaredType.identity)) :
    ∃ d ∈ frames, d.identity = i ∧ P d := by
  induction frames with
  | nil => cases hi
  | cons d frames ih =>
    obtain ⟨hd, hframes⟩ := List.pairwise_cons.mp h
    rw [List.map_cons, List.duplicate_cons_iff] at hi
    rcases hi with ⟨rfl, hmem⟩ | hi
    · obtain ⟨outer, houter, hidentity⟩ := List.mem_map.mp hmem
      exact ⟨d, List.mem_cons_self, rfl, hd outer houter hidentity.symm⟩
    · obtain ⟨d', hd', h⟩ := ih hframes hi
      exact ⟨d', List.mem_cons_of_mem _ hd', h⟩

namespace Registry
variable {R : Registry} {u : DeclaredType}

theorem exists_get?_identity (hR : R.get? ⟨""⟩ = none)
    (h : R.environment.isCollectionOrStream u = true) :
    ∃ d, R.get? ⟨u.identity⟩ = some d ∧ d.isCollectionOrStream = true := by
  obtain ⟨⟨text⟩, arguments⟩ := u
  cases hd : R.get? ⟨text⟩ with
  | none =>
    have hnone : R.get? (DeclaredType.mk ⟨text⟩ arguments).name = none := hd
    simp [environment, hnone] at h
  | some d =>
    have htext : text ≠ "" := by
      rintro rfl
      rw [hR] at hd
      cases hd
    have hidentity : DeclaredType.identity ⟨⟨text⟩, arguments⟩ = text :=
      DeclaredType.identity_of_ne_empty htext arguments
    rw [isCollectionOrStream_of_get? (u := ⟨⟨text⟩, arguments⟩) hd] at h
    rw [hidentity]
    exact ⟨d, hd, h⟩

end Registry

namespace Resolver

/-- At every site `q` with `r.ComesTo t q` the stack is the identities of `frames`, no longer than the
depth, which is at most one beyond the limit. If an inner frame has the identity of an outer one, it
is that of a collection or stream; over a registry with nothing under the empty name, an identity
that stands twice is the name of one. -/
theorem frames_of_comesTo (r : Resolver) (t : TypeExpr) {q : Site} (h : r.ComesTo t q) :
    q.stack = q.frames.map DeclaredType.identity ∧ q.stack.length ≤ q.context.depth ∧
    q.context.depth ≤ r.settings.maxDepth + 1 ∧
    (q.frames.Pairwise fun inner outer =>
      inner.identity = outer.identity → r.environment.isCollectionOrStream inner = true) ∧
    ∀ R : Registry, r.environment = R.environment → R.get? ⟨""⟩ = none →
      ∀ i, List.Duplicate i q.stack → ∃ d, R.get? ⟨i⟩ = some d ∧ d.isCollectionOrStream = true := by
  have hq := sound_of_comesTo h
  refine ⟨hq.stack, ?_, hq.depth, hq.repeats, fun R he hR i hi => ?_⟩
  · rw [hq.stack, List.length_map]
    exact hq.length
  · rw [hq.stack] at hi
    obtain ⟨d, -, rfl, hd⟩ := exists_of_duplicate hq.repeats hi
    exact Registry.exists_get?_identity hR (he ▸ hd)

def listOf (t : TypeExpr) : TypeExpr := .declared ⟨"java.util.List"⟩ [t]

/-- The numbers in a list of lists of numbers. -/
def nestedNumber : Site where
  frames := [⟨⟨"java.util.List"⟩, [.primitive .int]⟩, ⟨⟨"java.util.List"⟩, [listOf (.primitive .int)]⟩]
  stack := ["java.util.List", "java.util.List"]
  type := .primitive .int
  context := ⟨.collectionElement, 2⟩

theorem frames_of_comesTo_nestedNumber :
    (Registry.builtins.environment.resolver 2 .sideEffectOnly).ComesTo
      (listOf (listOf (.primitive .int))) nestedNumber ∧
    Registry.builtins.get? ⟨""⟩ = none ∧ List.Duplicate "java.util.List" nestedNumber.stack ∧
    ∃ d, Registry.builtins.get? ⟨"java.util.List"⟩ = some d ∧ d.isCollectionOrStream = true := by
  have hcomes : (Registry.builtins.environment.resolver 2 .sideEffectOnly).ComesTo
      (listOf (listOf (.primitive .int))) nestedNumber := ⟨⟨.primitive .int, 0⟩, by decide +kernel⟩
  have htwice : List.Duplicate "java.util.List" nestedNumber.stack := by decide
  have hnameless : Registry.builtins.get? ⟨""⟩ = none := by decide +kernel
  obtain ⟨-, -, -, -, hregistered⟩ := frames_of_comesTo _ _ hcomes
  exact ⟨hcomes, hnameless, htwice, hregistered _ rfl hnameless _ htwice⟩

end Resolver

end WireShape
