import WireShape.Proofs.Resolver.DepthLimit

/-! # Coarser answers

Two things make an answer coarser, that is, put `object` in the place of some of its parts: an adapter
policy that does not take the shapes of adapting types, and more types in progress, which are cycles
where they are met. Neither decides what is looked up, so the rest of the answer stays. -/

namespace WireShape

/-- `s` is `t` with `object` in the place of some parts. -/
inductive Shape.Coarser : Shape → Shape → Prop
  | refl (s : Shape) : Coarser s s
  | object (s : Shape) : Coarser .object s
  | array {s t : Shape} : Coarser s t → Coarser (.array s) (.array t)
  | map {k l s t : Shape} : Coarser k l → Coarser s t → Coarser (.map k s) (.map l t)

theorem Context.coarser_wrap (c : Context) {s t : Shape} (h : s.Coarser t) :
    (c.wrap s).Coarser (c.wrap t) := by
  unfold wrap Position.wrap
  split
  · exact .array h
  · exact h

namespace Registration

/-- Where an adapter was met: the adapted type and the adapting one. -/
def site (a : Registration) : TypeName × TypeExpr := (a.adapted, a.adaptingType)

structure Coarser (a b : Registration) : Prop where
  site : a.site = b.site
  shape : a.shape.Coarser b.shape

end Registration

/-- Runs of which the first finds coarser shapes for the same types. -/
def Coupling.coarser : Coupling where
  shapes := Shape.Coarser
  types := Eq
  adapters as as' := List.Forall₂ Registration.Coarser as.toList as'.toList
  errors := Eq
  strict := True
  shapes_simple := ⟨fun _ => .refl _, .refl _⟩
  shapes_array := .array
  shapes_map := .map
  types_refl _ := rfl
  register h ht hs :=
    Registration.forall₂_push h ⟨by rw [Registration.site, Registration.site, ht], hs⟩

namespace Resolver

theorem coarser_resolveWithin (e : Environment) (m levels : Nat) (t : TypeExpr) (c : Context)
    (S : List String) :
    Coupling.coarser.Coupled S S Shape.Coarser
      ((e.resolver m .sideEffectOnly).resolveWithin levels t c)
      ((e.resolver m .useAdaptingShape).resolveWithin levels t c) := by
  have hp : Coupling.coarser.Policies (e.resolver m .sideEffectOnly)
      (e.resolver m .useAdaptingShape) := .inr ⟨rfl, .object⟩
  refine Coupling.Coupled.resolveWithin (K := Coupling.coarser) Eq hp rfl
    (fun _ _ s _ => .refl s) ?_ ?_
    (Nat.le_refl levels) (fun _ => rfl) rfl (fun _ _ => rfl) rfl t
  · rintro S S' i rfl
    rfl
  · rintro S S' d rfl
    rfl

/-- `sideEffectOnly` and `useAdaptingShape` fail alike, or the shape and the adapters of the first
are `Coarser` than those of the second. -/
theorem report_policies (e : Environment) (m : Nat) (t : TypeExpr) :
    match (e.resolver m .sideEffectOnly).report t, (e.resolver m .useAdaptingShape).report t with
    | .ok x, .ok x' => x.shape.Coarser x'.shape ∧
        List.Forall₂ Registration.Coarser x.adapters x'.adapters
    | .error error, .error error' => error = error'
    | _, _ => False := by
  have h := coarser_resolveWithin e m (m + 1) t {} [] {} {} ⟨rfl, rfl, .nil⟩
  simp only [report, run_eq]
  cases hr : (((e.resolver m .sideEffectOnly).resolveWithin (m + 1) t {}).run {}).1 with
  | ok shape =>
    obtain ⟨shape', hr', hs, h₁⟩ := h.ok shape hr
    rw [hr']
    exact ⟨hs, h₁.adapters⟩
  | error error =>
    obtain ⟨error', hr', he, -⟩ := h.error trivial error hr
    rw [hr']
    exact he

end Resolver

/-! ### Types in progress -/

namespace Coupling

/-- Adapter lists that have grown from `base` and `base'` by related lists. -/
def Grown (R : Array Registration → Array Registration → Prop)
    (base base' as as' : Array Registration) : Prop :=
  ∃ new new', as = base ++ new ∧ as' = base' ++ new' ∧ R new new'

theorem Grown.push {R : Array Registration → Array Registration → Prop}
    {base base' as as' : Array Registration} {a a' : Registration} (h : Grown R base base' as as')
    (hR : ∀ new new', R new new' → R (new.push a) (new'.push a')) :
    Grown R base base' (as.push a) (as'.push a') := by
  obtain ⟨new, new', rfl, rfl, h⟩ := h
  exact ⟨new.push a, new'.push a', Array.push_append, Array.push_append, hR new new' h⟩

/-- Runs that find the same shapes and record the same adapters behind those of `base` and `base'`. -/
def appending (base base' : Array Registration) : Coupling where
  __ := same True Eq
  adapters := Grown Eq base base'
  register h ht hs := by
    rw [ht, hs]
    exact h.push fun _ _ h => by rw [h]

theorem Coupled.exists_appended {α : Type} {x x' : Resolving α} {s s' : State}
    (h : (appending s.adapters s'.adapters).Coupled s.stack s'.stack Eq x x') :
    ∃ new, (x.run s).1 = (x'.run s').1 ∧ (x.run s).2.stack = s.stack ∧
      (x.run s).2.adapters = s.adapters ++ new ∧ (x'.run s').2.adapters = s'.adapters ++ new := by
  have hends := h s s' ⟨rfl, rfl, #[], #[], by simp, by simp, rfl⟩
  cases hr : (x.run s).1 with
  | ok a =>
    obtain ⟨_, hr', rfl, hs, _, new, new', ha, ha', rfl⟩ := hends.ok a hr
    exact ⟨new, hr'.symm, hs, ha, ha'⟩
  | error e =>
    obtain ⟨_, hr', rfl, hs, _, new, new', ha, ha', rfl⟩ := hends.error trivial e hr
    exact ⟨new, hr'.symm, hs, ha, ha'⟩

theorem cuts_push {r : Resolver} {S S' : List String} (i : String) (h : r.cuts S = r.cuts S') :
    r.cuts (i :: S) = r.cuts (i :: S') := by
  funext d
  rw [Resolver.cuts_cons, Resolver.cuts_cons, h]

theorem appending_resolveWithin (base base' : Array Registration) {r : Resolver} {S S' : List String}
    (h : r.cuts S = r.cuts S') (levels : Nat) (t : TypeExpr) (c : Context) :
    (appending base base').Coupled S S' Eq (r.resolveWithin levels t c)
      (r.resolveWithin levels t c) := by
  exact Coupled.resolveWithin (K := appending base base') (r.cuts · = r.cuts ·)
    (.inl rfl) rfl (fun _ _ _ _ => rfl) cuts_push (fun d h => congrFun h d) (Nat.le_refl levels)
    (fun _ => rfl) rfl (fun _ _ => rfl) h t

theorem appending_shapeOf (base base' : Array Registration) {r : Resolver} {S S' : List String}
    (h : r.cuts S = r.cuts S') (levels : Nat) (t : TypeExpr) (c : Context) :
    (appending base base').Coupled S S' Eq
      (r.shapeOf (fun p u => r.resolveWithin levels u (c.derive p)) t c)
      (r.shapeOf (fun p u => r.resolveWithin levels u (c.derive p)) t c) := by
  refine .shapeOf (.inl rfl) rfl (fun _ _ _ _ => rfl) rfl (fun _ _ _ => congrFun h _) fun q _ => ?_
  exact appending_resolveWithin base base' (rel_append (r.cuts · = r.cuts ·) cuts_push h q.opened) _ _ _

/-- The adapters of `new'` were met where some of those of `new` were, in the same order. -/
def Thinned (new new' : Array Registration) : Prop :=
  (new'.toList.map Registration.site).Sublist (new.toList.map Registration.site)

theorem Thinned.push {new new' : Array Registration} {a a' : Registration} (h : Thinned new new')
    (ha : a.site = a'.site) : Thinned (new.push a) (new'.push a') := by
  unfold Thinned
  rw [Array.toList_push, Array.toList_push, List.map_append, List.map_append]
  refine h.append ?_
  rw [List.map_singleton, List.map_singleton, ha]

/-- Runs of which the second finds coarser shapes and meets fewer adapters. The second has to end well
only where the first one does. -/
def coarsening (base base' : Array Registration) : Coupling where
  shapes s s' := s'.Coarser s
  types := Eq
  adapters := Grown Thinned base base'
  errors := Eq
  strict := False
  shapes_simple := ⟨fun _ => .refl _, .refl _⟩
  shapes_array := .array
  shapes_map := .map
  types_refl _ := rfl
  register h ht _ := h.push fun _ _ h => h.push (by rw [Registration.site, Registration.site, ht])

end Coupling

namespace Resolver
variable {r : Resolver} {t : TypeExpr} {c : Context} {s s' s₁ : State} {S S' : List String}
  {d : DeclaredType} {levels : Nat}

theorem cuts_congr (h : ∀ i, i ∈ S ↔ i ∈ S') : r.cuts S = r.cuts S' := by
  funext d
  have : S.contains d.identity = S'.contains d.identity := by
    rw [Bool.eq_iff_iff, List.contains_iff_mem, List.contains_iff_mem]
    exact h _
  rw [cuts, cuts, this]

theorem cuts_mono (h : ∀ i ∈ S, i ∈ S') (hcut : r.cuts S d = true) : r.cuts S' d = true := by
  rw [cuts, Bool.and_eq_true, List.contains_iff_mem] at hcut ⊢
  exact ⟨h _ hcut.1, hcut.2⟩

/-- The result and the new adapters depend on the state only through the identities on its stack. -/
theorem resolveWithin_congr (h : ∀ i, i ∈ s.stack ↔ i ∈ s'.stack) (levels : Nat) (t : TypeExpr)
    (c : Context) :
    ∃ new, ((r.resolveWithin levels t c).run s).1 = ((r.resolveWithin levels t c).run s').1 ∧
      ((r.resolveWithin levels t c).run s).2.stack = s.stack ∧
      ((r.resolveWithin levels t c).run s).2.adapters = s.adapters ++ new ∧
      ((r.resolveWithin levels t c).run s').2.adapters = s'.adapters ++ new := by
  have hcoupled : (Coupling.appending s.adapters s'.adapters).Coupled s.stack s'.stack Eq
      (r.resolveWithin levels t c) (r.resolveWithin levels t c) :=
    Coupling.appending_resolveWithin _ _ (cuts_congr h) levels t c
  exact hcoupled.exists_appended

theorem run_resolveWithin_declared (r : Resolver) (levels : Nat) (name : TypeName)
    (arguments : List TypeExpr) (c : Context) (s : State) :
    (r.resolveWithin (levels + 1) (.declared name arguments) c).run s =
      (r.declaredShape (fun position t => r.resolveWithin levels t (c.derive position))
        ⟨name, arguments⟩ c).run (s.note (.resolving (.declared name arguments) c.position)) := rfl

theorem run_resolveWithin_of_cuts (levels : Nat) (c : Context) {name : TypeName}
    {arguments : List TypeExpr} (hcut : r.cuts s.stack ⟨name, arguments⟩ = true) :
    ∃ events, (r.resolveWithin (levels + 1) (.declared name arguments) c).run s =
      (.ok (c.wrap .object), { s with events }) := by
  rw [run_resolveWithin_declared, Coupling.run_declaredShape]
  exact ⟨_, if_pos hcut⟩

theorem exists_wrap_of_resolveWithin_declared {name : TypeName} {arguments : List TypeExpr}
    {shape : Shape}
    (h : (r.resolveWithin levels (.declared name arguments) c).run s = (.ok shape, s₁)) :
    ∃ inner, shape = c.wrap inner := by
  cases levels with
  | zero => cases h
  | succ levels =>
    rw [run_resolveWithin_declared, Coupling.run_declaredShape] at h
    split at h
    · cases h
      exact ⟨_, rfl⟩
    · obtain ⟨inner, _, -, h⟩ := Resolving.exists_of_run_bind_ok h
      cases h
      exact ⟨inner, rfl⟩

/-- Where only the second run takes `name` for a cycle, its shape is the coarser one. -/
theorem coarsening_of_cuts (base base' : Array Registration) {name : TypeName}
    {arguments : List TypeExpr} (hcut : r.cuts S' ⟨name, arguments⟩ = true) :
    (Coupling.coarsening base base').Coupled S S' (fun s s' => s'.Coarser s)
      (r.resolveWithin (levels + 1) (.declared name arguments) c)
      (r.resolveWithin (levels + 1) (.declared name arguments) c) := by
  intro s s' hs
  refine ⟨fun shape h => ?_, False.elim⟩
  obtain ⟨events, hr'⟩ := run_resolveWithin_of_cuts levels c (hs.stack' ▸ hcut)
  obtain ⟨inner, rfl⟩ := exists_wrap_of_resolveWithin_declared (Prod.ext h rfl)
  obtain ⟨new, -, hstack, hnew, -⟩ := resolveWithin_congr (r := r) (s := s) (fun _ => Iff.rfl)
    (levels + 1) (.declared name arguments) c
  obtain ⟨old, old', ha, ha', hthin⟩ := hs.adapters
  refine ⟨c.wrap .object, by rw [hr'], c.coarser_wrap (.object inner), hstack.trans hs.stack, ?_, ?_⟩
  · rw [hr']
    exact hs.stack'
  · refine ⟨old ++ new, old', by rw [hnew, ha, Array.append_assoc], by rw [hr', ha'], ?_⟩
    rw [Coupling.Thinned, Array.toList_append, List.map_append]
    exact hthin.trans (List.sublist_append_left _ _)

theorem coarsening_resolveWithin (base base' : Array Registration) (h : ∀ i ∈ S, i ∈ S')
    (levels : Nat) (t : TypeExpr) (c : Context) :
    (Coupling.coarsening base base').Coupled S S' (fun s s' => s'.Coarser s)
      (r.resolveWithin levels t c) (r.resolveWithin levels t c) := by
  induction levels generalizing S S' t c with
  | zero => exact .of_throw False.elim fun s => rfl
  | succ levels ih =>
    -- a cycle of the second run has `object`, and without one neither run breaks a cycle here
    by_cases hcut : ∃ name arguments, t = .declared name arguments ∧
        r.cuts S' ⟨name, arguments⟩ = true
    · obtain ⟨name, arguments, rfl, hcut⟩ := hcut
      exact coarsening_of_cuts base base' hcut
    · have hcuts : ∀ name arguments, t = .declared name arguments →
          r.cuts S ⟨name, arguments⟩ = r.cuts S' ⟨name, arguments⟩ := by
        rintro name arguments rfl
        have hc' : r.cuts S' ⟨name, arguments⟩ = false :=
          Bool.eq_false_iff.mpr fun hc' => hcut ⟨name, arguments, rfl, hc'⟩
        have hc : r.cuts S ⟨name, arguments⟩ = false :=
          Bool.eq_false_iff.mpr fun hc => Bool.eq_false_iff.mp hc' (cuts_mono h hc)
        rw [hc, hc']
      refine .note _ _ (.shapeOf (.inl rfl) rfl (fun _ _ s _ => .refl s) rfl hcuts
        fun q _ => ih ?_ _ _)
      intro i hi
      rcases List.mem_append.mp hi with hi | hi
      · exact List.mem_append_left _ hi
      · exact List.mem_append_right _ (h i hi)

/-- With more identities on the stack `resolve` gives a `Coarser` shape, and records adapters at
some of the same sites in the same order. With the same identities it gives the same result and
records the same adapters. -/
theorem resolve_coarsens (r : Resolver) (t : TypeExpr) (c : Context) (s s' : State)
    (h : ∀ i ∈ s.stack, i ∈ s'.stack) :
    (∀ shape, ((r.resolve t c).run s).1 = .ok shape →
      ∃ shape' new new', ((r.resolve t c).run s').1 = .ok shape' ∧ shape'.Coarser shape ∧
        ((r.resolve t c).run s).2.adapters = s.adapters ++ new ∧
        ((r.resolve t c).run s').2.adapters = s'.adapters ++ new' ∧
        (new'.toList.map Registration.site).Sublist (new.toList.map Registration.site)) ∧
    ((∀ i ∈ s'.stack, i ∈ s.stack) →
      ∃ new, ((r.resolve t c).run s').1 = ((r.resolve t c).run s).1 ∧
        ((r.resolve t c).run s).2.adapters = s.adapters ++ new ∧
        ((r.resolve t c).run s').2.adapters = s'.adapters ++ new) := by
  refine ⟨fun shape hr => ?_, fun h' => ?_⟩
  · obtain ⟨shape', hr', hs, -, -, new, new', ha, ha', hthin⟩ :=
      (coarsening_resolveWithin s.adapters s'.adapters h _ t c s s'
        ⟨rfl, rfl, #[], #[], by simp, by simp, .refl _⟩).ok shape hr
    exact ⟨shape', new, new', hr', hs, ha, ha', hthin⟩
  · obtain ⟨new, hr, -, ha, ha'⟩ := resolveWithin_congr (r := r) (fun i => ⟨h i, h' i⟩)
      (r.settings.maxDepth + 1 - c.depth) t c
    exact ⟨new, hr.symm, ha, ha'⟩

theorem resolve_coarsens_orders :
    (∀ i ∈ ({} : State).stack, i ∈ ({ stack := ["Line"] } : State).stack) ∧
    ∃ shape, (((orders.environment.resolver 3 .useAdaptingShape).resolve (.raw ⟨"Order"⟩) {}).run
        { stack := ["Line"] }).1 = .ok shape ∧
      shape.Coarser (.array (.primitive .integer)) :=
  have h : ∀ i ∈ ({} : State).stack, i ∈ ({ stack := ["Line"] } : State).stack :=
    fun _ hi => nomatch hi
  have ⟨shape, _, _, hr, hs, _⟩ := (resolve_coarsens _ _ {} {} { stack := ["Line"] } h).1 _ rfl
  ⟨h, shape, hr, hs⟩

end Resolver

end WireShape
