import WireShape.Proofs.Registry.Instances
import WireShape.Proofs.Registry.Links
import WireShape.Proofs.Resolver.DepthLimit

/-! # What a registry is asked

Resolving a type asks only about names that can be reached: those used in it, and, from each of them
that is registered, those used in the types that its declaration holds. The types met on the way are
instances and occur nowhere, but their nodes all come from types that do. So two registries that
agree on the names that can be reached give the same answers. -/

namespace WireShape

/-- The names that can be reached from `t`. -/
inductive Registry.Reaches (R : Registry) (t : TypeExpr) : TypeName → Prop
  | used {name : TypeName} : name ∈ t.names → R.Reaches t name
  | held {name name' : TypeName} {d : Declaration} {u : TypeExpr} : R.Reaches t name →
    R.get? name = some d → u ∈ d.held → name' ∈ u.names → R.Reaches t name'

theorem TypeExpr.Consists.of_inner {P : Node → Prop} {t : TypeExpr} (ht : t.Consists P)
    {q : Position × TypeExpr} (hq : q ∈ t.inner?) : q.2.Consists P := by
  match t with
  | .array component =>
    cases hq
    exact (array_iff.mp ht).2
  | .parameter _ (some bound) =>
    cases hq
    exact (parameter_iff.mp ht).2 bound rfl
  | .wildcard (some bound) =>
    cases hq
    exact (wildcard_iff.mp ht).2 bound rfl
  | .primitive _ | .declared .. | .parameter _ none | .wildcard none | .other _ => cases hq

namespace Registry
variable {R R' : Registry} {N : TypeName → Prop}

/-- `N` has the names used in what the declarations of its names hold. -/
def Closed (R : Registry) (N : TypeName → Prop) : Prop :=
  ∀ name d, N name → R.get? name = some d → ∀ u ∈ d.held, ∀ name' ∈ u.names, N name'

/-- `R.Reaches t` is the least `Closed` set with the names used in `t`. -/
theorem Closed.of_reaches (hN : R.Closed N) {t : TypeExpr} (ht : ∀ name ∈ t.names, N name)
    {name : TypeName} (h : R.Reaches t name) : N name := by
  induction h with
  | used h => exact ht _ h
  | held _ hd hu hname ih => exact hN _ _ ih hd _ hu _ hname

theorem closed_reaches (R : Registry) (t : TypeExpr) : R.Closed (R.Reaches t) :=
  fun _ _ h hd _ hu _ hname => .held h hd hu hname

/-- Registries that agree on a `Closed` set of names resolve the types `Within` it alike. -/
theorem coupled_of_agree (hN : R.Closed N) (hagree : ∀ name, N name → R.get? name = R'.get? name)
    (settings : Settings) (levels : Nat) {t : TypeExpr} (ht : t.Consists (Node.Within N))
    (S : List String) (c : Context) :
    (Coupling.same True Eq).Coupled S S Eq
      (Resolver.resolveWithin ⟨R.environment, settings⟩ levels t c)
      (Resolver.resolveWithin ⟨R'.environment, settings⟩ levels t c) := by
  induction levels generalizing t S c with
  | zero => exact .note _ _ (.throw fun _ => rfl)
  | succ levels ih =>
    refine .note _ _ (.shapeOf_of_inner rfl (fun name arguments htype => ?_)
      fun q hq => ih (ht.of_inner hq) S _)
    subst htype
    obtain ⟨hname, harguments⟩ := TypeExpr.Consists.declared_iff.mp ht
    have hget : R.get? name = R'.get? name := hagree name (hname name rfl)
    refine (Coupling.Coupled.declaredShape_of_instances (fun _ => rfl) hget rfl
      fun d hd u hu p => ⟨rfl, ih ?_ _ _⟩).mono fun _ _ => Coupling.Placed.shapes rfl
    have hheld : ∀ u ∈ d.held, u.Consists (Node.Within N) := fun u hu =>
      TypeExpr.consists_within_iff.mpr (hN name d (hname name rfl) hd u hu)
    exact Declaration.consists_instantiate (Node.within_parameter N) harguments hheld hu

theorem report_congr (settings : Settings) {t : TypeExpr}
    (hagree : ∀ name, R.Reaches t name → R.get? name = R'.get? name) :
    Resolver.report ⟨R.environment, settings⟩ t = Resolver.report ⟨R'.environment, settings⟩ t := by
  have ht : t.Consists (Node.Within (R.Reaches t)) :=
    TypeExpr.consists_within_iff.mpr fun _ => .used
  have hcoupled := coupled_of_agree (closed_reaches R t) hagree settings (settings.maxDepth + 1) ht
    [] {}
  obtain ⟨hresult, hadapters⟩ := Coupling.Coupled.run_eq {} {} hcoupled rfl
  rw [Resolver.report, Resolver.report, Resolver.run_eq, Resolver.run_eq, hresult, hadapters]

/-- A name that `t` does not reach has no part in its report: neither `register` nor `erase` of it
changes that. -/
theorem report_of_not_reaches (R : Registry) (settings : Settings) (t : TypeExpr) {name : TypeName}
    (h : ¬ R.Reaches t name) (d : Declaration) :
    Resolver.report ⟨(R.register name d).1.environment, settings⟩ t =
        Resolver.report ⟨R.environment, settings⟩ t ∧
      Resolver.report ⟨(R.erase name).environment, settings⟩ t =
        Resolver.report ⟨R.environment, settings⟩ t := by
  have hne {name' : TypeName} (h' : R.Reaches t name') : name' ≠ name := fun heq => h (heq ▸ h')
  refine ⟨(report_congr settings fun name' h' => ?_).symm,
    (report_congr settings fun name' h' => ?_).symm⟩
  · show R.get? name' = (R.insert name d).get? name'
    rw [get?_insert, if_neg (hne h')]
  · rw [get?_erase, if_neg (hne h')]

/-- From lists of units one comes to units and to the parameter of lists, and no further. -/
theorem report_of_not_reaches_lines :
    let units : TypeExpr := .declared ⟨"java.util.List"⟩ [.raw ⟨"Unit"⟩]
    ¬ lines.Reaches units ⟨"Line"⟩ ∧
      Resolver.report ⟨(lines.register ⟨"Line"⟩ { kind := .enumType }).1.environment, {}⟩ units =
        .ok ⟨.array (.named ⟨⟨"Unit"⟩, .enum⟩), []⟩ ∧
      Resolver.report ⟨(lines.erase ⟨"Line"⟩).environment, {}⟩ units =
        .ok ⟨.array (.named ⟨⟨"Unit"⟩, .enum⟩), []⟩ := by
  intro units
  let reached : List TypeName := [⟨"java.util.List"⟩, ⟨"E"⟩, ⟨"Unit"⟩]
  have hclosed : lines.Closed (· ∈ reached) := by
    have h : ∀ name ∈ reached, ∀ d ∈ lines.get? name, ∀ u ∈ d.held, ∀ name' ∈ u.names,
        name' ∈ reached := by decide +kernel
    exact fun name d hname hd => h name hname d hd
  have hline : ¬ lines.Reaches units ⟨"Line"⟩ := fun h =>
    absurd (hclosed.of_reaches (by decide) h) (by decide)
  have hreport : Resolver.report ⟨lines.environment, {}⟩ units =
      .ok ⟨.array (.named ⟨⟨"Unit"⟩, .enum⟩), []⟩ := by decide +kernel
  obtain ⟨hregister, herase⟩ :=
    report_of_not_reaches lines {} units hline { kind := .enumType }
  exact ⟨hline, hregister.trans hreport, herase.trans hreport⟩

end Registry

end WireShape
