import WireShape.Proofs.Registry.Clearing
import WireShape.Proofs.Registry.Describe
import WireShape.Proofs.Registry.RawUses
import WireShape.Proofs.Resolver.SharedState

/-! # Properties

A description resolves the type and each of its properties from the top. So what is found for a property
depends on its own type and on the parameters of the owner, which stand there as variables, and neither
on the other properties nor on the owner itself. -/

namespace WireShape

namespace Registry
variable {R : Registry} {name : TypeName} {d : Declaration}

theorem exists_description_iff (h : R.get? name = some d) :
    (∃ description, (R.describe name).result = .ok description) ↔
      (∃ shape, R.resolver.shape (.raw name) = .ok shape) ∧
        ∀ p ∈ d.properties.entries, ∃ shape, R.resolver.propertyShape d p.2 = .ok shape := by
  constructor
  · rintro ⟨description, hdescription⟩
    have hd := (describe_eq_ok_iff h).mp hdescription
    refine ⟨⟨_, hd.shape⟩, fun p hp => ?_⟩
    rw [← hd.properties] at hp
    obtain ⟨property, hproperty, rfl⟩ := List.mem_map.mp hp
    exact ⟨property.shape, hd.alone property hproperty⟩
  · rintro ⟨⟨shape, hshape⟩, hproperties⟩
    cases hr : (R.describe name).result with
    | ok description => exact ⟨description, rfl⟩
    | error e =>
      -- nothing is there that could fail
      obtain ⟨cause, hcause | ⟨-, hentries, -, hcause⟩, -⟩ :=
        (describe_eq_error_iff h).mp hr
      · rw [hshape] at hcause
        cases hcause
      · have hp := hproperties _ (hentries ▸ List.mem_append_right _ List.mem_cons_self)
        rw [hcause] at hp
        obtain ⟨_, hp⟩ := hp
        cases hp

theorem describe_eq_notRegistered_iff {n : String} :
    (R.describe name).result = .error (.notRegistered n) ↔ n = name.text ∧ R.get? name = none := by
  cases hget : R.get? name with
  | none =>
    rw [describe_of_get?_eq_none hget]
    simp [eq_comm]
  | some d =>
    -- a registered type fails at the limit only
    rw [describe_eq_error_iff hget]
    simp [LimitExceeded.toError]

/-- A property resolves alike `asVariables` and `asWildcards`. -/
theorem propertyShape_asWildcards (hR : R.Holds Node.Named) (h : R.get? name = some d) {t : TypeExpr}
    (ht : t.Consists Node.Named) (shape : Shape) :
    R.resolver.propertyShape d t = .ok shape ↔
      R.resolver.shape (t.substitute d.asWildcards) = .ok shape := by
  have hnamed : (t.substitute d.asVariables).Consists Node.Named := by
    rw [← Declaration.instantiate_nil]
    exact ht.substitute (Declaration.consists_bindings (Node.within_parameter _)
      (fun a ha => nomatch ha) (hR name d h))
  have hcoupled := Coupling.forgetting_resolveWithin hR #[] #[] R.settings (R.settings.maxDepth + 1)
    (d.forgets_asWildcards t) hnamed [] {}
  have hends := hcoupled {} {} ⟨rfl, rfl, #[], #[], rfl, rfl, .nil⟩
  constructor
  · intro hshape
    obtain ⟨_, hshape', rfl, -⟩ := hends.ok shape hshape
    exact hshape'
  · intro hshape'
    cases hshape : R.resolver.propertyShape d t with
    | ok shape₁ =>
      obtain ⟨_, hr', rfl, -⟩ := hends.ok shape₁ hshape
      exact congrArg _ (Except.ok.inj (hr'.symm.trans hshape'))
    | error e =>
      obtain ⟨e', hr', -⟩ := hends.error trivial e hshape
      cases hr'.symm.trans hshape'

theorem resolver_insert_properties (h : R.get? name = some d) (properties : NameTable TypeExpr) :
    (R.insert name { d with properties }).resolver = R.resolver := by
  have henvironment : R.environment = (R.insert name { d with properties }).environment := by
    refine environment_congr fun n => ?_
    rw [get?_insert]
    split
    next hn =>
      rw [hn, h]
      exact .some (.with_properties d properties)
    · exact Coupling.rel_refl fun d _ => .refl d
  unfold resolver
  rw [← henvironment]
  rfl

/-- `describe` fails with `notRegistered` exactly where `R` has no declaration. Otherwise it
`Describes` the type and its properties by the shapes that each of them has by itself, or fails with
the one that `FailsFirst`. `propertyShape` depends neither on the other properties nor on what was
resolved before over the same state (`resolveEach`). -/
theorem describe_resolves_each (R : Registry) (name : TypeName) :
    (∀ n, (R.describe name).result = .error (.notRegistered n) ↔
      n = name.text ∧ R.get? name = none) ∧
    ∀ d, R.get? name = some d →
      ((∃ description, (R.describe name).result = .ok description) ↔
        (∃ shape, R.resolver.shape (.raw name) = .ok shape) ∧
          ∀ p ∈ d.properties.entries, ∃ shape, R.resolver.propertyShape d p.2 = .ok shape) ∧
      (∀ description, (R.describe name).result = .ok description ↔
        R.resolver.Describes name d description) ∧
      (∀ e, (R.describe name).result = .error e ↔
        ∃ cause, R.resolver.FailsFirst name d cause ∧ cause.toError = e) ∧
      (R.Holds Node.Named → ∀ t, t.Consists Node.Named → ∀ shape,
        R.resolver.propertyShape d t = .ok shape ↔
          R.resolver.shape (t.substitute d.asWildcards) = .ok shape) ∧
      (∀ properties t,
        (R.insert name { d with properties }).resolver.propertyShape { d with properties } t =
          R.resolver.propertyShape d t) ∧
      (R.resolver.resolveEach ((.raw name, {}) ::
          d.properties.entries.map fun p => (p.2.substitute d.asVariables, {})) {}).1 =
        R.resolver.shape (.raw name) ::
          d.properties.entries.map fun p => R.resolver.propertyShape d p.2 := by
  refine ⟨fun n => describe_eq_notRegistered_iff, fun d h => ?_⟩
  refine ⟨exists_description_iff h, fun _ => describe_eq_ok_iff h,
    fun _ => describe_eq_error_iff h, fun hR t ht => propertyShape_asWildcards hR h ht,
    fun properties t => ?_, ?_⟩
  · rw [resolver_insert_properties h properties]
    rfl
  · obtain ⟨hresults, -⟩ := Resolver.run_resolveEach R.resolver ((.raw name, {}) ::
      d.properties.entries.map fun p => (p.2.substitute d.asVariables, {})) {}
    rw [hresults, List.map_cons, List.map_map]
    rfl

/-- A box has things, numbers all, and is in another box perhaps. A crate has boxes, and chains and loops
without end. -/
def box : Declaration where
  parameters := [⟨"T", some (.raw ⟨"Number"⟩)⟩]
  properties :=
    .ofList [("thing", .raw ⟨"T"⟩), ("outer", .raw ⟨"Box"⟩), ("others", .array (.raw ⟨"T"⟩))]

def crate : Declaration where
  properties := .ofList [("loop", .raw ⟨"Loop"⟩), ("chain", .raw ⟨"Chain"⟩), ("box", .raw ⟨"Box"⟩)]

/-- A collection of its own kind. -/
def endless (name : TypeName) : Declaration where
  container := some (.collection (.raw name))

def crates : Registry :=
  let empty : Registry := { settings := { maxDepth := 3 } }
  let number : Declaration := { known := some (.primitive .number) }
  let filled := ((empty.insert ⟨"Number"⟩ number).insert ⟨"Box"⟩ box).insert ⟨"Crate"⟩ crate
  (filled.insert ⟨"Chain"⟩ (endless ⟨"Chain"⟩)).insert ⟨"Loop"⟩ (endless ⟨"Loop"⟩)

theorem describe_resolves_each_crates :
    let outer : Shape := .named ⟨⟨"Box"⟩, .object⟩
    crates.get? ⟨"Box"⟩ = some box ∧ crates.get? ⟨"Crate"⟩ = some crate ∧
    crates.Holds Node.Named ∧ TypeExpr.Consists Node.Named (.array (.raw ⟨"T"⟩)) ∧
    (crates.describe ⟨"Box"⟩).result = .ok ⟨⟨"Box"⟩, .classType, outer, [
      ⟨"others", .array (.raw ⟨"T"⟩), .array (.primitive .number)⟩,
      ⟨"outer", .raw ⟨"Box"⟩, outer⟩,
      ⟨"thing", .raw ⟨"T"⟩, .primitive .number⟩]⟩ ∧
    crates.resolver.shape (.array (.wildcard (some (.raw ⟨"Number"⟩)))) =
      .ok (.array (.primitive .number)) ∧
    (crates.describe ⟨"Crate"⟩).result = .error (.recursionLimit "Chain" 4) ∧
    (crates.describe ⟨"Lid"⟩).result = .error (.notRegistered "Lid") := by
  intro outer
  have hbox : crates.get? ⟨"Box"⟩ = some box := by rfl
  have hcrate : crates.get? ⟨"Crate"⟩ = some crate := by rfl
  have hlid : crates.get? ⟨"Lid"⟩ = none := by rfl
  have hR : crates.Holds Node.Named := by
    have hempty : Holds { settings := { maxDepth := 3 } } Node.Named := fun name d h => nomatch h
    refine ((((hempty.insert ⟨"Number"⟩ ?_).insert ⟨"Box"⟩ ?_).insert ⟨"Crate"⟩ ?_).insert
      ⟨"Chain"⟩ ?_).insert ⟨"Loop"⟩ ?_ <;>
    · simp only [TypeExpr.consists_within_iff]
      decide
  have hothers : TypeExpr.Consists Node.Named (.array (.raw ⟨"T"⟩)) := by
    rw [TypeExpr.consists_within_iff]
    decide
  obtain ⟨-, hdescribes, -, hwildcards, -⟩ := (describe_resolves_each crates ⟨"Box"⟩).2 box hbox
  obtain ⟨-, -, hfails, -⟩ := (describe_resolves_each crates ⟨"Crate"⟩).2 crate hcrate
  refine ⟨hbox, hcrate, hR, hothers, (hdescribes _).mpr ?_, (hwildcards hR _ hothers _).mp ?_,
    (hfails _).mpr ⟨⟨.raw ⟨"Chain"⟩, 4⟩, ?_, ?_⟩,
    ((describe_resolves_each crates ⟨"Lid"⟩).1 _).mpr ⟨rfl, hlid⟩⟩
  · exact ⟨by decide +kernel, rfl, rfl, by rfl, by decide +kernel, by decide +kernel⟩
  · decide +kernel
  · have hshape : crates.resolver.shape (.raw ⟨"Crate"⟩) = .ok (.named ⟨⟨"Crate"⟩, .object⟩) := by
      decide +kernel
    have hentries : crate.properties.entries =
        [("box", .raw ⟨"Box"⟩)] ++ ("chain", .raw ⟨"Chain"⟩) :: [("loop", .raw ⟨"Loop"⟩)] := by rfl
    have hbefore : ∀ q ∈ [("box", TypeExpr.raw ⟨"Box"⟩)], ∃ shape,
        crates.resolver.propertyShape crate q.2 = .ok shape := by
      intro q hq
      obtain rfl := List.mem_singleton.mp hq
      exact ⟨outer, by decide +kernel⟩
    exact .property hshape hentries hbefore (by decide +kernel)
  · rfl

end Registry

end WireShape
