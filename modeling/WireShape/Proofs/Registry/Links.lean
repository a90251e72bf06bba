import WireShape.Proofs.Resolver.Coarser
import WireShape.Proofs.Resolver.Plain
import WireShape.Registry.Builtins

/-! # Links

A shape refers to definitions by name. Where the known shapes of a registry do not, each reference in
an answer comes from the last step of resolution, which finds a registered definition for a use that
has nothing else. So the name is documented, and resolving it by itself gives the reference again. -/

namespace WireShape

/-- The definitions that a shape refers to. -/
def Shape.references : Shape → List DefinitionRef
  | .primitive _ | .object => []
  | .named definition => [definition]
  | .array element => element.references
  | .map key value => key.references ++ value.references

theorem KnownTypes.references_eq_nil {name : TypeName} {s : Shape} (h : shape? name = some s) :
    s.references = [] := by
  unfold shape? at h
  repeat' split at h
  all_goals cases h
  all_goals rfl

/-- Which kind of definition a kind of declaration has. -/
def DeclarationKind.Defines (kind : DeclarationKind) (definition : DefinitionKind) : Prop :=
  (kind = .classType ∨ kind = .interfaceType) ∧ definition = .object ∨
    kind = .enumType ∧ definition = .enum

namespace Registry
variable {R : Registry} {u : DeclaredType} {d : Declaration} {ref : DefinitionRef} {s : Shape}

/-- `d` is registered under the name of `ref`, has a definition of its kind, and has nothing that would
come before its definition. -/
structure Defines (R : Registry) (ref : DefinitionRef) (d : Declaration) : Prop where
  registered : R.get? ref.name = some d
  kind : d.kind.Defines ref.kind
  container : d.container = none
  known : d.known = none
  plain : d.Plain
  unknown : KnownTypes.shape? ref.name = none

/-- Every definition that `s` refers to is there. -/
def Links (R : Registry) (s : Shape) : Prop := ∀ ref ∈ s.references, ∃ d, R.Defines ref d

/-- No declaration has a known shape with a reference. -/
def KnownUnlinked (R : Registry) : Prop :=
  ∀ name d, R.get? name = some d → ∀ s ∈ d.known, s.references = []

theorem definition_eq_some_iff {name : TypeName} :
    d.definition name = some ref ↔
      (d.container = none ∧ d.known = none) ∧ ref.name = name ∧ d.kind.Defines ref.kind := by
  obtain ⟨name', kind'⟩ := ref
  unfold Declaration.definition
  by_cases h : d.container.isSome ∨ d.known.isSome
  · rw [if_pos h]
    refine ⟨nofun, fun ⟨⟨hcontainer, hknown⟩, _⟩ => ?_⟩
    simp [hcontainer, hknown] at h
  · have hnone : d.container = none ∧ d.known = none := by simpa using h
    rw [if_neg h]
    cases d.kind <;> simp [hnone, DeclarationKind.Defines, eq_comm]

theorem links_of_references_eq_nil (h : s.references = []) : R.Links s := by
  intro ref href
  rw [h] at href
  cases href

theorem links_knownShape (hknown : R.KnownUnlinked)
    (hs : R.environment.knownShape u = some s) : R.Links s := by
  refine links_of_references_eq_nil ?_
  rcases Option.or_eq_some_iff.mp hs with hs | ⟨-, hs⟩
  · obtain ⟨d, hd, hs⟩ := Option.bind_eq_some_iff.mp hs
    exact hknown u.name d hd s hs
  · exact KnownTypes.references_eq_nil hs

theorem links_definition (hno : R.environment.overrides u = false)
    (hnone : R.environment.knownShape u = none) (h : R.environment.definition u = some ref) :
    R.Links (.named ref) := by
  intro ref' href
  obtain rfl := List.mem_singleton.mp href
  obtain ⟨d, hd, hdefinition⟩ := Option.bind_eq_some_iff.mp h
  obtain ⟨⟨hcontainer, hknown⟩, hname, hkind⟩ := definition_eq_some_iff.mp hdefinition
  have hunknown : KnownTypes.shape? u.name = none := (Option.or_eq_none_iff.mp hnone).2
  have hplain : d.Plain := (overrides_eq_false_iff hd).mp hno
  rw [← hname] at hd hunknown
  exact ⟨d, hd, hkind, hcontainer, hknown, hplain, hunknown⟩

theorem links_documented (hknown : R.KnownUnlinked) (hno : R.environment.overrides u = false)
    (hs : R.environment.documented u = some s) : R.Links s := by
  unfold Environment.documented at hs
  split at hs
  · rcases Option.or_eq_some_iff.mp hs with hs | ⟨hnone, hs⟩
    · exact links_knownShape hknown hs
    · obtain ⟨ref, href, rfl⟩ := Option.map_eq_some_iff.mp hs
      exact links_definition hno hnone href
  · cases hs

theorem Defines.documented (h : R.Defines ref d) (arguments : List TypeExpr) :
    R.environment.documented ⟨ref.name, arguments⟩ = some (.named ref) := by
  have hdefinition := definition_eq_some_iff.mpr ⟨⟨h.container, h.known⟩, rfl, h.kind⟩
  have hkind : d.kind.isDocumentable = true := by
    rcases h.kind with ⟨hk | hk, -⟩ | ⟨hk, -⟩ <;> rw [hk] <;> rfl
  simp only [Environment.documented, environment, h.registered, hkind, if_true, Option.bind_some,
    h.known, h.unknown, Option.none_or, hdefinition, Option.map_some]

/-- Runs of which the first finds and records only shapes whose references are there. -/
def linking (R : Registry) : Coupling where
  shapes s _ := R.Links s
  types _ _ := True
  adapters as _ := ∀ a ∈ as, R.Links a.shape
  errors _ _ := True
  strict := False
  shapes_simple := ⟨fun _ => links_of_references_eq_nil rfl, links_of_references_eq_nil rfl⟩
  shapes_array h := h
  shapes_map h h' ref href := (List.mem_append.mp href).elim (h ref) (h' ref)
  types_refl _ := trivial
  register h _ hs a ha := by
    rcases Array.mem_push.mp ha with ha | rfl
    · exact h a ha
    · exact hs

/-- `report` finds and records only shapes that are linked. -/
theorem links_of_report {r : Resolver} (he : r.environment = R.environment)
    (hknown : R.KnownUnlinked) {t : TypeExpr} {res : Resolver.Resolution} (h : r.report t = .ok res) :
    R.Links res.shape ∧ ∀ a ∈ res.adapters, R.Links a.shape := by
  obtain ⟨hshape, hadapters⟩ := Resolver.report_eq_ok_iff.mp h
  have hcoupled : R.linking.Coupled [] [] (fun s _ => R.Links s)
      (r.resolveWithin (r.settings.maxDepth + 1) t {})
      (r.resolveWithin (r.settings.maxDepth + 1) t {}) := by
    refine Coupling.Coupled.resolveWithin (K := R.linking) Eq (.inl rfl) rfl ?_ ?_ ?_
      (Nat.le_refl _) False.elim rfl False.elim rfl t
    · intro u hno s hs
      exact links_documented hknown (he ▸ hno) (he ▸ hs)
    · rintro S S' i rfl
      rfl
    · rintro S S' d rfl
      rfl
  obtain ⟨_, -, hlinks, hs₁⟩ := (hcoupled {} {} ⟨rfl, rfl, nofun⟩).ok _ hshape
  refine ⟨hlinks, fun a ha => hs₁.adapters a ?_⟩
  rw [← hadapters] at ha
  exact Array.mem_toList_iff.mp ha

/-! ### Following a reference -/

/-- The shape of `raw ref.name` is `ref`, unless its adapter fails. -/
theorem Defines.shape {r : Resolver} (he : r.environment = R.environment) (h : R.Defines ref d) :
    r.shape (.raw ref.name) = .ok (.named ref) ∨
      d.adapter.isSome = true ∧ ∃ e, r.shape (.raw ref.name) = .error e := by
  have hd : R.get? (DeclaredType.mk ref.name []).name = some d := h.registered
  have hadapter : (r.environment.adapter ⟨ref.name, []⟩).isSome = d.adapter.isSome := by
    rw [he, adapter_of_get? hd, Option.isSome_map]
  rw [← hadapter]
  refine Resolver.shape_of_documented (d := ⟨ref.name, []⟩) ?_ ?_ ?_ ?_ <;> rw [he]
  · exact (overrides_eq_false_iff hd).mpr h.plain
  · rw [mapTypes_of_get? hd, Declaration.entryTypes?, h.container, Option.map_none]
  · rw [componentType_of_get? hd, Declaration.element?, h.container, Option.map_none]
  · exact h.documented []

/-- Every reference in `res.shape`, or in the shape of one of `res.adapters`, is one that `R`
`Defines`, and a fresh resolution of its name gives it, unless its adapter fails. -/
theorem report_links (R : Registry) (hknown : R.KnownUnlinked) (m : Nat) (policy : AdapterPolicy)
    (t : TypeExpr) {res : Resolver.Resolution}
    (h : (R.environment.resolver m policy).report t = .ok res) {ref : DefinitionRef}
    (href : ref ∈ res.shape.references ∨ ∃ a ∈ res.adapters, ref ∈ a.shape.references) :
    ∃ d, R.Defines ref d ∧
      ((R.environment.resolver m policy).shape (.raw ref.name) = .ok (.named ref) ∨
        d.adapter.isSome = true ∧
          ∃ e, (R.environment.resolver m policy).shape (.raw ref.name) = .error e) := by
  obtain ⟨hshape, hadapters⟩ := links_of_report rfl hknown h
  have hdefines : ∃ d, R.Defines ref d := by
    rcases href with href | ⟨a, ha, href⟩
    · exact hshape ref href
    · exact hadapters a ha ref href
  obtain ⟨d, hd⟩ := hdefines
  exact ⟨d, hd, hd.shape rfl⟩

theorem knownUnlinked_builtins : builtins.KnownUnlinked := by
  intro name d h s hs
  rcases cases_of_get?_builtins h with ⟨_, rfl, -⟩ | ⟨_, rfl, -⟩ | ⟨rfl, -⟩ <;> cases hs

theorem KnownUnlinked.insert (h : R.KnownUnlinked) (name : TypeName) (hd : d.known = none) :
    (R.insert name d).KnownUnlinked := by
  intro name' d' h' s hs
  rw [get?_insert] at h'
  split at h'
  · cases h'
    rw [hd] at hs
    cases hs
  · exact h name' d' h' s hs

/-- Lines are adapted to lists of units, which are words. -/
def lines : Registry :=
  let units : TypeExpr := .declared ⟨"java.util.List"⟩ [.raw ⟨"Unit"⟩]
  (builtins.insert ⟨"Line"⟩ { adapter := some units }).insert ⟨"Unit"⟩ { kind := .enumType }

theorem report_links_lines : lines.KnownUnlinked ∧
    (∃ res,
      (lines.environment.resolver 64 .sideEffectOnly).report (.array (.raw ⟨"Line"⟩)) = .ok res ∧
      ∃ a ∈ res.adapters, ⟨⟨"Unit"⟩, .enum⟩ ∈ a.shape.references) ∧
    (∃ d, lines.Defines ⟨⟨"Unit"⟩, .enum⟩ d) ∧
    (lines.environment.resolver 64 .sideEffectOnly).shape (.raw ⟨"Unit"⟩) =
      .ok (.named ⟨⟨"Unit"⟩, .enum⟩) := by
  have hknown : lines.KnownUnlinked := (knownUnlinked_builtins.insert _ rfl).insert _ rfl
  have hreport : (lines.environment.resolver 64 .sideEffectOnly).report (.array (.raw ⟨"Line"⟩)) =
      .ok ⟨.array (.named ⟨⟨"Line"⟩, .object⟩), [⟨⟨"Line"⟩,
        .declared ⟨"java.util.List"⟩ [.raw ⟨"Unit"⟩], .array (.named ⟨⟨"Unit"⟩, .enum⟩)⟩]⟩ := by
    decide +kernel
  have hunit : (⟨⟨"Unit"⟩, .enum⟩ : DefinitionRef) ∈
      (Shape.array (.named ⟨⟨"Unit"⟩, .enum⟩)).references := List.mem_singleton_self _
  obtain ⟨d, hd, hshape⟩ := report_links lines hknown 64 .sideEffectOnly _ hreport
    (.inr ⟨_, List.mem_singleton_self _, hunit⟩)
  -- units have no adapter that could fail
  have hadapter : ¬ d.adapter.isSome = true := by
    have hregistered : lines.get? ⟨"Unit"⟩ = some { kind := .enumType } := by
      unfold lines
      rw [get?_insert, if_pos rfl]
    rw [Option.some.inj (hd.registered.symm.trans hregistered)]
    exact Bool.false_ne_true
  exact ⟨hknown, ⟨_, hreport, _, List.mem_singleton_self _, hunit⟩, ⟨d, hd⟩,
    hshape.resolve_right fun h => hadapter h.1⟩

end Registry

end WireShape
