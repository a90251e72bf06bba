import WireShape.Proofs.Outcome
import WireShape.Proofs.Registry.Overlay
import WireShape.Registry.Lookup

/-! # Editing a registry

Settings come into a registry with documents or by themselves, and either way only if they are valid.
So a resolver can always work with the settings of a registry, whatever edits have led to it and
however they ended. -/

namespace WireShape.Registry

/-- A change that may be refused. -/
inductive Edit
  | register (name : TypeName) (declaration : Declaration)
  /-- Lays the document written in `text` over the registry. -/
  | load (order : Arrangement) (text source : String)
  | setSettings (settings : Settings)

/-- How an edit ends, and the registry that it leaves. -/
def edit (r : Registry) : Edit → Except Error Unit × Registry
  | .register name declaration => (.ok (), (r.register name declaration).1)
  | .load order text source =>
    let (result, r) := r.attempt order text source
    (result.mapError LoadError.toError, r)
  | .setSettings settings =>
    match r.setSettings settings with
    | .ok r => (.ok (), r)
    | .error e => (.error e, r)

/-- A registry that edits have led to, from an empty one or from the built-in declarations. -/
inductive Reached : Registry → Prop
  | empty : Reached {}
  | builtins : Reached .builtins
  | edit {r : Registry} (h : Reached r) (e : Edit) : Reached (r.edit e).2

variable {r r' : Registry} {e : Edit}

theorem edit_setSettings_of_valid {settings : Settings} (h : settings.maxDepth ≠ 0) :
    r.edit (.setSettings settings) = (.ok (), { r with settings }) := by
  rw [edit, setSettings_of_valid h]

theorem edit_setSettings_of_invalid {settings : Settings} (h : settings.maxDepth = 0) :
    r.edit (.setSettings settings) =
      (.error (.invalidArgument "max_depth" "must be at least 1"), r) := by
  rw [edit, setSettings_of_invalid h]

theorem edit_of_error {cause : Error} (h : (r.edit e).1 = .error cause) : (r.edit e).2 = r := by
  cases e with
  | register name declaration => cases h
  | load order text source =>
    obtain ⟨failure, hattempt, -⟩ := mapError_eq_error_iff.mp h
    exact (attempt_eq_error hattempt).2
  | setSettings settings =>
    by_cases hdepth : settings.maxDepth = 0
    · rw [edit_setSettings_of_invalid hdepth]
    · rw [edit_setSettings_of_valid hdepth] at h
      cases h

theorem edit_settings (h : 1 ≤ r.settings.maxDepth) (e : Edit) :
    1 ≤ (r.edit e).2.settings.maxDepth := by
  cases e with
  | register name declaration => exact h
  | load order text source =>
    show 1 ≤ (r.attempt order text source).2.settings.maxDepth
    cases hattempt : (r.attempt order text source).1 with
    | error failure =>
      rw [(attempt_eq_error hattempt).2]
      exact h
    | ok =>
      obtain ⟨document, hread, hvalid⟩ := (attempt_eq_ok_iff r order text source).mp hattempt
      rw [(attempt_of_valid hread hvalid r order source).2.settings]
      cases hsettings : document.settings with
      | none => exact h
      | some settings => exact Nat.one_le_iff_ne_zero.mpr (hvalid settings hsettings)
  | setSettings settings =>
    by_cases hdepth : settings.maxDepth = 0
    · rw [edit_setSettings_of_invalid hdepth]
      exact h
    · rw [edit_setSettings_of_valid hdepth]
      exact Nat.one_le_iff_ne_zero.mpr hdepth

theorem Reached.settings (h : Reached r) : 1 ≤ r.settings.maxDepth := by
  induction h with
  | empty => decide
  | builtins => exact Nat.one_le_iff_ne_zero.mpr (by decide)
  | edit _ e ih => exact edit_settings ih e

theorem withSettings_resolver (h : 1 ≤ r.settings.maxDepth) :
    Resolver.withSettings r.environment r.settings = .ok r.resolver := by
  rw [Resolver.withSettings, Settings.validate_eq_ok_iff.mpr h]
  rfl

theorem mem_names_iff {name : TypeName} : name ∈ r.names ↔ (r.get? name).isSome := by
  rw [names, get?, ← NameTable.mem_names_iff]
  constructor
  · intro h
    obtain ⟨text, htext, rfl⟩ := List.mem_map.mp h
    exact htext
  · exact List.mem_map_of_mem

theorem names_ascending (r : Registry) : r.names.Pairwise fun a b => a.text < b.text := by
  rw [names, List.pairwise_map, NameTable.names, List.pairwise_map]
  exact r.declarations.ordered

/-- A `Reached` registry has settings that `withSettings` accepts for its environment, and an edit
that is refused leaves it as it was. Its `names` are those it has declarations for, in strictly
ascending order of their code points. -/
theorem Reached.consistent (h : Reached r) :
    1 ≤ r.settings.maxDepth ∧
    Resolver.withSettings r.environment r.settings = .ok r.resolver ∧
    (∀ e cause, (r.edit e).1 = .error cause → (r.edit e).2 = r) ∧
    (r.names.Pairwise fun a b => a.text.toList < b.text.toList) ∧
    (∀ name, name ∈ r.names ↔ ∃ declaration, r.get? name = some declaration) ∧
    r.names.length = r.size := by
  refine ⟨h.settings, withSettings_resolver h.settings, fun e cause => edit_of_error, r.names_ascending,
    fun name => ?_, ?_⟩
  · rw [mem_names_iff, Option.isSome_iff_exists]
  · rw [names, List.length_map, NameTable.names, List.length_map]
    rfl

/-- A good declaration below bad settings. -/
def unsettled : String :=
  "\x7b\"resolver\": \x7b\"max_depth\": 0\x7d, \"types\": \x7b\"Line\": \x7b\x7d\x7d\x7d"

/-- On the way to a registry with a declaration and settings of its own, a document and settings that
are not valid are refused. -/
theorem consistent_unsettled :
    let refused := (edit {} (.load .byName unsettled "u")).2
    let settled := (refused.edit (.setSettings ⟨8, .useAdaptingShape⟩)).2
    let kept := (settled.edit (.setSettings ⟨0, .sideEffectOnly⟩)).2
    let r := (kept.edit (.register ⟨"Line"⟩ {})).2
    refused = {} ∧ kept = settled ∧ Reached r ∧
      Resolver.withSettings r.environment ⟨8, .useAdaptingShape⟩ = .ok r.resolver ∧
      r.names = [⟨"Line"⟩] ∧ ∃ declaration, r.get? ⟨"Line"⟩ = some declaration := by
  intro refused settled kept r
  have hsettled : Reached settled := .edit (.edit .empty _) _
  have hr : Reached r := .edit (.edit hsettled _) _
  have hrefused : refused = {} := by
    cases hedit : (edit {} (.load .byName unsettled "u")).1 with
    | error cause =>
      obtain ⟨-, -, hrefusal, -⟩ := Reached.empty.consistent
      exact hrefusal _ cause hedit
    | ok =>
      have hfails : (edit {} (.load .byName unsettled "u")).1.toOption.isNone = true := by
        decide +kernel
      rw [hedit] at hfails
      cases hfails
  have hkept : kept = settled := by
    obtain ⟨-, -, hrefusal, -⟩ := hsettled.consistent
    exact hrefusal _ _ (congrArg Prod.fst (edit_setSettings_of_invalid rfl))
  have heq : r = ⟨NameTable.empty.insert "Line" {}, ⟨8, .useAdaptingShape⟩⟩ := by
    show (kept.edit (.register ⟨"Line"⟩ {})).2 = _
    rw [hkept]
    show ((refused.edit (.setSettings ⟨8, .useAdaptingShape⟩)).2.edit (.register ⟨"Line"⟩ {})).2 = _
    rw [hrefused]
    rfl
  obtain ⟨-, hresolver, -, -, hnames, -⟩ := hr.consistent
  have hlist : r.names = [⟨"Line"⟩] := by
    rw [heq]
    rfl
  have hvalues : r.settings = ⟨8, .useAdaptingShape⟩ := by rw [heq]
  exact ⟨hrefused, hkept, hr, hvalues ▸ hresolver, hlist, (hnames _).mp (hlist ▸ List.mem_singleton_self _)⟩

end WireShape.Registry
