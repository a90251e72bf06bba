import WireShape.Proofs.Command.Stages

/-! # Precedence of settings

Each setting of a run comes from its flag, or else from the document, or else it is the default, whatever
the other setting comes from. Settings of a document are checked where they stand, and those of the run
once the flags are in their place. -/

namespace WireShape

/-- Settings as they are written in one place, where some may be left out. -/
structure WrittenSettings where
  maxDepth : Option Nat
  adapterPolicy : Option AdapterPolicy

namespace WrittenSettings

/-- What is left out has its default. -/
def settings (w : WrittenSettings) : Settings where
  maxDepth := w.maxDepth.getD 64
  adapterPolicy := w.adapterPolicy.getD .sideEffectOnly

def ofJson? (j : Json) : Option WrittenSettings := do
  let (maxDepth, adapterPolicy) ← Settings.fields? j
  return {
    maxDepth := maxDepth.bind Json.word64?
    adapterPolicy := adapterPolicy.bind Json.keyword? }

/-- The `resolver` section of the document in `text`, if there is one. -/
def ofDocument? (text : String) : Option WrittenSettings := do
  let (resolver, _) ← Document.fields? (← Json.read text)
  ofJson? (← resolver)

end WrittenSettings

theorem Json.optional_eq_some {α : Type} {decode : Json.Decoder α} {default a : α} {j : Option Json}
    (h : Json.optional decode default j = some a) : (j.bind decode).getD default = a := by
  cases j with
  | none => exact Option.some.inj h
  | some j =>
    replace h : decode j = some a := h
    rw [Option.bind_some, h]
    rfl

theorem Settings.written_of_ofJson {j : Json} {s : Settings} (h : Settings.ofJson? j = some s) :
    (WrittenSettings.ofJson? j).map (·.settings) = some s := by
  obtain ⟨⟨maxDepth, adapterPolicy⟩, hfields, h⟩ := Option.bind_eq_some_iff.mp h
  obtain ⟨m, hm, h⟩ := Option.bind_eq_some_iff.mp h
  obtain ⟨p, hp, h⟩ := Option.bind_eq_some_iff.mp h
  cases h
  unfold WrittenSettings.ofJson?
  rw [hfields, ← Json.optional_eq_some hm, ← Json.optional_eq_some hp]
  rfl

theorem Document.settings_of_read {text : String} {document : Document}
    (h : Document.read text = some document) :
    document.settings = (WrittenSettings.ofDocument? text).map (·.settings) := by
  obtain ⟨j, hj, h⟩ := Option.bind_eq_some_iff.mp h
  obtain ⟨⟨resolver, types⟩, hfields, h⟩ := Option.bind_eq_some_iff.mp h
  obtain ⟨settings, hsettings, h⟩ := Option.bind_eq_some_iff.mp h
  obtain ⟨_, -, h⟩ := Option.bind_eq_some_iff.mp h
  cases h
  unfold WrittenSettings.ofDocument?
  rw [hj]
  show settings = Option.map _ (Document.fields? j >>= _)
  rw [hfields]
  cases resolver with
  | none =>
    cases hsettings
    rfl
  | some j =>
    replace hsettings : Json.nullable Settings.ofJson? j = some settings := hsettings
    unfold Json.nullable at hsettings
    split at hsettings
    · cases hsettings
      rfl
    · obtain ⟨s, hs, rfl⟩ := Option.map_eq_some_iff.mp hsettings
      exact (Settings.written_of_ofJson hs).symm

namespace Command
variable {readText : String → Option String} {a : Arguments} {R : Registry}

/-- The settings written in the document of a run, if it has any. -/
def written? (readText : String → Option String) (a : Arguments) : Option WrittenSettings :=
  (a.registry.bind readText).bind WrittenSettings.ofDocument?

/-- Each setting by its flag, or else as it is written in the document, or else its default. -/
def chosen (a : Arguments) (w : Option WrittenSettings) : Settings where
  maxDepth := (a.maxDepth.or (w.bind (·.maxDepth))).getD 64
  adapterPolicy := (a.adapterPolicy.or (w.bind (·.adapterPolicy))).getD .sideEffectOnly

theorem loadRegistry_eq_ok (h : (loadRegistry readText a).result = .ok R) :
    R.settings = ((written? readText a).map (·.settings)).getD {} ∧ R.settings.maxDepth ≠ 0 := by
  cases hpath : a.registry with
  | none =>
    simp only [loadRegistry, hpath] at h
    cases h
    have hsettings := settings_start a
    refine ⟨hsettings.trans ?_, ?_⟩
    · simp [written?, hpath]
    · show (start a).settings.maxDepth ≠ 0
      rw [hsettings]
      decide
  | some path =>
    cases htext : readText path with
    | none =>
      simp only [loadRegistry, hpath, Registry.loadFile, htext] at h
      cases h
    | some text =>
      rw [loadRegistry_of_path hpath htext, map_eq_ok_iff] at h
      obtain ⟨_, hok, rfl⟩ := h
      obtain ⟨document, hread, hvalid⟩ := (Registry.attempt_eq_ok_iff _ _ _ _).mp hok
      obtain ⟨-, hlaid⟩ := Registry.attempt_of_valid hread hvalid (start a) .byName path
      have hwritten : document.settings = (written? readText a).map (·.settings) := by
        rw [Document.settings_of_read hread, written?, hpath, Option.bind_some, htext, Option.bind_some]
      rw [hlaid.settings, settings_start, ← hwritten]
      refine ⟨rfl, ?_⟩
      cases hsettings : document.settings with
      | none => decide
      | some settings => exact hvalid settings hsettings

theorem effectiveSettings_of_load (h : (loadRegistry readText a).result = .ok R) :
    effectiveSettings a R.settings = chosen a (written? readText a) := by
  rw [(loadRegistry_eq_ok h).1]
  unfold effectiveSettings chosen
  cases written? readText a <;> cases a.maxDepth <;> cases a.adapterPolicy <;> rfl

/-- Only a flag can make the settings of a run invalid. -/
theorem effectiveSettings_eq_zero_iff (h : (loadRegistry readText a).result = .ok R) :
    (effectiveSettings a R.settings).maxDepth = 0 ↔ a.maxDepth = some 0 := by
  unfold effectiveSettings
  cases a.maxDepth with
  | none => exact ⟨fun hzero => absurd hzero (loadRegistry_eq_ok h).2, fun h => (nomatch h)⟩
  | some depth => exact ⟨congrArg some, Option.some.inj⟩

theorem run_of_written_zero {w : WrittenSettings} (hw : written? readText a = some w)
    (hzero : w.maxDepth = some 0) : ∃ cause, (run readText a).result = .error (.registry cause) := by
  obtain ⟨text, htext, hw⟩ := Option.bind_eq_some_iff.mp hw
  obtain ⟨path, hpath, htext⟩ := Option.bind_eq_some_iff.mp htext
  have hinvalid : ∀ document, Document.read text = some document → ¬ document.Valid := by
    intro document hread hvalid
    have hsettings := Document.settings_of_read hread
    rw [hw] at hsettings
    refine hvalid _ hsettings ?_
    show w.maxDepth.getD 64 = 0
    rw [hzero]
    rfl
  obtain ⟨cause, -, hcause, -⟩ := Registry.attempt_of_not_valid hinvalid (start a) .byName path
  have hload := loadRegistry_of_path hpath htext
  rw [hcause] at hload
  -- The run ends before its flags are looked at.
  exact ⟨cause, run_of_prepare_error (prepare_of_load_error hload)⟩

/-! ### What tasks report -/

/-- `resolved` is what `r` finds for the type written in `source`. -/
def Resolves (r : Resolver) (report : Bool) (source : String) (resolved : Resolved) : Prop :=
  ∃ t resolution, TypeExpr.parse source = .ok t ∧ r.report t = .ok resolution ∧
    resolved = ⟨t, resolution.shape, if report then some resolution.adapters else none⟩

/-- `output` is made of what `r` finds for the task. -/
def Prints (R : Registry) (r : Resolver) (a : Arguments) (output : String) : Prop :=
  match a.task with
  | .resolve types report => ∃ results, List.Forall₂ (Resolves r report) types results ∧
      output = render a.format Resolved.toJson (fun rs => textOfLines (rs.flatMap Resolved.lines)) results
  | .describe names => ∃ descriptions,
      List.Forall₂ (fun name description => ∃ d, R.get? ⟨name⟩ = some d ∧
        r.Describes ⟨name⟩ d description) names descriptions ∧
      output = render a.format Description.toJson (fun ds => textOfLines (ds.flatMap descriptionLines))
        descriptions
  | .list => output = render a.format (fun n => .string n.text)
      (fun ns => "\n".intercalate (ns.map TypeName.text)) R.names

theorem resolveType_eq_ok_iff {report : Bool} {source : String} {resolved : Resolved} :
    (resolveType R report source).result = .ok resolved ↔
      Resolves R.resolver report source resolved := by
  unfold Resolves
  cases hparse : TypeExpr.parse source with
  | error e =>
    rw [resolveType_of_parse_error report hparse]
    simp
  | ok t =>
    rw [result_resolveType report hparse, map_eq_ok_iff]
    simp only [mapError_eq_ok_iff]
    constructor
    · rintro ⟨resolution, hreport, rfl⟩
      exact ⟨t, resolution, rfl, hreport, rfl⟩
    · rintro ⟨_, resolution, ht, hreport, rfl⟩
      cases ht
      exact ⟨resolution, hreport, rfl⟩

theorem describeType_eq_ok_iff {name : String} {description : Description} :
    (describeType R name).result = .ok description ↔
      ∃ d, R.get? ⟨name⟩ = some d ∧ R.resolver.Describes ⟨name⟩ d description := by
  unfold describeType
  rw [Telling.result_mapError, mapError_eq_ok_iff]
  cases hd : R.get? ⟨name⟩ with
  | none =>
    rw [Registry.describe_of_get?_eq_none hd]
    simp
  | some d =>
    rw [Registry.describe_eq_ok_iff hd]
    simp

theorem run_eq_ok_iff (h : (prepare readText a).result = .ok R) {output : String} :
    (run readText a).result = .ok output ↔ Prints R R.resolver a output := by
  rw [result_run h]
  unfold Prints
  cases a.task with
  | resolve types report =>
    simp only [map_eq_ok_iff, mapM_eq_ok_iff, resolveType_eq_ok_iff, @eq_comm _ output]
  | describe names =>
    simp only [map_eq_ok_iff, mapM_eq_ok_iff, describeType_eq_ok_iff, @eq_comm _ output]
  | list => simp only [Except.ok.injEq, @eq_comm _ output]

theorem of_resolveType_eq_error {report : Bool} {source : String} {f : Failure}
    (h : (resolveType R report source).result = .error f) : ∃ cause, f = .resolve source cause := by
  cases hparse : TypeExpr.parse source with
  | error e =>
    rw [resolveType_of_parse_error report hparse] at h
    cases h
    exact ⟨_, rfl⟩
  | ok t =>
    rw [result_resolveType report hparse, map_eq_error_iff, mapError_eq_error_iff] at h
    obtain ⟨cause, -, rfl⟩ := h
    exact ⟨_, rfl⟩

theorem run_ne_settings (h : (prepare readText a).result = .ok R) (cause : Error) :
    (run readText a).result ≠ .error (.settings cause) := by
  rw [result_run h]
  intro herror
  -- Each task has failures of its own.
  cases htask : a.task with
  | resolve types report =>
    rw [htask] at herror
    obtain ⟨source, -, hfail⟩ := exists_of_mapM_eq_error (map_eq_error_iff.mp herror)
    obtain ⟨_, hcause⟩ := of_resolveType_eq_error hfail
    cases hcause
  | describe names =>
    rw [htask] at herror
    obtain ⟨name, -, hfail⟩ := exists_of_mapM_eq_error (map_eq_error_iff.mp herror)
    obtain ⟨_, -, hcause⟩ := mapError_eq_error_iff.mp hfail
    cases hcause
  | list =>
    rw [htask] at herror
    cases herror

theorem run_eq_settings_iff :
    (∃ cause, (run readText a).result = .error (.settings cause)) ↔
      (∃ R, (loadRegistry readText a).result = .ok R) ∧ a.maxDepth = some 0 := by
  cases hload : (loadRegistry readText a).result with
  | error failure =>
    rw [run_of_prepare_error (prepare_of_load_error hload)]
    simp
  | ok R =>
    rw [← effectiveSettings_eq_zero_iff hload]
    constructor
    · rintro ⟨cause, hcause⟩
      refine ⟨⟨R, rfl⟩, ?_⟩
      by_contra hdepth
      exact run_ne_settings (prepare_of_load hload hdepth) cause hcause
    · rintro ⟨-, hdepth⟩
      exact ⟨_, run_of_prepare_error (prepare_of_zero hload hdepth)⟩

/-- Where the registry loads and the flag for the depth is not 0, a run has the settings `chosen`
from the flags, the document and the defaults, in this order: `withSettings` accepts them, and the
output is what the resolver with them `Prints`. With a flag of 0, and only then, the run fails for
its settings once the registry is loaded. A document with a depth of 0 is not loaded, whatever the
flags are. -/
theorem settings_precedence (readText : String → Option String) (a : Arguments) :
    (∀ R, (loadRegistry readText a).result = .ok R → a.maxDepth ≠ some 0 →
      (prepare readText a).result = .ok { R with settings := chosen a (written? readText a) } ∧
      ∃ r, Resolver.withSettings R.environment (chosen a (written? readText a)) = .ok r ∧
        ∀ output, (run readText a).result = .ok output ↔ Prints R r a output) ∧
    ((∃ cause, (run readText a).result = .error (.settings cause)) ↔
      (∃ R, (loadRegistry readText a).result = .ok R) ∧ a.maxDepth = some 0) ∧
    ∀ w, written? readText a = some w → w.maxDepth = some 0 →
      ∃ cause, (run readText a).result = .error (.registry cause) := by
  refine ⟨fun R hload hflag => ?_, run_eq_settings_iff, fun w => run_of_written_zero⟩
  have hdepth : (effectiveSettings a R.settings).maxDepth ≠ 0 :=
    fun hzero => hflag ((effectiveSettings_eq_zero_iff hload).mp hzero)
  have hprepare := prepare_of_load hload hdepth
  rw [effectiveSettings_of_load hload] at hprepare hdepth
  refine ⟨hprepare, ⟨R.environment, chosen a (written? readText a)⟩, ?_, fun output => ?_⟩
  · rw [Resolver.withSettings, Settings.validate_eq_ok_iff.mpr (Nat.one_le_iff_ne_zero.mpr hdepth)]
    rfl
  · exact run_eq_ok_iff hprepare

/-- A policy, and a type that has a shape under this policy only. -/
def tagged : String :=
  "\x7b\"resolver\": \x7b\"adapter_policy\": \"use_adapting_shape\"\x7d, " ++
    "\"types\": \x7b\"Tag\": \x7b\"kind\": \"annotation\", \"adapter\": \"int\"\x7d\x7d\x7d"

/-- A depth of zero. -/
def flat : String := "\x7b\"resolver\": \x7b\"max_depth\": 0\x7d\x7d"

theorem settings_precedence_tagged :
    let a : Arguments :=
      { registry := some "r.json", noBuiltins := true, maxDepth := some 3, task := .resolve ["Tag"] false }
    (∃ R r, (loadRegistry (fun _ => some tagged) a).result = .ok R ∧ a.maxDepth ≠ some 0 ∧
      chosen a (written? (fun _ => some tagged) a) = ⟨3, .useAdaptingShape⟩ ∧
      Resolver.withSettings R.environment ⟨3, .useAdaptingShape⟩ = .ok r ∧
      (run (fun _ => some tagged) a).result = .ok "Tag: integer" ∧ Prints R r a "Tag: integer") ∧
    (∃ cause, (run (fun _ => some tagged) { a with maxDepth := some 0 }).result =
      .error (.settings cause)) ∧
    ∃ cause, (run (fun _ => some flat) a).result = .error (.registry cause) := by
  intro a
  have hsome : (loadRegistry (fun _ => some tagged) a).result.toOption.isSome = true := by
    decide +kernel
  obtain ⟨R, hload⟩ : ∃ R, (loadRegistry (fun _ => some tagged) a).result = .ok R := by
    cases hresult : (loadRegistry (fun _ => some tagged) a).result with
    | ok R => exact ⟨R, rfl⟩
    | error cause =>
      rw [hresult] at hsome
      cases hsome
  have hflag : a.maxDepth ≠ some 0 := by decide
  have hchosen : chosen a (written? (fun _ => some tagged) a) = ⟨3, .useAdaptingShape⟩ := by
    decide +kernel
  have hrun : (run (fun _ => some tagged) a).result = .ok "Tag: integer" := by decide +kernel
  obtain ⟨hruns, -⟩ := settings_precedence (fun _ => some tagged) a
  obtain ⟨-, r, hr, hprints⟩ := hruns R hload hflag
  rw [hchosen] at hr
  refine ⟨⟨R, r, hload, hflag, hchosen, hr, hrun, (hprints _).mp hrun⟩, ?_, ?_⟩
  · obtain ⟨-, hsettings, -⟩ := settings_precedence (fun _ => some tagged) { a with maxDepth := some 0 }
    exact hsettings.mpr ⟨⟨R, hload⟩, rfl⟩
  · have hwritten : (written? (fun _ => some flat) a).map (·.maxDepth) = some (some 0) := by
      decide +kernel
    obtain ⟨w, hw, hzero⟩ := Option.map_eq_some_iff.mp hwritten
    obtain ⟨-, -, hregistry⟩ := settings_precedence (fun _ => some flat) a
    exact hregistry w hw hzero

end Command

end WireShape
