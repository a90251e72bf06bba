import WireShape.Command.Run
import WireShape.Proofs.Registry.Describe
import WireShape.Proofs.Registry.Overlay

/-! # Stages of a run

A run loads its registry, settles its settings, and then turns to its task. Each stage fails in its own
way, and each sees of the ones before it no more than the registry they hand on. -/

namespace WireShape

namespace Command
variable {readText : String → Option String} {a : Arguments} {R : Registry}

/-- What the document of a run is laid over. -/
def start (a : Arguments) : Registry := if a.noBuiltins then {} else .builtins

theorem settings_start (a : Arguments) : (start a).settings = {} := by
  unfold start
  split <;> rfl

theorem loadRegistry_of_path {path text : String} (hpath : a.registry = some path)
    (htext : readText path = some text) :
    (loadRegistry readText a).result =
      ((start a).attempt .byName text path).1.map
        fun () => ((start a).attempt .byName text path).2 := by
  simp only [loadRegistry, hpath, Registry.loadFile, htext]
  rfl

theorem prepare_of_load_error {cause : LoadError} (h : (loadRegistry readText a).result = .error cause) :
    (prepare readText a).result = .error (.registry cause) := by
  unfold prepare
  rw [Telling.result_bind, Telling.result_mapError, h]
  rfl

theorem result_prepare (h : (loadRegistry readText a).result = .ok R) :
    (prepare readText a).result =
      (R.setSettings (effectiveSettings a R.settings)).mapError Failure.settings := by
  unfold prepare
  rw [Telling.result_bind, Telling.result_mapError, h]
  refine (Telling.result_bind _ _).trans ?_
  show (R.setSettings (effectiveSettings a R.settings)).mapError Failure.settings >>= _ = _
  cases R.setSettings (effectiveSettings a R.settings) <;> rfl

theorem prepare_of_load (h : (loadRegistry readText a).result = .ok R)
    (hsettings : (effectiveSettings a R.settings).maxDepth ≠ 0) :
    (prepare readText a).result = .ok { R with settings := effectiveSettings a R.settings } := by
  rw [result_prepare h, Registry.setSettings_of_valid hsettings]
  rfl

theorem prepare_of_zero (h : (loadRegistry readText a).result = .ok R)
    (hsettings : (effectiveSettings a R.settings).maxDepth = 0) :
    (prepare readText a).result =
      .error (.settings (.invalidArgument "max_depth" "must be at least 1")) := by
  rw [result_prepare h, Registry.setSettings_of_invalid hsettings]
  rfl

/-- `prepare` lays a document that is `Valid` over the registry that it starts with. -/
theorem prepare_of_valid {path text : String} {document : Document} (hpath : a.registry = some path)
    (htext : readText path = some text) (hread : Document.read text = some document)
    (hvalid : document.Valid)
    (hsettings : (effectiveSettings a (document.settings.getD {})).maxDepth ≠ 0) :
    ∃ R, (prepare readText a).result = .ok R ∧
      R.settings = effectiveSettings a (document.settings.getD {}) ∧
      ∀ name, R.get? name = (document.declarations.get? name.text).or ((start a).get? name) := by
  obtain ⟨hok, hlaid⟩ := Registry.attempt_of_valid hread hvalid (start a) .byName path
  have hload := loadRegistry_of_path hpath htext
  rw [hok] at hload
  have heffective : effectiveSettings a ((start a).attempt .byName text path).2.settings =
      effectiveSettings a (document.settings.getD {}) := by
    rw [hlaid.settings, settings_start]
  exact ⟨_, prepare_of_load hload (heffective ▸ hsettings), heffective, hlaid.get?⟩

theorem run_of_prepare_error {f : Failure} (h : (prepare readText a).result = .error f) :
    (run readText a).result = .error f := by
  unfold run
  rw [Telling.result_bind, h]
  rfl

theorem result_run (h : (prepare readText a).result = .ok R) :
    (run readText a).result = match a.task with
      | .resolve types report =>
        (types.mapM fun source => (resolveType R report source).result).map
          (render a.format Resolved.toJson fun rs => textOfLines (rs.flatMap Resolved.lines))
      | .describe names =>
        (names.mapM fun name => (describeType R name).result).map
          (render a.format Description.toJson fun ds => textOfLines (ds.flatMap descriptionLines))
      | .list => .ok (render a.format (fun n => .string n.text)
          (fun ns => "\n".intercalate (ns.map TypeName.text)) R.names) := by
  unfold run
  rw [Telling.result_bind, h]
  cases a.task with
  | resolve types report =>
    refine (Telling.result_bind _ _).trans ?_
    rw [Telling.result_mapM]
    dsimp only
    cases types.mapM fun source => (resolveType R report source).result <;> rfl
  | describe names =>
    refine (Telling.result_bind _ _).trans ?_
    rw [Telling.result_mapM]
    dsimp only
    cases names.mapM fun name => (describeType R name).result <;> rfl
  | list => rfl

theorem result_resolveType (report : Bool) {source : String} {t : TypeExpr}
    (hparse : TypeExpr.parse source = .ok t) :
    (resolveType R report source).result =
      ((R.resolver.report t).mapError fun cause => .resolve source cause.toError).map fun res =>
        ⟨t, res.shape, if report then some res.adapters else none⟩ := by
  unfold resolveType
  rw [Telling.result_bind, Telling.result_lift, TypeExpr.parseOrError, hparse]
  refine (Telling.result_bind _ _).trans ?_
  rw [Telling.result_mapError, Resolver.result_tellReport]
  cases R.resolver.report t <;> rfl

theorem resolveType_of_parse_error (report : Bool) {source : String} {e : TypeExpr.ParseError}
    (hparse : TypeExpr.parse source = .error e) :
    (resolveType R report source).result =
      .error (.resolve source (.typeParse (e.message .typeExpression source))) := by
  unfold resolveType
  rw [Telling.result_bind, Telling.result_lift, TypeExpr.parseOrError, hparse]
  rfl

end Command

end WireShape
