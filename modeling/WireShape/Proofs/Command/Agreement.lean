import WireShape.Proofs.Command.Stages
import WireShape.Proofs.Registry.Documents

/-! # Descriptions can be followed up

A description prints the types of properties. Resolving one of these texts, over the same document and
with the same options, prints the type again with the shape that the description gives for it; and a
description that fails does so for a type that fails when it is resolved. For the described type itself
this needs that its name is read as that type: a keyword may be declared as well, and is read as the
keyword. -/

namespace WireShape

namespace Command
variable {readText : String → Option String} {a : Arguments} {R : Registry}

/-- What resolving one type prints. -/
def printed (format : OutputFormat) (resolved : Resolved) : String :=
  render format Resolved.toJson (fun rs => textOfLines (rs.flatMap Resolved.lines)) [resolved]

/-- `run` prints what `resolveType` finds for a single text. -/
theorem result_run_resolve (hR : (prepare readText a).result = .ok R) (source : String)
    (report : Bool) :
    (run readText { a with task := .resolve [source] report }).result =
      (resolveType R report source).result.map (printed a.format) := by
  -- the task has no part in what the run starts from
  have hprepare : (prepare readText { a with task := .resolve [source] report }).result = .ok R := hR
  rw [result_run hprepare]
  dsimp only
  rw [List.mapM_cons, List.mapM_nil]
  cases (resolveType R report source).result <;> rfl

/-- With or without a report of adapters, the command finds that `source` is `t`, of the shape
`shape`. -/
def Finds (readText : String → Option String) (a : Arguments) (source : String) (t : TypeExpr)
    (shape : Shape) : Prop :=
  ∃ adapters, ∀ report, (run readText { a with task := .resolve [source] report }).result =
    .ok (printed a.format ⟨t, shape, if report then some adapters else none⟩)

/-- With or without a report of adapters, the command fails at `source`. -/
def FailsAt (readText : String → Option String) (a : Arguments) (source : String) (e : Error) : Prop :=
  ∀ report, (run readText { a with task := .resolve [source] report }).result =
    .error (.resolve source e)

section
variable (hR : (prepare readText a).result = .ok R) {source : String} {t : TypeExpr}
  (hparse : TypeExpr.parse source = .ok t)
include hR hparse

theorem finds_of_shape {shape : Shape} (h : R.resolver.shape t = .ok shape) :
    Finds readText a source t shape := by
  have hreport : R.resolver.report t = .ok ⟨shape, (R.resolver.run t).2.adapters.toList⟩ :=
    Resolver.report_eq_ok_iff.mpr ⟨h, rfl⟩
  refine ⟨(R.resolver.run t).2.adapters.toList, fun report => ?_⟩
  rw [result_run_resolve hR, result_resolveType report hparse, hreport]
  rfl

theorem failsAt_of_shape {cause : LimitExceeded} (h : R.resolver.shape t = .error cause) :
    FailsAt readText a source cause.toError := by
  intro report
  rw [result_run_resolve hR, result_resolveType report hparse, Resolver.report_eq_error_iff.mpr h]
  rfl

end

/-- For a declaration without parameters, `describe` agrees with `resolve` of the texts that it
prints: those of the properties, and `name` where it is read as `raw ⟨name⟩`. Where one fails, so
does the other, with the same error. -/
theorem resolve_follows_describe (readText : String → Option String) (a : Arguments)
    {path text name : String} {document : Document} {d : Declaration} (hpath : a.registry = some path)
    (htext : readText path = some text) (hread : Document.read text = some document)
    (hvalid : document.Valid)
    (hsettings : (effectiveSettings a (document.settings.getD {})).maxDepth ≠ 0)
    (hd : document.declarations.get? name = some d) (hparameters : d.parameters = []) :
    ∃ R, (prepare readText a).result = .ok R ∧ R.get? ⟨name⟩ = some d ∧
      (∀ description, (R.describe ⟨name⟩).result = .ok description →
        description.properties.map (fun p => (p.name, p.type)) = d.properties.entries ∧
        (∀ p ∈ description.properties, TypeExpr.parse p.type.render = .ok p.type ∧
          Finds readText a p.type.render p.type p.shape) ∧
        (TypeExpr.parse name = .ok (.raw ⟨name⟩) →
          Finds readText a name (.raw ⟨name⟩) description.shape)) ∧
      ∀ e, (R.describe ⟨name⟩).result = .error e →
        ((R.resolver.tellReport (.raw ⟨name⟩)).result = .error e ∧
          (TypeExpr.parse name = .ok (.raw ⟨name⟩) → FailsAt readText a name e)) ∨
        ∃ p ∈ d.properties.entries, TypeExpr.parse p.2.render = .ok p.2 ∧
          FailsAt readText a p.2.render e := by
  obtain ⟨R, hR, -, hget⟩ := prepare_of_valid hpath htext hread hvalid hsettings
  have hget : R.get? ⟨name⟩ = some d := by
    rw [hget, hd, Option.some_or]
  have hparse {n : String} {t : TypeExpr} (h : (n, t) ∈ d.properties.entries) :
      TypeExpr.parse t.render = .ok t :=
    TypeExpr.parse_render (Document.wellFormed_of_read hread hd h)
  have hunbound (t : TypeExpr) : R.resolver.propertyShape d t = R.resolver.shape t := by
    rw [Resolver.propertyShape, ← Declaration.instantiate_nil,
      Declaration.instantiate_of_parameters_eq_nil hparameters]
  refine ⟨R, hR, hget, fun description hok => ?_, fun e herror => ?_⟩
  · have hdescribes := (Registry.describe_eq_ok_iff hget).mp hok
    refine ⟨hdescribes.properties, fun p hp => ?_,
      fun hname => finds_of_shape hR hname hdescribes.shape⟩
    have hmem : (p.name, p.type) ∈ d.properties.entries :=
      hdescribes.properties ▸ List.mem_map_of_mem (f := fun p => (p.name, p.type)) hp
    have hshape := hdescribes.alone p hp
    rw [hunbound] at hshape
    exact ⟨hparse hmem, finds_of_shape hR (hparse hmem) hshape⟩
  · obtain ⟨cause, hshape | @⟨_, before, after, p, -, hentries, -, hshape⟩, rfl⟩ :=
      (Registry.describe_eq_error_iff hget).mp herror
    · refine .inl ⟨?_, fun hname => failsAt_of_shape hR hname hshape⟩
      rw [Resolver.result_tellReport, Resolver.report_eq_error_iff.mpr hshape]
      rfl
    · have hp : p ∈ d.properties.entries := hentries ▸ List.mem_append_right _ List.mem_cons_self
      rw [hunbound] at hshape
      exact .inr ⟨p, hp, hparse hp, failsAt_of_shape hR (hparse hp) hshape⟩

/-- Trees have trees below them. -/
def trees : String :=
  "\x7b\"types\": \x7b\"Tree\": \x7b\"properties\": \x7b\"below\": \"Tree[]\"\x7d\x7d\x7d\x7d"

theorem resolve_follows_describe_trees :
    let a : Arguments := { registry := some "r.json", noBuiltins := true, task := .list }
    let readText (_ : String) := some trees
    ∃ document d R, Document.read trees = some document ∧ document.Valid ∧
      (effectiveSettings a (document.settings.getD {})).maxDepth ≠ 0 ∧
      document.declarations.get? "Tree" = some d ∧ d.parameters = [] ∧
      (prepare readText a).result = .ok R ∧
      (∃ description, (R.describe ⟨"Tree"⟩).result = .ok description ∧
        description.properties.map (·.type.render) = ["Tree[]"] ∧
        (∀ p ∈ description.properties, Finds readText a p.type.render p.type p.shape) ∧
        Finds readText a "Tree" (.raw ⟨"Tree"⟩) description.shape) := by
  intro a readText
  have hread : (Document.read trees).isSome = true := by decide +kernel
  obtain ⟨document, hread⟩ := Option.isSome_iff_exists.mp hread
  have hdocument : ∀ document ∈ Document.read trees, document.settings = none ∧
      (document.declarations.get? "Tree").isSome = true ∧
      ∀ d ∈ document.declarations.get? "Tree", d.parameters = [] := by decide +kernel
  obtain ⟨hnone, hd, hparameters⟩ := hdocument document hread
  obtain ⟨d, hd⟩ := Option.isSome_iff_exists.mp hd
  have hvalid : document.Valid := by
    rw [Document.Valid, hnone]
    intro settings h
    cases h
  have hsettings : (effectiveSettings a (document.settings.getD {})).maxDepth ≠ 0 := by
    rw [hnone]
    decide
  obtain ⟨R, hR, -, hok, -⟩ := resolve_follows_describe readText a rfl rfl hread hvalid hsettings hd
    (hparameters d hd)
  have hdescribed : ∀ R ∈ (prepare readText a).result.toOption,
      (R.describe ⟨"Tree"⟩).result.map (·.properties.map (·.type.render)) =
        .ok ["Tree[]"] := by decide +kernel
  obtain ⟨description, hdescription, htypes⟩ :=
    map_eq_ok_iff.mp (hdescribed R (by rw [hR]; rfl))
  obtain ⟨-, hproperties, hname⟩ := hok description hdescription
  exact ⟨document, d, R, hread, hvalid, hsettings, hd, hparameters d hd, hR, description,
    hdescription, htypes, fun p hp => (hproperties p hp).2, hname (by decide +kernel)⟩

/-- A declaration under a keyword. -/
def keywordDeclared : String := "\x7b\"types\": \x7b\"int\": \x7b\x7d\x7d\x7d"

/-- The name of a described type may be read as something else: what is declared as `int` is described
as a class, and the text `int` is resolved as a number. -/
theorem describe_keyword_ne :
    let a : Arguments := { registry := some "r.json", noBuiltins := true, task := .describe ["int"] }
    let readText (_ : String) := some keywordDeclared
    ∃ R description resolved, (prepare readText a).result = .ok R ∧
      (R.get? ⟨"int"⟩).map (·.parameters) = some [] ∧
      (R.describe ⟨"int"⟩).result = .ok description ∧
      TypeExpr.parse "int" = .ok (.primitive .int) ∧
      (resolveType R false "int").result = .ok resolved ∧ resolved.shape ≠ description.shape ∧
      (run readText a).result = .ok "int (class): int" ∧
      (run readText { a with task := .resolve ["int"] false }).result = .ok "int: integer" := by
  intro a readText
  have hsome : (prepare readText a).result.toOption.isSome = true := by decide +kernel
  have hint : ∀ R ∈ (prepare readText a).result.toOption,
      (R.get? ⟨"int"⟩).map (·.parameters) = some [] ∧
      (R.describe ⟨"int"⟩).result = .ok ⟨⟨"int"⟩, .classType, .named ⟨⟨"int"⟩, .object⟩, []⟩ ∧
      (resolveType R false "int").result = .ok ⟨.primitive .int, .primitive .integer, none⟩ := by
    decide +kernel
  cases hR : (prepare readText a).result with
  | error e =>
    rw [hR] at hsome
    cases hsome
  | ok R =>
    obtain ⟨hdeclared, hdescribed, hresolved⟩ := hint R (by rw [hR]; rfl)
    exact ⟨R, _, _, rfl, hdeclared, hdescribed, by decide +kernel, hresolved, by decide,
      by decide +kernel, by decide +kernel⟩

end Command

end WireShape
