import WireShape.Registry.Builtins
import WireShape.Registry.Document

/-! # Laying documents over a registry

Loading fails before anything is changed, or it lays the whole document over the registry. The names
of a document are distinct, so that the order of its declarations does not matter, and a second time
there is nothing left to change. -/

namespace WireShape

namespace Registry
variable {r r' r'' : Registry} {document : Document}

theorem eq_of_get?_eq (h : ∀ name, r.get? name = r'.get? name) (hs : r.settings = r'.settings) :
    r = r' := by
  have hd : r.declarations = r'.declarations := NameTable.eq_of_get?_eq fun name => h ⟨name⟩
  cases r
  cases r'
  rw [mk.injEq]
  exact ⟨hd, hs⟩

/-- `r'` is `r` with `document` laid over it: the names that the document declares are its own, and so
are the settings, if it has any. -/
structure Overlaid (r : Registry) (document : Document) (r' : Registry) : Prop where
  get? : ∀ name, r'.get? name = (document.declarations.get? name.text).or (r.get? name)
  settings : r'.settings = document.settings.getD r.settings

theorem Overlaid.unique (h : r.Overlaid document r') (h' : r.Overlaid document r'') : r' = r'' :=
  eq_of_get?_eq (fun name => by rw [h.get?, h'.get?]) (by rw [h.settings, h'.settings])

theorem Overlaid.again (h : r.Overlaid document r') : r'.Overlaid document r' where
  get? name := by
    rw [h.get?]
    cases document.declarations.get? name.text <;> rfl
  settings := by
    rw [h.settings]
    cases document.settings <;> rfl

theorem registerAll_eq (r : Registry) (es : List (String × Declaration)) :
    (r.registerAll es).1 =
      { r with declarations := es.foldl (fun t e => t.insert e.1 e.2) r.declarations } := by
  induction es generalizing r with
  | nil => rfl
  | cons e es ih =>
    show ((r.insert ⟨e.1⟩ e.2).registerAll es).1 = _
    rw [ih]
    rfl

/-- In whatever order its declarations are registered, `r` is `Overlaid` with the document. -/
theorem overlaid_registerAll {es : List (String × Declaration)}
    (hes : es.Perm document.declarations.entries) (r : Registry) :
    r.Overlaid document
      (({ r with settings := document.settings.getD r.settings } : Registry).registerAll es).1 := by
  have hnodup : (es.map Prod.fst).Nodup :=
    (hes.map Prod.fst).nodup_iff.mpr document.declarations.nodup_names
  rw [registerAll_eq]
  refine ⟨fun name => ?_, rfl⟩
  show (es.foldl _ r.declarations).get? name.text = _
  rw [NameTable.get?_foldl_insert hnodup, NameTable.lookup_eq_of_perm hes hnodup]
  rfl

theorem setSettings_of_valid {settings : Settings} (h : settings.maxDepth ≠ 0) :
    r.setSettings settings = .ok { r with settings } := by
  unfold setSettings Settings.validate
  rw [if_neg h]
  rfl

theorem setSettings_of_invalid {settings : Settings} (h : settings.maxDepth = 0) :
    r.setSettings settings = .error (.invalidArgument "max_depth" "must be at least 1") := by
  unfold setSettings Settings.validate
  rw [if_pos h]
  rfl

end Registry

/-- The settings of the document, if it has any, are valid. -/
def Document.Valid (document : Document) : Prop :=
  ∀ settings ∈ document.settings, settings.maxDepth ≠ 0

namespace Updating
variable {text : String} {document : Document} (order : Arrangement) (source : String) (l : Loading)

theorem run_bind {α β : Type} (x : Updating α) (f : α → Updating β) (l : Loading) :
    (x >>= f).run l = match x.run l with
      | (.ok a, l) => (f a).run l
      | (.error e, l) => (.error e, l) := by
  show (ExceptT.bindCont f (x.run l).1) (x.run l).2 = _
  rcases x.run l with ⟨_ | _, _⟩ <;> rfl

theorem run_settle_some (settings : Settings) :
    (settle source (some settings)).run l =
      match l.registry.setSettings settings with
      | .error cause => (.error (.badSettings source cause), l)
      | .ok registry => (.ok (), { l with registry }) := by
  have hget : (get : Updating Loading).run l = (.ok l, l) := rfl
  unfold settle
  rw [run_bind, hget]
  dsimp only
  cases l.registry.setSettings settings <;> rfl

theorem run_load_of_malformed (h : Document.read text = none) :
    (load order text source).run l = (.error (.malformed source), l) := by
  unfold load
  rw [h]
  rfl

theorem run_load (h : Document.read text = some document) :
    (load order text source).run l =
      match (settle source document.settings).run l with
      | (.error e, l) => (.error e, l)
      | (.ok (), l) => (.ok (), {
        registry := (l.registry.registerAll (order.arrange document.declarations.entries)).1
        events := l.events ++ (l.registry.registerAll (order.arrange document.declarations.entries)).2 ++
          [.loaded document.declarations.size source] }) := by
  unfold load
  rw [h]
  dsimp only
  rw [run_bind]
  rcases (settle source document.settings).run l with ⟨_ | _, _⟩ <;> rfl

theorem run_load_of_invalid (h : Document.read text = some document) (hv : ¬ document.Valid) :
    ∃ cause, (load order text source).run l = (.error (.badSettings source cause), l) := by
  obtain ⟨settings, hs, hdepth⟩ : ∃ settings, document.settings = some settings ∧
      settings.maxDepth = 0 := by
    simpa [Document.Valid] using hv
  rw [run_load order source l h, hs, run_settle_some, Registry.setSettings_of_invalid hdepth]
  exact ⟨_, rfl⟩

theorem run_load_of_valid (h : Document.read text = some document) (hv : document.Valid) :
    ∃ events, (load order text source).run l = (.ok (),
      { registry := (({ l.registry with
          settings := document.settings.getD l.registry.settings } : Registry).registerAll
            (order.arrange document.declarations.entries)).1
        events }) := by
  rw [run_load order source l h]
  cases hs : document.settings with
  | none => exact ⟨_, rfl⟩
  | some settings =>
    rw [run_settle_some, Registry.setSettings_of_valid (hv settings hs)]
    exact ⟨_, rfl⟩

end Updating

namespace Registry

/-- How loading the document in `text` into `r` ends, and the registry that it leaves. -/
def attempt (r : Registry) (order : Arrangement) (text source : String) :
    Except LoadError Unit × Registry :=
  let (result, l) := (Updating.load order text source).run { registry := r }
  (result, l.registry)

theorem attempt_of_valid {text : String} (h : Document.read text = some document)
    (hv : document.Valid) (r : Registry) (order : Arrangement) (source : String) :
    (r.attempt order text source).1 = .ok () ∧
      r.Overlaid document (r.attempt order text source).2 := by
  obtain ⟨events, hrun⟩ := Updating.run_load_of_valid order source { registry := r } h hv
  unfold attempt
  rw [hrun]
  exact ⟨rfl, overlaid_registerAll (order.perm _) r⟩

theorem attempt_of_not_valid {text : String}
    (h : ∀ document, Document.read text = some document → ¬ document.Valid) (r : Registry)
    (order : Arrangement) (source : String) :
    ∃ e reason, r.attempt order text source = (.error e, r) ∧
      e.toError = .registryLoad source reason := by
  unfold attempt
  cases hread : Document.read text with
  | none =>
    rw [Updating.run_load_of_malformed order source _ hread]
    exact ⟨_, _, rfl, rfl⟩
  | some document =>
    obtain ⟨cause, hrun⟩ :=
      Updating.run_load_of_invalid order source { registry := r } hread (h document hread)
    rw [hrun]
    exact ⟨_, _, rfl, rfl⟩

theorem attempt_eq_ok_iff (r : Registry) (order : Arrangement) (text source : String) :
    (r.attempt order text source).1 = .ok () ↔
      ∃ document, Document.read text = some document ∧ document.Valid := by
  constructor
  · intro hok
    by_cases hvalid : ∃ document, Document.read text = some document ∧ document.Valid
    · exact hvalid
    · have hnone : ∀ document, Document.read text = some document → ¬ document.Valid :=
        fun document h hv => hvalid ⟨document, h, hv⟩
      obtain ⟨e, reason, he, -⟩ := attempt_of_not_valid hnone r order source
      rw [he] at hok
      cases hok
  · rintro ⟨document, h, hv⟩
    exact (attempt_of_valid h hv r order source).1

theorem attempt_eq_error {r : Registry} {order : Arrangement} {text source : String} {e : LoadError}
    (h : (r.attempt order text source).1 = .error e) :
    (∃ reason, e.toError = .registryLoad source reason) ∧ (r.attempt order text source).2 = r := by
  have hnone : ∀ document, Document.read text = some document → ¬ document.Valid := by
    intro document hread hv
    rw [(attempt_of_valid hread hv r order source).1] at h
    cases h
  obtain ⟨e', reason, he, herror⟩ := attempt_of_not_valid hnone r order source
  rw [he] at h ⊢
  cases h
  exact ⟨⟨reason, herror⟩, rfl⟩

/-- `attempt` succeeds exactly for the text of a document that is `Valid`, and else leaves `r` as it
was and reports `registryLoad`. With success `r` is `Overlaid` with the document; neither the order
of the declarations nor a second `attempt` changes that, and of two documents the one loaded last
answers first. -/
theorem attempt_overlays (r : Registry) (order : Arrangement) (text source : String) :
    ((r.attempt order text source).1 = .ok () ↔
      ∃ document, Document.read text = some document ∧ document.Valid) ∧
    (∀ e, (r.attempt order text source).1 = .error e →
      (∃ reason, e.toError = .registryLoad source reason) ∧
      (r.attempt order text source).2 = r) ∧
    ∀ document, Document.read text = some document → (r.attempt order text source).1 = .ok () →
      r.Overlaid document (r.attempt order text source).2 ∧
      (∀ order', r.attempt order' text source = r.attempt order text source) ∧
      (∀ order' source', (r.attempt order text source).2.attempt order' text source' =
        (.ok (), (r.attempt order text source).2)) ∧
      ∀ order' text' source' document', Document.read text' = some document' →
        ((r.attempt order text source).2.attempt order' text' source').1 = .ok () →
        ∀ name, ((r.attempt order text source).2.attempt order' text' source').2.get? name =
          (document'.declarations.get? name.text).or
            ((document.declarations.get? name.text).or (r.get? name)) := by
  refine ⟨attempt_eq_ok_iff r order text source, fun e => attempt_eq_error, ?_⟩
  intro document h hok
  obtain ⟨document', h', hv⟩ := (attempt_eq_ok_iff r order text source).mp hok
  obtain rfl : document' = document := Option.some.inj (h'.symm.trans h)
  obtain ⟨-, hlaid⟩ := attempt_of_valid h hv r order source
  refine ⟨hlaid, fun order' => ?_, fun order' source' => ?_, ?_⟩
  · obtain ⟨hok', hlaid'⟩ := attempt_of_valid h hv r order' source
    exact Prod.ext (hok'.trans hok.symm) (hlaid'.unique hlaid)
  · obtain ⟨hok', hlaid'⟩ := attempt_of_valid h hv (r.attempt order text source).2 order' source'
    exact Prod.ext hok' (hlaid'.unique hlaid.again)
  · intro order' text' source' second hread hok' name
    obtain ⟨second', hread', hv'⟩ := (attempt_eq_ok_iff _ order' text' source').mp hok'
    obtain rfl : second' = second := Option.some.inj (hread'.symm.trans hread)
    obtain ⟨-, hlaid'⟩ := attempt_of_valid hread hv' (r.attempt order text source).2 order' source'
    rw [hlaid'.get?, hlaid.get?]

/-- Settings, and two declarations, one of them in the place of a built-in one. -/
def numbered : String :=
  "\x7b\"resolver\": \x7b\"max_depth\": 8\x7d, \"types\": \x7b\"Line\": \x7b\"type_hint\": \"int[]\"\x7d, " ++
    "\"java.util.List\": \x7b\"kind\": \"enum\"\x7d\x7d\x7d"

theorem attempt_overlays_numbered :
    (∃ document, Document.read numbered = some document ∧ document.Valid ∧
      builtins.Overlaid document (builtins.attempt ⟨List.reverse, List.reverse_perm⟩ numbered "n").2) ∧
    (∃ e, (builtins.attempt .byName "[" "n").1 = .error e) ∧
    (builtins.attempt .byName "[" "n").2 = builtins := by
  have hsome : (Document.read numbered).isSome = true := by decide +kernel
  obtain ⟨document, hread⟩ := Option.isSome_iff_exists.mp hsome
  have hvalid : document.Valid := by
    have hdepth : ∀ settings ∈ (Document.read numbered).bind (·.settings),
        settings.maxDepth ≠ 0 := by decide +kernel
    rw [hread] at hdepth
    exact hdepth
  obtain ⟨hiff, -, hlaid⟩ :=
    attempt_overlays builtins ⟨List.reverse, List.reverse_perm⟩ numbered "n"
  have hnone : (Document.read "[").isNone = true := by decide +kernel
  have herror : (builtins.attempt .byName "[" "n").1 = .error (.malformed "n") := by
    unfold attempt
    rw [Updating.run_load_of_malformed _ _ _ (Option.isNone_iff_eq_none.mp hnone)]
  obtain ⟨-, hunchanged, -⟩ := attempt_overlays builtins .byName "[" "n"
  exact ⟨⟨document, hread, hvalid, (hlaid document hread (hiff.mpr ⟨document, hread, hvalid⟩)).1⟩,
    ⟨_, herror⟩, (hunchanged _ herror).2⟩

end Registry

end WireShape
