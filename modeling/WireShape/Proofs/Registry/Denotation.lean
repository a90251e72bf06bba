import WireShape.Proofs.Registry.Elements
import WireShape.Proofs.Registry.Termination
import WireShape.Proofs.Resolver.DepthLimit
import WireShape.Proofs.Resolver.Yields

/-! # What types denote over the built-in declarations

Over the built-in declarations alone, the shape of a type is a function of the type: `denote` goes
down its parts, with the names of the maps that it is inside of, and `height` counts the levels that
it goes down. Resolution finds exactly that shape if the limit allows for these levels, and fails
otherwise. -/

namespace WireShape

namespace Registry

/-- The names of the built-in collections and streams. -/
def collectionNames : List String :=
  collectionInterfaces ++ collectionClasses ++ ["java.util.stream.Stream"]

def mapNames : List String := mapInterfaces ++ mapClasses

/-- The shape of a type at position `p`, inside of the maps of `S`. -/
def denote (S : List String) (p : Position) : TypeExpr → Shape
  | .primitive kind =>
    if p = .arrayElement ∧ kind = .byte then .primitive .string else p.wrap (.primitive kind.json)
  | .array component => p.wrap (denote S .arrayElement component)
  | .parameter _ (some bound) | .wildcard (some bound) => p.wrap (denote S .value bound)
  | .parameter _ none | .wildcard none => p.wrap .object
  | .other _ => .object
  | .declared name arguments =>
    p.wrap <|
      if name.text ∈ collectionNames then
        match arguments with
        | [element] => denote S .collectionElement element
        | _ => .array .object
      else if name.text ∈ mapNames then
        if name.text ∈ S then .object
        else
          match arguments with
          | [key, value] =>
            .map (denote (name.text :: S) .value key) (denote (name.text :: S) .value value)
          | _ => .map .object .object
      else (KnownTypes.shape? name).getD .object
termination_by structural t => t

/-- How many levels below a type `denote` goes. A container without its arguments has them as
parameters, one level below. -/
def height (S : List String) : TypeExpr → Nat
  | .array component => height S component + 1
  | .parameter _ (some bound) | .wildcard (some bound) => height S bound + 1
  | .declared name arguments =>
    if name.text ∈ collectionNames then
      match arguments with
      | [element] => height S element + 1
      | _ => 1
    else if name.text ∈ mapNames ∧ name.text ∉ S then
      match arguments with
      | [key, value] => max (height (name.text :: S) key) (height (name.text :: S) value) + 1
      | _ => 1
    else 0
  | .primitive _ | .parameter _ none | .wildcard none | .other _ => 0
termination_by structural t => t

theorem disjoint_names : ∀ n ∈ mapNames, n ∉ collectionNames := by decide +kernel

theorem unknown_names : ∀ n ∈ collectionNames ++ mapNames, KnownTypes.shape? ⟨n⟩ = none := by
  decide +kernel

theorem exists_get?_builtins {name : TypeName} (h : name.text ∈ collectionNames ++ mapNames) :
    ∃ d, builtins.get? name = some d := by
  have hnames : builtinDeclarations.map (·.1) = collectionInterfaces ++ collectionClasses ++
      mapInterfaces ++ mapClasses ++ ["java.util.stream.Stream"] := rfl
  have hdeclared : name.text ∈ builtinDeclarations.map (·.1) := by
    simp only [hnames, collectionNames, mapNames, List.mem_append] at h ⊢
    tauto
  obtain ⟨e, he, hname⟩ := List.mem_map.mp hdeclared
  exact ⟨e.2, get?_builtins_iff.mpr (hname ▸ he)⟩

theorem builtin_cases (name : TypeName) :
    (name.text ∈ collectionNames ∧
      ∃ d n, builtins.get? name = some d ∧ d.HoldsOnly ⟨n, none⟩) ∨
    (name.text ∈ mapNames ∧ ∃ kind, builtins.get? name = some (mapDeclaration kind)) ∨
    (name.text ∉ collectionNames ∧ name.text ∉ mapNames ∧ builtins.get? name = none) := by
  cases hd : builtins.get? name with
  | none =>
    have hnone : name.text ∉ collectionNames ++ mapNames := fun h => by
      obtain ⟨d, hsome⟩ := exists_get?_builtins h
      rw [hd] at hsome
      cases hsome
    rw [List.mem_append, not_or] at hnone
    exact .inr (.inr ⟨hnone.1, hnone.2, rfl⟩)
  | some d =>
    rcases cases_of_get?_builtins hd with ⟨kind, rfl, hn⟩ | ⟨kind, rfl, hn⟩ | ⟨rfl, hn⟩
    · exact .inl ⟨List.mem_append_left _ hn, _, "E", rfl, rfl, rfl, ⟨rfl, rfl, rfl⟩, rfl⟩
    · exact .inr (.inl ⟨hn, kind, rfl⟩)
    · exact .inl ⟨List.mem_append_right _ (List.mem_singleton.mpr hn), _, "T", rfl, rfl, rfl,
        ⟨rfl, rfl, rfl⟩, rfl⟩

/-! ### What containers hold

A use that has not as many arguments as there are parameters holds the parameters themselves, of
which nothing is known. -/

section
variable {name : TypeName} {arguments : List TypeExpr} {d : Declaration} {n : String}

theorem denote_collection (hn : name.text ∈ collectionNames) (hd : d.HoldsOnly ⟨n, none⟩)
    (S : List String) (p : Position) :
    denote S p (.declared name arguments) =
        p.wrap (denote S .collectionElement (d.instantiate arguments (.raw ⟨n⟩))) ∧
      height S (.declared name arguments) =
        height S (d.instantiate arguments (.raw ⟨n⟩)) + 1 := by
  by_cases hlen : arguments.length = 1
  · obtain ⟨element, rfl⟩ := List.length_eq_one_iff.mp hlen
    have helement : d.instantiate [element] (.raw ⟨n⟩) = element := hd.instantiate element
    rw [helement]
    simp [denote, height, hn]
  · have hbindings : d.bindings arguments = [(n, .parameter n none)] := by
      have hlen : ¬ 1 = arguments.length := fun h => hlen h.symm
      simp [Declaration.bindings_eq, Declaration.asVariables, hd.parameters, hlen, TypeParameter.toTypeExpr]
    have helement : d.instantiate arguments (.raw ⟨n⟩) = .parameter n none := by
      rw [Declaration.instantiate, hbindings]
      simp [Bindings.get?]
    rw [helement]
    rcases arguments with _ | ⟨a, _ | ⟨b, arguments⟩⟩
    · simp [denote, height, hn, Position.wrap, Position.wraps]
    · exact absurd rfl hlen
    · unfold denote height
      simp [hn, Position.wrap, Position.wraps]

theorem denote_map (hn : name.text ∈ mapNames) {S : List String} (hS : name.text ∉ S)
    (kind : DeclarationKind) (p : Position) :
    let key := (mapDeclaration kind).instantiate arguments (.raw ⟨"K"⟩)
    let value := (mapDeclaration kind).instantiate arguments (.raw ⟨"V"⟩)
    denote S p (.declared name arguments) =
        p.wrap (.map (denote (name.text :: S) .value key) (denote (name.text :: S) .value value)) ∧
      height S (.declared name arguments) =
        max (height (name.text :: S) key) (height (name.text :: S) value) + 1 := by
  have hno : name.text ∉ collectionNames := disjoint_names _ hn
  match arguments with
  | [k, v] =>
    intro key value
    have hkey : key = k := rfl
    have hvalue : value = v := rfl
    rw [hkey, hvalue]
    simp [denote, height, hno, hn, hS]
  | [] | [_] | _ :: _ :: _ :: _ =>
    intro key value
    have hkey : key = .parameter "K" none := rfl
    have hvalue : value = .parameter "V" none := rfl
    rw [hkey, hvalue]
    unfold denote height
    simp [hno, hn, hS, Position.wrap, Position.wraps]

theorem denote_map_of_mem (hn : name.text ∈ mapNames) {S : List String} (hS : name.text ∈ S)
    (p : Position) :
    denote S p (.declared name arguments) = p.wrap .object ∧
      height S (.declared name arguments) = 0 := by
  have hno : name.text ∉ collectionNames := disjoint_names _ hn
  unfold denote height
  simp [hno, hn, hS]

theorem denote_unknown (hcollection : name.text ∉ collectionNames) (hmap : name.text ∉ mapNames)
    (S : List String) (p : Position) :
    denote S p (.declared name arguments) = p.wrap ((KnownTypes.shape? name).getD .object) ∧
      height S (.declared name arguments) = 0 := by
  unfold denote height
  simp [hcollection, hmap]

end

section
variable {R : Registry} {r : Resolver} (he : r.environment = R.environment) {u : DeclaredType}
  {d : Declaration} {below : Resolver.Below}
include he

theorem cuts_eq (h : R.get? u.name = some d) (S : List String) :
    r.cuts S u = (S.contains u.identity && !d.isCollectionOrStream) := by
  rw [Resolver.cuts, he, isCollectionOrStream_of_get? h]

theorem framed_after_map {kind : DeclarationKind}
    (h : R.get? u.name = some (mapDeclaration kind)) :
    (r.framed below u).After (do
      let k ← below .value ((mapDeclaration kind).instantiate u.arguments (.raw ⟨"K"⟩))
      let v ← below .value ((mapDeclaration kind).instantiate u.arguments (.raw ⟨"V"⟩))
      return .map k v) := by
  apply Resolver.framed_after_entries
  · rw [he]
    exact (overrides_eq_false_iff h).mpr ⟨rfl, rfl, rfl⟩
  · rw [he, adapter_of_get? h]
    rfl
  · rw [he, mapTypes_of_get? h]
    rfl

theorem quiet_framed_undeclared (h : R.get? u.name = none) :
    (r.framed below u).Quiet ((KnownTypes.shape? u.name).getD .object) := by
  have hdocumented : r.environment.documented u = KnownTypes.shape? u.name := by
    rw [he]
    simp only [Environment.documented, environment, h, Option.bind_none, Option.map_none,
      Option.none_or, Option.or_none]
    cases KnownTypes.shape? u.name <;> rfl
  rw [← hdocumented]
  apply Resolver.quiet_framed <;> rw [he] <;>
    simp [Environment.overrides, environment, lookup, h]

end

/-! ### Resolution follows the recursion -/

/-- Of the types in progress, `S` has the maps, and none is known to have a shape without structure. -/
structure InProgress (S stack : List String) : Prop where
  maps : ∀ n ∈ mapNames, n ∈ stack ↔ n ∈ S
  unknown : ∀ n ∈ stack, KnownTypes.shape? ⟨n⟩ = none

namespace InProgress
variable {S stack : List String} {n : String}

theorem collection (h : InProgress S stack) (hn : n ∈ collectionNames) : InProgress S (n :: stack) := by
  refine ⟨fun n' hn' => ?_, fun n' hn' => ?_⟩
  · have hne : n' ≠ n := fun heq => disjoint_names n' hn' (heq ▸ hn)
    rw [List.mem_cons, or_iff_right hne, h.maps n' hn']
  · rcases List.mem_cons.mp hn' with rfl | hn'
    · exact unknown_names n' (List.mem_append_left _ hn)
    · exact h.unknown n' hn'

theorem map (h : InProgress S stack) (hn : n ∈ mapNames) : InProgress (n :: S) (n :: stack) := by
  refine ⟨fun n' hn' => ?_, fun n' hn' => ?_⟩
  · rw [List.mem_cons, List.mem_cons, h.maps n' hn']
  · rcases List.mem_cons.mp hn' with rfl | hn'
    · exact unknown_names n' (List.mem_append_right _ hn)
    · exact h.unknown n' hn'

theorem unknown_of_cuts {r : Resolver} {d : DeclaredType} (h : InProgress S stack)
    (hcut : r.cuts stack d = true) : KnownTypes.shape? d.name = none := by
  have hmem : d.identity ∈ stack := by
    rw [Resolver.cuts, Bool.and_eq_true, List.contains_iff_mem] at hcut
    exact hcut.1
  obtain ⟨⟨text⟩, arguments⟩ := d
  by_cases hempty : text = ""
  · subst hempty
    rfl
  · rw [DeclaredType.identity, if_neg hempty] at hmem
    exact h.unknown text hmem

end InProgress

/-- The shape of a type, if the levels are enough. -/
def outcome (levels : Nat) (S : List String) (p : Position) (t : TypeExpr) : Option Shape :=
  if height S t < levels then some (denote S p t) else none

section
variable {levels : Nat} {S S' : List String} {p p' : Position} {t t' key value : TypeExpr}
  {shape : Shape} {f : Shape → Shape}

theorem outcome_leaf (h : denote S p t = shape ∧ height S t = 0) :
    outcome (levels + 1) S p t = some shape := by
  rw [outcome, h.1, h.2, if_pos (Nat.succ_pos levels)]

theorem outcome_below
    (h : denote S p t = f (denote S' p' t') ∧ height S t = height S' t' + 1) :
    outcome (levels + 1) S p t = (outcome levels S' p' t').map f := by
  simp only [outcome, h.1, h.2, Nat.add_lt_add_iff_right]
  split <;> rfl

theorem outcome_entries
    (h : denote S p t = f (.map (denote S' .value key) (denote S' .value value)) ∧
      height S t = max (height S' key) (height S' value) + 1) :
    outcome (levels + 1) S p t =
      ((outcome levels S' .value key).bind fun k =>
        (outcome levels S' .value value).map (.map k)).map f := by
  simp only [outcome, h.1, h.2, Nat.add_lt_add_iff_right, Nat.max_lt]
  by_cases hk : height S' key < levels <;> by_cases hv : height S' value < levels <;> simp [hk, hv]

end

end Registry

namespace Resolver
open Registry Resolving

variable {r : Resolver} (he : r.environment = builtins.environment) {below : Below} {levels : Nat}
  {S stack : List String} {u : DeclaredType} {c : Context}
include he

theorem yields_declared
    (hbelow : ∀ {S stack}, InProgress S stack → ∀ p t,
      Yields stack (below p t) (outcome levels S p t)) (h : InProgress S stack) :
    Yields stack (r.declaredShape below u c)
      (outcome (levels + 1) S c.position u.toTypeExpr) := by
  rcases builtin_cases u.name with ⟨hn, d, n, hd, honly⟩ | ⟨hn, kind, hd⟩ | ⟨hc, hm, hd⟩
  · have hidentity : u.identity = u.name.text := if_neg (grounded_builtins.text_ne hd)
    have hcut : r.cuts stack u = false := by
      rw [cuts_eq he hd, Declaration.isCollectionOrStream_of_element honly.element, Bool.not_true,
        Bool.and_false]
    have hin : InProgress S (u.identity :: stack) := by
      rw [hidentity]
      exact h.collection hn
    rw [outcome_below (denote_collection hn honly S c.position)]
    exact yields_declaredShape hcut
      ((framed_after_collection he hd honly below).yields (hbelow hin _ _))
  · have hidentity : u.identity = u.name.text := if_neg (grounded_builtins.text_ne hd)
    have hcut : r.cuts stack u = decide (u.name.text ∈ S) := by
      rw [cuts_eq he hd, hidentity, List.contains_eq_mem, decide_eq_decide.mpr (h.maps _ hn)]
      exact Bool.and_true _
    by_cases hS : u.name.text ∈ S
    · rw [outcome_leaf (denote_map_of_mem hn hS c.position)]
      exact yields_declaredShape_of_cuts (hcut.trans (decide_eq_true hS))
    · have hin : InProgress (u.name.text :: S) (u.identity :: stack) := by
        rw [hidentity]
        exact h.map hn
      rw [outcome_entries (denote_map hn hS kind c.position)]
      refine yields_declaredShape (hcut.trans (decide_eq_false hS))
        ((framed_after_map he hd).yields ?_)
      exact (hbelow hin _ _).bind fun k => (hbelow hin _ _).map (Shape.map k)
  · rw [outcome_leaf (denote_unknown hc hm S c.position)]
    cases hcut : r.cuts stack u with
    | false => exact yields_declaredShape hcut (quiet_framed_undeclared he hd).yields
    | true =>
      -- what is in progress is not known, so it has the shape that a cycle has
      rw [h.unknown_of_cuts hcut]
      exact yields_declaredShape_of_cuts hcut

theorem yields_resolveWithin (levels : Nat) {S stack : List String} (h : InProgress S stack)
    (t : TypeExpr) (c : Context) :
    Yields stack (r.resolveWithin levels t c) (outcome levels S c.position t) := by
  induction levels generalizing S stack t c with
  | zero => exact .note _ (.throw _)
  | succ levels ih =>
    refine .note _ ?_
    match t with
    | .declared name arguments =>
      exact yields_declared he (fun h p t => ih h t (c.derive p)) h
    | .primitive kind =>
      rw [outcome_leaf ⟨rfl, rfl⟩]
      by_cases hbyte : c.position = .arrayElement ∧ kind = .byte
      · simp only [shapeOf, denote, if_pos hbyte]
        exact (Quiet.pure _).yields
      · simp only [shapeOf, denote, if_neg hbyte]
        exact (Quiet.pure _).yields
    | .array component =>
      have hcomponent := ih h component (c.derive .arrayElement)
      rw [outcome_below ⟨rfl, rfl⟩]
      exact hcomponent.map c.wrap
    | .parameter _ (some bound) | .wildcard (some bound) =>
      have hbound := ih h bound (c.derive .value)
      rw [outcome_below ⟨rfl, rfl⟩]
      exact hbound.map c.wrap
    | .parameter _ none | .wildcard none | .other _ =>
      rw [outcome_leaf ⟨rfl, rfl⟩]
      exact (Quiet.pure _).yields

end Resolver

namespace Registry

theorem run_resolve_builtins (m : Nat) (policy : AdapterPolicy) (t : TypeExpr) (c : Context)
    {s : State} (hs : ∀ n ∈ s.stack, KnownTypes.shape? ⟨n⟩ = none) :
    ∃ result events,
      ((builtins.environment.resolver m policy).resolve t c).run s = (result, { s with events }) ∧
      (c.depth + height s.stack t ≤ m → result = .ok (denote s.stack c.position t)) ∧
      (m < c.depth + height s.stack t → ∃ e, result = .error e ∧ e.depth = max c.depth (m + 1)) := by
  obtain ⟨result, events, hrun, hresult⟩ := Resolver.yields_resolveWithin
    (r := builtins.environment.resolver m policy) rfl (m + 1 - c.depth)
    (⟨fun _ _ => Iff.rfl, hs⟩ : InProgress s.stack s.stack) t c s rfl
  refine ⟨result, events, hrun, fun hle => ?_, fun hlt => ?_⟩
  · have hlevels : height s.stack t < m + 1 - c.depth := by omega
    rw [outcome, if_pos hlevels] at hresult
    cases result with
    | ok shape => rw [Option.some.inj hresult]
    | error e => cases hresult
  · have hlevels : ¬ height s.stack t < m + 1 - c.depth := by omega
    rw [outcome, if_neg hlevels] at hresult
    cases result with
    | ok shape => cases hresult
    | error e =>
      have hdepth : e.depth = c.depth + (m + 1 - c.depth) :=
        Resolver.depth_of_resolveWithin_error hrun
      exact ⟨e, rfl, by omega⟩

theorem shape_eq_ok_iff {m : Nat} {policy : AdapterPolicy} {t : TypeExpr} {shape : Shape} :
    (builtins.environment.resolver m policy).shape t = .ok shape ↔
      height [] t ≤ m ∧ denote [] .value t = shape := by
  obtain ⟨result, events, hrun, hok, herror⟩ :=
    run_resolve_builtins m policy t {} (s := {}) (by simp)
  have hshape : (builtins.environment.resolver m policy).shape t = result := congrArg Prod.fst hrun
  rw [hshape]
  rcases Nat.lt_or_ge m (height [] t) with hlt | hle
  · obtain ⟨e, he, -⟩ := herror (by simpa using hlt)
    rw [he]
    simp [hlt]
  · rw [hok (by simpa using hle)]
    simp [hle]

/-- Over `builtins` the shape of `t` is `denote [] .value t` if `height [] t` is within the limit,
and an error one level beyond the limit if not. In a context `c` and a state `s` this is so for
`denote s.stack c.position t` and the levels left at `c`, unless a name with a `KnownTypes.shape?`
is on the stack, where no frame puts one. -/
theorem resolve_eq_denote (m : Nat) (policy : AdapterPolicy) (t : TypeExpr) :
    (height [] t ≤ m →
      (builtins.environment.resolver m policy).shape t = .ok (denote [] .value t)) ∧
    (m < height [] t →
      ∃ e, (builtins.environment.resolver m policy).shape t = .error e ∧ e.depth = m + 1) ∧
    ∀ (c : Context) (s : State), (∀ n ∈ s.stack, KnownTypes.shape? ⟨n⟩ = none) →
      ∃ result events,
        ((builtins.environment.resolver m policy).resolve t c).run s = (result, { s with events }) ∧
        (c.depth + height s.stack t ≤ m → result = .ok (denote s.stack c.position t)) ∧
        (m < c.depth + height s.stack t →
          ∃ e, result = .error e ∧ e.depth = max c.depth (m + 1)) := by
  have hgeneral := fun c (s : State) => run_resolve_builtins m policy t c (s := s)
  obtain ⟨result, events, hrun, hok, herror⟩ := hgeneral {} {} (by simp)
  have hshape : (builtins.environment.resolver m policy).shape t = result := congrArg Prod.fst hrun
  rw [hshape]
  refine ⟨fun hle => hok (by simpa using hle), fun hlt => ?_, hgeneral⟩
  obtain ⟨e, he, hdepth⟩ := herror (by simpa using hlt)
  exact ⟨e, he, by simpa using hdepth⟩

/-- Pages of entries by key, where an entry is bytes in a map of its own. -/
def pages : TypeExpr :=
  .declared ⟨"java.util.Map"⟩ [.raw ⟨"java.lang.String"⟩,
    .declared ⟨"java.util.List"⟩ [
      .declared ⟨"java.util.TreeMap"⟩ [.primitive .int, .array (.primitive .byte)]]]

theorem resolve_eq_denote_pages :
    height [] pages ≤ 4 ∧
    (builtins.environment.resolver 4 .sideEffectOnly).shape pages =
      .ok (.map (.primitive .string) (.array (.map (.primitive .integer) (.primitive .string)))) ∧
    3 < height [] pages ∧
    (∃ e, (builtins.environment.resolver 3 .sideEffectOnly).shape pages = .error e ∧ e.depth = 4) ∧
    ∃ result events, ((builtins.environment.resolver 4 .sideEffectOnly).resolve pages
        ⟨.collectionElement, 2⟩).run { stack := ["java.util.TreeMap"] } =
      (result, { stack := ["java.util.TreeMap"], events }) ∧
      result = .ok (.array (.map (.primitive .string) (.array .object))) := by
  have hle : height [] pages ≤ 4 := by decide +kernel
  have hlt : 3 < height [] pages := by decide +kernel
  have hdenote : denote [] .value pages =
      .map (.primitive .string) (.array (.map (.primitive .integer) (.primitive .string))) := by
    decide +kernel
  have hshape := (resolve_eq_denote 4 .sideEffectOnly pages).1 hle
  rw [hdenote] at hshape
  obtain ⟨result, events, hrun, hok, -⟩ := (resolve_eq_denote 4 .sideEffectOnly pages).2.2
    ⟨.collectionElement, 2⟩ { stack := ["java.util.TreeMap"] } (by decide +kernel)
  -- inside of another tree the entries are cut off, and the rest is less high
  have hok := hok (by decide +kernel)
  have hdenote : denote ["java.util.TreeMap"] .collectionElement pages =
      .array (.map (.primitive .string) (.array .object)) := by decide +kernel
  rw [hdenote] at hok
  exact ⟨hle, hshape, hlt, (resolve_eq_denote 3 .sideEffectOnly pages).2.1 hlt,
    result, events, hrun, hok⟩

end Registry

end WireShape
