import WireShape.Proofs.Registry.Denotation

/-! # Maps inside of maps

What is in progress is known by its name, without its arguments. So a map of some name is taken for a
cycle wherever it is met inside of a map of that name, and has the shape `object` there. A map has the
shape that its keys and values have by themselves, if no such map is met, and only then. -/

namespace WireShape

theorem Position.wrap_inj {p : Position} {s s' : Shape} : p.wrap s = p.wrap s' ↔ s = s' := by
  unfold Position.wrap
  split
  · exact ⟨Shape.array.inj, congrArg _⟩
  · exact Iff.rfl

namespace Registry

/-- Whether the maps `M` are met in a type, inside of the maps of `S`. Nothing is met inside of a map
that is cut off itself, nor in arguments that a container has no use for. -/
def meets (M : String) (S : List String) : TypeExpr → Bool
  | .array component => meets M S component
  | .parameter _ (some bound) | .wildcard (some bound) => meets M S bound
  | .declared name arguments =>
    if name.text ∈ collectionNames then
      match arguments with
      | [element] => meets M S element
      | _ => false
    else if name.text = M then true
    else if name.text ∈ mapNames ∧ name.text ∉ S then
      match arguments with
      | [key, value] => meets M (name.text :: S) key || meets M (name.text :: S) value
      | _ => false
    else false
  | .primitive _ | .parameter _ none | .wildcard none | .other _ => false
termination_by structural t => t

/-- `S'` has the maps of `S`, and `M` besides. -/
def Adds (M : String) (S S' : List String) : Prop :=
  ∀ n ∈ mapNames, n ∈ S' ↔ n = M ∨ n ∈ S

theorem Adds.cons {M : String} {S S' : List String} (h : Adds M S S') (n : String) :
    Adds M (n :: S) (n :: S') := by
  intro n' hn'
  rw [List.mem_cons, List.mem_cons, h n' hn']
  exact or_left_comm

/-- With `M` on the stack `t` denotes another shape exactly if `meets M S t`. -/
theorem denote_eq_denote_iff {M : String} (hM : M ∈ mapNames) :
    ∀ (t : TypeExpr) {S S' : List String} {p : Position}, M ∉ S → Adds M S S' →
      (denote S' p t = denote S p t ↔ meets M S t = false)
  | .primitive _, _, _, _, _, _ | .other _, _, _, _, _, _ | .parameter _ none, _, _, _, _, _
  | .wildcard none, _, _, _, _, _ => by simp [denote, meets]
  | .array component, _, _, _, hS, h => by
    simp only [denote, meets, Position.wrap_inj]
    exact denote_eq_denote_iff hM component hS h
  | .parameter _ (some bound), _, _, _, hS, h | .wildcard (some bound), _, _, _, hS, h => by
    simp only [denote, meets, Position.wrap_inj]
    exact denote_eq_denote_iff hM bound hS h
  | .declared name arguments, S, S', p, hS, h => by
    by_cases hcollection : name.text ∈ collectionNames
    · rcases arguments with _ | ⟨element, _ | ⟨other, arguments⟩⟩
      · simp [denote, meets, hcollection]
      · simp only [denote, meets, if_pos hcollection, Position.wrap_inj]
        exact denote_eq_denote_iff hM element hS h
      · unfold denote meets
        simp [hcollection]
    by_cases hname : name.text = M
    · -- the use is cut off on the one side, and a map on the other
      subst hname
      have hcut : denote S' p (.declared name arguments) = p.wrap .object :=
        (denote_map_of_mem hM ((h _ hM).mpr (.inl rfl)) p).1
      have hmap : denote S p (.declared name arguments) = p.wrap (.map _ _) :=
        (denote_map hM hS .other p).1
      have hmeets : meets name.text S (.declared name arguments) = true := by
        unfold meets
        simp [hcollection]
      rw [hcut, hmap, hmeets, Position.wrap_inj]
      exact ⟨fun heq => Shape.noConfusion heq, fun heq => Bool.noConfusion heq⟩
    by_cases hmap : name.text ∈ mapNames
    · have hin : name.text ∈ S' ↔ name.text ∈ S := by rw [h _ hmap, or_iff_right hname]
      by_cases hcut : name.text ∈ S
      · unfold denote meets
        simp [hcollection, hname, hmap, hin, hcut]
      · have hS' : M ∉ name.text :: S := by
          rw [List.mem_cons, not_or]
          exact ⟨fun heq => hname heq.symm, hS⟩
        rcases arguments with _ | ⟨key, _ | ⟨value, _ | ⟨other, arguments⟩⟩⟩
        · simp [denote, meets, hcollection, hname, hmap, hin, hcut]
        · simp [denote, meets, hcollection, hname, hmap, hin, hcut]
        · have hkey := denote_eq_denote_iff (p := .value) hM key hS' (h.cons name.text)
          have hvalue := denote_eq_denote_iff (p := .value) hM value hS' (h.cons name.text)
          simp [denote, meets, hcollection, hname, hmap, hin, hcut, Position.wrap_inj, hkey, hvalue]
        · unfold denote meets
          simp [hcollection, hname, hmap, hin, hcut]
    · unfold denote meets
      simp [hcollection, hname, hmap]

/-- A map is `.map k' v'` of the shapes that `K` and `V` have with `M` on the stack, and these are
the shapes that they have by themselves exactly if `meets M []` is false of them. -/
theorem map_eq_iff_not_meets (m : Nat) (policy : AdapterPolicy) {M : String} (hM : M ∈ mapNames)
    (K V : TypeExpr) {k v s : Shape}
    (hk : (builtins.environment.resolver m policy).shape K = .ok k)
    (hv : (builtins.environment.resolver m policy).shape V = .ok v)
    (hs : (builtins.environment.resolver m policy).shape (.declared ⟨M⟩ [K, V]) = .ok s) :
    (s = .map k v ↔ meets M [] K = false ∧ meets M [] V = false) ∧
    ∃ k' v',
      (((builtins.environment.resolver m policy).resolve K ⟨.value, 1⟩).run { stack := [M] }).1 =
        .ok k' ∧
      (((builtins.environment.resolver m policy).resolve V ⟨.value, 1⟩).run { stack := [M] }).1 =
        .ok v' ∧
      s = .map k' v' ∧ (k' = k ↔ meets M [] K = false) ∧ (v' = v ↔ meets M [] V = false) := by
  obtain ⟨-, rfl⟩ := shape_eq_ok_iff.mp hk
  obtain ⟨-, rfl⟩ := shape_eq_ok_iff.mp hv
  obtain ⟨hheight, rfl⟩ := shape_eq_ok_iff.mp hs
  have hadds : Adds M [] [M] := fun n _ => by simp
  have hkey := denote_eq_denote_iff hM K (p := .value) List.not_mem_nil hadds
  have hvalue := denote_eq_denote_iff hM V (p := .value) List.not_mem_nil hadds
  have hmap : denote [] .value (.declared ⟨M⟩ [K, V]) =
        .map (denote [M] .value K) (denote [M] .value V) ∧
      height [] (.declared ⟨M⟩ [K, V]) = max (height [M] K) (height [M] V) + 1 :=
    denote_map hM List.not_mem_nil .other .value
  have hinside (t : TypeExpr) (ht : height [M] t ≤ max (height [M] K) (height [M] V)) :
      (((builtins.environment.resolver m policy).resolve t ⟨.value, 1⟩).run { stack := [M] }).1 =
        .ok (denote [M] .value t) := by
    have hunknown : ∀ n ∈ [M], KnownTypes.shape? ⟨n⟩ = none := by
      intro n hn
      rw [List.mem_singleton.mp hn]
      exact unknown_names M (List.mem_append_right _ hM)
    obtain ⟨result, events, hrun, hok, -⟩ :=
      run_resolve_builtins m policy t ⟨.value, 1⟩ (s := { stack := [M] }) hunknown
    rw [hmap.2] at hheight
    rw [hrun]
    exact hok (by show 1 + height [M] t ≤ m; omega)
  refine ⟨?_, _, _, hinside K (Nat.le_max_left ..), hinside V (Nat.le_max_right ..), hmap.1, hkey,
    hvalue⟩
  rw [hmap.1, Shape.map.injEq, hkey, hvalue]

def word : TypeExpr := .raw ⟨"java.lang.String"⟩

/-- The counts of words, in a map named `M`. -/
def counts (M : String) : TypeExpr := .declared ⟨M⟩ [word, .raw ⟨"java.lang.Integer"⟩]

/-- Such counts for each page, in a map of another name. -/
theorem map_eq_iff_not_meets_counts :
    "java.util.Map" ∈ mapNames ∧
    (builtins.environment.resolver 64 .sideEffectOnly).shape
        (.declared ⟨"java.util.Map"⟩ [word, counts "java.util.HashMap"]) =
      .ok (.map (.primitive .string) (.map (.primitive .string) (.primitive .integer))) := by
  have hM : "java.util.Map" ∈ mapNames := by decide
  have hk : (builtins.environment.resolver 64 .sideEffectOnly).shape word =
      .ok (.primitive .string) := shape_eq_ok_iff.mpr (by decide +kernel)
  have hv : (builtins.environment.resolver 64 .sideEffectOnly).shape (counts "java.util.HashMap") =
      .ok (.map (.primitive .string) (.primitive .integer)) :=
    shape_eq_ok_iff.mpr (by decide +kernel)
  have hs : (builtins.environment.resolver 64 .sideEffectOnly).shape
      (.declared ⟨"java.util.Map"⟩ [word, counts "java.util.HashMap"]) = .ok _ :=
    shape_eq_ok_iff.mpr ⟨by decide +kernel, rfl⟩
  have hmeets : meets "java.util.Map" [] word = false ∧
      meets "java.util.Map" [] (counts "java.util.HashMap") = false := by decide +kernel
  have hmap := (map_eq_iff_not_meets 64 .sideEffectOnly hM _ _ hk hv hs).1.mpr hmeets
  rw [hmap] at hs
  exact ⟨hM, hs⟩

/-- In a map of the same name they are taken for a cycle. -/
theorem map_of_counts_ne :
    "java.util.Map" ∈ mapNames ∧ ∃ k v s,
      (builtins.environment.resolver 64 .sideEffectOnly).shape word = .ok k ∧
      (builtins.environment.resolver 64 .sideEffectOnly).shape (counts "java.util.Map") = .ok v ∧
      (builtins.environment.resolver 64 .sideEffectOnly).shape
        (.declared ⟨"java.util.Map"⟩ [word, counts "java.util.Map"]) = .ok s ∧
      s = .map (.primitive .string) .object ∧ s ≠ .map k v := by
  refine ⟨by decide, .primitive .string, .map (.primitive .string) (.primitive .integer), _,
    shape_eq_ok_iff.mpr ?_, shape_eq_ok_iff.mpr ?_, shape_eq_ok_iff.mpr ?_, rfl, by simp⟩ <;>
  decide +kernel

end Registry

end WireShape
