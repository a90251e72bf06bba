import WireShape.Proofs.Json.ReadBack
import WireShape.Settings
import WireShape.Shape.Json

/-! # Shapes and settings, written and read

A shape is decoded from the value it is encoded as, and settings are; the value in turn is read from
what is written for it. Only the reader has a bound on nesting, so two shapes are never written alike,
also where no reader takes them. -/

namespace WireShape

namespace Json

theorem word64?_nat {n : Nat} (h : n < UInt64.size) : word64? (.nat n) = some n := by
  have hfold : (Nat.toDigits 10 n).foldl (fun n c => 10 * n + (c.toNat - '0'.toNat)) 0 = n :=
    Nat.ofDigitChars_toDigits (by decide) (by decide)
  have hall : (Nat.toDigits 10 n).all Char.isDigit = true :=
    List.all_eq_true.mpr fun c hc => isDigit_of_mem_toDigits hc
  simp only [Json.nat, word64?, Text.word64?, Nat.toString_eq_repr, Nat.toList_repr, hfold, hall, h, and_self,
    if_true]

section
variable (strangers : Strangers)

theorem setField_append {done : List (String × Json)} {name : String} (h : name ∉ done.map (·.1))
    (fields : List String) (j : Json) (values : List (Option Json)) :
    setField (done.map (·.1) ++ name :: fields) strangers name j
        (done.map (fun m => some m.2) ++ none :: values) =
      some (done.map (fun m => some m.2) ++ some j :: values) := by
  induction done with
  | nil => simp [setField]
  | cons m done ih =>
    simp only [List.map_cons, List.mem_cons, not_or] at h
    simp [setField, Ne.symm h.1, ih h.2]

theorem fields?_object {members : List (String × Json)} (h : (members.map (·.1)).Nodup) :
    fields? (members.map (·.1)) strangers (.object members) =
      some (members.map fun m => some m.2) := by
  -- the members before those that are left have their places already
  have hfold (rest : List (String × Json)) : ∀ done, members = done ++ rest →
      rest.foldlM (fun values m => setField (members.map (·.1)) strangers m.1 m.2 values)
          (done.map (fun m => some m.2) ++ rest.map fun _ => none) =
        some (members.map fun m => some m.2) := by
    induction rest with
    | nil => rintro done rfl; simp
    | cons m rest ih =>
      rintro done rfl
      have hm : m.1 ∉ done.map (·.1) := by
        rw [List.map_append, List.nodup_append] at h
        exact fun hmem => h.2.2 _ hmem _ (List.mem_map_of_mem List.mem_cons_self) rfl
      have hset := setField_append strangers hm (rest.map (·.1)) m.2 (rest.map fun _ => none)
      have hrest := ih (done ++ [m]) (by simp)
      simp only [List.map_append, List.map_cons, List.map_nil, List.append_assoc, List.cons_append,
        List.nil_append] at hrest ⊢
      rw [List.foldlM_cons, hset]
      exact hrest
  rw [fields?, List.map_map]
  exact hfold members [] rfl

theorem fields?_pair {name name' : String} (h : name ≠ name') (j j' : Json) :
    fields? [name, name'] strangers (.object [(name, j), (name', j')]) = some [some j, some j'] :=
  @fields?_object strangers [(name, j), (name', j')] (by simpa using h)

end

section
variable {name name' : String} {j j' : Json}

theorem proper_singleton (h : j.Proper) : (Json.object [(name, j)]).Proper := by
  refine .object fun m hm => ?_
  rw [List.mem_singleton.mp hm]
  exact h

theorem proper_pair (h : j.Proper) (h' : j'.Proper) :
    (Json.object [(name, j), (name', j')]).Proper := by
  refine .object fun m hm => ?_
  rcases List.mem_pair.mp hm with rfl | rfl
  · exact h
  · exact h'

end

end Json

theorem JsonPrimitive.ofWord?_word (kind : JsonPrimitive) :
    Keyword.ofWord? (word kind) = some kind := by
  cases kind <;> rfl

theorem DefinitionKind.ofWord?_word (kind : DefinitionKind) :
    Keyword.ofWord? (word kind) = some kind := by
  cases kind <;> rfl

theorem DefinitionRef.ofJson?_toJson (d : DefinitionRef) : ofJson? d.toJson = some d := by
  simp [ofJson?, toJson, Json.fields?_pair, Json.required, Json.optional, Json.text?,
    Json.keyword?, Json.case?, Json.isUnit, DefinitionKind.ofWord?_word]

namespace Shape

theorem proper_toJson (s : Shape) : s.toJson.Proper := by
  induction s with
  | primitive kind => exact Json.proper_singleton (.string _)
  | object => exact .string _
  | named definition => exact Json.proper_singleton (Json.proper_pair (.string _) (.string _))
  | array element ih => exact Json.proper_singleton ih
  | map key value ihkey ihvalue => exact Json.proper_singleton (Json.proper_pair ihkey ihvalue)

theorem decode?_toJson {fuel : Nat} {s : Shape} (h : s.toJson.nesting < fuel) :
    decode? fuel s.toJson = some s := by
  induction fuel generalizing s with
  | zero => exact absurd h (Nat.not_lt_zero _)
  | succ fuel ih =>
    cases s with
    | primitive kind =>
      simp [decode?, toJson, Json.case?, Json.required, Json.keyword?, Json.isUnit,
        JsonPrimitive.ofWord?_word]
    | object => simp [decode?, toJson, Json.case?, Json.isUnit]
    | named definition =>
      simp [decode?, toJson, Json.case?, Json.required, DefinitionRef.ofJson?_toJson]
    | array element =>
      simp only [toJson, Json.nesting, Json.membersNesting] at h
      have helement := ih (s := element) (by omega)
      simp [decode?, toJson, Json.case?, Json.required, helement]
    | map key value =>
      simp only [toJson, Json.nesting, Json.membersNesting] at h
      have hkey := ih (s := key) (by omega)
      have hvalue := ih (s := value) (by omega)
      simp [decode?, toJson, Json.case?, Json.required, Json.fields?_pair, hkey, hvalue]

theorem ofJson?_toJson (s : Shape) : ofJson? s.toJson = some s :=
  decode?_toJson (Nat.lt_succ_self _)

end Shape

theorem AdapterPolicy.ofWord?_word (policy : AdapterPolicy) :
    Keyword.ofWord? (word policy) = some policy := by
  cases policy <;> rfl

namespace Settings

theorem ofJson?_toJson {s : Settings} (h : s.maxDepth < UInt64.size) :
    ofJson? s.toJson = some s := by
  simp [ofJson?, fields?, toJson, Json.fields?_pair, Json.optional, Json.keyword?, Json.case?,
    Json.isUnit, Json.word64?_nat h, AdapterPolicy.ofWord?_word]

theorem proper_toJson (s : Settings) : s.toJson.Proper :=
  Json.proper_pair (.nat _) (.string _)

end Settings

/-- `ofJson?` reads back what `toJson` and `compress` write, for shapes of at most 127 levels and
for settings whose `maxDepth` fits into 64 bits. Different shapes are written differently, however
deep they nest. -/
theorem json_round_trip :
    (∀ s : Shape, s.toJson.nesting ≤ 127 →
      (Json.read s.toJson.compress).bind Shape.ofJson? = some s) ∧
    (∀ s s' : Shape, s.toJson.compress = s'.toJson.compress → s = s') ∧
    ∀ s : Settings, s.maxDepth < UInt64.size →
      (Json.read s.toJson.compress).bind Settings.ofJson? = some s := by
  refine ⟨fun s hs => ?_, fun s s' h => ?_, fun s hs => ?_⟩
  · rw [s.proper_toJson.read_compress hs]
    exact s.ofJson?_toJson
  · have hjson := s.proper_toJson.eq_of_compress_eq s'.proper_toJson h
    have hs := s.ofJson?_toJson
    rw [hjson, s'.ofJson?_toJson] at hs
    exact (Option.some.inj hs).symm
  · have hnesting : s.toJson.nesting ≤ Json.maxNesting := by
      simp [Settings.toJson, Json.nesting, Json.membersNesting, Json.nat, Json.maxNesting]
    rw [s.proper_toJson.read_compress hnesting]
    exact Settings.ofJson?_toJson hs

/-- Names with all that has to be escaped, and one that would stand for two members. -/
theorem json_round_trip_volume :
    let volume := Shape.map (.primitive .string) (.array (.named ⟨⟨"\"\\\n\x01\u00e9"⟩, .enum⟩))
    let settings : Settings := ⟨18446744073709551615, .useAdaptingShape⟩
    volume.toJson.nesting ≤ 127 ∧
    (Json.read volume.toJson.compress).bind Shape.ofJson? = some volume ∧
    (Shape.named ⟨⟨"a\",\"kind\":\"enum"⟩, .object⟩).toJson.compress ≠
      (Shape.named ⟨⟨"a"⟩, .enum⟩).toJson.compress ∧
    settings.maxDepth < UInt64.size ∧
    (Json.read settings.toJson.compress).bind Settings.ofJson? = some settings := by
  intro volume settings
  have hvolume : volume.toJson.nesting ≤ 127 := by
    simp [volume, Shape.toJson, DefinitionRef.toJson, Json.nesting, Json.membersNesting]
  have hsettings : settings.maxDepth < UInt64.size := by decide
  obtain ⟨hshape, hdiffer, hread⟩ := json_round_trip
  refine ⟨hvolume, hshape volume hvolume, fun h => ?_, hsettings, hread settings hsettings⟩
  exact absurd (hdiffer _ _ h) (by decide)

end WireShape
