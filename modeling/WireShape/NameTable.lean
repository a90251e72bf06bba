/-! # Tables ordered by name

Finite maps from text, kept as lists in strictly ascending order of code points. -/

namespace WireShape

/-- A map from names to values. -/
structure NameTable (α : Type) where
  entries : List (String × α)
  ordered : entries.Pairwise fun a b => a.1 < b.1

namespace NameTable
variable {α : Type}

def empty : NameTable α := ⟨[], .nil⟩

instance : Inhabited (NameTable α) := ⟨empty⟩

def get? (t : NameTable α) (name : String) : Option α :=
  t.entries.lookup name

def names (t : NameTable α) : List String :=
  t.entries.map (·.1)

def size (t : NameTable α) : Nat :=
  t.entries.length

def insertEntry (name : String) (a : α) : List (String × α) → List (String × α)
  | [] => [(name, a)]
  | e :: es =>
    if name < e.1 then (name, a) :: e :: es
    else if e.1 < name then e :: insertEntry name a es
    else (name, a) :: es

theorem mem_insertEntry {name : String} {a : α} {es : List (String × α)} {e : String × α}
    (h : e ∈ insertEntry name a es) : e = (name, a) ∨ e ∈ es := by
  induction es with
  | nil => simpa [insertEntry] using h
  | cons e' es ih =>
    unfold insertEntry at h
    split at h
    · simpa using h
    split at h
    · rcases List.mem_cons.mp h with h | h
      · simp [h]
      · rcases ih h with h | h <;> simp [h]
    · rcases List.mem_cons.mp h with h | h <;> simp [h]

theorem eq_of_not_lt {a b : String} (h : ¬ a < b) (h' : ¬ b < a) : a = b :=
  String.le_antisymm (String.not_lt.mp h') (String.not_lt.mp h)

theorem pairwise_insertEntry {name : String} {a : α} {es : List (String × α)}
    (h : es.Pairwise fun a b => a.1 < b.1) :
    (insertEntry name a es).Pairwise fun a b => a.1 < b.1 := by
  induction es with
  | nil => simp [insertEntry]
  | cons e es ih =>
    have ⟨he, hes⟩ := List.pairwise_cons.mp h
    unfold insertEntry
    split
    next hlt =>
      refine List.pairwise_cons.mpr ⟨fun e' he' => ?_, h⟩
      rcases List.mem_cons.mp he' with rfl | he'
      · exact hlt
      · exact String.lt_trans hlt (he e' he')
    split
    next hgt =>
      refine List.pairwise_cons.mpr ⟨fun e' he' => ?_, ih hes⟩
      rcases mem_insertEntry he' with rfl | he'
      · exact hgt
      · exact he e' he'
    next hlt hgt =>
      have hname : name = e.1 := eq_of_not_lt hlt hgt
      exact List.pairwise_cons.mpr ⟨fun e' he' => hname ▸ he e' he', hes⟩

/-- The table with `a` held for `name`, in the place of what it held before. -/
def insert (t : NameTable α) (name : String) (a : α) : NameTable α :=
  ⟨insertEntry name a t.entries, pairwise_insertEntry t.ordered⟩

/-- The table of the entries of a list. The last entry of a name wins. -/
def ofList (es : List (String × α)) : NameTable α :=
  es.foldl (fun t e => t.insert e.1 e.2) empty

def erase (t : NameTable α) (name : String) : NameTable α :=
  ⟨t.entries.filter (·.1 ≠ name), t.ordered.filter _⟩

theorem lookup_cons (name : String) (e : String × α) (es : List (String × α)) :
    (e :: es).lookup name = if name = e.1 then some e.2 else es.lookup name := by
  rw [List.lookup_cons]
  by_cases h : name = e.1
  · simp [h]
  · simp [h, beq_eq_false_iff_ne.mpr h]

theorem lookup_insertEntry (name name' : String) (a : α) (es : List (String × α)) :
    (insertEntry name a es).lookup name' =
      if name' = name then some a else es.lookup name' := by
  induction es with
  | nil => simp [insertEntry, lookup_cons]
  | cons e es ih =>
    unfold insertEntry
    split
    · rw [lookup_cons]
    split
    next hlt hgt =>
      have hne : name ≠ e.1 := fun h => String.lt_irrefl _ (h ▸ hgt)
      rw [lookup_cons, lookup_cons, ih]
      by_cases h : name' = name
      · simp [h, hne]
      · simp [h]
    next hlt hgt =>
      have hname : name = e.1 := eq_of_not_lt hlt hgt
      rw [lookup_cons, lookup_cons, ← hname]
      by_cases h : name' = name <;> simp [h]

theorem get?_insert (t : NameTable α) (name name' : String) (a : α) :
    (t.insert name a).get? name' = if name' = name then some a else t.get? name' :=
  lookup_insertEntry name name' a t.entries

theorem get?_erase (t : NameTable α) (name name' : String) :
    (t.erase name).get? name' = if name' = name then none else t.get? name' := by
  show (t.entries.filter (·.1 ≠ name)).lookup name' =
    if name' = name then none else t.entries.lookup name'
  induction t.entries with
  | nil => simp
  | cons e es ih =>
    rw [List.filter_cons, lookup_cons]
    split
    next hne =>
      rw [lookup_cons, ih]
      have hne : e.1 ≠ name := by simpa using hne
      by_cases h : name' = name
      · rw [if_pos h, if_pos h, if_neg (h ▸ hne.symm)]
      · rw [if_neg h, if_neg h]
    next heq =>
      have heq : e.1 = name := by simpa using heq
      rw [ih]
      by_cases h : name' = name
      · rw [if_pos h, if_pos h]
      · rw [if_neg h, if_neg h, if_neg (heq ▸ h)]

theorem mem_entries_of_get? {t : NameTable α} {name : String} {a : α} (h : t.get? name = some a) :
    (name, a) ∈ t.entries := by
  obtain ⟨before, after, h, -⟩ := List.lookup_eq_some_iff.mp h
  rw [h]
  exact List.mem_append_right _ List.mem_cons_self

theorem mem_of_mem_ofList {es : List (String × α)} {e : String × α} (h : e ∈ (ofList es).entries) :
    e ∈ es := by
  have hfold (es : List (String × α)) (t : NameTable α)
      (h : e ∈ (es.foldl (fun t e => t.insert e.1 e.2) t).entries) : e ∈ es ∨ e ∈ t.entries := by
    induction es generalizing t with
    | nil => exact .inr h
    | cons e' es ih =>
      rcases ih _ h with h | h
      · exact .inl (List.mem_cons_of_mem _ h)
      · rcases mem_insertEntry h with rfl | h
        · exact .inl List.mem_cons_self
        · exact .inr h
  exact (hfold es empty h).resolve_right List.not_mem_nil

theorem mem_names_of_get? {t : NameTable α} {name : String} {a : α} (h : t.get? name = some a) :
    name ∈ t.names :=
  List.mem_map_of_mem (f := (·.1)) (mem_entries_of_get? h)

@[simp] theorem get?_empty (name : String) : (empty : NameTable α).get? name = none := rfl

theorem ne_of_lt {a b : String} (h : a < b) : a ≠ b := by
  rintro rfl
  exact String.lt_irrefl a h

theorem nodup_names (t : NameTable α) : t.names.Nodup := by
  rw [names, List.Nodup, List.pairwise_map]
  exact t.ordered.imp ne_of_lt

theorem lookup_eq_some_iff_mem {es : List (String × α)} {name : String} {a : α}
    (hes : (es.map (·.1)).Nodup) : es.lookup name = some a ↔ (name, a) ∈ es := by
  induction es with
  | nil => simp
  | cons e es ih =>
    obtain ⟨hname, hes⟩ := List.nodup_cons.mp hes
    rw [lookup_cons, List.mem_cons]
    split
    next h =>
      subst h
      have hnot : (e.1, a) ∉ es := fun hmem => hname (List.mem_map_of_mem (f := (·.1)) hmem)
      constructor
      · intro h
        exact .inl (by rw [← Option.some.inj h])
      · rintro (h | h)
        · rw [← h]
        · exact absurd h hnot
    next h =>
      rw [ih hes]
      constructor
      · exact .inr
      · rintro (h' | h')
        · exact absurd (congrArg Prod.fst h') h
        · exact h'

theorem mem_names_iff {t : NameTable α} {name : String} : name ∈ t.names ↔ (t.get? name).isSome := by
  constructor
  · intro h
    obtain ⟨⟨_, a⟩, hmem, rfl⟩ := List.mem_map.mp h
    exact Option.isSome_iff_exists.mpr ⟨a, (lookup_eq_some_iff_mem t.nodup_names).mpr hmem⟩
  · intro h
    obtain ⟨a, ha⟩ := Option.isSome_iff_exists.mp h
    exact mem_names_of_get? ha

theorem lookup_eq_of_perm {es es' : List (String × α)} (h : es.Perm es')
    (hes : (es.map (·.1)).Nodup) (name : String) : es.lookup name = es'.lookup name := by
  have hes' : (es'.map (·.1)).Nodup := (h.map (·.1)).nodup_iff.mp hes
  ext a
  rw [lookup_eq_some_iff_mem hes, lookup_eq_some_iff_mem hes', h.mem_iff]

theorem eq_of_get?_eq {t t' : NameTable α} (h : ∀ name, t.get? name = t'.get? name) : t = t' := by
  have hmem (e : String × α) : e ∈ t.entries ↔ e ∈ t'.entries := by
    have hlookup : t.entries.lookup e.1 = t'.entries.lookup e.1 := h e.1
    rw [← lookup_eq_some_iff_mem t.nodup_names, ← lookup_eq_some_iff_mem t'.nodup_names, hlookup]
  have hnodup (t : NameTable α) : t.entries.Nodup :=
    t.ordered.imp fun hlt he => ne_of_lt hlt (congrArg Prod.fst he)
  have hperm : t.entries.Perm t'.entries :=
    (List.perm_ext_iff_of_nodup (hnodup t) (hnodup t')).mpr hmem
  have hentries : t.entries = t'.entries :=
    hperm.eq_of_pairwise (fun a b _ _ hab hba => absurd (String.lt_trans hab hba)
      (String.lt_irrefl _)) t.ordered t'.ordered
  cases t
  cases t'
  rw [mk.injEq]
  exact hentries

/-- Inserting the entries `es` one after another lays them over `t`. -/
theorem get?_foldl_insert {es : List (String × α)} (hes : (es.map (·.1)).Nodup) (t : NameTable α)
    (name : String) :
    (es.foldl (fun t e => t.insert e.1 e.2) t).get? name = (es.lookup name).or (t.get? name) := by
  induction es generalizing t with
  | nil => rfl
  | cons e es ih =>
    obtain ⟨hname, hes⟩ := List.nodup_cons.mp hes
    rw [List.foldl_cons, ih hes, get?_insert, lookup_cons]
    split
    next h =>
      -- no later entry has the name
      have hnone : es.lookup name = none := by
        cases hl : es.lookup name with
        | none => rfl
        | some a =>
          have hmem := (lookup_eq_some_iff_mem hes).mp hl
          exact absurd (List.mem_map_of_mem (f := (·.1)) hmem) (h ▸ hname)
      rw [hnone, Option.none_or, Option.some_or]
    next => rfl

theorem get?_ofList_eq_some_iff {es : List (String × α)} (hes : (es.map (·.1)).Nodup)
    {name : String} {a : α} : (ofList es).get? name = some a ↔ (name, a) ∈ es := by
  rw [ofList, get?_foldl_insert hes, get?_empty, Option.or_none, lookup_eq_some_iff_mem hes]

end NameTable

end WireShape
