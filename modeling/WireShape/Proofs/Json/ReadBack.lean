import WireShape.Proofs.Json.Lexical

/-! # Reading what is written

The compact form of a value is read as that value, if the reader allows as many levels as the value
nests. The fuel of the reader is no matter: two steps for each character are more than it takes. -/

namespace WireShape.Json

open Text (isBlank skipBlanks skipBlanks_cons)

/-- No part of the value is invalid, and its numbers are natural. -/
inductive Proper : Json → Prop
  | null : Proper .null
  | bool (b : Bool) : Proper (.bool b)
  | nat (n : Nat) : Proper (.nat n)
  | string (s : String) : Proper (.string s)
  | array {items : List Json} (h : ∀ item ∈ items, Proper item) : Proper (.array items)
  | object {members : List (String × Json)} (h : ∀ m ∈ members, Proper m.2) :
    Proper (.object members)

/-- The compact form of `j` is read as `j` at every place at which a value may end after it. -/
def ReadsBack (j : Json) : Prop :=
  ∀ fuel levels rest, 2 * j.compress.toList.length ≤ fuel → j.nesting ≤ levels → EndsValue rest →
    value fuel levels (j.compress.toList ++ rest) = some (j, rest)

theorem nesting_le_itemsNesting {items : List Json} {item : Json} (h : item ∈ items) :
    item.nesting ≤ itemsNesting items := by
  induction items with
  | nil => cases h
  | cons first items ih =>
    rw [itemsNesting]
    rcases List.mem_cons.mp h with rfl | h
    · exact Nat.le_max_left ..
    · exact Nat.le_trans (ih h) (Nat.le_max_right ..)

theorem nesting_le_membersNesting {members : List (String × Json)} {m : String × Json}
    (h : m ∈ members) : m.2.nesting ≤ membersNesting members := by
  induction members with
  | nil => cases h
  | cons first members ih =>
    rw [membersNesting]
    rcases List.mem_cons.mp h with rfl | h
    · exact Nat.le_max_left ..
    · exact Nat.le_trans (ih h) (Nat.le_max_right ..)

/-! ### Members -/

theorem toList_quote (s : String) :
    (quote s).toList = '"' :: (s.toList.flatMap escapeChar ++ ['"']) := by
  simp [quote]

theorem memberName_quote (name : String) (rest : List Char) :
    memberName ((quote name).toList ++ ':' :: rest) = some (some name, rest) := by
  rw [toList_quote, List.cons_append, List.append_assoc, List.singleton_append]
  simp [memberName, skipBlanks_cons, isBlank, List.isPrefixOf?, text_escaped]

theorem toList_compressMembers (m : String × Json) (members : List (String × Json)) :
    (compressMembers (m :: members)).toList =
      ',' :: ((quote m.1).toList ++
        ':' :: (m.2.compress.toList ++ (compressMembers members).toList)) := by
  obtain ⟨name, j⟩ := m
  simp [compressMembers]

theorem endsValue_members (members : List (String × Json)) (rest : List Char) :
    EndsValue ((compressMembers members).toList ++ '\x7d' :: rest) := by
  cases members with
  | nil => simp [compressMembers, EndsValue]
  | cons m members => simp [toList_compressMembers, EndsValue]

theorem moreMembers_compress {members : List (String × Json)} (h : ∀ m ∈ members, ReadsBack m.2)
    {levels : Nat} (hlevels : ∀ m ∈ members, m.2.nesting ≤ levels) (rest : List Char) (fuel : Nat)
    (hfuel : 2 * (compressMembers members).toList.length < fuel) :
    moreMembers fuel levels ((compressMembers members).toList ++ '\x7d' :: rest) =
      some (some members, rest) := by
  induction members generalizing fuel with
  | nil =>
    obtain ⟨fuel, rfl⟩ := Nat.exists_eq_succ_of_ne_zero (Nat.ne_zero_of_lt hfuel)
    simp [compressMembers, moreMembers, skipBlanks_cons, isBlank]
  | cons m members ih =>
    obtain ⟨fuel, rfl⟩ := Nat.exists_eq_succ_of_ne_zero (Nat.ne_zero_of_lt hfuel)
    rw [toList_compressMembers] at hfuel ⊢
    simp only [List.length_cons, List.length_append] at hfuel
    obtain ⟨hm, hmembers⟩ := List.forall_mem_cons.mp h
    obtain ⟨hmlevels, hlevels⟩ := List.forall_mem_cons.mp hlevels
    have hvalue := hm fuel levels _ (by omega) hmlevels (endsValue_members members rest)
    have hrest := ih hmembers hlevels fuel (by omega)
    simp only [List.cons_append, List.append_assoc, moreMembers, skipBlanks_cons (c := ',') rfl,
      memberName_quote, Option.bind_eq_bind, Option.bind_some, hvalue, hrest]
    rfl

/-- The members of an object, behind its opening brace. -/
theorem members_compress {m : String × Json} {members' : List (String × Json)}
    (h : ∀ m' ∈ m :: members', ReadsBack m'.2) {levels : Nat}
    (hlevels : ∀ m' ∈ m :: members', m'.2.nesting ≤ levels) (rest : List Char) (fuel : Nat)
    (hfuel : 2 * (compressMembers (m :: members')).toList.length < fuel) :
    members fuel levels ((quote m.1).toList ++ ':' :: (m.2.compress.toList ++
      ((compressMembers members').toList ++ '\x7d' :: rest))) =
        some (some (m :: members'), rest) := by
  obtain ⟨fuel, rfl⟩ := Nat.exists_eq_succ_of_ne_zero (Nat.ne_zero_of_lt hfuel)
  rw [toList_compressMembers] at hfuel
  simp only [List.length_cons, List.length_append] at hfuel
  obtain ⟨hm, hmembers⟩ := List.forall_mem_cons.mp h
  obtain ⟨hmlevels, hlevels⟩ := List.forall_mem_cons.mp hlevels
  have hvalue := hm fuel levels _ (by omega) hmlevels (endsValue_members members' rest)
  have hrest := moreMembers_compress hmembers hlevels rest fuel (by omega)
  have hname := memberName_quote m.1 (m.2.compress.toList ++
      ((compressMembers members').toList ++ '\x7d' :: rest))
  rw [toList_quote, List.cons_append] at hname ⊢
  rw [members, skipBlanks_cons rfl]
  split
  next heq => cases (List.cons.inj heq).1
  next =>
    simp only [hname, Option.bind_eq_bind, Option.bind_some, hvalue, hrest]
    rfl

theorem compress_object_cons (m : String × Json) (members : List (String × Json)) :
    (compress (.object (m :: members))).toList =
      '\x7b' :: ((quote m.1).toList ++
        ':' :: (m.2.compress.toList ++ ((compressMembers members).toList ++ ['\x7d']))) := by
  obtain ⟨name, j⟩ := m
  simp [compress]

theorem readsBack_object {members : List (String × Json)} (h : ∀ m ∈ members, ReadsBack m.2) :
    ReadsBack (.object members) := by
  intro fuel levels rest hfuel hlevels _
  have hpos : levels ≠ 0 := by
    rw [nesting] at hlevels
    omega
  have hmembers : ∀ m ∈ members, m.2.nesting ≤ levels - 1 := by
    intro m hm
    have := nesting_le_membersNesting hm
    rw [nesting] at hlevels
    omega
  cases members with
  | nil =>
    have htext : (compress (.object [])).toList = ['\x7b', '\x7d'] := rfl
    rw [htext] at hfuel ⊢
    obtain ⟨fuel, rfl⟩ : ∃ n, fuel = n + 2 := ⟨fuel - 2, by simp at hfuel; omega⟩
    simp [value, Json.members, skipBlanks_cons, isBlank, hpos]
  | cons m members =>
    rw [compress_object_cons] at hfuel ⊢
    simp only [List.length_cons, List.length_append] at hfuel
    obtain ⟨fuel, rfl⟩ : ∃ n, fuel = n + 1 := ⟨fuel - 1, by omega⟩
    have hread := members_compress h hmembers rest fuel (by
      rw [toList_compressMembers]
      simp only [List.length_cons, List.length_append]
      omega)
    simp only [List.cons_append, List.append_assoc, List.nil_append]
    rw [value, skipBlanks_cons rfl]
    simp [hread, hpos]

theorem isBlank_of_isDigit {c : Char} (h : c.isDigit = true) : isBlank c = false := by
  simp only [isBlank, Bool.or_eq_false_iff, beq_eq_false_iff_ne]
  refine ⟨⟨⟨?_, ?_⟩, ?_⟩, ?_⟩ <;> rintro rfl <;> exact absurd h (by decide)

theorem toList_compress_nat (n : Nat) : (Json.nat n).compress.toList = Nat.toDigits 10 n := by
  rw [Json.nat, compress, Nat.toString_eq_repr, Nat.toList_repr]

theorem compress_array_cons (item : Json) (items : List Json) :
    (compress (.array (item :: items))).toList =
      '[' :: (item.compress.toList ++ ((compressItems items).toList ++ [']'])) := by
  simp [compress]

theorem Proper.exists_head {j : Json} (h : j.Proper) :
    ∃ c s, j.compress.toList = c :: s ∧ isBlank c = false ∧ c ≠ ']' := by
  cases h with
  | null => exact ⟨'n', _, rfl, rfl, by decide⟩
  | bool b => cases b with
    | false => exact ⟨'f', _, rfl, rfl, by decide⟩
    | true => exact ⟨'t', _, rfl, rfl, by decide⟩
  | nat n =>
    obtain ⟨c, s, hn⟩ := List.exists_cons_of_ne_nil (Nat.toDigits_ne_nil (b := 10) (n := n))
    have hc : c.isDigit = true := isDigit_of_mem_toDigits (hn ▸ List.mem_cons_self)
    refine ⟨c, s, by rw [toList_compress_nat, hn], isBlank_of_isDigit hc, ?_⟩
    rintro rfl
    exact absurd hc (by decide)
  | string s => exact ⟨'"', _, by rw [compress, toList_quote], rfl, by decide⟩
  | @array items h => cases items with
    | nil => exact ⟨'[', _, rfl, rfl, by decide⟩
    | cons item items => exact ⟨'[', _, compress_array_cons item items, rfl, by decide⟩
  | @object members h => cases members with
    | nil => exact ⟨'\x7b', _, rfl, rfl, by decide⟩
    | cons m members => exact ⟨'\x7b', _, compress_object_cons m members, rfl, by decide⟩

/-! ### Items -/

theorem toList_compressItems (item : Json) (items : List Json) :
    (compressItems (item :: items)).toList =
      ',' :: (item.compress.toList ++ (compressItems items).toList) := by
  simp [compressItems]

theorem endsValue_items (items : List Json) (rest : List Char) :
    EndsValue ((compressItems items).toList ++ ']' :: rest) := by
  cases items with
  | nil => simp [compressItems, EndsValue]
  | cons item items => simp [toList_compressItems, EndsValue]

theorem moreItems_compress {items : List Json} (h : ∀ item ∈ items, ReadsBack item)
    {levels : Nat} (hlevels : ∀ item ∈ items, item.nesting ≤ levels) (rest : List Char) (fuel : Nat)
    (hfuel : 2 * (compressItems items).toList.length < fuel) :
    moreItems fuel levels ((compressItems items).toList ++ ']' :: rest) = some (items, rest) := by
  induction items generalizing fuel with
  | nil =>
    obtain ⟨fuel, rfl⟩ := Nat.exists_eq_succ_of_ne_zero (Nat.ne_zero_of_lt hfuel)
    simp [compressItems, moreItems, skipBlanks_cons, isBlank]
  | cons item items ih =>
    obtain ⟨fuel, rfl⟩ := Nat.exists_eq_succ_of_ne_zero (Nat.ne_zero_of_lt hfuel)
    rw [toList_compressItems] at hfuel ⊢
    simp only [List.length_cons, List.length_append] at hfuel
    obtain ⟨hitem, hitems⟩ := List.forall_mem_cons.mp h
    obtain ⟨hitemlevels, hlevels⟩ := List.forall_mem_cons.mp hlevels
    have hvalue := hitem fuel levels _ (by omega) hitemlevels (endsValue_items items rest)
    have hrest := ih hitems hlevels fuel (by omega)
    simp only [List.cons_append, List.append_assoc, moreItems, skipBlanks_cons (c := ',') rfl,
      Option.bind_eq_bind, Option.bind_some, hvalue, hrest]
    rfl

/-- The items of an array, behind its opening bracket. -/
theorem items_compress {item : Json} {items' : List Json} (hproper : item.Proper)
    (h : ∀ i ∈ item :: items', ReadsBack i) {levels : Nat}
    (hlevels : ∀ i ∈ item :: items', i.nesting ≤ levels) (rest : List Char) (fuel : Nat)
    (hfuel : 2 * (compressItems (item :: items')).toList.length < fuel) :
    items fuel levels (item.compress.toList ++ ((compressItems items').toList ++ ']' :: rest)) =
      some (item :: items', rest) := by
  obtain ⟨fuel, rfl⟩ := Nat.exists_eq_succ_of_ne_zero (Nat.ne_zero_of_lt hfuel)
  rw [toList_compressItems] at hfuel
  simp only [List.length_cons, List.length_append] at hfuel
  obtain ⟨hitem, hitems⟩ := List.forall_mem_cons.mp h
  obtain ⟨hitemlevels, hlevels⟩ := List.forall_mem_cons.mp hlevels
  have hvalue := hitem fuel levels _ (by omega) hitemlevels (endsValue_items items' rest)
  have hrest := moreItems_compress hitems hlevels rest fuel (by omega)
  obtain ⟨c, s, hhead, hblank, hend⟩ := hproper.exists_head
  rw [hhead, List.cons_append] at hvalue ⊢
  rw [items, skipBlanks_cons hblank]
  split
  next heq => exact absurd (List.cons.inj heq).1 hend
  next =>
    simp only [Option.bind_eq_bind, Option.bind_some, hvalue, hrest]
    rfl

theorem readsBack_array {items : List Json} (hproper : ∀ item ∈ items, item.Proper)
    (h : ∀ item ∈ items, ReadsBack item) : ReadsBack (.array items) := by
  intro fuel levels rest hfuel hlevels _
  have hpos : levels ≠ 0 := by
    rw [nesting] at hlevels
    omega
  have hitems : ∀ item ∈ items, item.nesting ≤ levels - 1 := by
    intro item hitem
    have := nesting_le_itemsNesting hitem
    rw [nesting] at hlevels
    omega
  cases items with
  | nil =>
    have htext : (compress (.array [])).toList = ['[', ']'] := rfl
    rw [htext] at hfuel ⊢
    obtain ⟨fuel, rfl⟩ : ∃ n, fuel = n + 2 := ⟨fuel - 2, by simp at hfuel; omega⟩
    simp [value, Json.items, skipBlanks_cons, isBlank, hpos]
  | cons item items =>
    rw [compress_array_cons] at hfuel ⊢
    simp only [List.length_cons, List.length_append] at hfuel
    obtain ⟨fuel, rfl⟩ : ∃ n, fuel = n + 1 := ⟨fuel - 1, by omega⟩
    have hread := items_compress (hproper item List.mem_cons_self) h hitems rest fuel (by
      rw [toList_compressItems]
      simp only [List.length_cons, List.length_append]
      omega)
    simp only [List.cons_append, List.append_assoc, List.nil_append]
    rw [value, skipBlanks_cons rfl]
    simp [hread, hpos]

/-! ### Values -/

theorem readsBack_of_step {j : Json} (hproper : j.Proper)
    (hstep : ∀ fuel levels rest, EndsValue rest →
      value (fuel + 1) levels (j.compress.toList ++ rest) = some (j, rest)) : ReadsBack j := by
  intro fuel levels rest hfuel _ hrest
  obtain ⟨c, s, hhead, -, -⟩ := hproper.exists_head
  rw [hhead, List.length_cons] at hfuel
  obtain ⟨fuel, rfl⟩ : ∃ n, fuel = n + 1 := ⟨fuel - 1, by omega⟩
  exact hstep fuel levels rest hrest

theorem readsBack_null : ReadsBack .null := by
  refine readsBack_of_step .null fun fuel levels rest _ => ?_
  simp [compress, value, skipBlanks_cons, isBlank, List.isPrefixOf?]

theorem readsBack_bool (b : Bool) : ReadsBack (.bool b) := by
  refine readsBack_of_step (.bool b) fun fuel levels rest _ => ?_
  cases b <;> simp [compress, value, skipBlanks_cons, isBlank, List.isPrefixOf?]

theorem readsBack_string (s : String) : ReadsBack (.string s) := by
  refine readsBack_of_step (.string s) fun fuel levels rest _ => ?_
  simp [compress, toList_quote, value, skipBlanks_cons, isBlank, text_escaped]

theorem readsBack_nat (n : Nat) : ReadsBack (.nat n) := by
  refine readsBack_of_step (.nat n) fun fuel levels rest hrest => ?_
  have hnumeral := numeral_toDigits hrest n
  rw [toList_compress_nat]
  obtain ⟨c, s, hn⟩ := List.exists_cons_of_ne_nil (Nat.toDigits_ne_nil (b := 10) (n := n))
  have hc : c.isDigit = true := isDigit_of_mem_toDigits (hn ▸ List.mem_cons_self)
  -- none of the characters by which the other values are told is a digit
  have hother (d : Char) (hd : d.isDigit = false) : c ≠ d := by
    rintro rfl
    exact absurd hc (by simp [hd])
  rw [hn, List.cons_append] at hnumeral ⊢
  rw [value, skipBlanks_cons (isBlank_of_isDigit hc)]
  simp only [if_neg (hother '\x7b' (by decide)), if_neg (hother '[' (by decide)),
    if_neg (hother '"' (by decide)), if_neg (hother 'n' (by decide)),
    if_neg (hother 't' (by decide)), if_neg (hother 'f' (by decide)), hnumeral, Option.map_some]
  rw [← hn, Json.nat, Nat.toString_eq_repr, Nat.repr]

theorem Proper.readsBack {j : Json} (h : j.Proper) : ReadsBack j := by
  induction h with
  | null => exact readsBack_null
  | bool b => exact readsBack_bool b
  | nat n => exact readsBack_nat n
  | string s => exact readsBack_string s
  | array hproper ih => exact readsBack_array hproper ih
  | object _ ih => exact readsBack_object ih

theorem Proper.read_compress {j : Json} (h : j.Proper) (hnesting : j.nesting ≤ maxNesting) :
    read j.compress = some j := by
  have hread := h.readsBack (2 * j.compress.toList.length + 2) maxNesting [] (by omega) hnesting
    endsValue_nil
  have hend : (skipBlanks []).isEmpty = true := rfl
  rw [List.append_nil] at hread
  simp only [read, hread, Option.bind_eq_bind, Option.bind_some, hend, if_true]

/-- `compress` is injective on the values that are `Proper`, however deep they nest. -/
theorem Proper.eq_of_compress_eq {j j' : Json} (h : j.Proper) (h' : j'.Proper)
    (heq : j.compress = j'.compress) : j = j' := by
  -- a reader that allows as many levels as either value has
  have hread := h.readsBack (2 * j.compress.toList.length) (max j.nesting j'.nesting) []
    (Nat.le_refl _) (Nat.le_max_left ..) endsValue_nil
  have hread' := h'.readsBack (2 * j'.compress.toList.length) (max j.nesting j'.nesting) []
    (Nat.le_refl _) (Nat.le_max_right ..) endsValue_nil
  rw [heq, hread'] at hread
  exact (Prod.mk.inj (Option.some.inj hread)).1.symm

end WireShape.Json
