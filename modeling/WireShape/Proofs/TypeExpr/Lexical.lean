import Mathlib.Data.List.DropRight
import WireShape.Proofs.Text.Readers
import WireShape.Proofs.TypeExpr.Grammar

/-! # Reading blanks, words, names and dimensions

Each reader takes the longest text of its kind from the start of its input: what it takes is always
such a text, and it takes all of one when what follows cannot go on with it. -/

namespace WireShape.TypeExpr

open Text (isBlank skipBlanks skipBlanks_cons Reader Step)
open Text.Reader

variable {α : Type} {b i n r s w : List Char} {c : Char} {k : Nat}

theorem Blanks.nil : Blanks [] := fun _ h => nomatch h

theorem Blanks.cons (hc : isBlank c = true) (hb : Blanks b) : Blanks (c :: b) := by
  intro c' hc'
  rcases List.mem_cons.mp hc' with rfl | hc'
  · exact hc
  · exact hb c' hc'

theorem skipBlanks_append (hb : Blanks b) (s : List Char) : skipBlanks (b ++ s) = skipBlanks s :=
  List.dropWhile_append_of_pos hb

theorem skipBlanks_eq_nil_iff : skipBlanks s = [] ↔ Blanks s := List.dropWhile_eq_nil_iff

theorem skipBlanks_append_cons (hb : Blanks b) (hc : isBlank c = false) (s : List Char) :
    skipBlanks (b ++ c :: s) = c :: s := by
  rw [skipBlanks_append hb, skipBlanks_cons hc]

theorem skipBlanks_idem (s : List Char) : skipBlanks (skipBlanks s) = skipBlanks s :=
  List.dropWhile_idempotent _ _

theorem isBlank_of_skipBlanks (h : skipBlanks s = c :: r) : isBlank c = false := by
  unfold skipBlanks at h
  have hne : s.dropWhile isBlank ≠ [] := by
    rw [h]
    exact List.cons_ne_nil c r
  have hhead := List.head_dropWhile_not isBlank hne
  simpa only [h, List.head_cons] using hhead

theorem exists_blanks (s : List Char) : ∃ b, Blanks b ∧ s = b ++ skipBlanks s :=
  ⟨s.takeWhile isBlank, fun _ hc => List.mem_takeWhile_imp hc, List.takeWhile_append_dropWhile.symm⟩

theorem exists_blanks_of_skipBlanks (h : skipBlanks s = r) : ∃ b, Blanks b ∧ s = b ++ r :=
  h ▸ exists_blanks s

/-- A text that starts with something else than a blank. -/
def Solid (s : List Char) : Prop := ∃ c ∈ s.head?, isBlank c = false

namespace Solid

theorem cons (hc : isBlank c = false) (s : List Char) : Solid (c :: s) := ⟨c, rfl, hc⟩

theorem exists_cons (h : Solid s) : ∃ c r, s = c :: r ∧ isBlank c = false := by
  obtain ⟨c, hs, hc⟩ := h
  cases s with
  | nil => cases hs
  | cons c' r =>
    cases hs
    exact ⟨c, r, rfl, hc⟩

theorem append (h : Solid s) (r : List Char) : Solid (s ++ r) := by
  obtain ⟨c, s, rfl, hc⟩ := h.exists_cons
  exact .cons hc _

theorem skipBlanks_eq (h : Solid s) : skipBlanks s = s := by
  obtain ⟨c, s, rfl, hc⟩ := h.exists_cons
  exact skipBlanks_cons hc s

theorem skipBlanks_append (h : Solid s) (r : List Char) : skipBlanks (s ++ r) = s ++ r :=
  (h.append r).skipBlanks_eq

theorem head?_append (h : Solid s) (r : List Char) : (s ++ r).head? = s.head? := by
  obtain ⟨c, s, rfl, -⟩ := h.exists_cons
  rfl

end Solid

theorem solid_extends : Solid "extends".toList := ⟨'e', rfl, rfl⟩

theorem solid_super : Solid "super".toList := ⟨'s', rfl, rfl⟩

theorem blanks1_eq_done_iff :
    blanks1 s = .done () r ↔ ∃ b, Gap b ∧ s = b ++ r ∧ skipBlanks r = r := by
  constructor
  · intro h
    cases s with
    | nil => cases h
    | cons c s =>
      rw [blanks1] at h
      split at h
      next hc =>
        cases h
        obtain ⟨b, hb, hs⟩ := exists_blanks s
        exact ⟨c :: b, ⟨List.cons_ne_nil _ _, hb.cons hc⟩, congrArg (c :: ·) hs, skipBlanks_idem s⟩
      · cases h
  · rintro ⟨b, ⟨hne, hb⟩, rfl, hr⟩
    cases b with
    | nil => exact absurd rfl hne
    | cons c b =>
      have hb' : Blanks b := fun c' hc' => hb c' (List.mem_cons_of_mem _ hc')
      rw [List.cons_append, blanks1, if_pos (hb c List.mem_cons_self), skipBlanks_append hb', hr]

theorem blanks1_append (hb : Gap b) (hs : Solid s) : blanks1 (b ++ s) = .done () s :=
  blanks1_eq_done_iff.mpr ⟨b, hb, rfl, hs.skipBlanks_eq⟩

theorem takes_betweenGaps {read : Reader α} {W : List Char → α → Prop} (h : read.Takes W) :
    (betweenGaps read).Takes fun t a => ∃ b w b', Gap b ∧ Gap b' ∧ t = b ++ w ++ b' ∧ W w a := by
  intro s r a hs
  obtain ⟨_, r₁, hbefore, hs⟩ := Step.bind_eq_done_iff.mp hs
  obtain ⟨a, r₂, hread, hs⟩ := Step.bind_eq_done_iff.mp hs
  obtain ⟨_, r₃, hbehind, hs⟩ := Step.bind_eq_done_iff.mp hs
  cases hs
  obtain ⟨b, hb, rfl, -⟩ := blanks1_eq_done_iff.mp hbefore
  obtain ⟨w, rfl, hW⟩ := h hread
  obtain ⟨b', hb', rfl, -⟩ := blanks1_eq_done_iff.mp hbehind
  exact ⟨b ++ w ++ b', by simp only [List.append_assoc], b, w, b', hb, hb', rfl, hW⟩

theorem betweenGaps_append {read : Reader α} {a : α} {b' : List Char} (hw : Solid w)
    (hread : ∀ r, read (w ++ r) = .done a r) (hb : Gap b) (hb' : Gap b') (hs : Solid s) (r : List Char) :
    betweenGaps read (b ++ w ++ b' ++ s ++ r) = .done a (s ++ r) := by
  simp only [List.append_assoc, betweenGaps, blanks1_append hb (hw.append _), hread,
    blanks1_append hb' (hs.append r), Step.bind]

/-- Nothing is found where nothing is read behind the blanks. -/
theorem betweenGaps_fails {read : Reader α} (h : (read (skipBlanks s)).Fails) :
    (betweenGaps read s).Fails := by
  cases s with
  | nil => exact ⟨_, _, rfl⟩
  | cons c s =>
    rw [betweenGaps, blanks1]
    split
    next hc =>
      have hskip : skipBlanks (c :: s) = skipBlanks s := skipBlanks_append (b := [c]) (.cons hc .nil) s
      rw [hskip] at h
      exact h.bind
    · exact ⟨_, _, rfl⟩

theorem tag_fails_of_head (hw : Solid w) (h : s.head? ≠ w.head?) : (tag w s).Fails :=
  tag_fails fun r hr => h (hr ▸ hw.head?_append r)

/-! ### Names -/

theorem isIdentPart_of_isIdentStart (h : isIdentStart c = true) : isIdentPart c = true := by
  rw [isIdentPart, h, Bool.true_or]

/-- Neither blanks nor punctuation are parts of an identifier. -/
theorem isIdentPart_of_mem :
    ∀ c ∈ [' ', '\t', '\r', '\n', '.', ',', '<', '>', '[', '?'], isIdentPart c = false := by
  simp only [List.forall_mem_cons]
  refine ⟨?_, ?_, ?_, ?_, ?_, ?_, ?_, ?_, ?_, ?_, List.forall_mem_nil _⟩ <;> decide +kernel

theorem isIdentPart_of_isBlank (h : isBlank c = true) : isIdentPart c = false := by
  simp only [isBlank, Bool.or_eq_true, beq_iff_eq] at h
  rcases h with ((rfl | rfl) | rfl) | rfl <;> exact isIdentPart_of_mem _ (by decide)

theorem isBlank_of_isIdentStart (h : isIdentStart c = true) : isBlank c = false := by
  refine Bool.eq_false_iff.mpr fun hc => ?_
  have := isIdentPart_of_isBlank hc
  rw [isIdentPart_of_isIdentStart h] at this
  cases this

theorem IsIdentifier.head (h : IsIdentifier i) : ∃ c s, i = c :: s ∧ isIdentStart c = true := by
  cases i with
  | nil => exact h.elim
  | cons c s => exact ⟨c, s, rfl, h.1⟩

theorem IsQualifiedName.head (h : IsQualifiedName n) : ∃ c s, n = c :: s ∧ isIdentStart c = true := by
  cases h with
  | single h => exact h.head
  | dot h _ =>
    obtain ⟨c, s, rfl, hc⟩ := h.head
    exact ⟨c, _, rfl, hc⟩

/-- What an identifier cannot go on with. -/
def EndsIdentifier (r : List Char) : Prop := ∀ c ∈ r.head?, isIdentPart c = false

/-- What a name cannot go on with. -/
def EndsName (r : List Char) : Prop := ∀ c ∈ r.head?, isIdentPart c = false ∧ c ≠ '.'

theorem identifier_of_head (hc : isIdentStart c = true) (s : List Char) :
    identifier (c :: s) = .done (c :: s.takeWhile isIdentPart) (s.dropWhile isIdentPart) := by
  have hs : c :: s = c :: s.takeWhile isIdentPart ++ s.dropWhile isIdentPart := by
    rw [List.cons_append, List.takeWhile_append_dropWhile]
  conv_lhs => rw [hs]
  refine recognize_append (a := s.takeWhile isIdentPart) ?_
  rw [← hs, preceded, satisfy, if_pos hc]
  rfl

theorem of_identifier_eq_fail {code : Text.Code} (h : identifier s = .fail r code) :
    r = s ∧ code = .satisfy ∧ ∀ c ∈ s.head?, isIdentStart c = false := by
  rcases Step.bind_eq_fail_iff.mp (of_recognize_eq_fail h) with h | ⟨_, _, _, h⟩
  · exact of_satisfy_eq_fail h
  · cases h

theorem takes_identifier : identifier.Takes fun t i => i = t ∧ IsIdentifier t := by
  have htakes : Reader.Takes (preceded (satisfy isIdentStart) (takeWhile isIdentPart))
      fun t _ => IsIdentifier t := by
    intro s r a h
    obtain ⟨c, r', hstart, h⟩ := Step.bind_eq_done_iff.mp h
    cases h
    obtain ⟨rfl, hc⟩ := satisfy_eq_done_iff.mp hstart
    refine ⟨c :: r'.takeWhile isIdentPart, ?_, hc, fun _ hc' => List.mem_takeWhile_imp hc'⟩
    rw [List.cons_append, List.takeWhile_append_dropWhile]
  intro s r i h
  obtain ⟨t, hs, hi, -, ht⟩ := takes_recognize htakes h
  exact ⟨t, hs, hi, ht⟩

theorem reads_identifier : identifier.Reads (fun t i => i = t ∧ IsIdentifier t) EndsIdentifier := by
  rintro _ r i ⟨rfl, hi⟩ hr
  have hr' : r.takeWhile isIdentPart = [] ∧ r.dropWhile isIdentPart = r := by
    cases r with
    | nil => exact ⟨rfl, rfl⟩
    | cons c r =>
      have hc : ¬ isIdentPart c = true := Bool.eq_false_iff.mp (hr c rfl)
      exact ⟨List.takeWhile_cons_of_neg hc, List.dropWhile_cons_of_neg hc⟩
  cases i with
  | nil => exact hi.elim
  | cons c s =>
    rw [List.cons_append, identifier_of_head hi.1, List.takeWhile_append_of_pos hi.2,
      List.dropWhile_append_of_pos hi.2, hr'.1, hr'.2, List.append_nil]

/-- Behind an identifier there may be more of it. -/
theorem identifier_reaches (hi : IsIdentifier i) (r : List Char) : (identifier (i ++ r)).Reaches r := by
  cases i with
  | nil => exact hi.elim
  | cons c s =>
    rw [List.cons_append, identifier_of_head hi.1, List.dropWhile_append_of_pos hi.2]
    exact List.dropWhile_suffix _

/-- An identifier with a dot before it. -/
def DotName (t i : List Char) : Prop := t = '.' :: i ∧ IsIdentifier i

theorem isQualifiedName_iff :
    IsQualifiedName n ↔ ∃ i s is, n = i ++ s ∧ IsIdentifier i ∧ Repeated DotName s is := by
  constructor
  · intro h
    induction h with
    | @single i hi => exact ⟨i, [], [], (List.append_nil i).symm, hi, .nil⟩
    | @dot i n hi _ ih =>
      obtain ⟨i', s, is, rfl, hi', hs⟩ := ih
      exact ⟨i, _, _, rfl, hi, .cons (t := '.' :: i') ⟨rfl, hi'⟩ hs⟩
  · rintro ⟨i, s, is, rfl, hi, hs⟩
    induction hs generalizing i with
    | nil =>
      rw [List.append_nil]
      exact .single hi
    | @cons t s i' is ht _ ih =>
      obtain ⟨rfl, hi'⟩ := ht
      exact .dot hi (ih i' hi')

theorem takes_dotName : (preceded (char '.') identifier).Takes DotName := by
  intro s r i h
  obtain ⟨_, r', hdot, h⟩ := Step.bind_eq_done_iff.mp h
  obtain ⟨-, rfl⟩ := char_eq_done_iff.mp hdot
  obtain ⟨t, rfl, rfl, hi⟩ := takes_identifier h
  exact ⟨'.' :: i, rfl, rfl, hi⟩

theorem reads_dotName : (preceded (char '.') identifier).Reads DotName EndsIdentifier := by
  rintro _ r i ⟨rfl, hi⟩ hr
  rw [preceded, List.cons_append, char_cons]
  exact reads_identifier ⟨rfl, hi⟩ hr

theorem endsIdentifier_dotName {t : List Char} (h : DotName t i) (r : List Char) :
    EndsIdentifier (t ++ r) := by
  obtain ⟨rfl, -⟩ := h
  intro c hc
  cases hc
  exact isIdentPart_of_mem '.' (by decide)

theorem dotName_ne_nil {t : List Char} (h : DotName t i) : t ≠ [] := by
  obtain ⟨rfl, -⟩ := h
  exact List.cons_ne_nil _ _

theorem takes_qualifiedName : qualifiedName.Takes fun t n => n = t ∧ IsQualifiedName t := by
  have htakes : Reader.Takes (separated1 (char '.') identifier) fun t _ => IsQualifiedName t := by
    intro s r is h
    obtain ⟨i, r₁, hfirst, h⟩ := Step.bind_eq_done_iff.mp h
    obtain ⟨is, r₂, hmore, h⟩ := Step.bind_eq_done_iff.mp h
    cases h
    obtain ⟨i, rfl, -, hi⟩ := takes_identifier hfirst
    obtain ⟨s, rfl, hs⟩ := takes_manyWith takes_dotName hmore
    exact ⟨i ++ s, (List.append_assoc ..).symm, isQualifiedName_iff.mpr ⟨i, s, is, rfl, hi, hs⟩⟩
  intro s r n h
  obtain ⟨t, hs, hn, -, ht⟩ := takes_recognize htakes h
  exact ⟨t, hs, hn, ht⟩

theorem qualifiedName_append (hn : IsQualifiedName n) (hr : EndsName r) :
    qualifiedName (n ++ r) = .done n r := by
  obtain ⟨i, s, is, rfl, hi, hs⟩ := isQualifiedName_iff.mp hn
  have hends : EndsIdentifier r := fun c hc => (hr c hc).1
  have hstop : (preceded (char '.') identifier r).Fails :=
    (char_fails_iff.mpr fun h => (hr _ h).2 rfl).bind
  have hmore : manyWith .separatedList (preceded (char '.') identifier) (s ++ r) = .done is r :=
    manyWith_append (fun _ _ => dotName_ne_nil) reads_dotName (fun _ _ h => endsIdentifier_dotName h) hs
      hends hstop
  have hfollow : EndsIdentifier (s ++ r) := by
    cases hs with
    | nil => exact hends
    | cons ht _ =>
      rw [List.append_assoc]
      exact endsIdentifier_dotName ht _
  refine recognize_append (a := i :: is) ?_
  rw [separated1, List.append_assoc, reads_identifier ⟨rfl, hi⟩ hfollow, Step.bind, hmore, Step.bind]

theorem qualifiedName_reaches (hn : IsQualifiedName n) (r : List Char) :
    (qualifiedName (n ++ r)).Reaches r := by
  have hitem : ∀ ⦃t i⦄, DotName t i → ∀ r, (preceded (char '.') identifier (t ++ r)).Reaches r := by
    rintro _ i ⟨rfl, hi⟩ r
    rw [preceded, List.cons_append, char_cons]
    exact identifier_reaches hi r
  obtain ⟨i, s, is, rfl, hi, hs⟩ := isQualifiedName_iff.mp hn
  refine recognize_reaches ?_
  cases hs with
  | nil =>
    rw [List.append_nil]
    exact (identifier_reaches hi r).bind fun _ r' hr' =>
      ((manyWithin_reaches_self (fun _ _ => dotName_ne_nil) takes_dotName _ r').map _).mono hr'
  | @cons t s _ _ ht hs =>
    have hfollow : EndsIdentifier (t ++ s ++ r) := by
      rw [List.append_assoc]
      exact endsIdentifier_dotName ht _
    have hmore : (manyWith .separatedList (preceded (char '.') identifier) (t ++ s ++ r)).Reaches r :=
      manyWith_append_reaches (fun _ _ => dotName_ne_nil) reads_dotName
        (fun _ _ h => endsIdentifier_dotName h) takes_dotName hitem (.cons ht hs) r
    rw [separated1, List.append_assoc, reads_identifier ⟨rfl, hi⟩ hfollow]
    exact hmore.map _

theorem of_qualifiedName_eq_fail {code : Text.Code} (h : qualifiedName s = .fail r code) :
    r = s ∧ code = .satisfy ∧ ∀ c ∈ s.head?, isIdentStart c = false := by
  rcases Step.bind_eq_fail_iff.mp (of_recognize_eq_fail h) with h | ⟨_, r', _, h⟩
  · exact of_identifier_eq_fail h
  · refine absurd h ((Step.Reaches.map (r := r') ?_ _).ne_fail _ _)
    exact manyWithin_reaches_self (fun _ _ => dotName_ne_nil) takes_dotName _ r'

/-! ### Dimensions -/

/-- A `[]` with blanks before it. -/
def Bracket (t w : List Char) : Prop := w = "[]".toList ∧ ∃ b, Blanks b ∧ t = b ++ w

theorem takes_dimension : dimension.Takes Bracket := by
  intro s r w h
  obtain ⟨rfl, hs⟩ := tag_eq_done_iff.mp h
  obtain ⟨b, hb, rfl⟩ := exists_blanks_of_skipBlanks hs
  exact ⟨b ++ "[]".toList, (List.append_assoc ..).symm, rfl, b, hb, rfl⟩

theorem dimension_append {t : List Char} (h : Bracket t w) (r : List Char) :
    dimension (t ++ r) = .done w r := by
  obtain ⟨rfl, b, hb, rfl⟩ := h
  have hskip : skipBlanks (b ++ "[]".toList ++ r) = "[]".toList ++ r := by
    rw [List.append_assoc]
    exact skipBlanks_append_cons hb rfl _
  rw [dimension, hskip, tag_append]

theorem dimensions_of_repeated {ws : List (List Char)} (h : Repeated Bracket s ws) :
    Dimensions ws.length s := by
  induction h with
  | nil => exact .zero
  | cons ht _ ih =>
    obtain ⟨rfl, b, hb, rfl⟩ := ht
    rw [List.append_assoc]
    exact .succ hb ih

theorem Dimensions.exists_repeated (h : Dimensions k s) :
    ∃ ws, ws.length = k ∧ Repeated Bracket s ws := by
  induction h with
  | zero => exact ⟨[], rfl, .nil⟩
  | @succ k b s hb _ ih =>
    obtain ⟨ws, rfl, hs⟩ := ih
    refine ⟨"[]".toList :: ws, rfl, ?_⟩
    have hcons := Repeated.cons (t := b ++ "[]".toList) ⟨rfl, b, hb, rfl⟩ hs
    rwa [List.append_assoc] at hcons

theorem bracket_ne_nil {t : List Char} (h : Bracket t w) : t ≠ [] := by
  obtain ⟨rfl, b, -, rfl⟩ := h
  exact List.append_ne_nil_of_right_ne_nil b (by decide)

theorem takes_dimensions : (many0 dimension).Takes fun t ws => Dimensions ws.length t := by
  intro s r ws h
  obtain ⟨t, hs, ht⟩ := takes_manyWith takes_dimension h
  exact ⟨t, hs, dimensions_of_repeated ht⟩

theorem dimensions_append (hs : Dimensions k s) (hr : ∀ r', skipBlanks r ≠ '[' :: ']' :: r') :
    ∃ ws, ws.length = k ∧ many0 dimension (s ++ r) = .done ws r := by
  obtain ⟨ws, hk, hs⟩ := hs.exists_repeated
  refine ⟨ws, hk, manyWith_append (E := fun _ => True) (fun _ _ => bracket_ne_nil)
    (fun t r w ht _ => dimension_append ht r) (fun _ _ _ _ => trivial) hs trivial (tag_fails hr)⟩

theorem dimensions_reaches (hs : Dimensions k s) (r : List Char) :
    (many0 dimension (s ++ r)).Reaches r := by
  obtain ⟨ws, -, hs⟩ := hs.exists_repeated
  refine manyWith_append_reaches (E := fun _ => True) (fun _ _ => bracket_ne_nil)
    (fun t r w ht _ => dimension_append ht r) (fun _ _ _ _ => trivial) takes_dimension
    (fun t w ht r => ?_) hs r
  rw [dimension_append ht]
  exact List.suffix_rfl

end WireShape.TypeExpr
