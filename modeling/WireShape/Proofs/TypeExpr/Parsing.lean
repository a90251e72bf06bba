import WireShape.Proofs.TypeExpr.Lexical

/-! # Reading exactly the grammar

What is read as a type is a text of that type, and a text of a type is read as that type wherever the
end of the input, a comma or a closing bracket follows. Both go level by level: the levels left and the
depth add up to the deepest nesting, so a type too deep to be read has no text either. -/

namespace WireShape.TypeExpr

open Text (isBlank skipBlanks skipBlanks_cons Reader Step)
open Text.Reader

variable {α β : Type}

theorem isIdentifier_word (kind : PrimitiveKind) : IsIdentifier (word kind).toList := by
  cases kind <;> exact ⟨by decide +kernel, List.all_eq_true.mp (by decide +kernel)⟩

theorem isIdentifier_void : IsIdentifier (word OtherKind.void).toList :=
  ⟨by decide +kernel, List.all_eq_true.mp (by decide +kernel)⟩

theorem ofName_word (kind : PrimitiveKind) : ofName (word kind) = .primitive kind := by
  cases kind <;> rfl

theorem ofName_of_not_isReserved {name : String} (h : ¬ IsReserved name) :
    ofName name = .raw ⟨name⟩ := by
  unfold ofName
  cases hkind : (Keyword.ofWord? name : Option PrimitiveKind) with
  | some kind => exact absurd (.inl ⟨kind, Keyword.word_of_ofWord? hkind⟩) h
  | none => exact if_neg fun hvoid => h (.inr hvoid.symm)

theorem writtenName_ofName {d : Nat} {n : List Char} (hn : IsQualifiedName n) :
    WrittenName d n (ofName (String.ofList n)) := by
  by_cases h : IsReserved (String.ofList n)
  · rcases h with ⟨kind, h⟩ | h
    · rw [← h, ofName_word, ← String.toList_ofList (l := n), ← h]
      exact .primitive kind
    · rw [← h, ← String.toList_ofList (l := n), ← h]
      exact .void
  · rw [ofName_of_not_isReserved h]
    exact .raw hn h

theorem Written.depth_le {d : Nat} {s : List Char} {t : TypeExpr} (h : Written d s t) :
    d ≤ maxNesting := by
  cases h with
  | wildcard h => exact h
  | upperBound h => exact h
  | lowerBound h => exact h
  | named _ _ h => exact Nat.le_trans (Nat.le_add_right ..) h

/-! ### What is read is a text -/

/-- An argument behind another one. -/
def NextArgument (d : Nat) (s : List Char) (t : TypeExpr) : Prop :=
  ∃ b b' s', Blanks b ∧ Blanks b' ∧ s = b ++ ',' :: (b' ++ s') ∧ Written d s' t

theorem writtenTail_iff {d : Nat} {s : List Char} {ts : List TypeExpr} :
    WrittenTail d s ts ↔ Repeated (NextArgument d) s ts := by
  constructor
  · intro h
    induction ts generalizing s with
    | nil =>
      cases h
      exact .nil
    | cons t ts ih =>
      cases h with
      | @cons _ b b' s s' _ _ hb hb' ht hts =>
        have hcons := Repeated.cons ⟨b, b', s, hb, hb', rfl, ht⟩ (ih hts)
        rwa [List.append_assoc, List.cons_append] at hcons
  · intro h
    induction h with
    | nil => exact .nil
    | cons ha _ ih =>
      obtain ⟨b, b', s, hb, hb', rfl, ht⟩ := ha
      rw [List.append_assoc, List.cons_append]
      exact .cons hb hb' ht ih

section
variable {nested : Reader TypeExpr} {d : Nat} (hnested : nested.Takes (Written (d + 1)))
include hnested

theorem takes_nextArgument :
    (preceded comma fun s => nested (skipBlanks s)).Takes (NextArgument (d + 1)) := by
  intro s r t h
  obtain ⟨_, r₁, hcomma, hitem⟩ := Step.bind_eq_done_iff.mp h
  obtain ⟨_, r₂, hchar, hdone⟩ := Step.bind_eq_done_iff.mp hcomma
  cases hdone
  obtain ⟨-, hs⟩ := char_eq_done_iff.mp hchar
  obtain ⟨b, hb, rfl⟩ := exists_blanks_of_skipBlanks hs
  obtain ⟨b', hb', hr₂⟩ := exists_blanks r₂
  dsimp only at hitem
  rw [skipBlanks_idem] at hitem
  obtain ⟨p, hp, ht⟩ := hnested hitem
  exact ⟨b ++ ',' :: (b' ++ p), by rw [hr₂, hp]; simp, b, b', p, hb, hb', rfl, ht⟩

theorem takes_arguments : (arguments nested).Takes fun p ts =>
    ∀ {n}, IsQualifiedName n → WrittenName d (n ++ p) (.declared ⟨String.ofList n⟩ ts) := by
  intro s r ts h
  obtain ⟨_, r₁, hopen, h⟩ := Step.bind_eq_done_iff.mp h
  obtain ⟨ts, r₂, hitems, h⟩ := Step.bind_eq_done_iff.mp h
  obtain ⟨_, r₃, hclose, h⟩ := Step.bind_eq_done_iff.mp h
  cases h
  obtain ⟨t, r₄, hfirst, hitems⟩ := Step.bind_eq_done_iff.mp hitems
  obtain ⟨ts, r₅, hmore, hitems⟩ := Step.bind_eq_done_iff.mp hitems
  cases hitems
  obtain ⟨b, hb, rfl⟩ := exists_blanks_of_skipBlanks (char_eq_done_iff.mp hopen).2
  obtain ⟨b', hb', hr₁⟩ := exists_blanks r₁
  obtain ⟨p, hp, ht⟩ := hnested hfirst
  obtain ⟨p', rfl, hts⟩ := takes_manyWith (takes_nextArgument hnested) hmore
  obtain ⟨b'', hb'', rfl⟩ := exists_blanks_of_skipBlanks (char_eq_done_iff.mp hclose).2
  refine ⟨b ++ '<' :: (b' ++ p ++ p' ++ b'' ++ ['>']), ?_, fun hn => ?_⟩
  · rw [hr₁, hp]
    simp
  · exact .generic hn hb hb' ht (writtenTail_iff.mpr hts) hb''

theorem takes_wildcardBound : (wildcardBound nested).Takes fun p bound =>
    ∃ b b' s, Gap b ∧ Gap b' ∧ p = b ++ bound.1 ++ b' ++ s ∧
      (bound.1 = "extends".toList ∨ bound.1 = "super".toList) ∧ Written (d + 1) s bound.2 := by
  have hword : Reader.Takes (alt (tag "extends".toList) (tag "super".toList))
      fun w w' => w' = w ∧ (w = "extends".toList ∨ w = "super".toList) := by
    intro s r w h
    rcases alt_eq_done_iff.mp h with h | ⟨-, h⟩
    · obtain ⟨rfl, rfl⟩ := tag_eq_done_iff.mp h
      exact ⟨_, rfl, rfl, .inl rfl⟩
    · obtain ⟨rfl, rfl⟩ := tag_eq_done_iff.mp h
      exact ⟨_, rfl, rfl, .inr rfl⟩
  intro s r bound h
  obtain ⟨w, r₁, hgaps, h⟩ := Step.bind_eq_done_iff.mp h
  obtain ⟨t, r₂, hread, h⟩ := Step.bind_eq_done_iff.mp h
  cases h
  obtain ⟨_, rfl, b, w, b', hb, hb', rfl, rfl, hw⟩ := takes_betweenGaps hword hgaps
  obtain ⟨p, rfl, ht⟩ := hnested hread
  exact ⟨b ++ w ++ b' ++ p, by simp, b, b', p, hb, hb', rfl, hw, ht⟩

theorem takes_readWildcard (hd : d ≤ maxNesting) : (readWildcard nested).Takes (Written d) := by
  intro s r t h
  obtain ⟨_, r₁, hmark, h⟩ := Step.bind_eq_done_iff.mp h
  obtain ⟨bound, r₂, hbound, h⟩ := Step.bind_eq_done_iff.mp h
  cases h
  obtain ⟨-, rfl⟩ := char_eq_done_iff.mp hmark
  rcases opt_eq_done_iff.mp hbound with ⟨⟨w, t⟩, rfl, hread⟩ | ⟨rfl, -, rfl⟩
  · obtain ⟨_, rfl, b, b', p, hb, hb', rfl, rfl | rfl, ht⟩ := takes_wildcardBound hnested hread
    · exact ⟨_, rfl, .upperBound hd hb hb' ht⟩
    · exact ⟨_, rfl, .lowerBound hd hb hb' ht⟩
  · exact ⟨['?'], rfl, .wildcard hd⟩

theorem takes_readNamed {levels : Nat} (hd : d + levels = maxNesting) :
    (readNamed nested levels).Takes (Written d) := by
  intro s r t h
  obtain ⟨n, r₁, hname, h⟩ := Step.bind_eq_done_iff.mp h
  obtain ⟨as, r₂, harguments, h⟩ := Step.bind_eq_done_iff.mp h
  obtain ⟨ws, r₃, hdimensions, h⟩ := Step.bind_eq_done_iff.mp h
  split at h
  · cases h
  next hlevels =>
    cases h
    obtain ⟨_, rfl, rfl, hn⟩ := takes_qualifiedName hname
    obtain ⟨s', rfl, hs'⟩ := takes_dimensions hdimensions
    have hk : d + ws.length ≤ maxNesting := by omega
    rcases opt_eq_done_iff.mp harguments with ⟨ts, rfl, hread⟩ | ⟨rfl, -, rfl⟩
    · obtain ⟨p, rfl, hp⟩ := takes_arguments hnested hread
      exact ⟨n ++ p ++ s', by simp, .named (hp hn) hs' hk⟩
    · exact ⟨n ++ s', by simp, .named (writtenName_ofName hn) hs' hk⟩

theorem takes_typeWith {levels : Nat} (hd : d + levels = maxNesting) :
    (typeWith nested levels).Takes (Written d) := by
  intro s r t h
  rcases alt_eq_done_iff.mp h with h | ⟨-, h⟩
  · exact takes_readWildcard hnested (by omega) h
  · exact takes_readNamed hnested hd h

end

theorem takes_typeAt {d levels : Nat} (hd : d + levels = maxNesting) :
    (typeAt levels).Takes (Written d) := by
  induction levels generalizing d with
  | zero => exact takes_typeWith (fun _ _ _ h => by cases h) hd
  | succ levels ih => exact takes_typeWith (ih (by omega)) hd

/-! ### A text is read as its type -/

/-- After blanks, `r` goes on with a comma or a closing bracket if it goes on at all: what may follow
a type. -/
def EndsType (r : List Char) : Prop := ∀ c ∈ (skipBlanks r).head?, c = ',' ∨ c = '>'

theorem isBlank_and_isIdentPart_of_mem {c : Char} (hc : c ∈ [',', '<', '>', '[']) :
    isBlank c = false ∧ isIdentPart c = false ∧ c ≠ '.' := by
  simp only [List.mem_cons, List.not_mem_nil, or_false] at hc
  rcases hc with rfl | rfl | rfl | rfl <;>
    exact ⟨rfl, isIdentPart_of_mem _ (by decide), by decide⟩

theorem endsName_of_skipBlanks {r : List Char}
    (h : ∀ c ∈ (skipBlanks r).head?, c ∈ [',', '<', '>', '[']) : EndsName r := by
  intro c hc
  cases hblank : isBlank c with
  | true => exact ⟨isIdentPart_of_isBlank hblank, by rintro rfl; cases hblank⟩
  | false =>
    have hmem := h c ((Solid.skipBlanks_eq ⟨c, hc, hblank⟩).symm ▸ hc)
    exact (isBlank_and_isIdentPart_of_mem hmem).2

theorem endsName_append {b r : List Char} {c : Char} (hb : Blanks b)
    (hc : c ∈ [',', '<', '>', '[']) : EndsName (b ++ c :: r) := by
  refine endsName_of_skipBlanks fun c' hc' => ?_
  rw [skipBlanks_append_cons hb (isBlank_and_isIdentPart_of_mem hc).1] at hc'
  cases hc'
  exact hc

theorem endsName_of_gap {b : List Char} (hb : Gap b) (s : List Char) : EndsName (b ++ s) := by
  obtain ⟨hne, hb⟩ := hb
  cases b with
  | nil => exact absurd rfl hne
  | cons c b =>
    intro c' hc'
    cases hc'
    have hc : isBlank c = true := hb c List.mem_cons_self
    exact ⟨isIdentPart_of_isBlank hc, by rintro rfl; cases hc⟩

namespace EndsType
variable {r : List Char}

theorem of_blanks {b : List Char} (hb : Blanks b) : EndsType b := by
  intro c hc
  rw [skipBlanks_eq_nil_iff.mpr hb] at hc
  cases hc

theorem append {b : List Char} {c : Char} (hb : Blanks b) (hc : c = ',' ∨ c = '>') :
    EndsType (b ++ c :: r) := by
  intro c' hc'
  have hblank : isBlank c = false := by rcases hc with rfl | rfl <;> rfl
  rw [skipBlanks_append_cons hb hblank] at hc'
  cases hc'
  exact hc

theorem head?_ne (h : EndsType r) {c : Char} (hc : ¬ (c = ',' ∨ c = '>')) :
    (skipBlanks r).head? ≠ some c := fun heq => hc (h c heq)

theorem endsName (h : EndsType r) : EndsName r := by
  refine endsName_of_skipBlanks fun c hc => ?_
  rcases h c hc with rfl | rfl <;> decide

end EndsType

theorem IsQualifiedName.solid {n : List Char} (h : IsQualifiedName n) : Solid n := by
  obtain ⟨c, s, rfl, hc⟩ := h.head
  exact .cons (isBlank_of_isIdentStart hc) s

theorem WrittenName.solid {d : Nat} {s : List Char} {t : TypeExpr} (h : WrittenName d s t) :
    Solid s := by
  cases h with
  | primitive kind => exact (IsQualifiedName.single (isIdentifier_word kind)).solid
  | void => exact (IsQualifiedName.single isIdentifier_void).solid
  | raw hn => exact hn.solid
  | generic hn => exact hn.solid.append _

theorem Written.solid {d : Nat} {s : List Char} {t : TypeExpr} (h : Written d s t) : Solid s := by
  cases h with
  | named h => exact h.solid.append _
  | _ => exact .cons rfl _

theorem WrittenTail.endsType {d : Nat} {p b r : List Char} {ts : List TypeExpr}
    (h : WrittenTail d p ts) (hb : Blanks b) : EndsType (p ++ (b ++ '>' :: r)) := by
  cases h with
  | nil => exact .append hb (.inr rfl)
  | cons hb₁ =>
    rw [List.append_assoc, List.cons_append]
    exact .append hb₁ (.inl rfl)

theorem NextArgument.endsType {d : Nat} {s : List Char} {t : TypeExpr} (h : NextArgument d s t)
    (r : List Char) : EndsType (s ++ r) := by
  obtain ⟨b, b', s, hb, -, rfl, -⟩ := h
  rw [List.append_assoc]
  exact .append hb (.inl rfl)

theorem NextArgument.ne_nil {d : Nat} {s : List Char} {t : TypeExpr} (h : NextArgument d s t) :
    s ≠ [] := by
  obtain ⟨b, b', s, -, -, rfl, -⟩ := h
  exact List.append_ne_nil_of_right_ne_nil b (List.cons_ne_nil _ _)

theorem arguments_fails {nested : Reader TypeExpr} {s : List Char}
    (h : (skipBlanks s).head? ≠ some '<') : (arguments nested s).Fails :=
  (char_fails_iff.mpr h).bind

theorem wildcardBound_fails {nested : Reader TypeExpr} {r : List Char} (hr : EndsType r) :
    (wildcardBound nested r).Fails := by
  have hextends := tag_fails_of_head solid_extends (hr.head?_ne (c := 'e') (by decide))
  have hsuper := tag_fails_of_head solid_super (hr.head?_ne (c := 's') (by decide))
  exact (betweenGaps_fails (alt_fails hextends hsuper)).bind

theorem wildcardBound_of_word (nested : Reader TypeExpr) {b b' s : List Char} (hb : Gap b)
    (hb' : Gap b') (hs : Solid s) (r : List Char) :
    wildcardBound nested (b ++ "extends".toList ++ b' ++ s ++ r) =
        (nested (s ++ r)).bind (fun t r => .done ("extends".toList, t) r) ∧
      wildcardBound nested (b ++ "super".toList ++ b' ++ s ++ r) =
        (nested (s ++ r)).bind fun t r => .done ("super".toList, t) r := by
  have hextends (r : List Char) : alt (tag "extends".toList) (tag "super".toList)
      ("extends".toList ++ r) = .done "extends".toList r := alt_of_done (tag_append _ r)
  have hsuper (r : List Char) : alt (tag "extends".toList) (tag "super".toList)
      ("super".toList ++ r) = .done "super".toList r := by
    rw [alt_of_fails (tag_fails_of_head solid_extends ?_), tag_append]
    rw [solid_super.head?_append]
    decide
  rw [wildcardBound, wildcardBound, betweenGaps_append solid_extends hextends hb hb' hs,
    betweenGaps_append solid_super hsuper hb hb' hs]
  exact ⟨rfl, rfl⟩

theorem readWildcard_fails_iff {nested : Reader TypeExpr} {s : List Char} :
    (readWildcard nested s).Fails ↔ s.head? ≠ some '?' := by
  constructor
  · rintro ⟨rest, code, h⟩
    rcases Step.bind_eq_fail_iff.mp h with h | ⟨_, _, -, h⟩
    · exact char_fails_iff.mp ⟨rest, code, h⟩
    rcases Step.bind_eq_fail_iff.mp h with h | ⟨_, _, -, h⟩
    · exact absurd h (opt_ne_fail _ _ _ _)
    · cases h
  · exact fun h => (char_fails_iff.mpr h).bind

theorem readWildcard_fails_of_name (nested : Reader TypeExpr) {n : List Char}
    (hn : IsQualifiedName n) (r : List Char) : (readWildcard nested (n ++ r)).Fails := by
  obtain ⟨c, n, rfl, hc⟩ := hn.head
  rw [readWildcard_fails_iff, List.cons_append, List.head?_cons]
  intro h
  cases h
  have hpart := isIdentPart_of_isIdentStart hc
  rw [isIdentPart_of_mem '?' (by decide)] at hpart
  cases hpart

/-- A dimension follows neither a name that goes on nor arguments. -/
theorem brackets_endsName (nested : Reader TypeExpr) {b : List Char} (hb : Blanks b) (s : List Char) :
    EndsName (b ++ '[' :: s) ∧ (arguments nested (b ++ '[' :: s)).Fails := by
  refine ⟨endsName_append hb (by decide), arguments_fails ?_⟩
  rw [skipBlanks_append_cons hb rfl, List.head?_cons]
  decide

section
variable {nested : Reader TypeExpr} {d : Nat}

theorem typeWith_append {levels k : Nat} {n r₀ s r : List Char} {as : Option (List TypeExpr)}
    {base : TypeExpr} (hn : IsQualifiedName n) (hr₀ : EndsName r₀)
    (has : opt (arguments nested) r₀ = .done as (s ++ r))
    (hbase : ofNameAndArguments (String.ofList n) as = base) (hs : Dimensions k s) (hr : EndsType r)
    (hk : k ≤ levels) : typeWith nested levels (n ++ r₀) = .done (arrays k base) r := by
  obtain ⟨ws, rfl, hdimensions⟩ := dimensions_append (r := r) hs fun r' h => by
    refine hr.head?_ne (c := '[') (by decide) ?_
    rw [h, List.head?_cons]
  rw [typeWith, alt_of_fails (readWildcard_fails_of_name nested hn _), readNamed,
    qualifiedName_append hn hr₀, Step.bind, has, Step.bind, hdimensions, Step.bind,
    if_neg (Nat.not_lt.mpr hk), hbase]

theorem typeWith_append_ofName {levels k : Nat} {n s r : List Char} (hn : IsQualifiedName n)
    (hs : Dimensions k s) (hr : EndsType r) (hk : k ≤ levels) :
    typeWith nested levels (n ++ (s ++ r)) = .done (arrays k (ofName (String.ofList n))) r := by
  have hends : EndsName (s ++ r) ∧ (arguments nested (s ++ r)).Fails := by
    cases hs with
    | zero => exact ⟨hr.endsName, arguments_fails (hr.head?_ne (by decide))⟩
    | succ hb =>
      rw [List.append_assoc, List.cons_append]
      exact brackets_endsName nested hb _
  exact typeWith_append hn hends.1 (opt_of_fails hends.2) rfl hs hr hk

variable (hnested : nested.Reads (Written (d + 1)) EndsType)
include hnested

theorem reads_nextArgument :
    (preceded comma fun s => nested (skipBlanks s)).Reads (NextArgument (d + 1)) EndsType := by
  rintro _ r t ⟨b, b', s, hb, hb', rfl, ht⟩ hr
  have hcomma : comma (b ++ ',' :: (b' ++ s) ++ r) = .done () (s ++ r) := by
    rw [comma, List.append_assoc, List.cons_append, skipBlanks_append_cons hb rfl, char_cons,
      Step.bind, List.append_assoc, skipBlanks_append hb', ht.solid.skipBlanks_append]
  rw [preceded, hcomma]
  show nested (skipBlanks (s ++ r)) = _
  rw [ht.solid.skipBlanks_append, hnested ht hr]

theorem arguments_append {b b' s s' b'' : List Char} {t : TypeExpr} {ts : List TypeExpr}
    (hb : Blanks b) (hb' : Blanks b') (ht : Written (d + 1) s t) (hts : WrittenTail (d + 1) s' ts)
    (hb'' : Blanks b'') (r : List Char) :
    arguments nested (b ++ '<' :: (b' ++ s ++ s' ++ b'' ++ ['>']) ++ r) = .done (t :: ts) r := by
  have hopen : skipBlanks (b ++ '<' :: (b' ++ s ++ s' ++ b'' ++ ['>']) ++ r) =
      '<' :: (b' ++ (s ++ (s' ++ (b'' ++ '>' :: r)))) := by
    rw [List.append_assoc, List.cons_append, skipBlanks_append_cons hb rfl]
    simp
  have hclose : skipBlanks (b'' ++ '>' :: r) = '>' :: r := skipBlanks_append_cons hb'' rfl r
  have hmore : manyWith .separatedList (preceded comma fun s => nested (skipBlanks s))
      (s' ++ (b'' ++ '>' :: r)) = .done ts (b'' ++ '>' :: r) := by
    have hstop : (comma (b'' ++ '>' :: r)).Fails := by
      refine (char_fails_iff.mpr ?_).bind
      rw [hclose, List.head?_cons]
      decide
    exact manyWith_append (fun _ _ h => h.ne_nil) (reads_nextArgument hnested) (fun _ _ h => h.endsType)
      (writtenTail_iff.mp hts) (.append hb'' (.inr rfl)) hstop.bind
  rw [arguments, hopen, char_cons]
  simp only [Step.bind, separated1, skipBlanks_append hb', ht.solid.skipBlanks_append,
    hnested ht (hts.endsType hb''), hmore, hclose, char_cons]

theorem wildcardBound_append {b b' s r : List Char} {t : TypeExpr} (hb : Gap b) (hb' : Gap b')
    (ht : Written (d + 1) s t) (hr : EndsType r) :
    wildcardBound nested (b ++ "extends".toList ++ b' ++ s ++ r) = .done ("extends".toList, t) r ∧
      wildcardBound nested (b ++ "super".toList ++ b' ++ s ++ r) = .done ("super".toList, t) r := by
  obtain ⟨hextends, hsuper⟩ := wildcardBound_of_word nested hb hb' ht.solid r
  rw [hextends, hsuper, hnested ht hr]
  exact ⟨rfl, rfl⟩

theorem reads_typeWith {levels : Nat} (hd : d + levels = maxNesting) :
    (typeWith nested levels).Reads (Written d) EndsType := by
  have hwildcard {r r' : List Char} {bound : Option (List Char × TypeExpr)}
      (h : opt (wildcardBound nested) r = .done bound r') :
      typeWith nested levels ('?' :: r) = .done (.wildcard
        (bound.bind fun b => if b.1 = "extends".toList then some b.2 else none)) r' := by
    refine alt_of_done ?_
    rw [readWildcard, char_cons, Step.bind, h, Step.bind]
  intro p r t h hr
  cases h with
  | wildcard => exact hwildcard (opt_of_fails (wildcardBound_fails hr))
  | upperBound _ hb hb' ht =>
    exact hwildcard (opt_of_done (wildcardBound_append hnested hb hb' ht hr).1)
  | lowerBound _ hb hb' ht =>
    exact hwildcard (opt_of_done (wildcardBound_append hnested hb hb' ht hr).2)
  | @named _ k s s' t hname hs' hk =>
    have hk' : k ≤ levels := by omega
    rw [List.append_assoc]
    cases hname with
    | primitive kind =>
      rw [typeWith_append_ofName (.single (isIdentifier_word kind)) hs' hr hk', String.ofList_toList,
        ofName_word]
    | void =>
      rw [typeWith_append_ofName (.single isIdentifier_void) hs' hr hk', String.ofList_toList]
      rfl
    | raw hn hreserved =>
      rw [typeWith_append_ofName hn hs' hr hk', ofName_of_not_isReserved hreserved]
    | generic hn hb hb' ht hts hb'' =>
      have harguments := arguments_append hnested hb hb' ht hts hb'' (s' ++ r)
      rw [List.append_assoc]
      refine typeWith_append hn ?_ (opt_of_done harguments) rfl hs' hr hk'
      rw [List.append_assoc, List.cons_append]
      exact endsName_append hb (by decide)

end

theorem reads_typeAt {d levels : Nat} (hd : d + levels = maxNesting) :
    (typeAt levels).Reads (Written d) EndsType := by
  induction levels generalizing d with
  | zero =>
    refine reads_typeWith (fun p r t h _ => ?_) hd
    have := h.depth_le
    omega
  | succ levels ih => exact reads_typeWith (ih (by omega)) hd

theorem takes_parameterBound : parameterBound.Takes fun p t =>
    ∃ b b' s, Gap b ∧ Gap b' ∧ p = b ++ "extends".toList ++ b' ++ s ∧ Written 0 s t := by
  have hword : Reader.Takes (tag "extends".toList) fun w _ => w = "extends".toList := by
    intro s r w h
    obtain ⟨rfl, rfl⟩ := tag_eq_done_iff.mp h
    exact ⟨_, rfl, rfl⟩
  intro s r t h
  obtain ⟨_, r₁, hgaps, hbound⟩ := Step.bind_eq_done_iff.mp h
  obtain ⟨_, rfl, b, _, b', hb, hb', rfl, rfl⟩ := takes_betweenGaps hword hgaps
  obtain ⟨p, rfl, ht⟩ := takes_typeAt (Nat.zero_add _) hbound
  exact ⟨b ++ "extends".toList ++ b' ++ p, (List.append_assoc ..).symm, b, b', p, hb, hb', rfl, ht⟩

theorem parameterBound_of_word {b b' s : List Char} (hb : Gap b) (hb' : Gap b') (hs : Solid s)
    (r : List Char) :
    parameterBound (b ++ "extends".toList ++ b' ++ s ++ r) = typeAt maxNesting (s ++ r) := by
  rw [parameterBound, betweenGaps_append solid_extends (fun r => tag_append _ r) hb hb' hs, Step.bind]

theorem takes_typeParameter : typeParameter.Takes TypeParameter.Written := by
  intro s r p h
  obtain ⟨i, r₁, hname, h⟩ := Step.bind_eq_done_iff.mp h
  obtain ⟨bound, r₂, hbound, h⟩ := Step.bind_eq_done_iff.mp h
  cases h
  obtain ⟨_, rfl, rfl, hi⟩ := takes_identifier hname
  rcases opt_eq_done_iff.mp hbound with ⟨t, rfl, hread⟩ | ⟨rfl, -, rfl⟩
  · obtain ⟨_, rfl, b, b', s, hb, hb', rfl, ht⟩ := takes_parameterBound hread
    exact ⟨_, (List.append_assoc ..).symm, .bounded hi hb hb' ht⟩
  · exact ⟨i, rfl, .plain hi⟩

theorem EndsName.endsIdentifier {r : List Char} (h : EndsName r) : EndsIdentifier r :=
  fun c hc => (h c hc).1

theorem reads_typeParameter : typeParameter.Reads TypeParameter.Written EndsType := by
  intro s r p h hr
  cases h with
  | plain hi =>
    have hfails : (parameterBound r).Fails :=
      (betweenGaps_fails (tag_fails_of_head solid_extends
        (hr.head?_ne (c := 'e') (by decide)))).bind
    rw [typeParameter, reads_identifier ⟨rfl, hi⟩ hr.endsName.endsIdentifier, Step.bind,
      opt_of_fails hfails, Step.bind]
  | @bounded i b b' s t hi hb hb' ht =>
    have hends : EndsIdentifier (b ++ "extends".toList ++ b' ++ s ++ r) := by
      simp only [List.append_assoc]
      exact (endsName_of_gap hb _).endsIdentifier
    have hbound := parameterBound_of_word hb hb' ht.solid r
    rw [reads_typeAt (Nat.zero_add _) ht hr] at hbound
    rw [List.append_assoc, typeParameter, reads_identifier ⟨rfl, hi⟩ hends, Step.bind,
      opt_of_done hbound, Step.bind]

theorem solid_of_written {s : List Char} {p : TypeParameter} (h : TypeParameter.Written s p) :
    Solid s := by
  cases h with
  | plain hi => exact (IsQualifiedName.single hi).solid
  | bounded hi => exact (IsQualifiedName.single hi).solid.append _

/-! ### Whole texts -/

theorem complete_eq_ok_iff {read : Reader α} {W : List Char → α → Prop} (htakes : read.Takes W)
    (hreads : read.Reads W EndsType) (hsolid : ∀ {p a}, W p a → Solid p) {input : String} {a : α} :
    complete read input = .ok a ↔ Encloses input fun p => W p a := by
  constructor
  · intro h
    unfold complete at h
    split at h
    next a' r hdone =>
      cases h
      obtain ⟨a', r', hblanks, hend⟩ := Step.bind_eq_done_iff.mp hdone
      obtain ⟨a', r₁, hread, hrest⟩ := Step.bind_eq_done_iff.mp hblanks
      cases hrest
      split at hend
      next hnil =>
        cases hend
        obtain ⟨b, hb, hinput⟩ := exists_blanks input.toList
        obtain ⟨p, hp, hW⟩ := htakes hread
        refine ⟨b, p, r₁, ?_, hb, skipBlanks_eq_nil_iff.mp (List.isEmpty_iff.mp hnil), hW⟩
        rw [hinput, hp, List.append_assoc]
      · cases hend
    · cases h
    · cases h
  · rintro ⟨b, p, b', hinput, hb, hb', hW⟩
    have hskip : skipBlanks input.toList = p ++ b' := by
      rw [hinput, List.append_assoc, skipBlanks_append hb, (hsolid hW).skipBlanks_append]
    simp only [complete, allConsuming, betweenBlanks, hskip, hreads hW (.of_blanks hb'), Step.bind,
      skipBlanks_eq_nil_iff.mpr hb', List.isEmpty_nil, if_true]

theorem parse_eq_ok_iff {input : String} {t : TypeExpr} :
    parse input = .ok t ↔ Encloses input fun s => Written 0 s t :=
  complete_eq_ok_iff (takes_typeAt (Nat.zero_add _)) (reads_typeAt (Nat.zero_add _)) Written.solid

theorem parse_eq_ok_iff_of_parameter {input : String} {p : TypeParameter} :
    TypeParameter.parse input = .ok p ↔ Encloses input fun s => TypeParameter.Written s p :=
  complete_eq_ok_iff takes_typeParameter reads_typeParameter solid_of_written

/-- `parse` gives `t` for exactly the texts that enclose one `Written` for `t`, and no text is
written for two types. So does `TypeParameter.parse`. -/
theorem parse_iff_written :
    (∀ input t, parse input = .ok t ↔ Encloses input fun s => Written 0 s t) ∧
    (∀ input t t', (Encloses input fun s => Written 0 s t) → (Encloses input fun s => Written 0 s t') →
      t = t') ∧
    (∀ input p, TypeParameter.parse input = .ok p ↔
      Encloses input fun s => TypeParameter.Written s p) ∧
    ∀ input p p', (Encloses input fun s => TypeParameter.Written s p) →
      (Encloses input fun s => TypeParameter.Written s p') → p = p' := by
  refine ⟨fun _ _ => parse_eq_ok_iff, fun input t t' h h' => ?_,
    fun _ _ => parse_eq_ok_iff_of_parameter, fun input p p' h h' => ?_⟩
  · have hread := parse_eq_ok_iff.mpr h
    rw [parse_eq_ok_iff.mpr h'] at hread
    exact (Except.ok.inj hread).symm
  · have hread := parse_eq_ok_iff_of_parameter.mpr h
    rw [parse_eq_ok_iff_of_parameter.mpr h'] at hread
    exact (Except.ok.inj hread).symm

theorem parse_iff_written_box :
    parse "Box <?  super T >[ ]" ≠ .ok (.array (.declared ⟨"Box"⟩ [.wildcard none])) ∧
    parse "Box <?  super T > []" = .ok (.array (.declared ⟨"Box"⟩ [.wildcard none])) ∧
    Encloses "Box <?  super T > []" fun s =>
      Written 0 s (.array (.declared ⟨"Box"⟩ [.wildcard none])) :=
  have h : parse "Box <?  super T > []" = .ok (.array (.declared ⟨"Box"⟩ [.wildcard none])) := by
    decide +kernel
  ⟨by decide +kernel, h, (parse_iff_written.1 _ _).mp h⟩

end WireShape.TypeExpr
