import WireShape.Proofs.TypeExpr.Parsing

/-! # The longest part that is read

Reading takes as much as it can. With anything behind it, a text of a type is still read to its end at
least, unless it nests too deep there: more may belong to the last name, the last dimensions or the
last bound, and an optional part that comes to nothing is given back up to where it started, which is
behind the text. So what a refused text leaves over starts behind the longest part that is a type. -/

namespace WireShape.TypeExpr

open Text (Code Reader Step skipBlanks)
open Text.Reader

variable {α : Type} {n r s : List Char}

section
variable {nested : Reader TypeExpr} {d levels : Nat} {x : Step (List (List Char))}

theorem reaches_arrays (h : x.Reaches r) (base : TypeExpr) :
    (x.bind fun ws r => if ws.length > levels then .tooDeep else .done (arrays ws.length base) r).Reaches
      r := by
  refine h.bind fun ws r' hr' => ?_
  split
  · trivial
  · exact hr'

variable (htakes : nested.Takes (Written (d + 1)))
include htakes

theorem typeWith_reaches_name {k : Nat} (hn : IsQualifiedName n) (hs : Dimensions k s)
    (r : List Char) : (typeWith nested levels (n ++ (s ++ r))).Reaches r := by
  rw [typeWith, alt_of_fails (readWildcard_fails_of_name nested hn _), readNamed]
  cases hs with
  | zero =>
    -- what follows may go on with the name, or give it arguments
    refine (qualifiedName_reaches hn r).bind fun n' r₀ hr₀ => ?_
    refine ((opt_reaches_self (takes_arguments htakes) r₀).mono hr₀).bind fun as r₁ hr₁ => ?_
    exact reaches_arrays ((dimensions_reaches .zero r₁).mono hr₁) _
  | @succ k b s hb hs =>
    have hdimensions := dimensions_reaches (.succ hb hs) r
    rw [List.append_assoc, List.cons_append] at hdimensions ⊢
    obtain ⟨hends, hfails⟩ := brackets_endsName nested hb (']' :: s ++ r)
    rw [qualifiedName_append hn hends, Step.bind, opt_of_fails hfails]
    exact reaches_arrays hdimensions _

variable (hreads : nested.Reads (Written (d + 1)) EndsType)
  (hreaches : ∀ {p t}, Written (d + 1) p t → ∀ r, (nested (p ++ r)).Reaches r)
include hreads hreaches

theorem typeWith_reaches {p : List Char} {t : TypeExpr} (h : Written d p t) (r : List Char) :
    (typeWith nested levels (p ++ r)).Reaches r := by
  have hwildcard {s : List Char} (hs : (opt (wildcardBound nested) s).Reaches r) :
      (typeWith nested levels ('?' :: s)).Reaches r := by
    refine alt_reaches ?_
    rw [readWildcard, char_cons]
    exact hs.map _
  cases h with
  | wildcard => exact hwildcard (opt_reaches_self (takes_wildcardBound htakes) r)
  | upperBound _ hb hb' ht =>
    rw [List.cons_append]
    refine hwildcard (opt_reaches ?_)
    rw [(wildcardBound_of_word nested hb hb' ht.solid r).1]
    exact (hreaches ht r).map _
  | lowerBound _ hb hb' ht =>
    rw [List.cons_append]
    refine hwildcard (opt_reaches ?_)
    rw [(wildcardBound_of_word nested hb hb' ht.solid r).2]
    exact (hreaches ht r).map _
  | @named _ k s s' t hname hs hk =>
    rw [List.append_assoc]
    cases hname with
    | primitive kind => exact typeWith_reaches_name htakes (.single (isIdentifier_word kind)) hs r
    | void => exact typeWith_reaches_name htakes (.single isIdentifier_void) hs r
    | raw hn => exact typeWith_reaches_name htakes hn hs r
    | generic hn hb hb' ht hts hb'' =>
      rw [List.append_assoc, typeWith, alt_of_fails (readWildcard_fails_of_name nested hn _), readNamed,
        qualifiedName_append hn ?_, Step.bind,
        -- the closing bracket ends the arguments, whatever follows
        opt_of_done (arguments_append hreads hb hb' ht hts hb'' _)]
      · exact reaches_arrays (dimensions_reaches hs r) _
      · rw [List.append_assoc, List.cons_append]
        exact endsName_append hb (by decide)

end

theorem typeAt_reaches {d levels : Nat} (hd : d + levels = maxNesting) {p : List Char}
    {t : TypeExpr} (h : Written d p t) (r : List Char) : (typeAt levels (p ++ r)).Reaches r := by
  induction levels generalizing d p t r with
  | zero =>
    have hdeep {p : List Char} {t : TypeExpr} (h : Written (d + 1) p t) : False := by
      have := h.depth_le
      omega
    exact typeWith_reaches (fun _ _ _ h => by cases h) (fun _ _ _ h _ => (hdeep h).elim)
      (fun h _ => (hdeep h).elim) h r
  | succ levels ih =>
    exact typeWith_reaches (takes_typeAt (by omega)) (reads_typeAt (by omega))
      (fun h r => ih (by omega) h r) h r

theorem typeParameter_reaches {s : List Char} {p : TypeParameter}
    (h : TypeParameter.Written s p) (r : List Char) : (typeParameter (s ++ r)).Reaches r := by
  cases h with
  | plain hi =>
    -- a word that would be the bound's may go on behind the name
    exact (identifier_reaches hi r).bind fun i r₀ hr₀ =>
      ((opt_reaches_self takes_parameterBound r₀).map _).mono hr₀
  | @bounded i b b' s t hi hb hb' ht =>
    have hends : EndsIdentifier (b ++ "extends".toList ++ b' ++ s ++ r) := by
      simp only [List.append_assoc]
      exact (endsName_of_gap hb _).endsIdentifier
    have hbound : (parameterBound (b ++ "extends".toList ++ b' ++ s ++ r)).Reaches r := by
      rw [parameterBound_of_word hb hb' ht.solid]
      exact typeAt_reaches (Nat.zero_add _) ht r
    rw [List.append_assoc, typeParameter, reads_identifier ⟨rfl, hi⟩ hends]
    exact (opt_reaches hbound).map _

theorem of_readNamed_eq_fail {nested : Reader TypeExpr} {levels : Nat} {code : Code}
    (h : readNamed nested levels s = .fail r code) :
    r = s ∧ code = .satisfy ∧ ∀ c ∈ s.head?, isIdentStart c = false := by
  rcases Step.bind_eq_fail_iff.mp h with h | ⟨_, _, -, h⟩
  · exact of_qualifiedName_eq_fail h
  rcases Step.bind_eq_fail_iff.mp h with h | ⟨as, r₁, -, h⟩
  · exact absurd h (opt_ne_fail _ _ _ _)
  · exact absurd h ((reaches_arrays (dimensions_reaches .zero r₁) _).ne_fail _ _)

theorem of_typeWith_eq_fail {nested : Reader TypeExpr} {levels : Nat} {code : Code}
    (h : typeWith nested levels s = .fail r code) :
    r = s ∧ code = .satisfy ∧ ∀ c ∈ s.head?, c ≠ '?' ∧ isIdentStart c = false := by
  obtain ⟨hwildcard, hnamed⟩ := alt_eq_fail_iff.mp h
  obtain ⟨hr, hcode, hstart⟩ := of_readNamed_eq_fail hnamed
  refine ⟨hr, hcode, fun c hc => ⟨?_, hstart c hc⟩⟩
  rintro rfl
  exact readWildcard_fails_iff.mp hwildcard hc

theorem of_typeAt_eq_fail {levels : Nat} {code : Code} (h : typeAt levels s = .fail r code) :
    r = s ∧ code = .satisfy ∧ ∀ c ∈ s.head?, c ≠ '?' ∧ isIdentStart c = false := by
  cases levels with
  | zero => exact of_typeWith_eq_fail h
  | succ levels => exact of_typeWith_eq_fail h

theorem of_typeParameter_eq_fail {code : Code} (h : typeParameter s = .fail r code) :
    r = s ∧ code = .satisfy ∧ ∀ c ∈ s.head?, isIdentStart c = false := by
  rcases Step.bind_eq_fail_iff.mp h with h | ⟨_, _, -, h⟩
  · exact of_identifier_eq_fail h
  rcases Step.bind_eq_fail_iff.mp h with h | ⟨_, _, -, h⟩
  · exact absurd h (opt_ne_fail _ _ _ _)
  · cases h

/-! ### Whole texts -/

/-- `rest` is what stands in `input` behind the longest part from its start that is accepted. -/
structure BehindLongest (Accepted : String → Prop) (input : String) (rest : List Char) : Prop where
  /-- There is something left, and it starts with no blank. -/
  solid : Solid rest
  longest : ∃ p, input.toList = p ++ rest ∧ Accepted (String.ofList p) ∧
    ∀ q, q <+: input.toList → p.length < q.length → ¬ Accepted (String.ofList q)

theorem solid_of_skipBlanks_ne_nil (h : skipBlanks r ≠ []) : Solid (skipBlanks r) := by
  obtain ⟨c, s, hs⟩ := List.exists_cons_of_ne_nil h
  exact ⟨c, by rw [hs]; rfl, isBlank_of_skipBlanks hs⟩

/-- The blanks at the end of what is read count for it, wherever in them reading has ended. -/
theorem length_skipBlanks_le {b : List Char} (hb : Blanks b) (h : r <:+ b ++ s) :
    (skipBlanks r).length ≤ s.length := by
  induction b with
  | nil => exact ((List.dropWhile_suffix _).trans h).length_le
  | cons c b ih =>
    rw [List.cons_append, List.suffix_cons_iff] at h
    rcases h with heq | h
    · rw [heq, ← List.cons_append, skipBlanks_append hb]
      exact (List.dropWhile_suffix _).length_le
    · exact ih (fun c' hc' => hb c' (List.mem_cons_of_mem _ hc')) h

section
variable {read : Reader α} {W : List Char → α → Prop}
  (hreaches : ∀ {p a}, W p a → ∀ r, (read (p ++ r)).Reaches r)
  (hsolid : ∀ {p a}, W p a → Solid p)
include hreaches hsolid

theorem leftover_length_le {q : List Char} {a : α} (hdone : read (skipBlanks (q ++ s)) = .done a r)
    (hq : ∃ a, Encloses (String.ofList q) fun p => W p a) : (skipBlanks r).length ≤ s.length := by
  obtain ⟨a, b, p, b', hq, hb, hb', hW⟩ := hq
  rw [String.toList_ofList] at hq
  have hskip : skipBlanks (q ++ s) = p ++ (b' ++ s) := by
    rw [hq, List.append_assoc, List.append_assoc, skipBlanks_append hb,
      (hsolid hW).skipBlanks_append]
  have hreached := hreaches hW (b' ++ s)
  rw [← hskip, hdone] at hreached
  exact length_skipBlanks_le hb' hreached

/-- `complete` refuses a text where `read` fails at its start, or with `.eof` for what `read` leaves
of it. -/
theorem complete_eq_error (htakes : read.Takes W) (hreads : read.Reads W EndsType)
    {input : String} {e : ParseError} (h : complete read input = .error e) (he : e ≠ .tooDeep) :
    ∃ rest code, e = .mismatch rest code ∧
      (read (skipBlanks input.toList) = .fail rest code ∨
        code = .eof ∧ BehindLongest (fun text => ∃ a, complete read text = .ok a) input rest) := by
  have haccepted {text : String} : (∃ a, complete read text = .ok a) ↔
      ∃ a, Encloses text fun p => W p a :=
    exists_congr fun _ => complete_eq_ok_iff htakes hreads hsolid
  unfold complete at h
  split at h
  · cases h
  next rest code hfail =>
    cases h
    refine ⟨rest, code, rfl, ?_⟩
    rcases Step.bind_eq_fail_iff.mp hfail with hfail | ⟨a, _, hblanks, hend⟩
    · rcases Step.bind_eq_fail_iff.mp hfail with hfail | ⟨_, _, -, hfail⟩
      · exact .inl hfail
      · cases hfail
    · obtain ⟨a, r, hread, hrest⟩ := Step.bind_eq_done_iff.mp hblanks
      cases hrest
      split at hend
      · cases hend
      next hne =>
        cases hend
        have hsolidRest : Solid (skipBlanks r) :=
          solid_of_skipBlanks_ne_nil fun hnil => hne (List.isEmpty_iff.mpr hnil)
        refine .inr ⟨rfl, hsolidRest, ?_⟩
        obtain ⟨b, hb, hinput⟩ := exists_blanks input.toList
        obtain ⟨p, hp, hW⟩ := htakes hread
        obtain ⟨b', hb', hr⟩ := exists_blanks r
        have htext : input.toList = b ++ p ++ b' ++ skipBlanks r := by
          rw [List.append_assoc, ← hr, List.append_assoc, ← hp, ← hinput]
        refine ⟨b ++ p ++ b', htext, ?_, fun q hq hlength hok => ?_⟩
        · exact haccepted.mpr ⟨a, b, p, b', String.toList_ofList, hb, hb', hW⟩
        · -- a longer part would have been read to its end
          obtain ⟨s, hs⟩ := hq
          rw [← hs] at hread
          have hle := leftover_length_le hreaches hsolid hread (haccepted.mp hok)
          have hlengths := congrArg List.length (hs.trans htext)
          rw [List.length_append, List.length_append] at hlengths
          omega
  · cases h
    exact absurd rfl he

end

/-- A text that `parse` refuses for another reason than its depth is reported with `.satisfy` and all of
it but the blanks at its start where nothing stands that could start a type, and else with `.eof` and
what is `BehindLongest`. `TypeParameter.parse` refuses likewise. -/
theorem parse_error_position :
    (∀ input e, parse input = .error e → e ≠ .tooDeep →
      ∃ rest code name, e = .mismatch rest code ∧
        e.message .typeExpression input =
          "'" ++ input ++ "' is not a " ++ "type expression" ++ ": Parsing Error: Error \x7b input: " ++
            String.ofList (Text.Quoted.encode rest) ++ ", code: " ++ name ++ " \x7d" ∧
        (code = .satisfy ∧ name = "Satisfy" ∧ rest = skipBlanks input.toList ∧
            (∀ c ∈ rest.head?, c ≠ '?' ∧ isIdentStart c = false) ∨
          code = .eof ∧ name = "Eof" ∧
            BehindLongest (fun text => ∃ t, parse text = .ok t) input rest)) ∧
    ∀ input e, TypeParameter.parse input = .error e → e ≠ .tooDeep →
      ∃ rest code name, e = .mismatch rest code ∧
        e.message .typeParameter input =
          "'" ++ input ++ "' is not a " ++ "type parameter" ++ ": Parsing Error: Error \x7b input: " ++
            String.ofList (Text.Quoted.encode rest) ++ ", code: " ++ name ++ " \x7d" ∧
        (code = .satisfy ∧ name = "Satisfy" ∧ rest = skipBlanks input.toList ∧
            (∀ c ∈ rest.head?, isIdentStart c = false) ∨
          code = .eof ∧ name = "Eof" ∧
            BehindLongest (fun text => ∃ p, TypeParameter.parse text = .ok p) input rest) := by
  constructor
  · intro input e h he
    obtain ⟨rest, code, rfl, hfail | ⟨rfl, hrest⟩⟩ :=
      complete_eq_error (W := Written 0) (typeAt_reaches (Nat.zero_add _)) Written.solid
        (takes_typeAt (Nat.zero_add _)) (reads_typeAt (Nat.zero_add _)) h he
    · obtain ⟨rfl, rfl, hstart⟩ := of_typeAt_eq_fail hfail
      exact ⟨_, _, _, rfl, rfl, .inl ⟨rfl, rfl, rfl, hstart⟩⟩
    · exact ⟨rest, _, _, rfl, rfl, .inr ⟨rfl, rfl, hrest⟩⟩
  · intro input e h he
    obtain ⟨rest, code, rfl, hfail | ⟨rfl, hrest⟩⟩ :=
      complete_eq_error (W := TypeParameter.Written) typeParameter_reaches solid_of_written
        takes_typeParameter reads_typeParameter h he
    · obtain ⟨rfl, rfl, hstart⟩ := of_typeParameter_eq_fail hfail
      exact ⟨_, _, _, rfl, rfl, .inl ⟨rfl, rfl, rfl, hstart⟩⟩
    · exact ⟨rest, _, _, rfl, rfl, .inr ⟨rfl, rfl, hrest⟩⟩

/-- The second argument is no type, so both are given back, with the blank before them. -/
theorem parse_error_position_box :
    parse " Box <int, ? extends 7>" = .error (.mismatch "<int, ? extends 7>".toList .eof) ∧
    (∃ t, parse " Box " = .ok t) ∧
    (∀ q, q <+: " Box <int, ? extends 7>".toList → 5 < q.length →
      ∀ t, parse (String.ofList q) ≠ .ok t) ∧
    TypeParameter.parse "\t?" = .error (.mismatch ['?'] .satisfy) ∧ isIdentStart '?' = false := by
  have hbox : parse " Box <int, ? extends 7>" =
      .error (.mismatch "<int, ? extends 7>".toList .eof) := by
    decide +kernel
  have hparameter : TypeParameter.parse "\t?" = .error (.mismatch ['?'] .satisfy) := by
    decide +kernel
  obtain ⟨_, _, _, h, -, ⟨rfl, -⟩ | ⟨rfl, -, -, p, hp, hok, hlongest⟩⟩ :=
    parse_error_position.1 _ _ hbox (fun h => nomatch h)
  · cases h
  cases h
  obtain ⟨_, _, _, h, -, ⟨rfl, -, -, hstart⟩ | ⟨rfl, -⟩⟩ :=
    parse_error_position.2 _ _ hparameter (fun h => nomatch h)
  · cases h
    have hpart : p = " Box ".toList := List.append_cancel_right (hp.symm.trans (by decide))
    subst hpart
    refine ⟨hbox, ?_, fun q hq hlength t ht => hlongest q hq hlength ⟨t, ht⟩, hparameter, hstart _ rfl⟩
    rwa [String.ofList_toList] at hok
  · cases h

end WireShape.TypeExpr
