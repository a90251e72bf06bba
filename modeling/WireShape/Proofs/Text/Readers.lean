import Mathlib.Data.List.Basic
import WireShape.Text.Reader

/-! # What readers take

`Takes read W`: what `read` takes is a text of its value, `W` saying which texts are. `Reads read W E`:
where `E` holds of what follows, a text is read as its value and to its end. What follows may go on with
the text otherwise, and then `Step.Reaches` says that reading still gets to its end at least.
`manyWith` has all three from its items, for the texts that are `Repeated W`. -/

namespace WireShape.Text
variable {α β : Type} {r s : List Char}

namespace Step

def Fails (x : Step α) : Prop := ∃ rest code, x = .fail rest code

/-- The step ends where `r` starts or later, or is `tooDeep`. -/
def Reaches (r : List Char) : Step α → Prop
  | .done _ r' => r' <:+ r
  | .fail _ _ => False
  | .tooDeep => True

section
variable {x : Step α} {f : α → List Char → Step β}

theorem bind_eq_done_iff {b : β} :
    x.bind f = .done b r ↔ ∃ a r', x = .done a r' ∧ f a r' = .done b r := by
  cases x <;> simp [bind]

theorem bind_eq_fail_iff {code : Code} : x.bind f = .fail r code ↔
    x = .fail r code ∨ ∃ a r', x = .done a r' ∧ f a r' = .fail r code := by
  cases x <;> simp [bind]

theorem Fails.bind (h : x.Fails) : (x.bind f).Fails := by
  obtain ⟨rest, code, rfl⟩ := h
  exact ⟨rest, code, rfl⟩

theorem Reaches.bind (h : x.Reaches r) (hf : ∀ a r', r' <:+ r → (f a r').Reaches r) :
    (x.bind f).Reaches r := by
  cases x with
  | done a r' => exact hf a r' h
  | fail rest code => exact h.elim
  | tooDeep => trivial

theorem Reaches.map (h : x.Reaches r) (g : α → β) : (x.bind fun a r => .done (g a) r).Reaches r :=
  h.bind fun _ _ hr' => hr'

theorem Reaches.mono {r' : List Char} (h : x.Reaches r') (hr : r' <:+ r) : x.Reaches r := by
  cases x with
  | done a r'' => exact List.IsSuffix.trans h hr
  | fail rest code => exact h.elim
  | tooDeep => trivial

theorem Reaches.ne_fail (h : x.Reaches r) (rest : List Char) (code : Code) : x ≠ .fail rest code := by
  rintro rfl
  exact h

end

end Step

namespace Reader
variable {read read' item : Reader α} {W : List Char → α → Prop} {E : List Char → Prop}

def Takes (read : Reader α) (W : List Char → α → Prop) : Prop :=
  ∀ ⦃s r a⦄, read s = .done a r → ∃ t, s = t ++ r ∧ W t a

def Reads (read : Reader α) (W : List Char → α → Prop) (E : List Char → Prop) : Prop :=
  ∀ ⦃t r a⦄, W t a → E r → read (t ++ r) = .done a r

section
variable {p : Char → Bool} {c c' : Char} {w w' : List Char} {code : Code}

theorem satisfy_eq_done_iff : satisfy p s = .done c r ↔ s = c :: r ∧ p c = true := by
  cases s with
  | nil => simp [satisfy]
  | cons c' s =>
    simp only [satisfy, List.cons.injEq]
    split
    next hp =>
      simp only [Step.done.injEq]
      constructor
      · rintro ⟨rfl, rfl⟩
        exact ⟨⟨rfl, rfl⟩, hp⟩
      · rintro ⟨⟨rfl, rfl⟩, -⟩
        exact ⟨rfl, rfl⟩
    next hp =>
      simp only [reduceCtorEq, false_iff]
      rintro ⟨⟨rfl, rfl⟩, hc⟩
      exact hp hc

theorem of_satisfy_eq_fail (h : satisfy p s = .fail r code) :
    r = s ∧ code = .satisfy ∧ ∀ c ∈ s.head?, p c = false := by
  cases s with
  | nil =>
    cases h
    exact ⟨rfl, rfl, nofun⟩
  | cons c s =>
    rw [satisfy] at h
    split at h
    · cases h
    next hp =>
      cases h
      exact ⟨rfl, rfl, fun c' hc' => by cases hc'; exact Bool.eq_false_iff.mpr hp⟩

theorem char_cons (c : Char) (s : List Char) : char c (c :: s) = .done c s := if_pos rfl

theorem char_eq_done_iff : char c s = .done c' r ↔ c' = c ∧ s = c :: r := by
  cases s with
  | nil => simp [char]
  | cons c'' s =>
    simp only [char, List.cons.injEq]
    split
    next hc =>
      subst hc
      simp only [Step.done.injEq, true_and]
      exact and_congr_left fun _ => eq_comm
    next hc => simp [hc]

theorem char_fails_iff : (char c s).Fails ↔ s.head? ≠ some c := by
  cases s with
  | nil => simp [char, Step.Fails]
  | cons c' s =>
    rw [char, List.head?_cons]
    split
    next hc => simp [Step.Fails, hc]
    next hc => simp [Step.Fails, hc]

theorem tag_eq_done_iff : tag w s = .done w' r ↔ w' = w ∧ s = w ++ r := by
  have hiff : w.isPrefixOf? s = some r ↔ w ++ r = s := List.isPrefixOf?_eq_some_iff_append_eq
  unfold tag
  cases h : w.isPrefixOf? s with
  | none =>
    rw [h] at hiff
    simp only [reduceCtorEq, false_iff] at hiff ⊢
    exact fun heq => hiff heq.2.symm
  | some r' =>
    rw [h, Option.some.injEq] at hiff
    simp only [Step.done.injEq, eq_comm (a := w'), eq_comm (a := s), hiff]

theorem tag_append (w r : List Char) : tag w (w ++ r) = .done w r := tag_eq_done_iff.mpr ⟨rfl, rfl⟩

theorem tag_fails (h : ∀ r, s ≠ w ++ r) : (tag w s).Fails := by
  cases heq : tag w s with
  | done w' r => exact absurd (tag_eq_done_iff.mp heq).2 (h r)
  | fail rest code => exact ⟨rest, code, rfl⟩
  | tooDeep =>
    unfold tag at heq
    split at heq <;> cases heq

end

/-! ### Parts -/

theorem recognize_append {t : List Char} {a : α} (h : read (t ++ r) = .done a r) :
    recognize read (t ++ r) = .done t r := by
  rw [recognize, h, Step.bind, List.length_append, Nat.add_sub_cancel, List.take_left]

theorem takes_recognize (h : read.Takes W) :
    (recognize read).Takes fun t t' => t' = t ∧ ∃ a, W t a := by
  intro s r t' hs
  obtain ⟨a, r', hread, hrest⟩ := Step.bind_eq_done_iff.mp hs
  obtain ⟨t, rfl, hW⟩ := h hread
  rw [recognize_append hread, Step.done.injEq] at hs
  obtain ⟨rfl, rfl⟩ := hs
  exact ⟨_, rfl, rfl, a, hW⟩

theorem recognize_reaches (h : (read s).Reaches r) : (recognize read s).Reaches r :=
  h.bind fun _ _ hr' => hr'

theorem of_recognize_eq_fail {code : Code} (h : recognize read s = .fail r code) :
    read s = .fail r code := by
  rcases Step.bind_eq_fail_iff.mp h with h | ⟨_, _, _, h⟩
  · exact h
  · cases h

theorem alt_eq_done_iff {a : α} : alt read read' s = .done a r ↔
    read s = .done a r ∨ (read s).Fails ∧ read' s = .done a r := by
  unfold alt
  cases read s <;> simp [Step.Fails]

theorem alt_eq_fail_iff {code : Code} : alt read read' s = .fail r code ↔
    (read s).Fails ∧ read' s = .fail r code := by
  unfold alt
  cases read s <;> simp [Step.Fails]

theorem alt_of_fails (h : (read s).Fails) : alt read read' s = read' s := by
  obtain ⟨rest, code, h⟩ := h
  simp only [alt, h]

theorem alt_fails (h : (read s).Fails) (h' : (read' s).Fails) : (alt read read' s).Fails := by
  rwa [alt_of_fails h]

theorem alt_of_done {a : α} (h : read s = .done a r) : alt read read' s = .done a r :=
  alt_eq_done_iff.mpr (.inl h)

theorem alt_reaches (h : (read s).Reaches r) : (alt read read' s).Reaches r := by
  unfold alt
  split
  next hfail => exact absurd hfail (h.ne_fail _ _)
  next => exact h

theorem opt_eq_done_iff {o : Option α} : opt read s = .done o r ↔
    (∃ a, o = some a ∧ read s = .done a r) ∨ o = none ∧ (read s).Fails ∧ r = s := by
  unfold opt
  cases read s with
  | done a r' => simp [Step.Fails, eq_comm]
  | fail rest code => simp [Step.Fails, eq_comm]
  | tooDeep => simp [Step.Fails]

theorem opt_of_done {a : α} (h : read s = .done a r) : opt read s = .done (some a) r :=
  opt_eq_done_iff.mpr (.inl ⟨a, rfl, h⟩)

theorem opt_of_fails (h : (read s).Fails) : opt read s = .done none s := by
  obtain ⟨rest, code, h⟩ := h
  simp only [opt, h]

theorem opt_ne_fail (read : Reader α) (s rest : List Char) (code : Code) :
    opt read s ≠ .fail rest code := by
  unfold opt
  split <;> exact nofun

theorem opt_reaches (h : (read s).Reaches r) : (opt read s).Reaches r := by
  unfold opt
  split
  next hread =>
    rw [hread] at h
    exact h
  next hread => exact absurd hread (h.ne_fail _ _)
  next => trivial

/-- Without an optional part reading goes on where the part would have started. -/
theorem opt_reaches_self (h : read.Takes W) (s : List Char) : (opt read s).Reaches s := by
  unfold opt
  cases hread : read s with
  | done a r =>
    obtain ⟨t, rfl, -⟩ := h hread
    exact List.suffix_append t r
  | fail rest code => exact List.suffix_rfl
  | tooDeep => trivial

/-! ### Repetition -/

/-- A text for each of the values, one behind the other. -/
inductive Repeated (W : List Char → α → Prop) : List Char → List α → Prop
  | nil : Repeated W [] []
  | cons {t s : List Char} {a : α} {as : List α} : W t a → Repeated W s as →
    Repeated W (t ++ s) (a :: as)

theorem Repeated.length_le {as : List α} (h : Repeated W s as) (hne : ∀ ⦃t a⦄, W t a → t ≠ [])
    (r : List Char) : as.length ≤ (s ++ r).length := by
  induction h with
  | nil => exact Nat.zero_le _
  | @cons t s a as ha _ ih =>
    have := List.length_pos_of_ne_nil (hne ha)
    rw [List.length_cons, List.append_assoc, List.length_append]
    omega

theorem Repeated.eq_nil_or_concat {as : List α} (h : Repeated W s as) :
    s = [] ∨ ∃ s' t as' a, s = s' ++ t ∧ Repeated W s' as' ∧ W t a := by
  induction h with
  | nil => exact .inl rfl
  | @cons t s a as ha has ih =>
    rcases ih with rfl | ⟨s', t', as', a', rfl, has', ha'⟩
    · exact .inr ⟨[], t, [], a, List.append_nil t, .nil, ha⟩
    · exact .inr ⟨t ++ s', t', a :: as', a', (List.append_assoc ..).symm, .cons ha has', ha'⟩

section
variable {code : Code}

theorem manyWithin_append {fuel : Nat} {t : List Char} {a : α} (h : item (t ++ r) = .done a r)
    (ht : t ≠ []) : manyWithin code item (fuel + 1) (t ++ r) =
      (manyWithin code item fuel r).bind fun as r => .done (a :: as) r := by
  have hlength : r.length ≠ (t ++ r).length := by
    have := List.length_pos_of_ne_nil ht
    rw [List.length_append]
    omega
  simp only [manyWithin, h, if_neg hlength]

theorem takes_manyWithin (h : item.Takes W) (fuel : Nat) :
    (manyWithin code item fuel).Takes (Repeated W) := by
  induction fuel with
  | zero =>
    intro s r as hs
    cases hs
    exact ⟨[], rfl, .nil⟩
  | succ fuel ih =>
    intro s r as hs
    rw [manyWithin] at hs
    split at hs
    next a r' hitem =>
      split at hs
      · cases hs
      · obtain ⟨as, r'', hmore, hdone⟩ := Step.bind_eq_done_iff.mp hs
        cases hdone
        obtain ⟨t, rfl, ha⟩ := h hitem
        obtain ⟨s', rfl, has⟩ := ih hmore
        exact ⟨t ++ s', (List.append_assoc ..).symm, .cons ha has⟩
    · cases hs
      exact ⟨[], rfl, .nil⟩
    · cases hs

theorem takes_manyWith (h : item.Takes W) : (manyWith code item).Takes (Repeated W) :=
  fun s _ _ hs => takes_manyWithin h (s.length + 1) hs

variable (hne : ∀ ⦃t a⦄, W t a → t ≠ [])
include hne

theorem manyWithin_reaches_self (h : item.Takes W) (fuel : Nat) (s : List Char) :
    (manyWithin code item fuel s).Reaches s := by
  induction fuel generalizing s with
  | zero => exact List.suffix_rfl
  | succ fuel ih =>
    cases hitem : item s with
    | done a r =>
      obtain ⟨t, rfl, ha⟩ := h hitem
      rw [manyWithin_append hitem (hne ha)]
      exact ((ih r).map _).mono (List.suffix_append t r)
    | fail rest code =>
      rw [manyWithin, hitem]
      exact List.suffix_rfl
    | tooDeep =>
      rw [manyWithin, hitem]
      trivial

variable {s : List Char} {as : List α} (hreads : item.Reads W E)
  (hstart : ∀ ⦃t a⦄, W t a → ∀ r, E (t ++ r))
include hreads hstart

/-- The items are taken before whatever is taken behind them. -/
theorem manyWithin_append_repeated (h : Repeated W s as) (hr : E r) (fuel : Nat) :
    manyWithin code item (as.length + fuel) (s ++ r) =
      (manyWithin code item fuel r).bind fun as' r => .done (as ++ as') r := by
  induction h with
  | nil =>
    rw [List.length_nil, Nat.zero_add, List.nil_append]
    cases manyWithin code item fuel r <;> rfl
  | @cons t s a as ha has ih =>
    have hfollow : E (s ++ r) := by
      cases has with
      | nil => exact hr
      | cons ha' _ =>
        rw [List.append_assoc]
        exact hstart ha' _
    rw [List.append_assoc, List.length_cons, Nat.add_right_comm,
      manyWithin_append (hreads ha hfollow) (hne ha), ih]
    cases manyWithin code item fuel r <;> rfl

/-- The items are read if what starts an item may follow an item, up to where no item is read. -/
theorem manyWith_append (h : Repeated W s as) (hr : E r) (hstop : (item r).Fails) :
    manyWith code item (s ++ r) = .done as r := by
  obtain ⟨rest, code', hstop⟩ := hstop
  obtain ⟨fuel, hfuel⟩ := Nat.exists_eq_add_of_le (h.length_le hne r)
  rw [manyWith, hfuel, Nat.add_assoc, manyWithin_append_repeated hne hreads hstart h hr]
  simp only [manyWithin, hstop, Step.bind, List.append_nil]

/-- All but the last item is read as it is, and the last as far as it goes at least. -/
theorem manyWith_append_reaches (htakes : item.Takes W)
    (hreaches : ∀ ⦃t a⦄, W t a → ∀ r, (item (t ++ r)).Reaches r) (h : Repeated W s as)
    (r : List Char) : (manyWith code item (s ++ r)).Reaches r := by
  rcases h.eq_nil_or_concat with rfl | ⟨s, t, as, a, rfl, has, ha⟩
  · exact manyWithin_reaches_self hne htakes _ r
  obtain ⟨fuel, hfuel⟩ := Nat.exists_eq_add_of_le (has.length_le hne (t ++ r))
  rw [manyWith, List.append_assoc, hfuel, Nat.add_assoc,
    manyWithin_append_repeated hne hreads hstart has (hstart ha r)]
  refine Step.Reaches.map ?_ _
  have hlast := hreaches ha r
  cases hitem : item (t ++ r) with
  | done a' r' =>
    -- the last item may go on behind its text
    obtain ⟨t', ht, ha'⟩ := htakes hitem
    rw [hitem] at hlast
    rw [ht] at hitem ⊢
    rw [manyWithin_append hitem (hne ha')]
    exact ((manyWithin_reaches_self hne htakes fuel r').map _).mono hlast
  | fail rest code' => exact absurd hitem (hlast.ne_fail _ _)
  | tooDeep =>
    rw [manyWithin, hitem]
    trivial

end

end Reader

end WireShape.Text
