import WireShape.Proofs.TypeExpr.Parsing

/-! # Written types read back

The types that some text is read as are the well-formed ones, and these are also the types that their
own written form is read as. A type parameter, or an array of wildcards, is written like another type,
and a name that is no name of the grammar is written like anything at all. -/

namespace WireShape

namespace TypeExpr

/-- `WellFormed d t` says that `t` has a text at depth `d`: a wildcard, or dimensions around a
primitive type, `void`, or a use of a name whose arguments are well-formed one level deeper. -/
inductive WellFormed : Nat → TypeExpr → Prop
  | wildcard {d : Nat} : d ≤ maxNesting → WellFormed d (.wildcard none)
  | bounded {d : Nat} {t : TypeExpr} : d ≤ maxNesting → WellFormed (d + 1) t →
    WellFormed d (.wildcard (some t))
  | primitive {d k : Nat} {kind : PrimitiveKind} : d + k ≤ maxNesting →
    WellFormed d (arrays k (.primitive kind))
  | void {d k : Nat} : d + k ≤ maxNesting → WellFormed d (arrays k (.other .void))
  | declared {d k : Nat} {name : TypeName} {arguments : List TypeExpr} : d + k ≤ maxNesting →
    IsQualifiedName name.text.toList → (arguments = [] → ¬ IsReserved name.text) →
    (∀ a ∈ arguments, WellFormed (d + 1) a) → WellFormed d (arrays k (.declared name arguments))

section
variable {d : Nat} (hnested : ∀ {s t}, Written (d + 1) s t → WellFormed (d + 1) t)
include hnested

theorem wellFormed_of_writtenTail {s : List Char} {ts : List TypeExpr} (h : WrittenTail (d + 1) s ts) :
    ∀ a ∈ ts, WellFormed (d + 1) a := by
  induction ts generalizing s with
  | nil => exact fun a ha => nomatch ha
  | cons t ts ih =>
    cases h with
    | cons _ _ ht hts =>
      intro a ha
      rcases List.mem_cons.mp ha with rfl | ha
      · exact hnested ht
      · exact ih hts a ha

theorem wellFormed_of_written_of_nested {s : List Char} {t : TypeExpr} (h : Written d s t) :
    WellFormed d t := by
  cases h with
  | wildcard hd => exact .wildcard hd
  | upperBound hd _ _ ht => exact .bounded hd (hnested ht)
  | lowerBound hd => exact .wildcard hd
  | named h _ hk =>
    cases h with
    | primitive => exact .primitive hk
    | void => exact .void hk
    | raw hn hreserved =>
      exact .declared hk (by rwa [String.toList_ofList]) (fun _ => hreserved) fun a ha => nomatch ha
    | generic hn _ _ ht hts =>
      refine .declared hk (by rwa [String.toList_ofList]) (fun h => nomatch h) fun a ha => ?_
      rcases List.mem_cons.mp ha with rfl | ha
      · exact hnested ht
      · exact wellFormed_of_writtenTail hnested hts a ha

end

theorem wellFormed_of_written {d : Nat} {s : List Char} {t : TypeExpr} (h : Written d s t) :
    WellFormed d t := by
  obtain ⟨levels, hd⟩ := Nat.exists_eq_add_of_le h.depth_le
  induction levels generalizing d s t with
  | zero =>
    refine wellFormed_of_written_of_nested (fun h => ?_) h
    have := h.depth_le
    omega
  | succ levels ih => exact wellFormed_of_written_of_nested (fun h => ih h (by omega)) h

/-! ### Well-formed types are written as they are read -/

theorem Dimensions.concat {k : Nat} {s : List Char} (h : Dimensions k s) :
    Dimensions (k + 1) (s ++ ['[', ']']) := by
  induction h with
  | zero => exact .succ .nil .zero
  | succ hb _ ih =>
    rw [List.append_assoc]
    exact .succ hb ih

theorem exists_render_arrays (k : Nat) (t : TypeExpr) :
    ∃ s, Dimensions k s ∧ (arrays k t).render.toList = t.render.toList ++ s := by
  induction k with
  | zero => exact ⟨[], .zero, (List.append_nil _).symm⟩
  | succ k ih =>
    obtain ⟨s, hs, hrender⟩ := ih
    refine ⟨s ++ ['[', ']'], hs.concat, ?_⟩
    rw [arrays, render, String.toList_append, hrender, List.append_assoc]
    rfl

theorem Written.arrays_render {d k : Nat} {t : TypeExpr} (h : WrittenName d t.render.toList t)
    (hk : d + k ≤ maxNesting) : Written d (arrays k t).render.toList (arrays k t) := by
  obtain ⟨s, hs, hrender⟩ := exists_render_arrays k t
  rw [hrender]
  exact .named h hs hk

theorem blanks_space : Blanks [' '] := .cons rfl .nil

theorem gap_space : Gap [' '] := ⟨List.cons_ne_nil _ _, blanks_space⟩

theorem writtenTail_render {d : Nat} {ts : List TypeExpr}
    (h : ∀ a ∈ ts, Written d a.render.toList a) : WrittenTail d (renderTail ts).toList ts := by
  induction ts with
  | nil => exact .nil
  | cons t ts ih =>
    have hts := ih fun a ha => h a (List.mem_cons_of_mem _ ha)
    rw [renderTail, String.toList_append, String.toList_append]
    exact .cons (b := []) .nil blanks_space (h t List.mem_cons_self) hts

theorem written_render {d : Nat} {t : TypeExpr} (h : WellFormed d t) :
    Written d t.render.toList t := by
  induction h with
  | wildcard hd => exact .wildcard hd
  | bounded hd _ ih =>
    rw [render, String.toList_append]
    exact Written.upperBound hd gap_space gap_space ih
  | @primitive d k kind hk => exact .arrays_render (.primitive kind) hk
  | void hk => exact .arrays_render .void hk
  | @declared d k name arguments hk hn hreserved _ ih =>
    refine .arrays_render ?_ hk
    obtain ⟨text⟩ := name
    have htext : String.ofList text.toList = text := String.ofList_toList
    cases arguments with
    | nil =>
      have hraw := WrittenName.raw (d := d) hn (htext.symm ▸ hreserved rfl)
      rwa [htext] at hraw
    | cons t ts =>
      have ht := ih t List.mem_cons_self
      have hts := writtenTail_render fun a ha => ih a (List.mem_cons_of_mem _ ha)
      have hgeneric := WrittenName.generic hn .nil .nil ht hts .nil
      rw [htext] at hgeneric
      rw [render]
      simp only [String.toList_append, List.append_assoc, List.nil_append] at hgeneric ⊢
      exact hgeneric

theorem parse_render {t : TypeExpr} (h : WellFormed 0 t) : parse t.render = .ok t :=
  parse_eq_ok_iff.mpr ⟨[], _, [], (List.append_nil _).symm, .nil, .nil, written_render h⟩

theorem wellFormed_of_parse {input : String} {t : TypeExpr} (h : parse input = .ok t) :
    WellFormed 0 t := by
  obtain ⟨_, s, _, -, -, -, hs⟩ := parse_eq_ok_iff.mp h
  exact wellFormed_of_written hs

end TypeExpr

namespace TypeParameter

/-- A type parameter that has a text. -/
structure WellFormed (p : TypeParameter) : Prop where
  name : TypeExpr.IsIdentifier p.name.toList
  bound : ∀ t ∈ p.bound, TypeExpr.WellFormed 0 t

open TypeExpr (parse_eq_ok_iff_of_parameter)

theorem parse_render {p : TypeParameter} (h : p.WellFormed) : TypeParameter.parse p.render = .ok p := by
  refine parse_eq_ok_iff_of_parameter.mpr ⟨[], _, [], (List.append_nil _).symm, .nil, .nil, ?_⟩
  obtain ⟨name, bound⟩ := p
  have hname : String.ofList name.toList = name := String.ofList_toList
  cases bound with
  | none =>
    have hplain := Written.plain h.name
    rwa [hname] at hplain
  | some t =>
    have ht := TypeExpr.written_render (h.bound t rfl)
    have hbounded := Written.bounded h.name TypeExpr.gap_space TypeExpr.gap_space ht
    rw [hname] at hbounded
    show Written (name ++ " extends " ++ t.render).toList _
    rw [String.toList_append, String.toList_append, List.append_assoc]
    exact hbounded

theorem wellFormed_of_parse {input : String} {p : TypeParameter}
    (h : TypeParameter.parse input = .ok p) : p.WellFormed := by
  obtain ⟨_, s, _, -, -, -, hs⟩ := parse_eq_ok_iff_of_parameter.mp h
  cases hs with
  | plain hi => exact ⟨by rwa [String.toList_ofList], fun _ h => nomatch h⟩
  | bounded hi _ _ ht =>
    refine ⟨by rwa [String.toList_ofList], fun t' h => ?_⟩
    cases h
    exact TypeExpr.wellFormed_of_written ht

end TypeParameter

/-- `parse` gives `WellFormed` types only, and exactly these are read back from what `render`
writes; so it is with type parameters. -/
theorem parse_render_iff_wellFormed :
    (∀ input t, TypeExpr.parse input = .ok t → t.WellFormed 0) ∧
    (∀ t : TypeExpr, TypeExpr.parse t.render = .ok t ↔ t.WellFormed 0) ∧
    (∀ p : TypeParameter, TypeParameter.parse p.render = .ok p ↔ p.WellFormed) ∧
    ∀ input p, TypeParameter.parse input = .ok p → p.WellFormed :=
  ⟨fun _ _ => TypeExpr.wellFormed_of_parse,
    fun _ => ⟨TypeExpr.wellFormed_of_parse, TypeExpr.parse_render⟩,
    fun _ => ⟨TypeParameter.wellFormed_of_parse, TypeParameter.parse_render⟩,
    fun _ _ => TypeParameter.wellFormed_of_parse⟩

theorem parse_render_iff_wellFormed_map :
    TypeExpr.parse " Map <K,? extends V []> " =
      .ok (.declared ⟨"Map"⟩ [.raw ⟨"K"⟩, .wildcard (some (.array (.raw ⟨"V"⟩)))]) ∧
    TypeExpr.WellFormed 0 (.declared ⟨"Map"⟩ [.raw ⟨"K"⟩, .wildcard (some (.array (.raw ⟨"V"⟩)))]) :=
  have h : TypeExpr.parse " Map <K,? extends V []> " =
      .ok (.declared ⟨"Map"⟩ [.raw ⟨"K"⟩, .wildcard (some (.array (.raw ⟨"V"⟩)))]) := by
    decide +kernel
  ⟨h, parse_render_iff_wellFormed.1 _ _ h⟩

end WireShape
