import WireShape.TypeName

/-! # Package and short name

The short name, the package and the test for a package each search the name on their own. They agree
about the last dot: a name is its package, that dot and its short name, or it is its short name. -/

namespace WireShape.TypeName
variable {n : TypeName} {p s : List Char}

theorem ne_of_mem_reverse (hs : '.' ∉ s) {c : Char} (hc : c ∈ s.reverse) : c ≠ '.' :=
  fun h => hs (h ▸ List.mem_reverse.mp hc)

theorem takeWhile_reverse_append (hs : '.' ∉ s) (rest : List Char) :
    (s.reverse ++ rest).takeWhile (· != '.') = s.reverse ++ rest.takeWhile (· != '.') := by
  refine List.takeWhile_append_of_pos fun c hc => ?_
  simpa using ne_of_mem_reverse hs hc

theorem findIdx?_reverse_append (hs : '.' ∉ s) (rest : List Char) :
    (s.reverse ++ rest).findIdx? (· == '.') =
      (rest.findIdx? (· == '.')).map (· + s.length) := by
  have hnone : s.reverse.findIdx? (· == '.') = none := by
    rw [List.findIdx?_eq_none_iff]
    intro c hc
    simpa using ne_of_mem_reverse hs hc
  rw [List.findIdx?_append, hnone, Option.none_or, List.length_reverse]

section
variable (hn : n.text.toList = p ++ '.' :: s)
include hn

theorem isQualified_of_eq : n.isQualified = true := by
  rw [isQualified, hn, List.contains_iff_mem]
  exact List.mem_append_right p List.mem_cons_self

theorem reverse_of_eq : n.text.toList.reverse = s.reverse ++ '.' :: p.reverse := by
  rw [hn, List.reverse_append, List.reverse_cons, List.append_assoc, List.singleton_append]

variable (hs : '.' ∉ s)
include hs

theorem shortName_of_eq : n.shortName = String.ofList s := by
  have hdot : ('.' :: p.reverse).takeWhile (· != '.') = [] := rfl
  rw [shortName, reverse_of_eq hn, takeWhile_reverse_append hs, hdot, List.append_nil,
    List.reverse_reverse]

theorem lastDot?_of_eq : n.lastDot? = some p.length := by
  have hdot : ('.' :: p.reverse).findIdx? (· == '.') = some 0 := rfl
  have hlength : n.text.toList.length = p.length + (s.length + 1) := by
    rw [hn, List.length_append, List.length_cons]
  rw [lastDot?, reverse_of_eq hn, findIdx?_reverse_append hs, hdot, Option.map_some,
    Option.map_some, hlength]
  congr 1
  omega

theorem package_of_eq : n.package = some (String.ofList p) := by
  rw [package, lastDot?_of_eq hn hs, hn, Option.map_some, List.take_left]

end

section
variable (hn : '.' ∉ n.text.toList)
include hn

theorem isQualified_of_not_mem : n.isQualified = false := by
  rw [isQualified, Bool.eq_false_iff, Ne, List.contains_iff_mem]
  exact hn

theorem shortName_of_not_mem : n.shortName = n.text := by
  have htake := takeWhile_reverse_append hn []
  rw [List.append_nil, List.takeWhile_nil, List.append_nil] at htake
  rw [shortName, htake, List.reverse_reverse, String.ofList_toList]

theorem package_of_not_mem : n.package = none := by
  have hnone := findIdx?_reverse_append hn []
  rw [List.append_nil, List.findIdx?_nil, Option.map_none] at hnone
  rw [package, lastDot?, hnone, Option.map_none, Option.map_none]

end

theorem exists_last_dot (h : '.' ∈ n.text.toList) :
    ∃ p s, n.text.toList = p ++ '.' :: s ∧ '.' ∉ s := by
  obtain ⟨s, p, hreverse, hs⟩ := List.eq_append_cons_of_mem (List.mem_reverse.mpr h)
  refine ⟨p.reverse, s.reverse, ?_, by simpa using hs⟩
  have := congrArg List.reverse hreverse
  simpa using this

/-- `text` is `package`, a dot and `shortName` if the name `isQualified`, and `shortName` if not.
There is no dot in `shortName`. -/
theorem text_splits (n : TypeName) :
    '.' ∉ n.shortName.toList ∧ n.package.isSome = n.isQualified ∧
    n.text = match n.package with
      | some p => p ++ "." ++ n.shortName
      | none => n.shortName := by
  by_cases h : '.' ∈ n.text.toList
  · obtain ⟨p, s, hn, hs⟩ := exists_last_dot h
    have hshort := shortName_of_eq hn hs
    have hpackage := package_of_eq hn hs
    refine ⟨?_, ?_, ?_⟩
    · rwa [hshort, String.toList_ofList]
    · rw [hpackage, isQualified_of_eq hn, Option.isSome_some]
    · have htext : n.text = String.ofList (p ++ '.' :: s) := by
        rw [← hn, String.ofList_toList]
      rw [hpackage, hshort, htext]
      simp [← String.toList_inj]
  · have hshort := shortName_of_not_mem h
    have hpackage := package_of_not_mem h
    refine ⟨?_, ?_, ?_⟩
    · rwa [hshort]
    · rw [hpackage, isQualified_of_not_mem h, Option.isSome_none]
    · rw [hpackage, hshort]

end WireShape.TypeName
