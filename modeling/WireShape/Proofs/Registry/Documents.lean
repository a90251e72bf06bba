import WireShape.Proofs.Outcome
import WireShape.Proofs.TypeExpr.RoundTrip
import WireShape.Registry.Document

/-! # Types in documents

A document writes its types as text. So each of them is well-formed, and is read back from what it is
rendered as. -/

namespace WireShape

theorem Json.exists_of_mem_membersOf {α : Type} {decode : Json.Decoder α} {j : Option Json}
    {es : List (String × α)} (h : Json.optional (Json.membersOf decode) [] j = some es)
    {e : String × α} (he : e ∈ es) : ∃ j, decode j = some e.2 := by
  unfold Json.optional at h
  split at h
  · cases h
    cases he
  · unfold Json.membersOf at h
    split at h
    · obtain ⟨⟨name, j⟩, -, h⟩ := exists_of_mem_of_mapM_eq_some h he
      obtain ⟨a, ha, rfl⟩ := Option.map_eq_some_iff.mp h
      exact ⟨j, ha⟩
    · cases h

theorem TypeExpr.wellFormed_of_ofJson {j : Json} {t : TypeExpr} (h : TypeExpr.ofJson? j = some t) :
    t.WellFormed 0 := by
  obtain ⟨text, -, h⟩ := Option.bind_eq_some_iff.mp h
  cases hparse : TypeExpr.parse text with
  | error e =>
    rw [hparse] at h
    cases h
  | ok t' =>
    rw [hparse] at h
    cases h
    exact TypeExpr.wellFormed_of_parse hparse

namespace Declaration

theorem wellFormed_of_ofJson {j : Json} {d : Declaration} (h : Declaration.ofJson? j = some d)
    {p : String × TypeExpr} (hp : p ∈ d.properties.entries) : p.2.WellFormed 0 := by
  obtain ⟨values, -, h⟩ := Option.bind_eq_some_iff.mp h
  split at h
  · simp only [Option.bind_eq_bind, Option.bind_eq_some_iff] at h
    obtain ⟨_, -, _, -, _, -, _, -, _, -, _, -, _, -, _, -, properties, hproperties, h⟩ := h
    cases h
    obtain ⟨j, hj⟩ := Json.exists_of_mem_membersOf hproperties (NameTable.mem_of_mem_ofList hp)
    exact TypeExpr.wellFormed_of_ofJson hj
  · cases h

end Declaration

namespace Document

theorem wellFormed_of_read {text : String} {document : Document}
    (h : Document.read text = some document) {name : String} {d : Declaration}
    (hd : document.declarations.get? name = some d) {p : String × TypeExpr}
    (hp : p ∈ d.properties.entries) : p.2.WellFormed 0 := by
  obtain ⟨j, -, h⟩ := Option.bind_eq_some_iff.mp h
  obtain ⟨⟨resolver, types⟩, -, h⟩ := Option.bind_eq_some_iff.mp h
  obtain ⟨_, -, h⟩ := Option.bind_eq_some_iff.mp h
  obtain ⟨declarations, hdeclarations, h⟩ := Option.bind_eq_some_iff.mp h
  cases h
  have hmem := NameTable.mem_of_mem_ofList (NameTable.mem_entries_of_get? hd)
  obtain ⟨j, hj⟩ := Json.exists_of_mem_membersOf hdeclarations hmem
  exact Declaration.wellFormed_of_ofJson hj hp

end Document

end WireShape
