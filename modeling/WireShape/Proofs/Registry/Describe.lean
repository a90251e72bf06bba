import WireShape.Catalog
import WireShape.Proofs.Outcome
import WireShape.Proofs.Resolver.DepthLimit

/-! # What a description holds

A description holds the shapes that the type and each of its properties have by themselves, and fails
where one of these does. -/

namespace WireShape

namespace Resolver

section
variable (r : Resolver) (t : TypeExpr)

theorem result_tellReport :
    (r.tellReport t).result = (r.report t).mapError LimitExceeded.toError := rfl

theorem result_tellShape : (r.tellShape t).result = (r.shape t).mapError LimitExceeded.toError := by
  unfold tellShape
  rw [Telling.result_bind, result_tellReport, report, shape]
  cases (r.run t).1 <;> rfl

end

/-- What a type of a property of `d` resolves to, by itself. -/
def propertyShape (r : Resolver) (d : Declaration) (t : TypeExpr) : Except LimitExceeded Shape :=
  r.shape (t.substitute d.asVariables)

/-- A description tells what the type and its properties, in the order of their names, resolve to by
themselves. -/
structure Describes (r : Resolver) (name : TypeName) (d : Declaration) (description : Description) :
    Prop where
  shape : r.shape (.raw name) = .ok description.shape
  name : description.name = name
  kind : description.kind = d.kind
  properties : description.properties.map (fun p => (p.name, p.type)) = d.properties.entries
  ordered : description.properties.Pairwise (·.name < ·.name)
  alone : ∀ p ∈ description.properties, r.propertyShape d p.type = .ok p.shape

/-- The failure that is met first, at the type itself or at one of its properties. -/
inductive FailsFirst (r : Resolver) (name : TypeName) (d : Declaration) : LimitExceeded → Prop
  | type {cause : LimitExceeded} : r.shape (.raw name) = .error cause → FailsFirst r name d cause
  | property {cause : LimitExceeded} {shape : Shape} {before after : List (String × TypeExpr)}
    {p : String × TypeExpr} :
    r.shape (.raw name) = .ok shape →
    d.properties.entries = before ++ p :: after →
    (∀ q ∈ before, ∃ shape, r.propertyShape d q.2 = .ok shape) →
    r.propertyShape d p.2 = .error cause → FailsFirst r name d cause

end Resolver

namespace Registry
variable {R : Registry} {name : TypeName} {d : Declaration}

theorem result_describeProperty (R : Registry) (owner : TypeName) (d : Declaration)
    (p : String × TypeExpr) :
    (R.describeProperty owner d p).result =
      ((R.resolver.propertyShape d p.2).mapError LimitExceeded.toError).map
        fun shape => ⟨p.1, p.2, shape⟩ := by
  unfold describeProperty Resolver.propertyShape
  rw [Telling.result_bind, Resolver.result_tellShape]
  cases R.resolver.shape (p.2.substitute d.asVariables) <;> rfl

theorem result_describe (h : R.get? name = some d) :
    (R.describe name).result = do
      let shape ← (R.resolver.shape (.raw name)).mapError LimitExceeded.toError
      let properties ← d.properties.entries.mapM fun p => (R.describeProperty name d p).result
      return ⟨name, d.kind, shape, properties⟩ := by
  have hrequire : R.require name = .ok d := by
    unfold require
    rw [h]
  unfold describe
  rw [Telling.result_bind, Telling.result_lift, hrequire]
  simp only [Telling.result_bind, Telling.result_mapM, Resolver.result_tellShape]
  rfl

theorem describe_of_get?_eq_none (h : R.get? name = none) :
    (R.describe name).result = .error (.notRegistered name.text) := by
  have hrequire : R.require name = .error (.notRegistered name.text) := by
    unfold require
    rw [h]
  unfold describe
  rw [Telling.result_bind, Telling.result_lift, hrequire]
  rfl

theorem describeProperty_eq_ok_iff {owner : TypeName} {e : String × TypeExpr} {p : PropertyShape} :
    (R.describeProperty owner d e).result = .ok p ↔
      (p.name, p.type) = e ∧ R.resolver.propertyShape d e.2 = .ok p.shape := by
  rw [result_describeProperty, map_eq_ok_iff]
  constructor
  · rintro ⟨shape, hshape, rfl⟩
    exact ⟨rfl, mapError_eq_ok_iff.mp hshape⟩
  · rintro ⟨rfl, hshape⟩
    exact ⟨p.shape, mapError_eq_ok_iff.mpr hshape, rfl⟩

theorem describeProperty_eq_error_iff {owner : TypeName} {p : String × TypeExpr} {e : Error} :
    (R.describeProperty owner d p).result = .error e ↔
      ∃ cause, R.resolver.propertyShape d p.2 = .error cause ∧ cause.toError = e := by
  rw [result_describeProperty, map_eq_error_iff, mapError_eq_error_iff]

theorem exists_describeProperty_iff {owner : TypeName} {p : String × TypeExpr} :
    (∃ property, (R.describeProperty owner d p).result = .ok property) ↔
      ∃ shape, R.resolver.propertyShape d p.2 = .ok shape := by
  simp only [describeProperty_eq_ok_iff]
  constructor
  · rintro ⟨property, -, hshape⟩
    exact ⟨property.shape, hshape⟩
  · rintro ⟨shape, hshape⟩
    exact ⟨⟨p.1, p.2, shape⟩, rfl, hshape⟩

theorem describe_eq_ok_iff (h : R.get? name = some d) {description : Description} :
    (R.describe name).result = .ok description ↔ R.resolver.Describes name d description := by
  rw [result_describe h, bind_eq_ok_iff]
  simp only [bind_eq_ok_iff, mapM_eq_ok_iff, describeProperty_eq_ok_iff, mapError_eq_ok_iff]
  constructor
  · rintro ⟨shape, hshape, properties, hproperties, hdescription⟩
    cases hdescription
    have hentries : properties.map (fun p => (p.name, p.type)) = d.properties.entries := by
      rw [← List.forall₂_eq_eq_eq, List.forall₂_map_left_iff]
      exact (hproperties.imp fun _ _ hp => hp.1).flip
    refine ⟨hshape, rfl, rfl, hentries, ?_, fun p hp => ?_⟩
    · have hordered := d.properties.ordered
      rw [← hentries, List.pairwise_map] at hordered
      exact hordered
    · obtain ⟨_, -, rfl, hp⟩ := exists_of_mem_of_forall₂ hproperties hp
      exact hp
  · rintro ⟨hshape, hname, hkind, hentries, -, halone⟩
    obtain ⟨_, _, shape, properties⟩ := description
    cases hname
    cases hkind
    refine ⟨shape, hshape, properties, ?_, rfl⟩
    rw [← hentries, List.forall₂_map_left_iff]
    exact List.forall₂_same.mpr fun p hp => ⟨rfl, halone p hp⟩

theorem describe_eq_error_iff (h : R.get? name = some d) {e : Error} :
    (R.describe name).result = .error e ↔
      ∃ cause, R.resolver.FailsFirst name d cause ∧ cause.toError = e := by
  rw [result_describe h, bind_eq_error_iff, mapError_eq_error_iff]
  simp only [mapError_eq_ok_iff]
  constructor
  · rintro (⟨cause, hcause, rfl⟩ | ⟨shape, hshape, herror⟩)
    · exact ⟨cause, .type hcause, rfl⟩
    rcases bind_eq_error_iff.mp herror with hproperties | ⟨properties, -, herror⟩
    · obtain ⟨before, p, after, hentries, hbefore, hp⟩ := mapM_eq_error_iff.mp hproperties
      obtain ⟨cause, hcause, rfl⟩ := describeProperty_eq_error_iff.mp hp
      exact ⟨cause, .property hshape hentries
        (fun q hq => exists_describeProperty_iff.mp (hbefore q hq)) hcause, rfl⟩
    · cases herror
  · rintro ⟨cause, hcause | @⟨shape, before, after, p, hshape, hentries, hbefore, hcause⟩, rfl⟩
    · exact .inl ⟨cause, hcause, rfl⟩
    · refine .inr ⟨shape, hshape, bind_eq_error_iff.mpr (.inl (mapM_eq_error_iff.mpr ?_))⟩
      exact ⟨before, p, after, hentries,
        fun q hq => exists_describeProperty_iff.mpr (hbefore q hq),
        describeProperty_eq_error_iff.mpr ⟨cause, hcause, rfl⟩⟩

end Registry

end WireShape
