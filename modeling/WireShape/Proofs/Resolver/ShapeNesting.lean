import WireShape.Proofs.Outcome
import WireShape.Proofs.Resolver.AdapterReport

/-! # The nesting of shapes

A shape nests no more arrays and maps than there are levels to resolve, and those that the known shapes
have of themselves. A map takes a level for its key and value. So do an array and a collection for their
element, which comes with an array around it: that array stands for the level above. Only the position of
the type asked for has no level above, so it may add one array more. -/

namespace WireShape

/-- How many arrays and maps lie within each other. -/
def Shape.nesting : Shape → Nat
  | .primitive _ | .object | .named _ => 0
  | .array element => element.nesting + 1
  | .map key value => max key.nesting value.nesting + 1

/-- The number of arrays that are put around a shape at the position. -/
def Position.arrays (p : Position) : Nat := if p.wraps then 1 else 0

theorem Position.arrays_le_one (p : Position) : p.arrays ≤ 1 := by
  unfold arrays
  split <;> omega

theorem Context.nesting_wrap (c : Context) (shape : Shape) :
    (c.wrap shape).nesting = shape.nesting + c.position.arrays := by
  unfold wrap Position.wrap Position.arrays
  split <;> rfl

/-- The known shapes nest `K` levels at most. -/
def Environment.KnownWithin (e : Environment) (K : Nat) : Prop :=
  ∀ d, ∀ shape ∈ e.knownShape d, shape.nesting ≤ K

theorem Environment.KnownWithin.documented {e : Environment} {K : Nat} (h : e.KnownWithin K)
    {d : DeclaredType} {shape : Shape} (hshape : shape ∈ e.documented d) : shape.nesting ≤ K := by
  unfold Environment.documented at hshape
  split at hshape
  · rcases Option.or_eq_some_iff.mp hshape with hknown | ⟨-, hdefinition⟩
    · exact h d shape hknown
    · obtain ⟨definition, -, rfl⟩ := Option.map_eq_some_iff.mp hdefinition
      exact Nat.zero_le K
  · cases hshape

namespace Resolver
variable {r : Resolver} {K depth : Nat} {f : Frame} {p : Position} {t : TypeExpr} {c : Context}
  {shape : Shape}

/-- At `depth` the shape nests no deeper than there are levels below, and `K` levels more. -/
def Fits (r : Resolver) (K depth : Nat) (shape : Shape) : Prop :=
  depth + shape.nesting ≤ r.settings.maxDepth + K

namespace Fits

theorem of_nesting_le (hdepth : depth ≤ r.settings.maxDepth) (h : shape.nesting ≤ K) :
    r.Fits K depth shape :=
  Nat.add_le_add hdepth h

/-- The array of a position stands for the level above. -/
theorem above (h : r.Fits (K + p.arrays) (depth + 1) shape) : r.Fits K depth shape := by
  have hp := p.arrays_le_one
  unfold Fits at h ⊢
  omega

theorem wrap (h : r.Fits K c.depth shape) :
    r.Fits (K + c.position.arrays) c.depth (c.wrap shape) := by
  unfold Fits at h ⊢
  rw [Context.nesting_wrap]
  omega

theorem map {key value : Shape} (hkey : r.Fits K (depth + 1) key)
    (hvalue : r.Fits K (depth + 1) value) : r.Fits K depth (.map key value) := by
  unfold Fits at hkey hvalue ⊢
  rw [Shape.nesting]
  omega

end Fits

theorem ok_of_shapeInside? (h : r.shapeInside? f p t = some shape) : r.inside f p t = .ok shape := by
  unfold shapeInside? at h
  cases hinside : r.inside f p t with
  | ok shape' =>
    rw [hinside] at h
    cases h
    rfl
  | error e =>
    rw [hinside] at h
    cases h

section
variable (hknown : r.environment.KnownWithin K) (hdepth : f.context.depth ≤ r.settings.maxDepth)
  (hinside : ∀ p t shape, r.inside f p t = .ok shape →
    r.Fits (K + p.arrays) (f.context.depth + 1) shape)
include hinside

theorem fits_of_bind_shapeInside? {o : Option TypeExpr}
    (h : shape ∈ o.bind (r.shapeInside? f p)) : r.Fits K f.context.depth shape := by
  obtain ⟨t, -, ht⟩ := Option.bind_eq_some_iff.mp h
  exact (hinside p t shape (ok_of_shapeInside? ht)).above

include hdepth

theorem fits_overriding? (h : shape ∈ r.overriding? f) : r.Fits K f.context.depth shape := by
  unfold overriding? at h
  rcases Option.or_eq_some_iff.mp h with htarget | ⟨-, h⟩
  · exact fits_of_bind_shapeInside? hinside htarget
  rcases Option.or_eq_some_iff.mp h with hserializer | ⟨-, hhint⟩
  · obtain ⟨serializer, -, rfl⟩ := Option.map_eq_some_iff.mp hserializer
    exact .of_nesting_le hdepth (Nat.zero_le K)
  · exact fits_of_bind_shapeInside? hinside hhint

include hknown

theorem fits_structural? (h : shape ∈ r.structural? f) : r.Fits K f.context.depth shape := by
  unfold structural? at h
  rcases Option.or_eq_some_iff.mp h with hmap | ⟨-, h⟩
  · obtain ⟨entry, -, hmap⟩ := Option.bind_eq_some_iff.mp hmap
    obtain ⟨key, hkey, hmap⟩ := Option.bind_eq_some_iff.mp hmap
    obtain ⟨value, hvalue, hmap⟩ := Option.bind_eq_some_iff.mp hmap
    cases hmap
    have hkey := hinside .value entry.1 key (ok_of_shapeInside? hkey)
    have hvalue := hinside .value entry.2 value (ok_of_shapeInside? hvalue)
    exact .map hkey hvalue
  rcases Option.or_eq_some_iff.mp h with helement | ⟨-, hdocumented⟩
  · exact fits_of_bind_shapeInside? hinside helement
  · exact .of_nesting_le hdepth (hknown.documented hdocumented)

theorem fits_firstMatch : r.Fits K f.context.depth (r.firstMatch f) := by
  unfold firstMatch
  cases hoverriding : r.overriding? f with
  | some shape => exact fits_overriding? hdepth hinside hoverriding
  | none =>
    cases hstructural : r.structural? f with
    | some shape => exact fits_structural? hknown hdepth hinside hstructural
    | none =>
      cases hadapting : r.adapting? f with
      | some shape =>
        have hshape : r.Fits K f.context.depth shape := fits_of_bind_shapeInside? hinside hadapting
        by_cases hpolicy : r.settings.adapterPolicy = .useAdaptingShape
        · simpa [hpolicy] using hshape
        · simpa [hpolicy] using Fits.of_nesting_le hdepth (Nat.zero_le K)
      | none => simpa using Fits.of_nesting_le hdepth (Nat.zero_le K)

end

theorem nesting_le_of_leaf {below : Below} {s : State}
    (ht : ∀ name arguments, t ≠ .declared name arguments) (hinner : t.inner? = none)
    (h : ((r.shapeOf below t c).run s).1 = .ok shape) : shape.nesting ≤ c.position.arrays := by
  have hwrap {leaf : Shape} (hleaf : leaf.nesting = 0) :
      (c.wrap leaf).nesting ≤ c.position.arrays := by
    have := c.nesting_wrap leaf
    omega
  match t with
  | .primitive kind =>
    simp only [shapeOf] at h
    split at h
    · cases h
      exact Nat.zero_le _
    · cases h
      exact hwrap rfl
  | .declared name arguments => exact absurd rfl (ht name arguments)
  | .array _ | .parameter _ (some _) | .wildcard (some _) => cases hinner
  | .parameter _ none | .wildcard none =>
    cases h
    exact hwrap rfl
  | .other _ =>
    cases h
    exact Nat.zero_le _

/-- A shape found at `c` `Fits` there, with one more array where the position wraps. -/
theorem fits_of_resolve (hknown : r.environment.KnownWithin K) {S : List String}
    (h : ((r.resolve t c).run { stack := S }).1 = .ok shape) :
    c.depth ≤ r.settings.maxDepth ∧ r.Fits (K + c.position.arrays) c.depth shape := by
  induction S, t, c using r.call_induction generalizing shape with
  | exceeded S t c hlt =>
    rw [resolve_of_lt hlt] at h
    cases h
  | leaf S t c hle ht hinner =>
    rw [resolve_of_le hle] at h
    have hnesting := nesting_le_of_leaf ht hinner h
    exact ⟨hle, .of_nesting_le hle (by omega)⟩
  | inner S t c p u hle hu ih =>
    rw [resolve_of_le hle, shapeOf_of_inner hu] at h
    rw [(Resolving.Unfolds.noteThen rfl ((unfolds_resolve r S u (c.derive p)).map c.wrap)).result_eq]
      at h
    obtain ⟨inner, hinner, rfl⟩ := map_eq_ok_iff.mp h
    exact ⟨hle, (ih hinner).2.above.wrap⟩
  | cycle S name arguments c hle hcut =>
    obtain ⟨events, hrun⟩ :=
      run_resolveWithin_of_cuts (s := { stack := S }) (r.settings.maxDepth + 1 - (c.depth + 1)) c hcut
    rw [resolve, levels_eq hle, hrun] at h
    cases h
    exact ⟨hle, .wrap (.of_nesting_le hle (Nat.zero_le K))⟩
  | frame f hle hcut ih =>
    rw [run_resolve_declared (s := { stack := f.outer }) hle hcut] at h
    obtain ⟨found, hfound, rfl⟩ := map_eq_ok_iff.mp h
    rw [unlessFailed] at hfound
    split at hfound
    · cases hfound
      exact ⟨hle, (fits_firstMatch hknown hle fun p t shape hshape => (ih p t hshape).2).wrap⟩
    · cases hfound

/-- If no `knownShape` nests deeper than `K`, a shape found at `c` nests no deeper than `K`, the
levels left at `c` and the array of its position allow. What is `adapted` nests as if found one
level below its frame, as a value; also where the resolution fails. -/
theorem nesting_of_resolve (r : Resolver) {K : Nat} (hknown : r.environment.KnownWithin K)
    (t : TypeExpr) (c : Context) (s : State) :
    let ms := r.timeline s.stack t c
    (∀ shape, ((r.resolve t c).run s).1 = .ok shape → c.depth ≤ r.settings.maxDepth ∧
      shape.nesting ≤ r.settings.maxDepth - c.depth + K + c.position.arrays) ∧
    s.Through ((r.resolve t c).run s).2 ms ∧
    ∀ f u shape, .adapted f u shape ∈ ms → .opened f ∈ ms ∧ f.context.depth + 1 ≤ r.settings.maxDepth ∧
      shape.nesting ≤ r.settings.maxDepth - (f.context.depth + 1) + K := by
  intro ms
  obtain ⟨hresult, hthrough⟩ := unfolds_resolve r s.stack t c s rfl
  refine ⟨fun shape hshape => ?_, hthrough, fun f u shape hmem => ?_⟩
  · obtain ⟨hdepth, hfits⟩ := fits_of_resolve hknown (hresult ▸ hshape)
    unfold Fits at hfits
    exact ⟨hdepth, by omega⟩
  · obtain ⟨before, after, hms⟩ := List.append_of_mem hmem
    obtain ⟨-, hshape, hsuffix⟩ := faithful_timeline r s.stack t c before f u shape after hms
    have hopened : .opened f ∈ before := hsuffix.mem List.mem_cons_self
    obtain ⟨hdepth, hfits⟩ := fits_of_resolve hknown hshape
    have hfits : f.context.depth + 1 + shape.nesting ≤ r.settings.maxDepth + K := hfits
    exact ⟨hms ▸ List.mem_append_left _ hopened, hdepth, by omega⟩

/-- Shelves are maps from labels to arrays of books, and are adapted to such arrays. Books are known to be
arrays of strings. -/
def shelves : AnswerTables where
  maps := [("Shelf", .raw ⟨"Label"⟩, .array (.raw ⟨"Book"⟩))]
  adapters := [("Shelf", .array (.raw ⟨"Book"⟩))]
  known := [("Book", .array (.primitive .string))]

/-- Under a limit of two levels the shape of a shelf is as deep as it can be: the array of its position,
the map, an array, and the known array. So is the shape of the adapting type. -/
theorem nesting_of_resolve_shelves :
    let shelf : DeclaredType := ⟨⟨"Shelf"⟩, []⟩
    let c : Context := ⟨.collectionElement, 0⟩
    let r := shelves.environment.resolver 2 .sideEffectOnly
    let books : Shape := .array (.array (.primitive .string))
    let shape : Shape := .array (.map .object books)
    r.environment.KnownWithin 1 ∧
    ((r.resolve shelf.toTypeExpr c).run {}).1 = .ok shape ∧
    0 ≤ 2 ∧ shape.nesting ≤ 2 - 0 + 1 + c.position.arrays ∧ 2 - 0 + 1 + c.position.arrays = 4 ∧
    .adapted ⟨shelf, [], c⟩ (.array (.raw ⟨"Book"⟩)) books ∈ r.timeline [] shelf.toTypeExpr c ∧
    0 + 1 ≤ 2 ∧ books.nesting ≤ 2 - (0 + 1) + 1 ∧ shape.nesting = 4 ∧ books.nesting = 2 := by
  intro shelf c r books shape
  have hknown : r.environment.KnownWithin 1 := by
    intro d known hd
    have hlookup : [("Book", Shape.array (.primitive .string))].lookup d.name.text = some known := hd
    rw [List.lookup_cons] at hlookup
    split at hlookup <;> cases hlookup
    exact Nat.le_refl 1
  have hshape : ((r.resolve shelf.toTypeExpr c).run {}).1 = .ok shape := by decide +kernel
  have hadapted : .adapted ⟨shelf, [], c⟩ (.array (.raw ⟨"Book"⟩)) books ∈
      r.timeline [] shelf.toTypeExpr c := by decide +kernel
  obtain ⟨hnesting, -, hadapters⟩ := nesting_of_resolve r hknown shelf.toTypeExpr c {}
  obtain ⟨hdepth, hle⟩ := hnesting shape hshape
  obtain ⟨-, hdepth', hle'⟩ := hadapters _ _ _ hadapted
  exact ⟨hknown, hshape, hdepth, hle, rfl, hadapted, hdepth', hle', rfl, rfl⟩

end Resolver

end WireShape
