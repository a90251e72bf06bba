import WireShape.TypeExpr.Parser

/-! # The grammar of type expressions

Which texts are texts of a type, said without reading them: a wildcard with or without a bound, or a
name with optional arguments and dimensions. Arguments and bounds lie one level below the type they
belong to, and each dimension counts as a level of its own. -/

namespace WireShape.TypeExpr

open Text (isBlank)

/-- A run of blanks, which may be empty. -/
def Blanks (b : List Char) : Prop := ∀ c ∈ b, isBlank c = true

/-- A run of blanks that is not empty. -/
def Gap (b : List Char) : Prop := b ≠ [] ∧ Blanks b

def IsIdentifier : List Char → Prop
  | [] => False
  | c :: s => isIdentStart c = true ∧ ∀ c ∈ s, isIdentPart c = true

/-- One or more identifiers, joined by dots. -/
inductive IsQualifiedName : List Char → Prop
  | single {i : List Char} : IsIdentifier i → IsQualifiedName i
  | dot {i n : List Char} : IsIdentifier i → IsQualifiedName n → IsQualifiedName (i ++ '.' :: n)

/-- The name of a primitive type, or `void`. -/
def IsReserved (name : String) : Prop :=
  (∃ kind : PrimitiveKind, word kind = name) ∨ word OtherKind.void = name

/-- `k` times `[]`, each with blanks before it. -/
inductive Dimensions : Nat → List Char → Prop
  | zero : Dimensions 0 []
  | succ {k : Nat} {b s : List Char} : Blanks b → Dimensions k s →
    Dimensions (k + 1) (b ++ '[' :: ']' :: s)

mutual

/-- `Written d s t` says that `s` is a text of the type `t` at depth `d`. -/
inductive Written : Nat → List Char → TypeExpr → Prop
  | wildcard {d : Nat} : d ≤ maxNesting → Written d ['?'] (.wildcard none)
  | upperBound {d : Nat} {b b' s : List Char} {t : TypeExpr} : d ≤ maxNesting → Gap b → Gap b' →
    Written (d + 1) s t → Written d ('?' :: (b ++ "extends".toList ++ b' ++ s)) (.wildcard (some t))
  | lowerBound {d : Nat} {b b' s : List Char} {t : TypeExpr} : d ≤ maxNesting → Gap b → Gap b' →
    Written (d + 1) s t → Written d ('?' :: (b ++ "super".toList ++ b' ++ s)) (.wildcard none)
  | named {d k : Nat} {s s' : List Char} {t : TypeExpr} : WrittenName d s t → Dimensions k s' →
    d + k ≤ maxNesting → Written d (s ++ s') (arrays k t)

/-- The types without dimensions that start with a name. -/
inductive WrittenName : Nat → List Char → TypeExpr → Prop
  | primitive {d : Nat} (kind : PrimitiveKind) : WrittenName d (word kind).toList (.primitive kind)
  | void {d : Nat} : WrittenName d (word OtherKind.void).toList (.other .void)
  | raw {d : Nat} {n : List Char} : IsQualifiedName n → ¬ IsReserved (String.ofList n) →
    WrittenName d n (.raw ⟨String.ofList n⟩)
  | generic {d : Nat} {n b b' s s' b'' : List Char} {t : TypeExpr} {ts : List TypeExpr} :
    IsQualifiedName n → Blanks b → Blanks b' → Written (d + 1) s t → WrittenTail (d + 1) s' ts →
    Blanks b'' →
    WrittenName d (n ++ (b ++ '<' :: (b' ++ s ++ s' ++ b'' ++ ['>'])))
      (.declared ⟨String.ofList n⟩ (t :: ts))

/-- The arguments that follow one argument. -/
inductive WrittenTail : Nat → List Char → List TypeExpr → Prop
  | nil {d : Nat} : WrittenTail d [] []
  | cons {d : Nat} {b b' s s' : List Char} {t : TypeExpr} {ts : List TypeExpr} :
    Blanks b → Blanks b' → Written d s t → WrittenTail d s' ts →
    WrittenTail d (b ++ ',' :: (b' ++ s ++ s')) (t :: ts)

end

/-- `input` is a text that satisfies `P`, with blanks around it. -/
def Encloses (input : String) (P : List Char → Prop) : Prop :=
  ∃ b s b', input.toList = b ++ s ++ b' ∧ Blanks b ∧ Blanks b' ∧ P s

end WireShape.TypeExpr

namespace WireShape.TypeParameter

open TypeExpr

/-- `Written s p` says that `s` is a text of the type parameter `p`. -/
inductive Written : List Char → TypeParameter → Prop
  | plain {i : List Char} : IsIdentifier i → Written i ⟨String.ofList i, none⟩
  | bounded {i b b' s : List Char} {t : TypeExpr} : IsIdentifier i → Gap b → Gap b' →
    TypeExpr.Written 0 s t → Written (i ++ (b ++ "extends".toList ++ b' ++ s)) ⟨String.ofList i, some t⟩

end WireShape.TypeParameter
