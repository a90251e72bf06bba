/-! # Qualified names

A name is any text; its last dot parts the package from the short name. Nested types keep the `$`
in their short name. -/

namespace WireShape

structure TypeName where
  text : String
deriving DecidableEq, Repr, Inhabited

namespace TypeName

/-- What follows the last dot, or else the whole name. -/
def shortName (n : TypeName) : String :=
  String.ofList (n.text.toList.reverse.takeWhile (· != '.')).reverse

/-- The place of the last dot: the number of characters before it. -/
def lastDot? (n : TypeName) : Option Nat :=
  (n.text.toList.reverse.findIdx? (· == '.')).map fun behind => n.text.toList.length - 1 - behind

/-- What stands before the last dot, if the name is qualified. -/
def package (n : TypeName) : Option String :=
  n.lastDot?.map fun place => String.ofList (n.text.toList.take place)

def isQualified (n : TypeName) : Bool :=
  n.text.toList.contains '.'

end TypeName

instance : ToString TypeName := ⟨TypeName.text⟩

end WireShape
