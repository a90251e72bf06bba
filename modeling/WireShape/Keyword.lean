/-! # Keywords

Small enumerations are written as fixed words. Each one lists its values and their words once; reading
a word is a search in that list. -/

namespace WireShape

/-- A finite type whose values are written as words. -/
class Keyword (α : Type) where
  all : List α
  word : α → String

export Keyword (word)

namespace Keyword
variable {α : Type} [Keyword α]

/-- The value written as `s`, if there is one. -/
def ofWord? (s : String) : Option α :=
  (all : List α).find? fun a => word a == s

theorem word_of_ofWord? {s : String} {a : α} (h : ofWord? s = some a) : word a = s := by
  have := List.find?_some h
  simpa using this

end Keyword

end WireShape
