import WireShape.Environment.Basic

/-! # Tables of answers

An environment given by tables from qualified names to answers. Type arguments are not looked at. -/

namespace WireShape

/-- Answers by qualified name. A name that a table does not hold has the default answer. -/
structure AnswerTables where
  kinds : List (String × DeclarationKind) := []
  hints : List (String × TypeExpr) := []
  serializers : List (String × String) := []
  targets : List (String × TypeExpr) := []
  adapters : List (String × TypeExpr) := []
  maps : List (String × TypeExpr × TypeExpr) := []
  components : List (String × TypeExpr) := []
  known : List (String × Shape) := []
  definitions : List (String × DefinitionRef) := []
  collections : List String := []

namespace AnswerTables

/-- The environment that answers from the tables. -/
def environment (a : AnswerTables) : Environment where
  kind d := (a.kinds.lookup d.name.text).getD .classType
  typeHint d := a.hints.lookup d.name.text
  customSerializer d := a.serializers.lookup d.name.text
  serializeAs d := a.targets.lookup d.name.text
  adapter d := a.adapters.lookup d.name.text
  mapTypes d := a.maps.lookup d.name.text
  componentType d := a.components.lookup d.name.text
  knownShape d := a.known.lookup d.name.text
  definition d := a.definitions.lookup d.name.text
  isCollectionOrStream d := a.collections.contains d.name.text

end AnswerTables

end WireShape
