import WireShape.Error
import WireShape.Json.Record

/-! # Settings

How deep resolution may go, and what an adapter does to the shape of the type it adapts. -/

namespace WireShape

/-- What an adapter does to the shape of its type. It is resolved and reported either way. -/
inductive AdapterPolicy
  | sideEffectOnly
  /-- The shape of the adapting type is taken when nothing else gives one. -/
  | useAdaptingShape
deriving DecidableEq, Repr, Inhabited

instance : Keyword AdapterPolicy where
  all := [.sideEffectOnly, .useAdaptingShape]
  word
    | .sideEffectOnly => "side_effect_only"
    | .useAdaptingShape => "use_adapting_shape"

structure Settings where
  /-- The deepest level at which a type is resolved; the type asked for is at level 0. -/
  maxDepth : Nat := 64
  adapterPolicy : AdapterPolicy := .sideEffectOnly
deriving DecidableEq, Repr, Inhabited

namespace Settings

/-- Whether a resolver can work with the settings. -/
def validate (s : Settings) : Except Error Unit :=
  if s.maxDepth = 0 then .error (.invalidArgument "max_depth" "must be at least 1") else .ok ()

theorem validate_eq_ok_iff {s : Settings} : s.validate = .ok () ↔ 1 ≤ s.maxDepth := by
  unfold validate
  split
  · simp [*]
  · simp; omega

def toJson (s : Settings) : Json :=
  .object [("max_depth", .nat s.maxDepth), ("adapter_policy", .string (word s.adapterPolicy))]

/-- What is given for the depth and for the policy. -/
def fields? (j : Json) : Option (Option Json × Option Json) := do
  match ← j.fields? ["max_depth", "adapter_policy"] .refused with
  | [maxDepth, adapterPolicy] => some (maxDepth, adapterPolicy)
  | _ => none

/-- The settings written as `j`. What is left out has its default. -/
def ofJson? (j : Json) : Option Settings := do
  let (maxDepth, adapterPolicy) ← fields? j
  return {
    maxDepth := ← Json.optional Json.word64? 64 maxDepth
    adapterPolicy := ← Json.optional Json.keyword? .sideEffectOnly adapterPolicy }

end Settings

end WireShape
