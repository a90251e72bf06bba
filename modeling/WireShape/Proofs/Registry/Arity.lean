import WireShape.Proofs.Registry.RawUses
import WireShape.Proofs.Resolver.SharedState

/-! # Arguments of another number

The arguments of a use are bound where the declaration has a parameter for each of them. All other uses
are raw: they see the parameters themselves in the types of the declaration, and nothing that is found
for them depends on their arguments. -/

namespace WireShape

namespace Declaration
variable {d : Declaration} {arguments : List TypeExpr}

/-- Arguments that are not as many as the parameters are not bound. -/
theorem bindings_eq_raw (h : d.parameters = [] ∨ d.parameters.length ≠ arguments.length) :
    d.bindings arguments = d.bindings [] := by
  rw [bindings_nil, bindings_eq]
  split
  next hlength =>
    -- as many as there are parameters, and so none
    have hnil : d.parameters = [] := h.resolve_right fun hne => hne hlength
    rw [asVariables, hnil]
    rfl
  · rfl

end Declaration

namespace Coupling
variable {R : Registry} {name : TypeName} {arguments arguments' : List TypeExpr}

theorem appending_uses (base base' : Array Registration) (hname : name.text ≠ "")
    (h : ∀ d, R.get? name = some d → d.bindings arguments = d.bindings arguments')
    (settings : Settings) (levels : Nat) (S : List String) (c : Context) :
    (appending base base').Coupled S S Eq
      (Resolver.resolveWithin ⟨R.environment, settings⟩ (levels + 1) (.declared name arguments) c)
      (Resolver.resolveWithin ⟨R.environment, settings⟩ (levels + 1)
        (.declared name arguments') c) := by
  refine .uses_of_instances (fun _ => rfl) hname fun d hd t _ S p => ?_
  -- the two uses see one and the same type
  rw [Declaration.instantiate, Declaration.instantiate, h d hd]
  exact ⟨rfl, appending_resolveWithin base base' rfl levels _ _⟩

end Coupling

namespace Registry

/-- A use of `name` whose arguments are not as many as the parameters of its declaration, or whose
declaration has none, is resolved like `raw name`: the result and the new adapters are the same. -/
theorem resolve_eq_raw (R : Registry) {name : TypeName} (hname : name.text ≠ "")
    (arguments : List TypeExpr)
    (harity : ∀ d, R.get? name = some d →
      d.parameters = [] ∨ d.parameters.length ≠ arguments.length)
    (settings : Settings) {c : Context} (hc : c.depth ≤ settings.maxDepth) (s : State) :
    let run := (Resolver.resolve ⟨R.environment, settings⟩ (.declared name arguments) c).run s
    let run' := (Resolver.resolve ⟨R.environment, settings⟩ (.raw name) c).run s
    run.1 = run'.1 ∧ run.2.stack = s.stack ∧ run'.2.stack = s.stack ∧
      ∃ new, run.2.adapters = s.adapters ++ new ∧ run'.2.adapters = s.adapters ++ new := by
  intro run run'
  have hcoupled : (Coupling.appending s.adapters s.adapters).Coupled s.stack s.stack Eq
      (Resolver.resolve ⟨R.environment, settings⟩ (.declared name arguments) c)
      (Resolver.resolve ⟨R.environment, settings⟩ (.raw name) c) := by
    have hlevels : settings.maxDepth + 1 - c.depth = settings.maxDepth - c.depth + 1 :=
      Nat.succ_sub hc
    unfold Resolver.resolve
    rw [hlevels]
    exact Coupling.appending_uses _ _ hname (fun d hd => Declaration.bindings_eq_raw (harity d hd))
      settings _ _ c
  obtain ⟨new, hresult, hstack, hnew, hnew'⟩ := hcoupled.exists_appended
  have hstack' : run'.2.stack = s.stack :=
    (Resolver.run_resolve_alone ⟨R.environment, settings⟩ (.raw name) c s).2.1
  exact ⟨hresult, hstack, hstack', new, hnew, hnew'⟩

/-- `Folder` has two parameters. With one argument it holds folders of its own, as `raw` does, and
no numbers. -/
theorem resolve_eq_raw_folders :
    let r : Resolver := ⟨folders.environment, {}⟩
    let use : TypeExpr := .declared ⟨"Folder"⟩ [.primitive .int]
    "Folder" ≠ "" ∧
    (∀ d, folders.get? ⟨"Folder"⟩ = some d → d.parameters = [] ∨ d.parameters.length ≠ 1) ∧
    ({} : Context).depth ≤ r.settings.maxDepth ∧
    ((r.resolve use {}).run {}).1 = .ok (.map (.named ⟨⟨"Key"⟩, .object⟩) .object) ∧
    ((r.resolve use {}).run {}).2.adapters = ((r.resolve (.raw ⟨"Folder"⟩) {}).run {}).2.adapters := by
  intro r use
  have hname : "Folder" ≠ "" := by decide
  have harity : ∀ d, folders.get? ⟨"Folder"⟩ = some d →
      d.parameters = [] ∨ d.parameters.length ≠ 1 := by
    intro d hd
    have hget : folders.get? ⟨"Folder"⟩ = some folder := by rfl
    cases hget.symm.trans hd
    exact .inr (by decide)
  have hdepth : ({} : Context).depth ≤ r.settings.maxDepth := Nat.zero_le _
  have hraw : ((r.resolve (.raw ⟨"Folder"⟩) {}).run {}).1 =
      .ok (.map (.named ⟨⟨"Key"⟩, .object⟩) .object) := by decide +kernel
  obtain ⟨hresult, -, -, new, hnew, hnew'⟩ :=
    resolve_eq_raw folders hname [.primitive .int] harity {} hdepth {}
  exact ⟨hname, harity, hdepth, hresult.trans hraw, hnew.trans hnew'.symm⟩

end Registry

end WireShape
