import WireShape.Environment.Basic
import WireShape.Event

/-! # Telling events

Work that may fail and tells events on the way. The events never bear on the result. -/

namespace WireShape

/-- The result of work, and the events told on the way to it. -/
@[ext] structure Telling (ε α : Type) where
  result : Except ε α
  events : List Event := []

namespace Telling
variable {ε ε' α β : Type}

/-- Goes on with the value of `x`, if it has one. -/
def bind (x : Telling ε α) (f : α → Telling ε β) : Telling ε β :=
  match x.result with
  | .ok a => { result := (f a).result, events := x.events ++ (f a).events }
  | .error e => { result := .error e, events := x.events }

instance : Monad (Telling ε) where
  pure a := { result := .ok a }
  bind := bind

instance : MonadLift (Except ε) (Telling ε) where
  monadLift x := { result := x }

def tell (events : List Event) : Telling ε Unit :=
  { result := .ok (), events }

def mapError (f : ε → ε') (x : Telling ε α) : Telling ε' α :=
  { result := x.result.mapError f, events := x.events }

@[simp] theorem result_bind (x : Telling ε α) (f : α → Telling ε β) :
    (x >>= f).result = x.result >>= fun a => (f a).result := by
  show (x.bind f).result = _
  unfold bind
  cases x.result <;> rfl

@[simp] theorem result_lift (x : Except ε α) : (liftM x : Telling ε α).result = x := rfl

@[simp] theorem result_mapError (f : ε → ε') (x : Telling ε α) :
    (x.mapError f).result = x.result.mapError f := rfl

instance : LawfulMonad (Telling ε) :=
  LawfulMonad.mk' (Telling ε)
    (fun x => by
      show x.bind _ = x
      unfold bind
      split <;> ext1 <;> simp [*])
    (fun a f => by
      show bind (pure a) f = f a
      simp [bind, pure])
    (fun x f g => by
      show (x.bind f).bind g = x.bind fun a => (f a).bind g
      unfold bind
      cases x.result with
      | error e => rfl
      | ok a => cases h : (f a).result <;> simp [h])

@[simp] theorem result_mapM (f : α → Telling ε β) (as : List α) :
    (as.mapM f).result = as.mapM fun a => (f a).result := by
  induction as with
  | nil => rfl
  | cons a as ih =>
    simp only [List.mapM_cons, result_bind, ih]
    rfl

end Telling

/-- Asks everything about `d`. The five questions that bind its arguments warn of a wrong number of
them. -/
def Environment.tellAnswers {ε : Type} (e : Environment) (d : DeclaredType) : Telling ε Answers where
  result := .ok (e.answers d)
  events := match e.misfit d with
    | some parameters => List.replicate 5 (.arityMismatch d parameters)
    | none => []

end WireShape
