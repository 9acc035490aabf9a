/-
  ChatKeys.Audit.Logged

  The answer of an operation that asks nobody: its result and the events that it
  reported on the way, in order.
-/
import ChatKeys.Audit.Event

namespace ChatKeys

/-- A result together with the events reported on the way to it. -/
structure Logged (α : Type) where
  events : List Event
  result : Except Error α

namespace Logged

variable {α β : Type}

def ofExcept (result : Except Error α) : Logged α := ⟨[], result⟩

def refuse (event : Event) (e : Error) : Logged α := ⟨[event], .error e⟩

/-- One answer after another; the second depends on the value of the first. -/
def bind (x : Logged α) (f : α → Logged β) : Logged β :=
  match x.result with
  | .ok a => ⟨x.events ++ (f a).events, (f a).result⟩
  | .error e => ⟨x.events, .error e⟩

instance : Monad Logged where
  pure a := ofExcept (.ok a)
  bind := bind

instance : MonadLift (Except Error) Logged := ⟨ofExcept⟩

@[simp] theorem result_pure (a : α) : (pure a : Logged α).result = .ok a := rfl

@[simp] theorem events_pure (a : α) : (pure a : Logged α).events = [] := rfl

/-- The result of two answers in a row is what their results say. -/
@[simp] theorem result_bind (x : Logged α) (f : α → Logged β) :
    (x >>= f).result = x.result >>= fun a => (f a).result := by
  show (bind x f).result = _
  cases h : x.result <;> simp only [bind, h] <;> rfl

end Logged

end ChatKeys
