/-
  ChatKeys.Service.Faults

  A service under test conditions: its calls are counted, and it can be made to
  fail from some call on, to return nonces of a wrong length, to make keys of a
  wrong type, or to hand keys back without unwrapping them.
-/
import ChatKeys.Service.Responder

namespace ChatKeys

/-- What goes wrong with a service. -/
structure Faults where
  /-- The first call that fails, counted from zero. -/
  failAfter : Option Nat := none
  /-- What failing calls answer. -/
  error : KmsError := .accessDenied
  /-- The length of all nonces, whatever was asked. -/
  nonceLength : Option Nat := none
  /-- The type of all keys, whatever was asked. -/
  keyType : Option KeyType := none
  /-- Whether keys come back as they were given. -/
  keepsWrapped : Bool := false
deriving DecidableEq, Repr

/-- The state of a service and the number of calls made of it. -/
structure Counted (σ : Type) where
  calls : Nat
  inner : σ

namespace Faults

/-- The answer to the next call: the fault's, if it is one that fails. Every
    call is counted. -/
def call {σ α : Type} (f : Faults) (answer : σ → Except KmsError α × σ) (s : Counted σ) :
    Except KmsError α × Counted σ :=
  let failing := f.failAfter.any fun n => decide (n ≤ s.calls)
  -- A failing call does not reach the service, so that its state stays as it is.
  if failing then (.error f.error, ⟨s.calls + 1, s.inner⟩)
  else
    let (reply, inner) := answer s.inner
    (reply, ⟨s.calls + 1, inner⟩)

/-- A responder with these faults. -/
def applyTo {σ : Type} (f : Faults) (r : Responder σ) : Responder (Counted σ) where
  nonce length := f.call (r.nonce (f.nonceLength.getD length))
  generate type context := f.call (r.generate (f.keyType.getD type) context)
  unwrap key := f.call (if f.keepsWrapped then fun s => (.ok key, s) else r.unwrap key)
  time s := let (t, inner) := r.time s.inner; (t, ⟨s.calls, inner⟩)
  word s := let (w, inner) := r.word s.inner; (w, ⟨s.calls, inner⟩)

end Faults

end ChatKeys
