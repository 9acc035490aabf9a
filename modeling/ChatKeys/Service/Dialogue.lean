/-
  ChatKeys.Service.Dialogue

  Operations that need a key management service, a clock or random words, as
  dialogues: a `Dialogue` either is finished, or asks one question and says how
  it goes on after each possible answer, or reports an event.  It says nothing
  about who answers, so what holds of a dialogue holds for every service.

    * `Dialogue.bind` — one dialogue after another, which stops at a failure;
    * `Dialogue.nonce`, `Dialogue.generate`, `Dialogue.unwrap` — calls of the
      service as steps of an operation: a failed call is reported, unless it is
      a denial, and ends the dialogue;
    * `Dialogue.now`, `Dialogue.randomWord` — the clock and the random source.
-/
import ChatKeys.Audit.Logged
import ChatKeys.Key.Basic

namespace ChatKeys

/-- How a dialogue can end other than with a value. -/
inductive Failure where
  /-- An error for the caller. -/
  | error (cause : Error)
  /-- The service's nonce is too short to be cut into its parts; the operation
      is abandoned. -/
  | shortNonce (needed actual : Nat)
  /-- A span of time ends beyond the last point in time; the operation is
      abandoned. -/
  | endOfTime
deriving DecidableEq, Repr

/-- A conversation with a key management service, a clock and a random source. -/
inductive Dialogue (α : Type) where
  | finish (result : Except Failure α)
  /-- Asks the service for random bytes. -/
  | askNonce (length : Nat) (next : Except KmsError Bytes → Dialogue α)
  /-- Asks the service for a fresh key, wrapped under its master key. -/
  | askKey (type : KeyType) (context : KeyContext) (next : Except KmsError Key → Dialogue α)
  /-- Asks the service to unwrap a key. -/
  | askUnwrap (key : Key) (next : Except KmsError Key → Dialogue α)
  /-- Asks for the time. -/
  | askTime (next : Time → Dialogue α)
  /-- Asks for a random word. -/
  | askWord (next : UInt64 → Dialogue α)
  /-- Reports an event. -/
  | report (event : Event) (rest : Dialogue α)

namespace Dialogue

variable {α β : Type}

/-- One dialogue after another. -/
def bind : Dialogue α → (α → Dialogue β) → Dialogue β
  | finish (.ok a), f => f a
  | finish (.error e), _ => finish (.error e)
  | askNonce length next, f => askNonce length fun reply => bind (next reply) f
  | askKey type context next, f => askKey type context fun reply => bind (next reply) f
  | askUnwrap key next, f => askUnwrap key fun reply => bind (next reply) f
  | askTime next, f => askTime fun reply => bind (next reply) f
  | askWord next, f => askWord fun reply => bind (next reply) f
  | report event rest, f => report event (bind rest f)

instance : Monad Dialogue where
  pure a := finish (.ok a)
  bind := bind

def fail (e : Failure) : Dialogue α := finish (.error e)

def refuse (e : Error) : Dialogue α := fail (.error e)

/-- A dialogue in which nothing is asked. -/
def ofExcept : Except Error α → Dialogue α
  | .ok a => finish (.ok a)
  | .error e => refuse e

/-- Reports the events of an answer and goes on with its result. -/
def ofLogged (x : Logged α) : Dialogue α :=
  x.events.foldr report (ofExcept x.result)

instance : MonadLift (Except Error) Dialogue := ⟨ofExcept⟩

instance : MonadLift Logged Dialogue := ⟨ofLogged⟩

/-- Reports an event and goes on. -/
def note (event : Event) : Dialogue Unit := report event (finish (.ok ()))

/-! ## Steps -/

/-- Goes on with the service's reply to a step, or ends with its error. Every
    error but a denial is reported. -/
def settle (step : String) : Except KmsError α → Dialogue α
  | .ok a => finish (.ok a)
  | .error .accessDenied => refuse (.ofKms step .accessDenied)
  | .error cause => report (.serviceCallFailed step cause) (refuse (.ofKms step cause))

def nonceStep : String := "nonce generation"

def generateStep : String := "key generation"

def unwrapStep : String := "key decryption"

/-- Random bytes from the service. -/
def nonce (length : Nat) (step : String := nonceStep) : Dialogue Bytes :=
  askNonce length (settle step)

/-- A fresh symmetric key from the service, bound to a context. -/
def generate (scope value : String) : Dialogue Key :=
  askKey .xchacha20poly1305 ⟨scope, value⟩ (settle generateStep)

def unwrap (key : Key) : Dialogue Key :=
  askUnwrap key (settle unwrapStep)

def now : Dialogue Time := askTime fun t => finish (.ok t)

def randomWord : Dialogue UInt64 := askWord fun w => finish (.ok w)

/-- A fresh identifier for the current time. -/
def freshSnowflake : Dialogue Snowflake := do
  let t ← now
  return Snowflake.ofTime t (← randomWord)

/-- The first `size` bytes of a nonce and what is behind them; a shorter nonce
    abandons the operation. -/
def cut (size : Nat) (nonce : Bytes) : Dialogue (Bytes × Bytes) :=
  if nonce.length < size then fail (.shortNonce size nonce.length)
  else pure (nonce.take size, nonce.drop size)

/-! ## Laws -/

@[simp] theorem pure_bind (a : α) (f : α → Dialogue β) : (pure a >>= f) = f a := rfl

@[simp] theorem fail_bind (e : Failure) (f : α → Dialogue β) : (fail e >>= f) = fail e := rfl

theorem bind_pure (d : Dialogue α) : d.bind (fun a => finish (.ok a)) = d := by
  induction d with
  | finish r => cases r <;> rfl
  | askNonce n next ih => simp only [bind, ih]
  | askKey t c next ih => simp only [bind, ih]
  | askUnwrap k next ih => simp only [bind, ih]
  | askTime next ih => simp only [bind, ih]
  | askWord next ih => simp only [bind, ih]
  | report e rest ih => simp only [bind, ih]

theorem bind_assoc {γ : Type} (d : Dialogue α) (f : α → Dialogue β) (g : β → Dialogue γ) :
    (d.bind f).bind g = d.bind fun a => (f a).bind g := by
  induction d with
  | finish r => cases r <;> rfl
  | askNonce n next ih => simp only [bind, ih]
  | askKey t c next ih => simp only [bind, ih]
  | askUnwrap k next ih => simp only [bind, ih]
  | askTime next ih => simp only [bind, ih]
  | askWord next ih => simp only [bind, ih]
  | report e rest ih => simp only [bind, ih]

end Dialogue

end ChatKeys
