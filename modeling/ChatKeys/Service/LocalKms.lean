/-
  ChatKeys.Service.LocalKms

  A key management service whose master key is at hand and whose randomness
  comes from the environment.  Whoever holds the master key (`master`, the
  service's credential) can set up the same service again.
-/
import ChatKeys.Service.Environment
import ChatKeys.Service.Responder

namespace ChatKeys

/-- Whether a key can wrap others: symmetric and in the clear. -/
def Key.isUsable (k : Key) : Bool :=
  k.type.isSymmetric && !k.isEncrypted

/-- A service with its master key. -/
structure LocalKms where
  master : Key
  isUsable_master : master.isUsable = true
deriving DecidableEq

namespace LocalKms

/-- A service with a fresh master key. -/
def create (e : Environment) : LocalKms × Environment :=
  let d := e.draw keySize
  let secret : KeyBytes := ⟨d.1, Environment.length_draw _ _⟩
  (⟨.ofSecret .xchacha20poly1305 secret, rfl⟩, d.2)

def ofCredential (credential : Key) : Except KmsError LocalKms :=
  if h : credential.isUsable = true then .ok ⟨credential, h⟩
  else .error (.invalidRequest "credential must be a decrypted symmetric key")

/-- A fresh key bound to a context, wrapped under the master key. Its material
    is drawn first, then its vector. -/
def generate (kms : LocalKms) (type : KeyType) (context : KeyContext) (e : Environment) :
    Except KmsError Key × Environment :=
  let d := e.draw keySize
  let secret : KeyBytes := ⟨d.1, Environment.length_draw _ _⟩
  let (iv, e) := d.2.draw ivSize
  let key := ((Key.ofSecret type secret).withIv iv).withContext context.scope context.value
  ((key.wrap kms.master).mapError fun cause => .invalidRequest (Error.keyState cause).message, e)

/-- A key unwrapped with the master key. -/
def unwrap (kms : LocalKms) (key : Key) : Except KmsError Key :=
  match key.unwrap kms.master with
  | .ok key => .ok key
  | .error .accessDenied => .error .accessDenied
  | .error cause => .error (.invalidRequest cause.message)

/-- The service as the one who answers, together with its environment. -/
def responder (kms : LocalKms) : Responder Environment where
  nonce length e := let (b, e) := e.draw length; (.ok b, e)
  generate := kms.generate
  unwrap key e := (kms.unwrap key, e)
  time e := (e.clock, e)
  word := Environment.drawWord

end LocalKms

end ChatKeys
