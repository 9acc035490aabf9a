/-
  ChatKeys.Proofs.Raw.Key

  Keys of which no size is known.

  A `Key` in the clear carries with it that its secret has the size of a key.  A `RawKey` does not:
  its secret is any byte string, as it is in the memory of a machine.  What is done with it makes
  the checks that this takes, and a check that was taken to hold ends as `Fault.impossible` where
  it does not.

    * `Key.raw` — a key, forgetting the size of its secret;
    * `RawKey.exists_raw_iff` — the raw keys that come from a key, which is but one
      (`Key.raw_inj`), are those that are wrapped or whose secret has the size of their type;
    * `Key.wrap_raw`, `Key.unwrap_raw` and the like — with those, everything comes out as it does
      with the keys themselves, so nothing impossible happens (`Fault.embed_ne_impossible`).
-/
import ChatKeys.Proofs.Capability.Answers

namespace ChatKeys

/-! ## Outcomes -/

/-- How something that was taken to be certain of success can end without a value: with an error
    for its caller, or in a case that was taken to be impossible, in which the host is aborted. -/
inductive Fault (ε : Type) where
  | error (cause : ε)
  | impossible

namespace Fault

variable {ε ε' α β : Type}

def map (f : ε → ε') : Fault ε → Fault ε'
  | error cause => error (f cause)
  | impossible => impossible

/-- The outcome where nothing impossible happens. -/
def embed (f : α → β) (x : Except ε α) : Except (Fault ε) β :=
  (x.map f).mapError error

instance : MonadLift (Except ε) (Except (Fault ε)) where
  monadLift := Except.mapError error

theorem embed_ne_impossible (f : α → β) (x : Except ε α) : embed f x ≠ .error impossible := by
  cases x with
  | ok a => nofun
  | error e => nofun

theorem embed_eq_ok_iff {f : α → β} {x : Except ε α} {b : β} :
    embed f x = .ok b ↔ ∃ a, x = .ok a ∧ f a = b := by
  rw [embed, mapError_eq_ok_iff, map_eq_ok_iff]

/-- Steps that raise nothing but errors, one after the other. -/
theorem liftM_bind (x : Except ε α) (f : α → Except (Fault ε) β) :
    (liftM x >>= f) = match x with
      | .ok a => f a
      | .error e => .error (error e) := by
  cases x with
  | ok a => rfl
  | error e => rfl

end Fault

/-! ## Limits of the algorithms -/

namespace XChaCha20Poly1305

/-- The keystream has a block of 64 bytes for each number of 32 bits, the first of them for the
    tag; a text must not fill the others. -/
def textLimit : Nat := (2 ^ 32 - 1) * 64

/-- Sets the cipher up with a key of the right size. -/
def setup? (key : Bytes) : Option Bytes :=
  if key.length = keySize then some key else none

/-- Encrypts a text that the keystream is long enough for. -/
def wrapBelow? (key nonce associated text : Bytes) : Option Bytes :=
  if text.length < textLimit then some (wrap key nonce associated text) else none

/-- Decrypts a text that the keystream is long enough for. -/
def unwrapBelow? (key nonce associated wrapped : Bytes) : Option Bytes :=
  if wrapped.length - tagSize < textLimit then unwrap? key nonce associated wrapped else none

variable {key nonce associated text wrapped : Bytes}

theorem setup?_of_length (h : key.length = keySize) : setup? key = some key := if_pos h

theorem wrapBelow?_of_lt (h : text.length < textLimit) :
    wrapBelow? key nonce associated text = some (wrap key nonce associated text) := if_pos h

theorem unwrapBelow?_eq_some_iff :
    unwrapBelow? key nonce associated wrapped = some text ↔
      text.length < textLimit ∧ wrapped = wrap key nonce associated text := by
  rw [unwrapBelow?]
  split
  · next hlt =>
    rw [unwrap?_eq_some_iff]
    constructor
    · rintro rfl
      rw [length_wrap, Nat.add_sub_cancel] at hlt
      exact ⟨hlt, rfl⟩
    · exact And.right
  · next hge =>
    refine iff_of_false nofun ?_
    rintro ⟨hlt, rfl⟩
    rw [length_wrap, Nat.add_sub_cancel] at hge
    exact hge hlt

end XChaCha20Poly1305

/-- Prepares a key of any length, if it can be brought to the size of a block. -/
def Hmac.prepare? (key : Bytes) : Option Hmac.Prepared :=
  if (Hmac.blockKey key).length = Sha256.blockSize then some (.ofKey key) else none

theorem Hmac.prepare?_eq_some (key : Bytes) : Hmac.prepare? key = some (.ofKey key) :=
  if_pos (Hmac.length_blockKey key)

/-! ## Raw keys -/

/-- The material of a raw key. -/
inductive RawMaterial where
  | plain (secret : Bytes)
  | wrapped (ciphertext : Bytes)

/-- A key in one of its two states, with a secret of any length. -/
structure RawKey where
  type : KeyType
  iv : Bytes
  context : Option KeyContext
  material : RawMaterial

namespace RawKey

def ofPlaintext (type : KeyType) (plaintext : Bytes) : Except KeyError RawKey :=
  if plaintext.length = type.size then
    .ok { type := type, iv := [], context := none, material := .plain plaintext }
  else .error (.invalidLength type.size plaintext.length)

def ofCiphertext (type : KeyType) (iv ciphertext : Bytes) (context : Option KeyContext) :
    RawKey where
  type := type
  iv := iv
  context := context
  material := .wrapped ciphertext

def withIv (k : RawKey) (iv : Bytes) : RawKey :=
  { k with iv := iv }

def withContext (k : RawKey) (scope value : String) : RawKey :=
  { k with context := some ⟨scope, value⟩ }

def isEncrypted (k : RawKey) : Bool :=
  match k.material with
  | .plain _ => false
  | .wrapped _ => true

def plaintext (k : RawKey) : Except KeyError Bytes :=
  match k.material with
  | .plain secret => .ok secret
  | .wrapped _ => .error .mustBeDecrypted

/-- The key of the cipher, which the cipher must take. -/
def cipher (k : RawKey) : Except KeyError Bytes :=
  if k.type.isSymmetric then do
    let key ← k.plaintext
    match XChaCha20Poly1305.setup? key with
    | none => throw (.invalidLength keySize key.length)
    | some key => return key
  else .error (.incompatibleType .xchacha20poly1305 k.type)

/-- What a key shows of itself, in whatever state it is. -/
def shown (k : RawKey) : Key := .ofCiphertext k.type k.iv [] k.context

def nonce (k : RawKey) : Except KeyError Bytes := k.shown.nonce

def associatedData (k : RawKey) : Bytes := k.shown.associatedData

def wrap (k outer : RawKey) : Except (Fault KeyError) RawKey :=
  match k.material with
  | .wrapped _ => .error (.error .alreadyEncrypted)
  | .plain secret => do
    let key ← outer.cipher
    let nonce ← k.nonce
    match XChaCha20Poly1305.wrapBelow? key nonce k.associatedData secret with
    | none => throw .impossible
    | some ciphertext => return { k with material := .wrapped ciphertext }

def unwrap (k outer : RawKey) : Except Error RawKey :=
  match k.material with
  | .plain _ => .error (.keyState .alreadyDecrypted)
  | .wrapped ciphertext => do
    let key ← outer.cipher
    let nonce ← k.nonce
    match XChaCha20Poly1305.unwrapBelow? key nonce k.associatedData ciphertext with
    | none => .error .accessDenied
    | some plaintext =>
      if plaintext.length = k.type.size then return { k with material := .plain plaintext }
      else .error (.keyState (.invalidLength k.type.size plaintext.length))

def ofPasscode (passcode salt : Bytes) (kdf : KdfParams) : Except (Fault KeyError) RawKey :=
  match ofPlaintext .xchacha20poly1305 (Pbkdf2.key passcode salt kdf.rounds.toNat) with
  | .ok k => .ok k
  | .error _ => .error .impossible

def mac (k : RawKey) (message : Bytes) : Except (Fault KeyError) Bytes := do
  let key ← k.plaintext
  match Hmac.prepare? key with
  | none => throw .impossible
  | some prepared => return prepared.mac message

def checkMac (k : RawKey) (message code : Bytes) : Except (Fault KeyError) Bool := do
  return (← k.mac message) = code

/-! ### Sizes -/

/-- If the key is in the clear, its secret has the size of its type. -/
def IsSized (k : RawKey) : Prop :=
  ∀ secret, k.plaintext = .ok secret → secret.length = k.type.size

variable {k w outer : RawKey} {plaintext : Bytes}

theorem plaintext_eq_ok_iff {secret : Bytes} :
    k.plaintext = .ok secret ↔ k.material = .plain secret := by
  rw [RawKey.plaintext]
  cases k.material <;> simp

theorem isSized_of_wrapped {ciphertext : Bytes} (h : k.material = .wrapped ciphertext) :
    k.IsSized := by
  intro secret hsecret
  rw [plaintext_eq_ok_iff, h] at hsecret
  cases hsecret

theorem isSized_of_plain (h : k.material = .plain plaintext)
    (hlength : plaintext.length = k.type.size) : k.IsSized := by
  intro secret hsecret
  rw [plaintext_eq_ok_iff, h] at hsecret
  obtain rfl := RawMaterial.plain.inj hsecret
  exact hlength

theorem isSized_of_ofPlaintext {type : KeyType} (h : ofPlaintext type plaintext = .ok k) :
    k.IsSized := by
  rw [ofPlaintext] at h
  split at h
  · next hlength =>
    obtain rfl := Except.ok.inj h
    exact isSized_of_plain rfl hlength
  · cases h

theorem isSized_ofCiphertext (type : KeyType) (iv ciphertext : Bytes)
    (context : Option KeyContext) : (ofCiphertext type iv ciphertext context).IsSized :=
  isSized_of_wrapped rfl

theorem IsSized.withIv (h : k.IsSized) (iv : Bytes) : (k.withIv iv).IsSized := h

theorem IsSized.withContext (h : k.IsSized) (scope value : String) :
    (k.withContext scope value).IsSized := h

/-- What is wrapped is not in the clear. -/
theorem isSized_of_wrap (h : k.wrap outer = .ok w) : w.IsSized := by
  rw [wrap] at h
  split at h
  · cases h
  · obtain ⟨key, -, h⟩ := bind_eq_ok_iff.mp h
    obtain ⟨nonce, -, h⟩ := bind_eq_ok_iff.mp h
    split at h
    · cases h
    · obtain rfl := Except.ok.inj h
      exact isSized_of_wrapped rfl

/-- The key is what comes of wrapping the plaintext under the outer key, with its own labels. -/
def IsWrapped (k outer : RawKey) (plaintext : Bytes) : Prop :=
  ∃ key, outer.cipher = .ok key ∧ k.iv.length = ivSize ∧
    k.material = .wrapped (XChaCha20Poly1305.wrap key k.iv k.associatedData plaintext)

/-- What unwrapping answers once the outer key and the vector are known to be of use. -/
theorem unwrap_of_cipher {key ciphertext : Bytes} (hkey : outer.cipher = .ok key)
    (hiv : k.iv.length = ivSize) (hk : k.material = .wrapped ciphertext) :
    k.unwrap outer =
      match XChaCha20Poly1305.unwrapBelow? key k.iv k.associatedData ciphertext with
      | none => .error .accessDenied
      | some plaintext =>
        if plaintext.length = k.type.size then .ok { k with material := .plain plaintext }
        else .error (.keyState (.invalidLength k.type.size plaintext.length)) := by
  have hnonce : k.nonce = .ok k.iv := if_pos hiv
  rw [unwrap, hk]
  simp only [hkey, hnonce]
  rfl

/-- What is unwrapped has been checked. -/
theorem isSized_of_unwrap (h : k.unwrap outer = .ok w) : w.IsSized := by
  rw [unwrap] at h
  split at h
  · cases h
  · obtain ⟨key, -, h⟩ := bind_eq_ok_iff.mp h
    obtain ⟨nonce, -, h⟩ := bind_eq_ok_iff.mp h
    split at h
    · cases h
    · split at h
      · next hlength =>
        obtain rfl := Except.ok.inj h
        exact isSized_of_plain rfl hlength
      · cases h

/-- A wrong length is complained about exactly where a plaintext of this length was wrapped, if
    it is not that of the outer key. -/
theorem unwrap_eq_invalidLength_iff {expected actual : Nat}
    (houter : ∀ expected actual, outer.cipher ≠ .error (.invalidLength expected actual)) :
    k.unwrap outer = .error (.keyState (.invalidLength expected actual)) ↔
      ∃ plaintext, k.IsWrapped outer plaintext ∧
        plaintext.length < XChaCha20Poly1305.textLimit ∧ expected = k.type.size ∧
        actual = plaintext.length ∧ actual ≠ expected := by
  constructor
  · intro h
    cases hk : k.material with
    | plain secret =>
      rw [unwrap, hk] at h
      cases h
    | wrapped ciphertext =>
      cases hkey : outer.cipher with
      | error cause =>
        rw [unwrap, hk] at h
        simp only [hkey] at h
        cases h
        exact absurd hkey (houter _ _)
      | ok key =>
        by_cases hiv : k.iv.length = ivSize
        · rw [unwrap_of_cipher hkey hiv hk] at h
          split at h
          · cases h
          · next plaintext hopen =>
            obtain ⟨hlt, rfl⟩ := XChaCha20Poly1305.unwrapBelow?_eq_some_iff.mp hopen
            split at h
            · cases h
            · next hlength =>
              cases h
              exact ⟨plaintext, ⟨key, hkey, hiv, hk⟩, hlt, rfl, rfl, hlength⟩
        · have hnonce : k.nonce = .error (.invalidIv ivSize k.iv.length) := if_neg hiv
          rw [unwrap, hk] at h
          simp only [hkey, hnonce] at h
          cases h
  · rintro ⟨plaintext, ⟨key, hkey, hiv, hk⟩, hlt, rfl, rfl, hne⟩
    have hopen := XChaCha20Poly1305.unwrapBelow?_eq_some_iff.mpr
      ⟨hlt, (rfl : XChaCha20Poly1305.wrap key k.iv k.associatedData plaintext = _)⟩
    rw [unwrap_of_cipher hkey hiv hk, hopen]
    exact if_neg hne

end RawKey

/-! ## Keys as raw keys -/

/-- A material, forgetting the size of the secret. -/
def Material.raw : Material → RawMaterial
  | .plain secret => .plain secret.bytes
  | .wrapped ciphertext => .wrapped ciphertext

namespace Key

/-- A key, forgetting the size of its secret. -/
def raw (k : Key) : RawKey where
  type := k.type
  iv := k.iv
  context := k.context
  material := k.material.raw

theorem raw_inj {k k' : Key} : k.raw = k'.raw ↔ k = k' := by
  constructor
  · intro h
    obtain ⟨type, iv, context, material⟩ := k
    obtain ⟨type', iv', context', material'⟩ := k'
    obtain ⟨rfl, rfl, rfl, hmaterial⟩ := RawKey.mk.inj h
    cases material with
    | plain secret =>
      cases material' with
      | plain secret' =>
        obtain ⟨bytes, hlength⟩ := secret
        obtain ⟨bytes', hlength'⟩ := secret'
        obtain rfl : bytes = bytes' := RawMaterial.plain.inj hmaterial
        rfl
      | wrapped ciphertext' => cases hmaterial
    | wrapped ciphertext =>
      cases material' with
      | plain secret' => cases hmaterial
      | wrapped ciphertext' =>
        obtain rfl : ciphertext = ciphertext' := RawMaterial.wrapped.inj hmaterial
        rfl
  · rintro rfl
    rfl

theorem raw_withIv (k : Key) (iv : Bytes) : (k.withIv iv).raw = k.raw.withIv iv := rfl

theorem raw_withContext (k : Key) (scope value : String) :
    (k.withContext scope value).raw = k.raw.withContext scope value := rfl

theorem isEncrypted_raw (k : Key) : k.raw.isEncrypted = k.isEncrypted := by
  obtain ⟨type, iv, context, material⟩ := k
  cases material with
  | plain secret => rfl
  | wrapped ciphertext => rfl

theorem nonce_raw (k : Key) : k.raw.nonce = k.nonce := rfl

theorem associatedData_raw (k : Key) : k.raw.associatedData = k.associatedData := rfl

theorem ofPlaintext_raw (type : KeyType) (plaintext : Bytes) :
    RawKey.ofPlaintext type plaintext = (ofPlaintext type plaintext).map raw := by
  rw [RawKey.ofPlaintext, ofPlaintext, KeyType.size_eq]
  split
  · rfl
  · rfl

theorem plaintext_raw (k : Key) : k.raw.plaintext = k.secret.map KeyBytes.bytes := by
  obtain ⟨type, iv, context, material⟩ := k
  cases material with
  | plain secret => rfl
  | wrapped ciphertext => rfl

/-- The cipher takes every secret of a key. -/
theorem cipher_raw (k : Key) : k.raw.cipher = k.cipherSecret.map KeyBytes.bytes := by
  rw [RawKey.cipher, cipherSecret, plaintext_raw]
  show (if k.type.isSymmetric then _ else _) = _
  split
  · cases k.secret with
    | error e => rfl
    | ok secret =>
      show (match XChaCha20Poly1305.setup? secret.bytes with
        | none => _
        | some key => _) = _
      rw [XChaCha20Poly1305.setup?_of_length secret.length_bytes]
      rfl
  · rfl

/-! ### Wrapping -/

/-- The secret of a key is short enough to be wrapped. -/
theorem wrap_raw (k outer : Key) : k.raw.wrap outer.raw = Fault.embed raw (k.wrap outer) := by
  have hmaterial : k.raw.material = k.material.raw := rfl
  rw [RawKey.wrap, wrap, hmaterial, cipher_raw, nonce_raw, associatedData_raw]
  cases k.material with
  | wrapped ciphertext => rfl
  | plain secret =>
    have hshort : secret.bytes.length < XChaCha20Poly1305.textLimit := by
      rw [secret.length_bytes]
      decide
    simp only [Material.raw, XChaCha20Poly1305.wrapBelow?_of_lt hshort]
    cases outer.cipherSecret with
    | error e => rfl
    | ok key =>
      cases k.nonce with
      | error e => rfl
      | ok nonce => rfl

/-- A wrapped key that is short enough for the cipher opens as it does with its size known. -/
theorem unwrap_raw {k : Key} (outer : Key)
    (h : ∀ ciphertext, k.material = .wrapped ciphertext →
      ciphertext.length - XChaCha20Poly1305.tagSize < XChaCha20Poly1305.textLimit) :
    k.raw.unwrap outer.raw = (k.unwrap outer).map raw := by
  have hmaterial : k.raw.material = k.material.raw := rfl
  rw [RawKey.unwrap, unwrap, hmaterial, cipher_raw, nonce_raw, associatedData_raw]
  cases hk : k.material with
  | plain secret => rfl
  | wrapped ciphertext =>
    simp only [Material.raw, XChaCha20Poly1305.unwrapBelow?, if_pos (h ciphertext hk)]
    cases outer.cipherSecret with
    | error e => rfl
    | ok key =>
      cases k.nonce with
      | error e => rfl
      | ok nonce =>
        show (match XChaCha20Poly1305.unwrap? key.bytes nonce k.associatedData ciphertext with
          | none => _
          | some plaintext => if plaintext.length = k.type.size then _ else _) =
            Except.map raw (match
              XChaCha20Poly1305.unwrap? key.bytes nonce k.associatedData ciphertext with
            | none => _
            | some plaintext => _)
        cases XChaCha20Poly1305.unwrap? key.bytes nonce k.associatedData ciphertext with
        | none => rfl
        | some plaintext =>
          simp only [KeyType.size_eq]
          split
          · rfl
          · rfl

/-! ### Derived keys and codes -/

theorem ofPasscode_raw (passcode salt : Bytes) (kdf : KdfParams) :
    RawKey.ofPasscode passcode salt kdf = .ok (ofPasscode passcode salt kdf).raw := by
  have hlength : (Pbkdf2.key passcode salt kdf.rounds.toNat).length = keySize :=
    Pbkdf2.length_key _ _ _
  rw [RawKey.ofPasscode, ofPlaintext_raw, ofPlaintext, dif_pos hlength]
  rfl

theorem mac_raw (k : Key) (message : Bytes) :
    k.raw.mac message = Fault.embed id (k.mac message) := by
  rw [RawKey.mac, mac, plaintext_raw]
  cases k.secret with
  | error e => rfl
  | ok secret =>
    show (match Hmac.prepare? secret.bytes with
      | none => _
      | some prepared => _) = _
    rw [Hmac.prepare?_eq_some]
    rfl

theorem checkMac_raw (k : Key) (message code : Bytes) :
    k.raw.checkMac message code = Fault.embed id (k.checkMac message code) := by
  rw [RawKey.checkMac, checkMac, mac_raw]
  cases k.mac message with
  | error e => rfl
  | ok mac => rfl

end Key

/-- The raw keys that come from a key are those of the right size. -/
theorem RawKey.exists_raw_iff {k : RawKey} : (∃ key : Key, key.raw = k) ↔ k.IsSized := by
  constructor
  · rintro ⟨key, rfl⟩ secret hsecret
    rw [Key.plaintext_raw] at hsecret
    obtain ⟨bytes, -, rfl⟩ := map_eq_ok_iff.mp hsecret
    rw [KeyType.size_eq]
    exact bytes.length_bytes
  · intro h
    obtain ⟨type, iv, context, material⟩ := k
    cases material with
    | plain secret =>
      have hlength : secret.length = keySize := (h secret rfl).trans type.size_eq
      exact ⟨⟨type, iv, context, .plain ⟨secret, hlength⟩⟩, rfl⟩
    | wrapped ciphertext => exact ⟨⟨type, iv, context, .wrapped ciphertext⟩, rfl⟩

end ChatKeys
