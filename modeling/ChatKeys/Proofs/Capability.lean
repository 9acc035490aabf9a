/-
  ChatKeys.Proofs.Capability

  A capability hands over exactly the key that was sealed in it, as far as a
  capability keeps it: type and material, without vector and context (`Key.bare`).

    * `issue_eq_ok_iff`, `exists_issue` — what issuing gives, and when;
    * `redeem_issue` — with a recipient key of the same secret the capability gives
      the key back;
    * `redeem_issue_of_ne` — with any other it gives nothing, short of a collision.
-/
import ChatKeys.Capability
import ChatKeys.Proofs.Crypto.Tags
import ChatKeys.Proofs.Key.Stored
import ChatKeys.Proofs.Key.Wrapping

namespace ChatKeys

namespace Key

/-- The key without vector and context. -/
def bare (k : Key) : Key := { k with iv := [], context := none }

theorem secret_eq_ok_iff {k : Key} {secret : KeyBytes} :
    k.secret = .ok secret ↔ k.material = .plain secret := by
  rw [Key.secret]
  cases k.material <;> simp

/-- What is left of a key in the clear is its type and its secret. -/
theorem bare_of_secret {k : Key} {secret : KeyBytes} (h : k.secret = .ok secret) :
    k.bare = ofSecret k.type secret := by
  obtain ⟨type, iv, context, material⟩ := k
  cases secret_eq_ok_iff.1 h
  rfl

@[simp] theorem cipherSecret_bare (k : Key) : k.bare.cipherSecret = k.cipherSecret := rfl

end Key

namespace Capability

variable {recipient k : Key} {iv : Bytes} {c : Capability}

/-- The record that is sealed of a key. -/
def recordBytes (type : KeyType) (secret : KeyBytes) : Bytes :=
  Bytes.ofString (SharedKey.codec.text ⟨type, secret.bytes⟩)

/-- The record is read back. -/
theorem decode_recordBytes (type : KeyType) (secret : KeyBytes) :
    SharedKey.codec.decode (recordBytes type secret) = .ok ⟨type, secret.bytes⟩ :=
  (SharedKey.restores ⟨type, secret.bytes⟩).decode_text

theorem issue_eq_ok_iff :
    issue recipient iv k = .ok c ↔
      ∃ key secret, recipient.cipherSecret = .ok key ∧ iv.length = ivSize ∧
        k.secret = .ok secret ∧
        c = { id := Base64.encode iv
              payload := XChaCha20Poly1305.wrap key.bytes iv associatedData
                (recordBytes k.type secret) } := by
  rw [issue]
  simp only [bind_eq_ok_iff]
  constructor
  · rintro ⟨key, hkey, h⟩
    by_cases hiv : iv.length = ivSize
    · rw [if_neg (not_not_intro hiv)] at h
      obtain ⟨secret, hsecret, h⟩ := bind_eq_ok_iff.1 h
      exact ⟨key, secret, hkey, hiv, hsecret, pure_eq_ok_iff.1 h⟩
    · rw [if_pos hiv] at h
      cases h
  · rintro ⟨key, secret, hkey, hiv, hsecret, rfl⟩
    refine ⟨key, hkey, ?_⟩
    rw [if_neg (not_not_intro hiv)]
    exact bind_eq_ok_iff.2 ⟨secret, hsecret, rfl⟩

/-- Any key in the clear can be sealed to any key of the cipher. -/
theorem exists_issue (hrecipient : recipient.isUsable = true) (hiv : iv.length = ivSize)
    (hk : k.isEncrypted = false) : ∃ c, issue recipient iv k = .ok c := by
  obtain ⟨key, hkey⟩ := Key.isUsable_iff.1 hrecipient
  obtain ⟨secret, hmaterial⟩ := Key.exists_plain hk
  exact ⟨_, issue_eq_ok_iff.2
    ⟨key, secret, hkey, hiv, Key.secret_eq_ok_iff.2 hmaterial, rfl⟩⟩

theorem not_isEncrypted_of_issue (h : issue recipient iv k = .ok c) : k.isEncrypted = false := by
  obtain ⟨_, secret, -, -, hsecret, -⟩ := issue_eq_ok_iff.1 h
  rw [Key.isEncrypted, Key.secret_eq_ok_iff.1 hsecret]

/-- What redeeming answers once the recipient key and the vector are known to be of
    use. -/
theorem redeem_of_cipherSecret {key : KeyBytes} (hkey : recipient.cipherSecret = .ok key)
    (hiv : iv.length = ivSize) (payload : Bytes) :
    redeem ⟨Base64.encode iv, payload⟩ recipient =
      match XChaCha20Poly1305.unwrap? key.bytes iv associatedData payload with
      | none => .error .accessDenied
      | some plaintext =>
        match SharedKey.codec.decode plaintext with
        | .error cause => .error (.corrupted (.capabilityPayload cause))
        | .ok shared => (Key.ofPlaintext shared.type shared.bytes).mapError .keyState := by
  rw [redeem, hkey]
  simp only [Base64.decode?_encode]
  show (if iv.length ≠ ivSize then _ else _) = _
  rw [if_neg (not_not_intro hiv)]
  rfl

/-- Of the recipient key only the secret counts, for refusals too. -/
theorem redeem_congr {recipient' : Key} (h : recipient.cipherSecret = recipient'.cipherSecret) :
    c.redeem recipient = c.redeem recipient' := by
  rw [redeem, redeem, h]

/-- With any key of the recipient's secret a capability gives the sealed key. -/
theorem redeem_issue (h : issue recipient iv k = .ok c) {recipient' : Key}
    (hrecipient : recipient'.cipherSecret = recipient.cipherSecret) :
    c.redeem recipient' = .ok k.bare := by
  obtain ⟨key, secret, hkey, hiv, hsecret, rfl⟩ := issue_eq_ok_iff.1 h
  rw [hkey] at hrecipient
  rw [redeem_of_cipherSecret hrecipient hiv, XChaCha20Poly1305.unwrap?_wrap]
  simp only [decode_recordBytes]
  rw [Key.ofPlaintext, dif_pos secret.length_bytes, Key.bare_of_secret hsecret]
  rfl

/-- With a key of another secret a capability is refused, unless the two secrets
    collide at what is sealed in it. -/
theorem redeem_issue_of_ne {key key' : KeyBytes} {recipient' : Key}
    (h : issue recipient iv k = .ok c) (hkey : recipient.cipherSecret = .ok key)
    (hkey' : recipient'.cipherSecret = .ok key') (hne : key.bytes ≠ key'.bytes) :
    c.redeem recipient' = .error .accessDenied ∨
      XChaCha20Poly1305.KeyCollision key.bytes key'.bytes iv associatedData
        (XChaCha20Poly1305.withoutTag c.payload) := by
  obtain ⟨_, secret, hsame, hiv, -, rfl⟩ := issue_eq_ok_iff.1 h
  obtain rfl := Except.ok.inj (hkey.symm.trans hsame)
  rcases XChaCha20Poly1305.unwrap?_wrap_of_ne hne iv associatedData (recordBytes k.type secret)
    with hnone | hcollision
  · refine .inl ?_
    rw [redeem_of_cipherSecret hkey' hiv, hnone]
  · exact .inr hcollision

end Capability

end ChatKeys
