/-
  ChatKeys.Proofs.Key.Content

  Sealing and opening content under a key undo each other, as bytes
  (`Key.openContent_eq_ok_iff`) and as text (`SealedContent.parse_eq_ok_iff`):
  content opens to a plaintext exactly if it is what sealing that plaintext
  gives, and a text stands for content exactly if it is the content's text form.
  No ciphertext has a second digest (`Key.openContent_of_digest_ne`).
-/
import ChatKeys.Message.Encryption
import ChatKeys.Proofs.Text.Base64
import ChatKeys.Service.LocalKms

namespace ChatKeys

/-- A key of the cipher, for examples. -/
def exampleKey : Key := .ofSecret .xchacha20poly1305 ⟨List.replicate keySize 1, rfl⟩

namespace Key

/-! ## Keys of the cipher -/

theorem cipherSecret_eq_ok_iff {k : Key} {secret : KeyBytes} :
    k.cipherSecret = .ok secret ↔ k.type.isSymmetric = true ∧ k.material = .plain secret := by
  rw [cipherSecret, Key.secret]
  cases k.type.isSymmetric with
  | false => simp
  | true => cases k.material <;> simp

/-- The keys of the cipher are those that can wrap others. -/
theorem isUsable_iff {k : Key} : k.isUsable = true ↔ ∃ secret, k.cipherSecret = .ok secret := by
  simp only [cipherSecret_eq_ok_iff, isUsable, isEncrypted]
  cases k.type.isSymmetric with
  | false => simp
  | true => cases k.material <;> simp

theorem not_isEncrypted_of_cipherSecret {k : Key} {secret : KeyBytes}
    (h : k.cipherSecret = .ok secret) : k.isEncrypted = false := by
  rw [isEncrypted, (cipherSecret_eq_ok_iff.1 h).2]

theorem secret_of_cipherSecret {k : Key} {secret : KeyBytes} (h : k.cipherSecret = .ok secret) :
    k.secret = .ok secret := by
  rw [Key.secret, (cipherSecret_eq_ok_iff.1 h).2]

/-! ## Content -/

theorem sealContent_of_cipherSecret {k : Key} {secret : KeyBytes} (h : k.cipherSecret = .ok secret)
    (material content associated : Bytes) :
    k.sealContent material content associated = .ok
      { digest := XChaCha20Poly1305.tag secret.bytes (contentNonce material) associated
          (XChaCha20Poly1305.encrypt secret.bytes (contentNonce material) content)
        ciphertext := XChaCha20Poly1305.encrypt secret.bytes (contentNonce material) content } := by
  rw [sealContent, h]
  rfl

theorem exists_sealContent_of_isUsable {k : Key} (h : k.isUsable = true)
    (material content associated : Bytes) :
    ∃ c, k.sealContent material content associated = .ok c := by
  obtain ⟨secret, hsecret⟩ := isUsable_iff.1 h
  exact ⟨_, sealContent_of_cipherSecret hsecret material content associated⟩

theorem openContent_of_cipherSecret {k : Key} {secret : KeyBytes} (h : k.cipherSecret = .ok secret)
    (material associated : Bytes) (c : SealedContent) :
    k.openContent material c associated =
      if c.digest.length ≠ XChaCha20Poly1305.tagSize then
        .error (.corrupted (.digestLength c.digest.length))
      else
        match XChaCha20Poly1305.decrypt? secret.bytes (contentNonce material) associated
            c.ciphertext c.digest with
        | some content => .ok content
        | none => .error .accessDenied := by
  rw [openContent, h]
  split <;> rfl

/-- Content opens to exactly what it was sealed from. -/
theorem openContent_eq_ok_iff {k : Key} {material associated content : Bytes} {c : SealedContent} :
    k.openContent material c associated = .ok content ↔
      k.sealContent material content associated = .ok c := by
  cases hk : k.cipherSecret with
  | error e =>
    rw [openContent, sealContent, hk]
    constructor <;> rintro ⟨⟩
  | ok secret =>
    rw [openContent_of_cipherSecret hk, sealContent_of_cipherSecret hk]
    constructor
    · -- The tag and the plaintext determine what was sealed.
      intro h
      split at h
      · cases h
      · cases hd : XChaCha20Poly1305.decrypt? secret.bytes (contentNonce material) associated
            c.ciphertext c.digest with
        | none => rw [hd] at h; cases h
        | some opened =>
          rw [hd] at h
          obtain rfl : opened = content := Except.ok.inj h
          obtain ⟨htext, htag⟩ := XChaCha20Poly1305.decrypt?_eq_some_iff.1 hd
          rw [← htext, ← htag]
    · intro h
      obtain rfl := Except.ok.inj h
      rw [if_neg (by simp), XChaCha20Poly1305.decrypt?_encrypt]

/-- A ciphertext opens with one digest, its tag, and is refused with every other. -/
theorem openContent_digest {k : Key} {secret : KeyBytes} (h : k.cipherSecret = .ok secret)
    (material associated ciphertext digest : Bytes) :
    k.openContent material ⟨digest, ciphertext⟩ associated =
      if digest = XChaCha20Poly1305.tag secret.bytes (contentNonce material) associated ciphertext
      then .ok (XChaCha20Poly1305.encrypt secret.bytes (contentNonce material) ciphertext)
      else if digest.length = XChaCha20Poly1305.tagSize then .error .accessDenied
      else .error (.corrupted (.digestLength digest.length)) := by
  rw [openContent_of_cipherSecret h, XChaCha20Poly1305.decrypt?]
  by_cases htag : digest
      = XChaCha20Poly1305.tag secret.bytes (contentNonce material) associated ciphertext
  · have hlength : digest.length = XChaCha20Poly1305.tagSize := by rw [htag]; simp
    simp only [hlength, ne_eq, not_true, if_false, if_pos htag]
  · by_cases hlength : digest.length = XChaCha20Poly1305.tagSize
    · simp only [hlength, ne_eq, not_true, if_false, if_neg htag, if_true]
    · simp only [hlength, ne_eq, not_false_iff, if_true, if_neg htag, if_false]

end Key

/-! ## The text form -/

namespace SealedContent

theorem splitAtSlashes_ne_nil (cs : List Char) : splitAtSlashes cs ≠ [] := by
  cases cs with
  | nil => simp [splitAtSlashes]
  | cons c rest =>
    rw [splitAtSlashes]
    split
    · simp
    · split <;> simp

/-- The parts of a text with a slash put between them are the text. -/
theorem intercalate_splitAtSlashes (cs : List Char) :
    ['/'].intercalate (splitAtSlashes cs) = cs := by
  -- A slash opens a new part in front, any other character goes into the first one.
  induction cs with
  | nil => rfl
  | cons c rest ih =>
    obtain ⟨part, others, hparts⟩ := List.exists_cons_of_ne_nil (splitAtSlashes_ne_nil rest)
    rw [hparts] at ih
    rw [splitAtSlashes, hparts]
    split
    · next hc => rw [List.intercalate_cons_cons, ih, hc]; rfl
    · cases others with
      | nil =>
        rw [List.intercalate_singleton] at ih ⊢
        rw [ih]
      | cons other others =>
        rw [List.intercalate_cons_cons] at ih ⊢
        rw [← ih]
        rfl

theorem splitAtSlashes_append {front : List Char} (h : '/' ∉ front) (back : List Char) :
    splitAtSlashes (front ++ '/' :: back) = front :: splitAtSlashes back := by
  induction front with
  | nil => simp [splitAtSlashes]
  | cons c front ih =>
    have hc : c ≠ '/' := fun he => h (he ▸ List.mem_cons_self)
    rw [List.cons_append, splitAtSlashes, ih fun hm => h (List.mem_cons_of_mem _ hm), if_neg hc]

theorem splitAtSlashes_of_notMem {cs : List Char} (h : '/' ∉ cs) : splitAtSlashes cs = [cs] := by
  induction cs with
  | nil => rfl
  | cons c cs ih =>
    have hc : c ≠ '/' := fun he => h (he ▸ List.mem_cons_self)
    rw [splitAtSlashes, ih fun hm => h (List.mem_cons_of_mem _ hm), if_neg hc]

theorem toList_text (c : SealedContent) :
    c.text.toList = Base64.encodeChars c.digest ++ '/' :: Base64.encodeChars c.ciphertext := by
  simp [text, Base64.encode]

/-- The text form of content is read back as the content. -/
theorem parse_text (c : SealedContent) : parse c.text = .ok c := by
  -- No digit of base64 is a slash here, so the one between the parts is the only one.
  have hparts : splitAtSlashes c.text.toList
      = [Base64.encodeChars c.digest, Base64.encodeChars c.ciphertext] := by
    rw [toList_text, splitAtSlashes_append (Base64.slash_notMem_encodeChars _),
      splitAtSlashes_of_notMem (Base64.slash_notMem_encodeChars _)]
  simp only [parse, hparts, Base64.decodeChars?_encodeChars]

/-- A text stands for content exactly if it is the content's text form. -/
theorem parse_eq_ok_iff {s : String} {c : SealedContent} : parse s = .ok c ↔ s = c.text := by
  constructor
  · intro h
    rw [parse] at h
    split at h
    · next digest ciphertext hparts =>
      split at h
      · cases h
      · next d hd =>
        split at h
        · cases h
        · next b hb =>
          -- Put together again, the parts are what their bytes are written as.
          obtain rfl := Except.ok.inj h
          have hs := intercalate_splitAtSlashes s.toList
          rw [hparts, List.intercalate_cons_cons, List.intercalate_singleton,
            Base64.decodeChars?_eq_some_iff.1 hd, Base64.decodeChars?_eq_some_iff.1 hb] at hs
          rw [← String.toList_inj, toList_text, ← hs]
          simp
    · cases h
  · rintro rfl
    exact parse_text c

/-- Different content has different texts. -/
theorem text_inj {c c' : SealedContent} : c.text = c'.text ↔ c = c' := by
  rw [← parse_eq_ok_iff, parse_text, Except.ok.injEq]

end SealedContent

end ChatKeys
