/-
  ChatKeys.Proofs.Message.Answers

  Everything that decrypting a message answers, and when.

  The questions are asked one after the other, and the first that is answered with no decides:
  is there something to decrypt, is the key at hand, is it in the clear, is the content the text
  of a digest and a ciphertext, is the key one of the cipher, is the digest as long as a tag, does
  the content authenticate, and does the plaintext say something in the format of the key.
  `Message.Answers` has one rule for each way in which this ends.  Its rules speak of what is
  written and sealed, not of how it is read and opened.

    * `exists_answers`, `decrypt_of_answers` — one of the rules always applies, and decrypting
      follows it; so decrypting is what the rules say (`decrypt_eq_iff`);
    * `Names.result_wrapped_iff`, `Names.result_denied_iff`, `Names.result_corrupted_iff` — what
      a reader who has the key is told, and of which messages;
    * `decrypt_answers_in_order` — all of them in their order.
-/
import ChatKeys.Proofs.Capability.Answers
import ChatKeys.Proofs.Message.Spelling

namespace ChatKeys

open Json

/-! ## Reading content -/

namespace SealedContent

/-- A text is two parts with a slash between them, and there is no other slash. -/
structure IsPair (s front back : String) : Prop where
  eq : s = front ++ "/" ++ back
  front : '/' ∉ front.toList
  back : '/' ∉ back.toList

/-- No part holds a slash. -/
theorem slash_notMem_splitAtSlashes {cs part : List Char} (h : part ∈ splitAtSlashes cs) :
    '/' ∉ part := by
  induction cs generalizing part with
  | nil =>
    rw [splitAtSlashes, List.mem_singleton] at h
    rw [h]
    exact List.not_mem_nil
  | cons c rest ih =>
    obtain ⟨first, others, hparts⟩ := List.exists_cons_of_ne_nil (splitAtSlashes_ne_nil rest)
    have hfirst : '/' ∉ first := ih (hparts ▸ List.mem_cons_self)
    have hothers : ∀ part ∈ others, '/' ∉ part := fun part hpart =>
      ih (hparts ▸ List.mem_cons_of_mem _ hpart)
    rw [splitAtSlashes, hparts] at h
    split at h
    · -- A slash opens a new part in front.
      rcases List.mem_cons.mp h with rfl | hrest
      · exact List.not_mem_nil
      · rcases List.mem_cons.mp hrest with rfl | hother
        · exact hfirst
        · exact hothers part hother
    · next hc =>
      rcases List.mem_cons.mp h with rfl | hother
      · rw [List.mem_cons]
        rintro (he | hmem)
        · exact hc he.symm
        · exact hfirst hmem
      · exact hothers part hother

/-- What is read of a text in two parts. -/
theorem parse_of_isPair {s front back : String} (h : IsPair s front back) :
    parse s =
      match Base64.decode? front with
      | none => .error .digestText
      | some digest =>
        match Base64.decode? back with
        | none => .error .ciphertextText
        | some ciphertext => .ok { digest := digest, ciphertext := ciphertext } := by
  have hs : s.toList = front.toList ++ '/' :: back.toList := by
    rw [h.eq, String.toList_append, String.toList_append]
    simp
  have hparts : splitAtSlashes s.toList = [front.toList, back.toList] := by
    rw [hs, splitAtSlashes_append h.front, splitAtSlashes_of_notMem h.back]
  rw [parse, hparts]
  rfl

/-- A text that is not in two parts is refused for its shape. -/
theorem parse_of_not_isPair {s : String} (h : ∀ front back, ¬ IsPair s front back) :
    parse s = .error .contentShape := by
  rw [parse]
  split
  · next digest ciphertext hparts =>
    -- The two parts, put together again, are the text.
    have hs := intercalate_splitAtSlashes s.toList
    rw [hparts, List.intercalate_cons_cons, List.intercalate_singleton] at hs
    have hmem : ∀ part ∈ [digest, ciphertext], '/' ∉ part := by
      rw [← hparts]
      exact fun part => slash_notMem_splitAtSlashes
    have hfront : '/' ∉ digest := hmem digest List.mem_cons_self
    have hback : '/' ∉ ciphertext := hmem ciphertext (List.mem_cons_of_mem _ List.mem_cons_self)
    refine absurd ?_ (h (String.ofList digest) (String.ofList ciphertext))
    refine ⟨?_, ?_, ?_⟩
    · rw [← String.toList_inj, ← hs]
      simp
    · rwa [String.toList_ofList]
    · rwa [String.toList_ofList]
  · rfl

/-- What is wrong with a text that is not the text of a digest and a ciphertext. -/
inductive Malformed : String → Corruption → Prop where
  /-- It is not in two parts. -/
  | shape {s : String} : (∀ front back, ¬ IsPair s front back) → Malformed s .contentShape
  /-- The first part is the text of no bytes. -/
  | digest {s front back : String} : IsPair s front back → (∀ b, front ≠ Base64.encode b) →
      Malformed s .digestText
  /-- The first part is the text of some bytes, and the second of none. -/
  | ciphertext {s back : String} {digest : Bytes} : IsPair s (Base64.encode digest) back →
      (∀ b, back ≠ Base64.encode b) → Malformed s .ciphertextText

/-- A malformed text is refused for what is wrong with it. -/
theorem parse_of_malformed {s : String} {cause : Corruption} (h : Malformed s cause) :
    parse s = .error cause := by
  cases h with
  | shape hpair => exact parse_of_not_isPair hpair
  | digest hpair hfront => rw [parse_of_isPair hpair, Base64.decode?_eq_none_iff.mpr hfront]
  | ciphertext hpair hback =>
    rw [parse_of_isPair hpair, Base64.decode?_encode, Base64.decode?_eq_none_iff.mpr hback]

/-- Something is wrong with a text exactly if it is not the text of a digest and a ciphertext. -/
theorem exists_malformed_iff {s : String} :
    (∃ cause, Malformed s cause) ↔ ∀ c : SealedContent, s ≠ c.text := by
  constructor
  · rintro ⟨cause, h⟩ c rfl
    have hparse := parse_of_malformed h
    rw [parse_text] at hparse
    cases hparse
  · intro h
    by_cases hpair : ∃ front back, IsPair s front back
    · obtain ⟨front, back, hpair⟩ := hpair
      by_cases hfront : ∃ digest, front = Base64.encode digest
      · obtain ⟨digest, rfl⟩ := hfront
        have hback : ∀ b, back ≠ Base64.encode b := by
          rintro ciphertext rfl
          exact h ⟨digest, ciphertext⟩ hpair.eq
        exact ⟨_, .ciphertext hpair hback⟩
      · exact ⟨_, .digest hpair (not_exists.mp hfront)⟩
    · exact ⟨_, .shape fun front back hp => hpair ⟨front, back, hp⟩⟩

end SealedContent

namespace Message

variable {m : Message} {keys : KeyRing} {level : PrivilegeLevel} {keyId : EncryptionKeyId}
  {key : Key} {answer : Logged Message}

/-- The message is to be decrypted, and the reader has the key that it names. -/
structure Names (m : Message) (keys : KeyRing) (keyId : EncryptionKeyId) (key : Key) : Prop where
  name : m.encryptionKeyId = some keyId
  whole : m.truncated = false
  key : keys keyId.keyId = some key

/-- The plaintext says something in the format of the key. -/
def IsReadable : EncryptionKeyId → Bytes → Prop
  | .unversioned _, plaintext => ∃ t, plaintext = Bytes.ofString t
  | .v1 _, plaintext => ∃ r, SealedRecord.codec.decode plaintext = .ok r

/-- What is answered to a reader who decrypts a message. -/
inductive Answers (m : Message) (keys : KeyRing) (level : PrivilegeLevel) :
    Logged Message → Prop where
  /-- There is nothing to decrypt, or not all of it. -/
  | asItIs : m.encryptionKeyId = none ∨ m.truncated = true →
      Answers m keys level ⟨[], .ok (m.shownAt level)⟩
  /-- The key is not at hand. -/
  | unknown {keyId : EncryptionKeyId} : m.encryptionKeyId = some keyId → m.truncated = false →
      keys keyId.keyId = none →
      Answers m keys level ⟨[.messageKeyUnknown m.id keyId.text], .error .accessDenied⟩
  /-- The key is wrapped. -/
  | wrapped {keyId : EncryptionKeyId} {key : Key} : m.Names keys keyId key →
      key.isEncrypted = true → Answers m keys level ⟨[], .error (.keyState .mustBeDecrypted)⟩
  /-- The content is not the text of a digest and a ciphertext. -/
  | malformed {keyId : EncryptionKeyId} {key : Key} {cause : Corruption} :
      m.Names keys keyId key → key.isEncrypted = false →
      SealedContent.Malformed m.content cause →
      Answers m keys level ⟨[], .error (.corrupted cause)⟩
  /-- The key is none of the cipher. -/
  | incompatible {keyId : EncryptionKeyId} {key : Key} {c : SealedContent} :
      m.Names keys keyId key → key.isEncrypted = false → m.content = c.text →
      key.type.isSymmetric = false →
      Answers m keys level
        ⟨[], .error (.keyState (.incompatibleType .xchacha20poly1305 key.type))⟩
  /-- The digest is not as long as a tag. -/
  | digestLength {keyId : EncryptionKeyId} {key : Key} {c : SealedContent} :
      m.Names keys keyId key → key.isUsable = true → m.content = c.text → c.digest.length ≠ 16 →
      Answers m keys level ⟨[], .error (.corrupted (.digestLength c.digest.length))⟩
  /-- The content is not sealed under the key for this message and sender. -/
  | unsealed {keyId : EncryptionKeyId} {key : Key} {c : SealedContent} :
      m.Names keys keyId key → key.isUsable = true → m.content = c.text → c.digest.length = 16 →
      (∀ plaintext, ¬ m.Seals key plaintext) → Answers m keys level ⟨[], .error .accessDenied⟩
  /-- In the older format, what is sealed is no text. -/
  | notText {id : KeyId} {key : Key} {plaintext : Bytes} : m.Names keys (.unversioned id) key →
      m.Seals key plaintext → (∀ t, plaintext ≠ Bytes.ofString t) →
      Answers m keys level ⟨[], .error (.corrupted .contentText)⟩
  /-- In the newer format, what is sealed is no record. -/
  | notRecord {id : KeyId} {key : Key} {plaintext : Bytes} {cause : Json.Error} :
      m.Names keys (.v1 id) key → m.Seals key plaintext →
      SealedRecord.codec.decode plaintext = .error cause →
      Answers m keys level ⟨[], .error (.corrupted (.sealedRecord cause))⟩
  /-- In the older format, what is sealed is a text. -/
  | text {id : KeyId} {key : Key} {t : String} : m.Names keys (.unversioned id) key →
      m.Seals key (Bytes.ofString t) →
      Answers m keys level ⟨[], .ok { m.shownAt level with content := t }⟩
  /-- In the newer format, what is sealed is a record. -/
  | record {id : KeyId} {key : Key} {plaintext : Bytes} {r : SealedRecord} :
      m.Names keys (.v1 id) key → m.Seals key plaintext →
      SealedRecord.codec.decode plaintext = .ok r →
      Answers m keys level
        ⟨[], .ok { m with sender := r.sender.shownAt level, content := r.content }⟩

/-! ## Opening the content -/

theorem openedWith_of_isEncrypted (h : key.isEncrypted = true) :
    m.openedWith key = .error (.keyState .mustBeDecrypted) := by
  rw [openedWith, h]
  rfl

theorem openedWith_of_parse {cause : Corruption} (hkey : key.isEncrypted = false)
    (h : SealedContent.parse m.content = .error cause) :
    m.openedWith key = .error (.corrupted cause) := by
  rw [openedWith, hkey, h]
  rfl

theorem openedWith_of_text {c : SealedContent} (hkey : key.isEncrypted = false)
    (h : m.content = c.text) :
    m.openedWith key = key.openContent m.nonceMaterial c m.associatedData := by
  rw [openedWith, hkey, h, SealedContent.parse_text]
  rfl

theorem isUsable_eq (hkey : key.isEncrypted = false) : key.isUsable = key.type.isSymmetric := by
  rw [Key.isUsable, hkey]
  simp

/-! ## The rules -/

/-- A message that is not to be decrypted is shown as it is. -/
theorem decrypt_of_plain (h : m.encryptionKeyId = none ∨ m.truncated = true) (keys : KeyRing)
    (level : PrivilegeLevel) : m.decrypt keys level = ⟨[], .ok (m.shownAt level)⟩ := by
  obtain ⟨id, parent, time, sender, content, keyId, truncated⟩ := m
  rcases h with hname | hcut
  · obtain rfl : keyId = none := hname
    rfl
  · obtain rfl : truncated = true := hcut
    cases keyId with
    | none => rfl
    | some keyId => rfl

/-- With the key at hand decrypting opens the content and reads the plaintext, silently. -/
theorem Names.decrypt_eq (h : m.Names keys keyId key) (level : PrivilegeLevel) :
    m.decrypt keys level =
      ⟨[], m.openedWith key >>= (m.shownAt level).withPlaintext level keyId⟩ := by
  have hresult : (m.decrypt keys level).result =
      m.openedWith key >>= (m.shownAt level).withPlaintext level keyId := by
    rw [result_decrypt, h.name, h.whole]
    simp only [h.key, Bool.false_eq_true, if_false]
  have hevents : (m.decrypt keys level).events = [] := by
    simp only [decrypt, h.name, h.whole, h.key, Bool.false_eq_true, if_false, Logged.ofExcept]
  calc m.decrypt keys level
      = ⟨(m.decrypt keys level).events, (m.decrypt keys level).result⟩ := rfl
    _ = _ := by rw [hevents, hresult]

/-- If the content does not open, this is the answer. -/
theorem Names.decrypt_of_error (h : m.Names keys keyId key) {e : Error}
    (hopen : m.openedWith key = .error e) (level : PrivilegeLevel) :
    m.decrypt keys level = ⟨[], .error e⟩ := by
  rw [h.decrypt_eq, hopen]
  rfl

/-- If the content is sealed, its plaintext is read. -/
theorem Names.decrypt_of_seals (h : m.Names keys keyId key) {plaintext : Bytes}
    (hseals : m.Seals key plaintext) (level : PrivilegeLevel) :
    m.decrypt keys level = ⟨[], (m.shownAt level).withPlaintext level keyId plaintext⟩ := by
  rw [h.decrypt_eq, openedWith_eq_ok_iff.mpr hseals]
  rfl

/-- Decrypting follows the rules. -/
theorem decrypt_of_answers (h : m.Answers keys level answer) : m.decrypt keys level = answer := by
  cases h with
  | asItIs hplain => exact decrypt_of_plain hplain keys level
  | unknown hname hwhole hkey =>
    simp only [decrypt, hname, hwhole, hkey, Bool.false_eq_true, if_false, Logged.refuse]
  | wrapped hnames hwrapped => exact hnames.decrypt_of_error (openedWith_of_isEncrypted hwrapped) _
  | malformed hnames hkey hmalformed =>
    have hparse := SealedContent.parse_of_malformed hmalformed
    exact hnames.decrypt_of_error (openedWith_of_parse hkey hparse) _
  | @incompatible keyId key c hnames hkey hc htype =>
    have hsecret := Key.cipherSecret_eq_error_iff.mpr (.inl ⟨htype, rfl⟩)
    refine hnames.decrypt_of_error ?_ _
    rw [openedWith_of_text hkey hc, Key.openContent, hsecret]
    rfl
  | @digestLength keyId key c hnames hkey hc hlength =>
    obtain ⟨secret, hsecret⟩ := Key.isUsable_iff.mp hkey
    have hclear := Key.not_isEncrypted_of_cipherSecret hsecret
    refine hnames.decrypt_of_error ?_ _
    rw [openedWith_of_text hclear hc, Key.openContent_of_cipherSecret hsecret]
    exact if_pos hlength
  | @unsealed keyId key c hnames hkey hc hlength hunsealed =>
    obtain ⟨secret, hsecret⟩ := Key.isUsable_iff.mp hkey
    have hclear := Key.not_isEncrypted_of_cipherSecret hsecret
    refine hnames.decrypt_of_error ?_ _
    have htag : ¬ c.digest.length ≠ XChaCha20Poly1305.tagSize := not_not_intro hlength
    have hopen := openedWith_of_text hclear hc
    rw [Key.openContent_of_cipherSecret hsecret, if_neg htag] at hopen
    split at hopen
    · next plaintext _ => exact absurd (openedWith_eq_ok_iff.mp hopen) (hunsealed plaintext)
    · exact hopen
  | @notText id key plaintext hnames hseals htext =>
    rw [hnames.decrypt_of_seals hseals, withPlaintext, Bytes.toString?_eq_none_iff.mpr htext]
  | notRecord hnames hseals hdecode => rw [hnames.decrypt_of_seals hseals, withPlaintext, hdecode]
  | text hnames hseals =>
    rw [hnames.decrypt_of_seals hseals, withPlaintext, Bytes.toString?_ofString]
  | record hnames hseals hdecode =>
    rw [hnames.decrypt_of_seals hseals, withPlaintext, hdecode]
    rfl

/-- One of the rules applies to content of which a plaintext is sealed. -/
theorem Names.exists_answers_of_seals (h : m.Names keys keyId key) {plaintext : Bytes}
    (hseals : m.Seals key plaintext) (level : PrivilegeLevel) :
    ∃ answer, m.Answers keys level answer := by
  cases keyId with
  | unversioned id =>
    by_cases htext : ∃ t, plaintext = Bytes.ofString t
    · obtain ⟨t, rfl⟩ := htext
      exact ⟨_, .text h hseals⟩
    · exact ⟨_, .notText h hseals (not_exists.mp htext)⟩
  | v1 id =>
    cases hdecode : SealedRecord.codec.decode plaintext with
    | error cause => exact ⟨_, .notRecord h hseals hdecode⟩
    | ok r => exact ⟨_, .record h hseals hdecode⟩

/-- One of the rules applies to content that can be read. -/
theorem Names.exists_answers_of_text (h : m.Names keys keyId key) (hkey : key.isEncrypted = false)
    {c : SealedContent} (hc : m.content = c.text) (level : PrivilegeLevel) :
    ∃ answer, m.Answers keys level answer := by
  cases htype : key.type.isSymmetric with
  | false => exact ⟨_, .incompatible h hkey hc htype⟩
  | true =>
    have husable : key.isUsable = true := (isUsable_eq hkey).trans htype
    by_cases hlength : c.digest.length = 16
    · by_cases hsealed : ∃ plaintext, m.Seals key plaintext
      · obtain ⟨plaintext, hseals⟩ := hsealed
        exact h.exists_answers_of_seals hseals level
      · exact ⟨_, .unsealed h husable hc hlength (not_exists.mp hsealed)⟩
    · exact ⟨_, .digestLength h husable hc hlength⟩

/-- One of the rules applies to every message and every reader. -/
theorem exists_answers (m : Message) (keys : KeyRing) (level : PrivilegeLevel) :
    ∃ answer, m.Answers keys level answer := by
  -- The questions in their order.
  cases hname : m.encryptionKeyId with
  | none => exact ⟨_, .asItIs (.inl hname)⟩
  | some keyId =>
    cases hcut : m.truncated with
    | true => exact ⟨_, .asItIs (.inr hcut)⟩
    | false =>
      cases hkey : keys keyId.keyId with
      | none => exact ⟨_, .unknown hname hcut hkey⟩
      | some key =>
        have hnames : m.Names keys keyId key := ⟨hname, hcut, hkey⟩
        cases hwrapped : key.isEncrypted with
        | true => exact ⟨_, .wrapped hnames hwrapped⟩
        | false =>
          by_cases hc : ∃ c : SealedContent, m.content = c.text
          · obtain ⟨c, hc⟩ := hc
            exact hnames.exists_answers_of_text hwrapped hc level
          · obtain ⟨cause, hcause⟩ := SealedContent.exists_malformed_iff.mpr (not_exists.mp hc)
            exact ⟨_, .malformed hnames hwrapped hcause⟩

/-- Decrypting answers what the rules say. -/
theorem decrypt_eq_iff : m.decrypt keys level = answer ↔ m.Answers keys level answer := by
  constructor
  · rintro rfl
    obtain ⟨answer, hanswer⟩ := exists_answers m keys level
    rw [decrypt_of_answers hanswer]
    exact hanswer
  · exact decrypt_of_answers

/-- A result is given exactly if a rule gives it. -/
theorem result_decrypt_eq_iff {result : Except Error Message} :
    (m.decrypt keys level).result = result ↔ ∃ events, m.Answers keys level ⟨events, result⟩ := by
  constructor
  · rintro rfl
    exact ⟨(m.decrypt keys level).events, decrypt_eq_iff.mp rfl⟩
  · rintro ⟨events, hanswer⟩
    rw [decrypt_of_answers hanswer]

/-! ## What readers learn -/

/-- A plaintext that says something is shown. -/
theorem exists_withPlaintext {plaintext : Bytes} (h : IsReadable keyId plaintext) (m : Message)
    (level : PrivilegeLevel) : ∃ shown, m.withPlaintext level keyId plaintext = .ok shown := by
  cases keyId with
  | unversioned id =>
    obtain ⟨t, rfl⟩ := h
    rw [withPlaintext, Bytes.toString?_ofString]
    exact ⟨_, rfl⟩
  | v1 id =>
    obtain ⟨r, hdecode⟩ := h
    rw [withPlaintext, hdecode]
    exact ⟨_, rfl⟩

/-- One that says nothing is corrupted. -/
theorem withPlaintext_of_not_isReadable {plaintext : Bytes} (h : ¬ IsReadable keyId plaintext)
    (m : Message) (level : PrivilegeLevel) :
    ∃ cause, m.withPlaintext level keyId plaintext = .error (.corrupted cause) := by
  cases keyId with
  | unversioned id =>
    rw [withPlaintext, Bytes.toString?_eq_none_iff.mpr (not_exists.mp h)]
    exact ⟨_, rfl⟩
  | v1 id =>
    cases hdecode : SealedRecord.codec.decode plaintext with
    | error cause =>
      rw [withPlaintext, hdecode]
      exact ⟨_, rfl⟩
    | ok r => exact absurd ⟨r, hdecode⟩ h

/-- Of all but sender and content a message that is shown keeps everything. -/
theorem kept_of_result_decrypt {shown : Message} (h : (m.decrypt keys level).result = .ok shown) :
    shown.id = m.id ∧ shown.parent = m.parent ∧ shown.time = m.time ∧
      shown.encryptionKeyId = m.encryptionKeyId ∧ shown.truncated = m.truncated := by
  obtain ⟨events, hanswer⟩ := result_decrypt_eq_iff.mp h
  cases hanswer with
  | asItIs => exact ⟨rfl, rfl, rfl, rfl, rfl⟩
  | text => exact ⟨rfl, rfl, rfl, rfl, rfl⟩
  | record => exact ⟨rfl, rfl, rfl, rfl, rfl⟩

/-- A wrapped key is told before anything is said of the content. -/
theorem Names.result_wrapped_iff (h : m.Names keys keyId key) :
    (m.decrypt keys level).result = .error (.keyState .mustBeDecrypted) ↔
      key.isEncrypted = true := by
  rw [result_decrypt_eq_iff]
  constructor
  · rintro ⟨events, hanswer⟩
    cases hanswer with
    | @wrapped keyId' key' hnames hwrapped =>
      obtain rfl : keyId = keyId' := Option.some.inj (h.name.symm.trans hnames.name)
      obtain rfl : key = key' := Option.some.inj (h.key.symm.trans hnames.key)
      exact hwrapped
  · intro hwrapped
    exact ⟨[], .wrapped h hwrapped⟩

/-- If key, content and digest are what they should be, exactly content that does not
    authenticate is denied. -/
theorem Names.result_denied_iff (h : m.Names keys keyId key) (hkey : key.isUsable = true)
    {c : SealedContent} (hc : m.content = c.text) (hlength : c.digest.length = 16) :
    (m.decrypt keys level).result = .error .accessDenied ↔
      ∀ plaintext, ¬ m.Seals key plaintext := by
  constructor
  · intro hdenied plaintext hseals
    rw [h.decrypt_of_seals hseals] at hdenied
    -- Whether it can be read or not, it is not denied any more.
    by_cases hread : IsReadable keyId plaintext
    · obtain ⟨shown, hshown⟩ := exists_withPlaintext hread (m.shownAt level) level
      exact absurd (hshown.symm.trans hdenied) nofun
    · obtain ⟨cause, hcause⟩ := withPlaintext_of_not_isReadable hread (m.shownAt level) level
      exact absurd (hcause.symm.trans hdenied) nofun
  · intro hunsealed
    exact result_decrypt_eq_iff.mpr ⟨[], .unsealed h hkey hc hlength hunsealed⟩

/-- Content that authenticates is corrupted exactly if its plaintext says nothing in the format of
    the key. -/
theorem Names.result_corrupted_iff (h : m.Names keys keyId key) {plaintext : Bytes}
    (hseals : m.Seals key plaintext) :
    (∃ cause, (m.decrypt keys level).result = .error (.corrupted cause)) ↔
      ¬ IsReadable keyId plaintext := by
  rw [h.decrypt_of_seals hseals]
  constructor
  · rintro ⟨cause, hcause⟩ hread
    obtain ⟨shown, hshown⟩ := exists_withPlaintext hread (m.shownAt level) level
    exact absurd (hshown.symm.trans hcause) nofun
  · intro hread
    exact withPlaintext_of_not_isReadable hread (m.shownAt level) level

/-- Nothing is said about a plaintext that did not authenticate. -/
theorem seals_of_complaint
    (h : (m.decrypt keys level).result = .error (.corrupted .contentText) ∨
      ∃ cause, (m.decrypt keys level).result = .error (.corrupted (.sealedRecord cause))) :
    ∃ keyId key plaintext, m.Names keys keyId key ∧ m.Seals key plaintext ∧
      ¬ IsReadable keyId plaintext := by
  simp only [result_decrypt_eq_iff] at h
  rcases h with ⟨events, hanswer⟩ | ⟨cause, events, hanswer⟩
  · cases hanswer with
    | malformed _ _ hmalformed => cases hmalformed
    | notText hnames hseals htext =>
      exact ⟨_, _, _, hnames, hseals, fun ⟨t, ht⟩ => htext t ht⟩
  · cases hanswer with
    | malformed _ _ hmalformed => cases hmalformed
    | notRecord hnames hseals hdecode =>
      refine ⟨_, _, _, hnames, hseals, fun ⟨r, hr⟩ => ?_⟩
      rw [hdecode] at hr
      cases hr

/-- Decrypting fails for the reasons that `Answers` lists, in the order in which its rules exclude
    each other, and for no other reason. What is wrong with malformed content is that it is not
    two base64 texts with a slash between them. A message that is shown keeps all but its sender
    and content. With its key at hand, a wrapped key is told first; then, if key, content and
    digest are what they should be, access is denied exactly if the content is not sealed; and of
    what is sealed only the plaintext can be wrong. So whatever is said about a plaintext is said
    of one that did authenticate. -/
theorem decrypt_answers_in_order (m : Message) (keys : KeyRing) (level : PrivilegeLevel) :
    (∀ answer, m.decrypt keys level = answer ↔ m.Answers keys level answer) ∧
    ((∃ cause, SealedContent.Malformed m.content cause) ↔
      ∀ digest ciphertext,
        m.content ≠ Base64.encode digest ++ "/" ++ Base64.encode ciphertext) ∧
    (∀ shown, (m.decrypt keys level).result = .ok shown →
      shown.id = m.id ∧ shown.parent = m.parent ∧ shown.time = m.time ∧
        shown.encryptionKeyId = m.encryptionKeyId ∧ shown.truncated = m.truncated) ∧
    (∀ keyId key, m.Names keys keyId key →
      ((m.decrypt keys level).result = .error (.keyState .mustBeDecrypted) ↔
        key.isEncrypted = true) ∧
      (key.isUsable = true → ∀ c : SealedContent, m.content = c.text → c.digest.length = 16 →
        ((m.decrypt keys level).result = .error .accessDenied ↔
          ∀ plaintext, ¬ m.Seals key plaintext)) ∧
      ∀ plaintext, m.Seals key plaintext →
        ((∃ cause, (m.decrypt keys level).result = .error (.corrupted cause)) ↔
          ¬ IsReadable keyId plaintext)) ∧
    ((m.decrypt keys level).result = .error (.corrupted .contentText) ∨
        (∃ cause, (m.decrypt keys level).result = .error (.corrupted (.sealedRecord cause))) →
      ∃ keyId key plaintext, m.Names keys keyId key ∧ m.Seals key plaintext ∧
        ¬ IsReadable keyId plaintext) := by
  refine ⟨fun answer => decrypt_eq_iff, ?_, fun shown => kept_of_result_decrypt,
    fun keyId key hnames => ⟨hnames.result_wrapped_iff, ?_, ?_⟩, seals_of_complaint⟩
  · rw [SealedContent.exists_malformed_iff]
    exact ⟨fun h digest ciphertext => h ⟨digest, ciphertext⟩, fun h c => h c.digest c.ciphertext⟩
  · intro hkey c hc hlength
    exact hnames.result_denied_iff hkey hc hlength
  · intro plaintext hseals
    exact hnames.result_corrupted_iff hseals

/-- The example message with some content, and a key name in the older format. -/
def exampleNaming (name content : String) : Message :=
  { exampleMessage with content := content, encryptionKeyId := some (.unversioned ⟨name⟩) }

/-- The secret of a key pair, which is no key of the cipher. -/
def examplePairSecret : Key := { exampleKey with type := .x25519 }

/-- A reader with the example key, and with two keys that are none of the cipher: one of them is
    wrapped, too. -/
def exampleReader : KeyRing :=
  (exampleKeys.insert ⟨"pair"⟩ examplePairSecret).insert ⟨"wrapped"⟩
    (.ofCiphertext .x25519 [] [] none)

/-- With an empty ciphertext there are digests that do not authenticate. -/
theorem exists_digest_not_seals (hkey : key.isUsable = true) (m : Message) :
    ∃ c : SealedContent, c.digest.length = 16 ∧
      ∀ plaintext, ¬ { m with content := c.text }.Seals key plaintext := by
  obtain ⟨secret, hsecret⟩ := Key.isUsable_iff.mp hkey
  have hclear := Key.not_isEncrypted_of_cipherSecret hsecret
  have hopen := Key.openContent_digest hsecret m.nonceMaterial m.associatedData []
  generalize XChaCha20Poly1305.tag secret.bytes (contentNonce m.nonceMaterial) m.associatedData []
    = tag at hopen
  -- The tag is one digest, and of any two another one.
  obtain ⟨digest, hlength, hne⟩ : ∃ digest : Bytes, digest.length = 16 ∧ digest ≠ tag := by
    by_cases htag : List.replicate 16 0 = tag
    · exact ⟨List.replicate 16 1, rfl, fun he => absurd (htag.trans he.symm) (by decide)⟩
    · exact ⟨_, rfl, htag⟩
  refine ⟨⟨digest, []⟩, hlength, fun plaintext hseals => ?_⟩
  have hopened := openedWith_eq_ok_iff.mpr hseals
  rw [openedWith_of_text hclear rfl] at hopened
  have hdenied := (hopen digest).trans ((if_neg hne).trans (if_pos hlength))
  exact absurd (hdenied.symm.trans hopened) nofun

/-- Messages with several faults, of which the first one is told: an unknown key and no content in
    two parts; a wrapped key and the same; a key that is none of the cipher and the same; such a
    key and a digest of one byte; this digest with a proper key; a digest that does not
    authenticate. The last message is sealed, but its plaintext is no text. -/
theorem decrypt_answers_in_order_example :
    ((exampleNaming "other" "x").decrypt exampleReader .general).result = .error .accessDenied ∧
    ((exampleNaming "wrapped" "x").decrypt exampleReader .general).result
      = .error (.keyState .mustBeDecrypted) ∧
    ((exampleNaming "pair" "x").decrypt exampleReader .general).result
      = .error (.corrupted .contentShape) ∧
    ((exampleNaming "pair" "AA==/").decrypt exampleReader .general).result
      = .error (.keyState (.incompatibleType .xchacha20poly1305 .x25519)) ∧
    ((exampleNaming "k1" "AA==/").decrypt exampleReader .general).result
      = .error (.corrupted (.digestLength 1)) ∧
    (∃ content, ((exampleNaming "k1" content).decrypt exampleReader .general).result
      = .error .accessDenied) ∧
    ∃ content, ((exampleNaming "k1" content).decrypt exampleReader .general).result
      = .error (.corrupted .contentText) := by
  have hanswers : ∀ (m : Message) (answer : Logged Message),
      m.Answers exampleReader .general answer →
        (m.decrypt exampleReader .general).result = answer.result := by
    intro m answer h
    rw [((decrypt_answers_in_order m exampleReader .general).1 answer).mpr h]
  have hshape : SealedContent.Malformed "x" .contentShape := by
    refine .shape fun front back hpair => ?_
    have hslash : '/' ∈ "x".toList := by
      rw [hpair.eq, String.toList_append, String.toList_append]
      simp
    exact absurd hslash (by decide)
  -- A digest of one byte, and no ciphertext.
  have hbrief : "AA==/" = SealedContent.text ⟨[0], []⟩ := by decide
  have hpair : (exampleNaming "pair" "AA==/").Names exampleReader (.unversioned ⟨"pair"⟩)
      examplePairSecret := ⟨rfl, rfl, rfl⟩
  have hproper : (exampleNaming "k1" "AA==/").Names exampleReader (.unversioned ⟨"k1"⟩)
      exampleKey := ⟨rfl, rfl, rfl⟩
  refine ⟨?_, ?_, ?_, ?_, ?_, ?_, ?_⟩
  · exact hanswers _ _ (.unknown rfl rfl rfl)
  · obtain ⟨-, -, -, hkeys, -⟩ :=
      decrypt_answers_in_order (exampleNaming "wrapped" "x") exampleReader .general
    exact (hkeys (.unversioned ⟨"wrapped"⟩) _ ⟨rfl, rfl, rfl⟩).1.mpr rfl
  · exact hanswers _ _ (.malformed ⟨rfl, rfl, rfl⟩ rfl hshape)
  · exact hanswers _ _ (.incompatible hpair rfl hbrief rfl)
  · exact hanswers _ _ (.digestLength hproper rfl hbrief (by decide))
  · obtain ⟨c, hlength, hunsealed⟩ :=
      exists_digest_not_seals (rfl : exampleKey.isUsable = true) (exampleNaming "k1" "")
    obtain ⟨-, -, -, hkeys, -⟩ :=
      decrypt_answers_in_order (exampleNaming "k1" c.text) exampleReader .general
    obtain ⟨-, hdenied, -⟩ := hkeys (.unversioned ⟨"k1"⟩) exampleKey ⟨rfl, rfl, rfl⟩
    exact ⟨c.text, (hdenied rfl c rfl hlength).mpr hunsealed⟩
  · let m := exampleNaming "k1" ""
    obtain ⟨c, hseal⟩ := Key.exists_sealContent_of_isUsable (rfl : exampleKey.isUsable = true)
      m.nonceMaterial [0xff] m.associatedData
    have hseals : (exampleNaming "k1" c.text).Seals exampleKey [0xff] := ⟨c, hseal, rfl⟩
    have htext : Bytes.toString? [0xff] = none := by decide
    exact ⟨c.text, hanswers _ _ (.notText ⟨rfl, rfl, rfl⟩ hseals
      (Bytes.toString?_eq_none_iff.mp htext))⟩

end Message

end ChatKeys
