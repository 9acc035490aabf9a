/-
  ChatKeys.Proofs.Capability.Disclosure

  What a capability that is refused shows of its payload.

  The payload is opened before it is read, so a complaint about it can quote a secret.  It does
  so exactly if the string that it quotes holds the secret's text, and a string is quoted only
  where it stands in place of the record or of a key's type (`SharedKey.Misplaced`): the key
  itself is never shown as the key.

    * `SharedKey.refused_of_decode` — the complaints about an opened payload;
    * `Capability.refusal_of_redeem` — every refusal of a capability;
    * `Capability.refusal_shows_iff` — when a refusal holds the text of a secret;
    * `Capability.OpensTo.exists_shown` — any secret in place of a type is shown.
-/
import ChatKeys.Proofs.Capability.Answers
import ChatKeys.Proofs.Json.Refused

namespace ChatKeys

open Json

/-! ## Secrets as texts -/

/-- The text of a secret is padded. -/
theorem KeyBytes.isPadded_encode (secret : KeyBytes) :
    IsPadded (Base64.encode secret.bytes).toList := by
  rw [Base64.encode, String.toList_ofList]
  refine ⟨Base64.equals_mem_encodeChars ?_, Base64.notMem_encodeChars (by decide) rfl,
    Base64.notMem_encodeChars (by decide) rfl, Base64.notMem_encodeChars (by decide) rfl⟩
  rw [secret.length_bytes]
  decide

/-- The value is the text as a string, or has it in a member at any depth. -/
inductive Json.Value.Holds (text : String) : Value → Prop where
  | string : Holds text (.string text)
  | member {name : String} {v : Value} {ms : List (String × Value)} :
      (name, v) ∈ ms → Holds text v → Holds text (.object ms)

theorem KeyType.lookup_eq_none {name : String} (h : '=' ∈ name.toList) :
    KeyType.variants.lookup name = none := by
  have hlabels : ∀ p ∈ KeyType.variants, '=' ∉ p.1.toList := by decide
  rw [List.lookup_eq_none_iff]
  intro p hp
  rw [bne_iff_ne]
  rintro rfl
  exact hlabels p hp h

/-! ## Opened payloads -/

namespace SharedKey

/-- `q` is how complaints show a string of the document that stands where a shared key or the
    type of one is expected. -/
inductive Misplaced (document : Bytes) : String → Prop where
  /-- The document is a string. -/
  | record {t rest} : Reader.string (skipSpace document) = .ok (t, rest) →
      Misplaced document (Text.shownText t)
  /-- The member for the type holds no type. -/
  | member {front behind place q} : front <:+ document →
      Reader.string front = .ok ("key_type", behind) → Reader.colon behind = .ok ((), place) →
      Codec.Misnamed KeyType.variants place q → Misplaced document q
  /-- The first element of an array is no type. -/
  | element {inside place q} : skipSpace document = 0x5b :: inside →
      Reader.nextElement true inside = .ok (true, place) →
      Codec.Misnamed KeyType.variants place q → Misplaced document q

theorem takeFront_fields : SharedKey.record.fields.TakeFront :=
  ⟨Codec.takesFront_choice _ _, Codec.takesFront_bytes, trivial⟩

/-- What is to be known of a complaint about a document: its words hold no equals sign, and
    the string that it shows, if any, is misplaced. -/
structure Complaint (document : Bytes) (e : Json.Error) : Prop where
  words : ∀ w ∈ e.words, '=' ∉ w.toList
  misplaced : ∀ q, e.quotation? = some q → Misplaced document q

variable {document : Bytes} {e : Json.Error}

theorem complaint_of_objection (h : SharedKey.record.Objection e) : Complaint document e := by
  have hnames : ∀ name ∈ SharedKey.record.fields.names, '=' ∉ name.toList := by decide
  cases h with
  | malformed => exact ⟨nofun, nofun⟩
  | invalidLength n =>
    refine ⟨fun w hw => ?_, nofun⟩
    rw [List.mem_singleton.mp hw]
    decide
  | missingField hname =>
    refine ⟨fun w hw => ?_, nofun⟩
    rw [List.mem_singleton.mp hw]
    exact hnames _ hname
  | duplicateField hname =>
    refine ⟨fun w hw => ?_, nofun⟩
    rw [List.mem_singleton.mp hw]
    exact hnames _ hname
  | unknownField name hclosed => cases hclosed

/-- Where the type is refused, it is a type that is misplaced. -/
theorem complaint_of_type {place : Bytes} (h : KeyType.codec.reader place = .error e)
    (hplace : ∀ q, Codec.Misnamed KeyType.variants place q → Misplaced document q) :
    Complaint document e := by
  obtain ⟨hwords, hquotation⟩ := Codec.choice_refused h
  refine ⟨fun w hw => ?_, fun q hq => hplace q (hquotation q hq)⟩
  rcases hwords w hw with rfl | rfl
  · decide
  · decide

/-- Where the bytes are refused, nothing is shown of them. -/
theorem complaint_of_bytes {place : Bytes} (h : Codec.bytes.reader place = .error e) :
    Complaint document e := by
  obtain rfl | rfl | ⟨v, hv, rfl⟩ := Codec.bytes_refused h
  · exact ⟨nofun, nofun⟩
  · exact ⟨nofun, nofun⟩
  · refine ⟨fun w hw => ?_, fun q hq => ?_⟩
    · rw [List.mem_singleton.mp hw]
      decide
    · cases hv.symm.trans hq

theorem refused_of_reader (h : SharedKey.codec.reader document = .error e) :
    Complaint document e := by
  obtain hobjection | ⟨v, rest, hfound, rfl⟩ | ⟨values, hbuild⟩ | hrefuses :=
    Record.refused_of_reader takeFront_fields h
  · exact complaint_of_objection hobjection
  · refine ⟨fun w hw => ?_, fun q hq => ?_⟩
    · rw [List.mem_singleton.mp hw]
      decide
    · cases v with
      | string t =>
        obtain rfl := Option.some.inj hq
        obtain ⟨-, hstring⟩ := Reader.string_of_found hfound
        rw [skipSpace_skipSpace] at hstring
        exact .record hstring
      | _ => cases hq
  · cases hbuild
  · obtain ⟨front, name, behind, hfront, hname, hnamed⟩ | ⟨inside, hinside, helement⟩ := hrefuses
    · -- A member of an object.
      obtain ⟨rfl, place, hcolon, h⟩ | ⟨-, place, -, h⟩ | hnil := hnamed
      · exact complaint_of_type h fun q hq => .member hfront hname hcolon hq
      · exact complaint_of_bytes h
      · exact hnil.elim
    · -- An element of an array.
      obtain ⟨place, hplace, h | ⟨_, behind, -, place', -, h | ⟨_, _, -, hnil⟩⟩⟩ := helement
      · exact complaint_of_type h fun q hq => .element hinside hplace hq
      · exact complaint_of_bytes h
      · exact hnil.elim

/-- Every complaint about an opened payload is in the reader's words, but for one string that
    stands in place of the record or of a type. -/
theorem refused_of_decode (h : SharedKey.codec.decode document = .error e) :
    Complaint document e := by
  rw [Codec.decode, ChatKeys.Json.read] at h
  split at h
  · next hread =>
    obtain rfl := Except.error.inj h
    exact refused_of_reader hread
  · split at h
    · cases h
    · obtain rfl := Except.error.inj h
      exact complaint_of_objection .malformed

/-- A document that gives a name as the type, with any members behind it. -/
def misnamed (name : String) (ms : List (String × Value)) : Bytes :=
  Bytes.ofString (Value.object (("key_type", .string name) :: ms)).render

theorem misnamed_eq_cons (name : String) (ms : List (String × Value)) :
    ∃ behind, misnamed name ms = 0x7b :: (Bytes.ofChars (stringChars "key_type") ++
      0x3a :: (Bytes.ofChars (stringChars name) ++ behind)) := by
  refine ⟨Bytes.ofChars (membersChars false ms) ++ [0x7d], ?_⟩
  rw [misnamed, Value.render, Bytes.ofString_ofList, Value.chars, membersChars]
  simp only [Bytes.ofChars_cons, Bytes.ofChars_append, Value.chars, List.append_assoc]
  rfl

/-- A name that is no type is complained about by name. -/
theorem decode_misnamed {name : String} (hname : KeyType.variants.lookup name = none)
    (ms : List (String × Value)) :
    SharedKey.codec.decode (misnamed name ms) =
      .error (.unknownVariant name (KeyType.variants.map Prod.fst)) := by
  obtain ⟨behind, htext⟩ := misnamed_eq_cons name ms
  have hslots : SharedKey.record.slots (Bytes.ofChars (stringChars "key_type") ++
      0x3a :: (Bytes.ofChars (stringChars name) ++ behind)) =
        .error (.unknownVariant name (KeyType.variants.map Prod.fst)) := by
    have hmember := nextMember_written true "key_type"
      (0x3a :: (Bytes.ofChars (stringChars name) ++ behind))
    refine Record.slotsIn_member_refused hmember (string_stringChars _ _) rfl ?_
    refine (Reader.bind_of_ok (Reader.colon_cons _)).trans ?_
    exact Reader.bind_eq_error_iff.2 (.inl (Codec.choice_reader_of_lookup_none hname behind))
  have hreader : SharedKey.codec.reader (misnamed name ms) =
      .error (.unknownVariant name (KeyType.variants.map Prod.fst)) := by
    rw [htext]
    refine (Reader.bind_of_ok (Reader.peek_cons rfl _)).trans ?_
    exact Reader.bind_eq_error_iff.2 (.inr ⟨_, _, rfl, Reader.bind_eq_error_iff.2 (.inl hslots)⟩)
  rw [Codec.decode, ChatKeys.Json.read, hreader]

end SharedKey

/-! ## Refused capabilities -/

theorem KeyError.equals_notMem_message (e : KeyError) : '=' ∉ e.message.toList := by
  have hlabel (type : KeyType) : '=' ∉ type.label.toList := by
    cases type <;> decide
  cases e with
  | alreadyEncrypted => decide
  | alreadyDecrypted => decide
  | mustBeDecrypted => decide
  | incompatibleType expected actual =>
    show '=' ∉ ("incompatible key type: expected " ++ expected.label ++ ", got " ++
      actual.label).toList
    simp only [equals_notMem_append]
    exact ⟨⟨⟨by decide, hlabel expected⟩, by decide⟩, hlabel actual⟩
  | invalidLength expected actual =>
    show '=' ∉ ("invalid key length: expected " ++ expected.repr ++ ", got " ++ actual.repr).toList
    simp only [equals_notMem_append]
    exact ⟨⟨⟨by decide, equals_notMem_natRepr _⟩, by decide⟩, equals_notMem_natRepr _⟩
  | invalidIv expected actual =>
    show '=' ∉ ("invalid iv length: expected " ++ expected.repr ++ ", got " ++ actual.repr).toList
    simp only [equals_notMem_append]
    exact ⟨⟨⟨by decide, equals_notMem_natRepr _⟩, by decide⟩, equals_notMem_natRepr _⟩

namespace Capability

variable {c : Capability} {recipient : Key}

/-- The recipient key opens the capability's payload to the document. -/
def OpensTo (c : Capability) (recipient : Key) (document : Bytes) : Prop :=
  ∃ key iv, recipient.cipherSecret = .ok key ∧ Base64.decode? c.id = some iv ∧
    iv.length = ivSize ∧
    XChaCha20Poly1305.unwrap? key.bytes iv associatedData c.payload = some document

/-- Every refusal of a capability: of the recipient key, of the identifier, of the payload as it
    is sealed, of the document in it, and of the key's length. -/
inductive Refusal (c : Capability) (recipient : Key) : Error → Prop where
  | keyState (cause : KeyError) : Refusal c recipient (.keyState cause)
  | accessDenied : Refusal c recipient .accessDenied
  | capabilityId : Refusal c recipient (.corrupted .capabilityId)
  | capabilityIv (n : Nat) : Refusal c recipient (.corrupted (.capabilityIv n))
  | payload {document : Bytes} {cause : Json.Error} : c.OpensTo recipient document →
      SharedKey.codec.decode document = .error cause →
      Refusal c recipient (.corrupted (.capabilityPayload cause))

/-- Sealing and opening are two sides of one thing. -/
theorem opensTo_iff {document : Bytes} :
    c.OpensTo recipient document ↔ c.SealedFor recipient document := by
  obtain ⟨id, payload⟩ := c
  simp only [OpensTo, SealedFor, sealing, Base64.decode?_eq_some_iff,
    XChaCha20Poly1305.unwrap?_eq_some_iff, mk.injEq]
  constructor
  · rintro ⟨key, iv, hkey, hid, hiv, hpayload⟩
    exact ⟨key, iv, hkey, hiv, hid, hpayload⟩
  · rintro ⟨key, iv, hkey, hiv, hid, hpayload⟩
    exact ⟨key, iv, hkey, hid, hiv, hpayload⟩

theorem refusal_of_redeem {e : Error} (h : c.redeem recipient = .error e) :
    c.Refusal recipient e := by
  cases redeem_eq_iff.1 h with
  | incompatible => exact .keyState _
  | wrapped => exact .keyState _
  | identifier => exact .capabilityId
  | vector => exact .capabilityIv _
  | unsealed => exact .accessDenied
  | record hsealed hdecode => exact .payload (opensTo_iff.2 hsealed) hdecode
  | length => exact .keyState _

/-- A document that is no shared key is a refusal of the capability. -/
theorem OpensTo.redeem_eq {document : Bytes} {cause : Json.Error}
    (h : c.OpensTo recipient document) (hcause : SharedKey.codec.decode document = .error cause) :
    c.redeem recipient = .error (.corrupted (.capabilityPayload cause)) := by
  rw [redeem_of_sealedFor (opensTo_iff.1 h), hcause]

/-- The recipient key opens the payload to a document that is refused at a misplaced string,
    and the text is in what the complaint shows of that string. -/
def Exposes (c : Capability) (recipient : Key) (text : String) : Prop :=
  ∃ document cause q, c.OpensTo recipient document ∧
    SharedKey.codec.decode document = .error cause ∧ cause.quotation? = some q ∧
    SharedKey.Misplaced document q ∧ text.toList <:+: q.toList

/-- Of a refused document, the reason holds the text of a secret only in a misplaced string. -/
theorem infix_payload_iff {document : Bytes} {cause : Json.Error} (secret : KeyBytes)
    (h : SharedKey.codec.decode document = .error cause) :
    (Base64.encode secret.bytes).toList <:+:
        (Corruption.capabilityPayload cause).fullMessage.toList ↔
      ∃ q, cause.quotation? = some q ∧ SharedKey.Misplaced document q ∧
        (Base64.encode secret.bytes).toList <:+: q.toList := by
  obtain ⟨hwords, hmisplaced⟩ := SharedKey.refused_of_decode h
  have hlabel : "capability payload:" ++ " " = "capability payload: " := by decide
  have hlabelled := secret.isPadded_encode.infix_labelled_iff "capability payload:"
    cause.fullMessage (by decide)
  rw [hlabel] at hlabelled
  refine hlabelled.trans ?_
  rw [Error.infix_fullMessage_iff secret.isPadded_encode hwords]
  constructor
  · rintro ⟨q, hq, ht⟩
    exact ⟨q, hq, hmisplaced q hq, ht⟩
  · rintro ⟨q, hq, -, ht⟩
    exact ⟨q, hq, ht⟩

/-- The reason of a refusal holds the text of a secret exactly if the capability exposes it. -/
theorem reason_shows_iff (c : Capability) (recipient : Key) (secret : KeyBytes) :
    (∃ cause, c.redeem recipient = .error (.corrupted cause) ∧
        (Base64.encode secret.bytes).toList <:+: cause.fullMessage.toList) ↔
      c.Exposes recipient (Base64.encode secret.bytes) := by
  have hpadded := secret.isPadded_encode
  constructor
  · rintro ⟨cause, h, ht⟩
    cases refusal_of_redeem h with
    | capabilityId => exact absurd ht (hpadded.not_infix (by decide))
    | capabilityIv n =>
      refine absurd ht (hpadded.not_infix ?_)
      show '=' ∉ ("capability iv is " ++ n.repr ++ " bytes, expected 24").toList
      simp only [equals_notMem_append]
      exact ⟨⟨by decide, equals_notMem_natRepr n⟩, by decide⟩
    | payload hopen hdecode =>
      obtain ⟨q, hq, hmisplaced, hin⟩ := (infix_payload_iff secret hdecode).mp ht
      exact ⟨_, _, q, hopen, hdecode, hq, hmisplaced, hin⟩
  · rintro ⟨document, cause, q, hopen, hdecode, hq, hmisplaced, hin⟩
    exact ⟨_, hopen.redeem_eq hdecode, (infix_payload_iff secret hdecode).mpr ⟨q, hq, hmisplaced, hin⟩⟩

/-- Nor is the text of a secret anywhere else in the full wording. -/
theorem wording_shows_iff (c : Capability) (recipient : Key) (secret : KeyBytes) :
    (∃ e, c.redeem recipient = .error e ∧
        (Base64.encode secret.bytes).toList <:+: e.fullMessage.toList) ↔
      ∃ cause, c.redeem recipient = .error (.corrupted cause) ∧
        (Base64.encode secret.bytes).toList <:+: cause.fullMessage.toList := by
  have hpadded := secret.isPadded_encode
  have hlabel : "message corrupted:" ++ " " = "message corrupted: " := by decide
  have hreason (cause : Corruption) := hpadded.infix_labelled_iff "message corrupted:"
    cause.fullMessage (by decide)
  rw [hlabel] at hreason
  constructor
  · rintro ⟨e, h, ht⟩
    cases refusal_of_redeem h with
    | keyState cause =>
      refine absurd ht (hpadded.not_infix ?_)
      show '=' ∉ ("key state error: " ++ cause.message).toList
      exact equals_notMem_append.mpr ⟨by decide, cause.equals_notMem_message⟩
    | accessDenied => exact absurd ht (hpadded.not_infix (by decide))
    | capabilityId => exact ⟨_, h, (hreason _).mp ht⟩
    | capabilityIv n => exact ⟨_, h, (hreason _).mp ht⟩
    | payload hopen hdecode => exact ⟨_, h, (hreason _).mp ht⟩
  · rintro ⟨cause, h, ht⟩
    exact ⟨_, h, (hreason cause).mpr ht⟩

/-- A refusal holds the text of a secret, in its reason and in its full wording alike, exactly
    if the capability exposes it. -/
theorem refusal_shows_iff (c : Capability) (recipient : Key) (secret : KeyBytes) :
    ((∃ cause, c.redeem recipient = .error (.corrupted cause) ∧
        (Base64.encode secret.bytes).toList <:+: cause.fullMessage.toList) ↔
      c.Exposes recipient (Base64.encode secret.bytes)) ∧
    ((∃ e, c.redeem recipient = .error e ∧
        (Base64.encode secret.bytes).toList <:+: e.fullMessage.toList) ↔
      c.Exposes recipient (Base64.encode secret.bytes)) :=
  ⟨reason_shows_iff c recipient secret,
    (wording_shows_iff c recipient secret).trans (reason_shows_iff c recipient secret)⟩

/-- A payload that gives the text of a secret for a type is refused with a wording that holds
    this text. -/
theorem OpensTo.exists_shown {secret : KeyBytes} {ms : List (String × Value)}
    (h : c.OpensTo recipient (SharedKey.misnamed (Base64.encode secret.bytes) ms)) :
    ∃ e, c.redeem recipient = .error e ∧
      (Base64.encode secret.bytes).toList <:+: e.fullMessage.toList := by
  have hname := KeyType.lookup_eq_none secret.isPadded_encode.equals_mem
  have hdecode := SharedKey.decode_misnamed hname ms
  have hmisplaced := (SharedKey.refused_of_decode hdecode).misplaced _ rfl
  have hexposes : c.Exposes recipient (Base64.encode secret.bytes) :=
    ⟨_, _, _, h, hdecode, rfl, hmisplaced, List.infix_rfl⟩
  exact (wording_shows_iff c recipient secret).mpr
    ((reason_shows_iff c recipient secret).mpr hexposes)

theorem opensTo_sealing {key : KeyBytes} {iv : Bytes} (hkey : recipient.cipherSecret = .ok key)
    (hiv : iv.length = ivSize) (document : Bytes) :
    (sealing key iv document).OpensTo recipient document :=
  ⟨key, iv, hkey, Base64.decode?_encode iv, hiv, XChaCha20Poly1305.unwrap?_wrap _ _ _ _⟩

/-- A refusal may show a string of the payload that is the text of a secret. -/
theorem not_redeem_hides_secrets :
    ¬ ∀ (recipient : Key) (secret : KeyBytes) (v : Value) (c : Capability) (e : Error),
      recipient.isUsable = true → v.Holds (Base64.encode secret.bytes) →
      c.OpensTo recipient (Bytes.ofString v.render) → c.redeem recipient = .error e →
        ¬ (Base64.encode secret.bytes).toList <:+: e.fullMessage.toList := by
  intro hhides
  let secret : KeyBytes := ⟨List.replicate keySize 7, rfl⟩
  let text := Base64.encode secret.bytes
  let ms := [("key", Value.string text)]
  let c := sealing ⟨List.replicate keySize 1, rfl⟩ (List.replicate ivSize 0)
    (SharedKey.misnamed text ms)
  have hopens : c.OpensTo exampleKey (SharedKey.misnamed text ms) :=
    opensTo_sealing rfl rfl _
  obtain ⟨e, he, hshown⟩ := hopens.exists_shown
  have hholds : (Value.object (("key_type", .string text) :: ms)).Holds text :=
    .member List.mem_cons_self .string
  exact hhides exampleKey secret _ c e rfl hholds hopens he hshown

end Capability

end ChatKeys
