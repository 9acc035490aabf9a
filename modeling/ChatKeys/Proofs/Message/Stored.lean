/-
  ChatKeys.Proofs.Message.Stored

  Sessions and sealed records survive being stored.  A message comes back with the
  key that the text of its key stands for, and else as it was (`Message.readsBack`),
  so it survives if its key, should it name one, is read back from its text
  (`Message.restores`).
  That is so for every key of the sealed-record format
  (`EncryptionKeyId.parse_text_v1`) and for every key that was read from a text
  (`EncryptionKeyId.parse_text_of_parse`), hence for every message that was read
  (`Message.keyIsReadable_of_reads`); in the older format the empty name and names
  that begin with the mark are not read back.
-/
import ChatKeys.Message.Encryption
import ChatKeys.Proofs.Json.Accepted

namespace ChatKeys

open Json

theorem EncryptionKeyId.parse_text_v1 (id : KeyId) : parse (v1 id).text = some (v1 id) := by
  simp only [parse, text, mark, String.toList_append, String.toList_ofList, List.cons_append,
    List.nil_append, String.ofList_toList]

/-- A key that was read from some text is read back from its own. -/
theorem EncryptionKeyId.parse_text_of_parse {text : String} {key : EncryptionKeyId}
    (h : parse text = some key) : parse key.text = some key := by
  rw [parse] at h
  split at h
  · cases h
  · obtain rfl := Option.some.inj h
    exact parse_text_v1 _
  · next id hempty hmark =>
    obtain rfl := Option.some.inj h
    -- Without the mark the name is the whole text, so reading that is what was done.
    have htext : String.ofList text.toList = text := String.ofList_toList
    rw [EncryptionKeyId.text, htext, parse]
    split
    · next hnil => exact absurd hnil hempty
    · next id' hid' => exact absurd hid' (hmark id')
    · rw [htext]

theorem Session.restores (s : Session) : Session.codec.Restores s :=
  Record.restores_codec (by decide)
    ⟨.inr ⟨rfl, Codec.restores_string _⟩, .inr ⟨rfl, Codec.restores_string _⟩,
      .inr ⟨rfl, Codec.restores_string _⟩, .inr ⟨rfl, Codec.restores_string _⟩,
      .inr ⟨rfl, Codec.restores_string _⟩,
      Field.restores_optional Codec.avoidsNull_string fun _ _ => Codec.restores_string _,
      .inr ⟨rfl, Codec.restores_bool _⟩, .inr ⟨rfl, Codec.restores_bool _⟩, trivial⟩ rfl

theorem SealedRecord.restores (r : SealedRecord) : SealedRecord.codec.Restores r :=
  Record.restores_codec (by decide)
    ⟨.inr ⟨rfl, Session.restores _⟩, .inr ⟨rfl, Codec.restores_string _⟩, trivial⟩ rfl

namespace Message

/-- The message as it comes back from being stored: with the key that the text of its key
    stands for. -/
def stored (m : Message) : Message :=
  { m with encryptionKeyId := m.encryptionKeyId.bind fun key => EncryptionKeyId.parse key.text }

theorem readsBack_keyIdCodec (key : EncryptionKeyId) :
    keyIdCodec.ReadsBack (some key) (EncryptionKeyId.parse key.text) := by
  have htext : Codec.string.option.Restores ((some key).map EncryptionKeyId.text) :=
    (Codec.restores_string _).some Codec.avoidsNull_string
  exact htext.readsBack_refine rfl

theorem readsBack (m : Message) : Message.codec.ReadsBack m m.stored := by
  have hkey : (m.encryptionKeyId.isNone = true ∧ some none = some m.stored.encryptionKeyId) ∨
      (m.encryptionKeyId.isNone = false ∧
        keyIdCodec.ReadsBack m.encryptionKeyId m.stored.encryptionKeyId) := by
    rw [stored]
    cases m.encryptionKeyId with
    | none => exact .inl ⟨rfl, rfl⟩
    | some key => exact .inr ⟨rfl, readsBack_keyIdCodec key⟩
  have hfields : Message.record.fields.ReadsBack
      (m.id, m.parent, m.time, m.sender, m.content, m.encryptionKeyId, m.truncated, ())
      (m.id, m.parent, m.time, m.sender, m.content, m.stored.encryptionKeyId, m.truncated, ()) :=
    ⟨.inr ⟨rfl, Codec.restores_snowflake _⟩,
      Field.restores_optional Codec.avoidsNull_snowflake fun _ _ => Codec.restores_snowflake _,
      .inr ⟨rfl, Codec.restores_int64 _⟩, .inr ⟨rfl, Session.restores _⟩,
      .inr ⟨rfl, Codec.restores_string _⟩, hkey, .inr ⟨rfl, Codec.restores_bool _⟩, trivial⟩
  exact Record.readsBack_codec (by decide) hfields rfl

/-- A message survives being stored if the key that it names does. -/
theorem restores {m : Message}
    (h : ∀ key, m.encryptionKeyId = some key → EncryptionKeyId.parse key.text = some key) :
    Message.codec.Restores m := by
  have hstored : m.stored = m := by
    rw [stored]
    cases hkey : m.encryptionKeyId with
    | none => rw [Option.bind_none, ← hkey]
    | some key => rw [Option.bind_some, h key hkey, ← hkey]
  have hback := m.readsBack
  rwa [hstored] at hback

/-- The message names no key, one of the sealed-record format, or one that was read from
    a text. -/
def KeyIsReadable (m : Message) : Prop :=
  m.encryptionKeyId = none ∨ (∃ id, m.encryptionKeyId = some (.v1 id)) ∨
    ∃ text, m.encryptionKeyId = EncryptionKeyId.parse text

theorem restores_of_keyIsReadable {m : Message} (h : m.KeyIsReadable) :
    Message.codec.Restores m := by
  refine restores fun key hkey => ?_
  rcases h with hnone | ⟨id, hv1⟩ | ⟨text, hparsed⟩
  · rw [hnone] at hkey
    cases hkey
  · obtain rfl := Option.some.inj (hv1.symm.trans hkey)
    exact EncryptionKeyId.parse_text_v1 id
  · exact EncryptionKeyId.parse_text_of_parse (hparsed.symm.trans hkey)

theorem keyIsReadable_of_reads {m : Message} (h : Message.codec.Reads m) : m.KeyIsReadable := by
  obtain ⟨⟨id, parent, time, sender, content, key, truncated, _⟩,
    ⟨-, -, -, -, -, hkey, -⟩, rfl⟩ := Record.reads_of_codec h
  rcases hkey with habsent | hread
  · exact .inl (Option.some.inj habsent).symm
  · obtain ⟨text, -, hparsed⟩ := hread.of_refine
    cases text with
    | none => exact .inl (Except.ok.inj hparsed).symm
    | some text => exact .inr (.inr ⟨text, (Except.ok.inj hparsed).symm⟩)

/-- Every message is written, whatever the name of its key. -/
theorem exists_writer (m : Message) : ∃ v, Message.codec.writer m = .ok v := by
  obtain ⟨sender, hsender, -⟩ := Session.restores m.sender
  refine Record.exists_writer ⟨fun _ => ⟨_, rfl⟩, ?_, fun _ => ⟨_, rfl⟩, fun _ => ⟨sender, hsender⟩,
    fun _ => ⟨_, rfl⟩, ?_, fun _ => ⟨_, rfl⟩, trivial⟩
  · cases m.parent with
    | none => exact nofun
    | some parent => exact fun _ => ⟨_, rfl⟩
  · cases m.encryptionKeyId with
    | none => exact nofun
    | some key => exact fun _ => ⟨_, rfl⟩

end Message

end ChatKeys
