/-
  ChatKeys.Proofs.Room.Stored

  A room survives being stored if all its keys are wrapped and its message key was
  not issued before 1970 (`Room.IsStorable`).  No other room is written or read.
-/
import ChatKeys.Room
import ChatKeys.Proofs.Key.Stored

namespace ChatKeys

open Json

theorem KeyId.restores (id : KeyId) : KeyId.codec.Restores id :=
  (Codec.restores_string id.text).refine rfl

/-- The message key is wrapped, and was not issued before 1970. -/
structure MessageKey.IsStorable (m : MessageKey) : Prop where
  key : m.key.isEncrypted = true
  issuedAt : 0 ≤ m.issuedAt.ns

namespace MessageKey

theorem restores {m : MessageKey} (h : m.IsStorable) : MessageKey.codec.Restores m :=
  Record.restores_codec (by decide)
    ⟨.inr ⟨rfl, KeyId.restores _⟩, .inr ⟨rfl, Codec.restores_time h.issuedAt⟩,
      .inr ⟨rfl, Codec.restores_bytes _⟩, .inr ⟨rfl, Key.restores h.key⟩, trivial⟩ rfl

theorem isStorable_of_writer {m : MessageKey} {v : Value} (h : MessageKey.codec.writer m = .ok v) :
    m.IsStorable := by
  obtain ⟨-, hissued, -, hkey, -⟩ := Record.writable_of_writer h
  obtain ⟨_, hissued⟩ := hissued rfl
  obtain ⟨_, hkey⟩ := hkey rfl
  exact {
    key := Key.isEncrypted_of_writer hkey
    issuedAt := Codec.ns_nonneg_of_writer hissued }

theorem isStorable_of_reads {m : MessageKey} (h : MessageKey.codec.Reads m) : m.IsStorable := by
  obtain ⟨⟨id, issuedAt, nonce, key, _⟩, ⟨-, hissued, -, hkey, -⟩, rfl⟩ := Record.reads_of_codec h
  exact {
    key := Key.isEncrypted_of_reads (hkey.of_required rfl)
    issuedAt := Codec.ns_nonneg_of_reads (hissued.of_required rfl) }

end MessageKey

namespace Room

/-- Every key that the room stores is wrapped, and the message key can be written. -/
structure IsStorable (r : Room) : Prop where
  keyEncryptingKey : r.keyEncryptingKey.isEncrypted = true
  keyPair : r.keyPair.isEncrypted = true
  messageKey : ∀ m, r.messageKey = some m → m.IsStorable

theorem restores {r : Room} (h : r.IsStorable) : Room.codec.Restores r :=
  Record.restores_codec (by decide)
    ⟨.inr ⟨rfl, Codec.restores_string _⟩, .inr ⟨rfl, Codec.restores_bytes _⟩,
      .inr ⟨rfl, Codec.restores_bytes _⟩, .inr ⟨rfl, Key.restores h.keyEncryptingKey⟩,
      .inr ⟨rfl, KeyPair.restores h.keyPair⟩,
      Field.restores_optional (Record.avoidsNull_codec _ _ _) fun m hm =>
        MessageKey.restores (h.messageKey m hm),
      trivial⟩ rfl

theorem isStorable_of_writer {r : Room} {v : Value} (h : Room.codec.writer r = .ok v) :
    r.IsStorable := by
  obtain ⟨-, -, -, hkey, hpair, hmessage, -⟩ := Record.writable_of_writer h
  obtain ⟨_, hkey⟩ := hkey rfl
  obtain ⟨_, hpair⟩ := hpair rfl
  refine ⟨Key.isEncrypted_of_writer hkey, KeyPair.isEncrypted_of_writer hpair, fun m hm => ?_⟩
  rw [hm] at hmessage
  obtain ⟨_, hmessage⟩ := hmessage rfl
  exact MessageKey.isStorable_of_writer hmessage

theorem isStorable_of_reads {r : Room} (h : Room.codec.Reads r) : r.IsStorable := by
  obtain ⟨⟨name, nonce, mac, keyEncryptingKey, keyPair, messageKey, _⟩,
    ⟨-, -, -, hkey, hpair, hmessage, -⟩, rfl⟩ := Record.reads_of_codec h
  refine ⟨Key.isEncrypted_of_reads (hkey.of_required rfl),
    KeyPair.isEncrypted_of_reads (hpair.of_required rfl), ?_⟩
  rintro m rfl
  exact MessageKey.isStorable_of_reads hmessage.of_optional

end Room

end ChatKeys
