/-
  ChatKeys.Proofs.Key.Stored

  Which keys, key pairs and capabilities survive being stored: every capability,
  and every key and key pair that is wrapped (`Key.restores`, `KeyPair.restores`,
  `Capability.restores`).  A key in the clear is neither written nor read.
-/
import ChatKeys.Capability
import ChatKeys.Proofs.Json.Accepted

namespace ChatKeys

open Json

theorem KeyType.restores (t : KeyType) : KeyType.codec.Restores t :=
  Codec.restores_choice (by cases t <;> rfl)

theorem KeyContext.restores (c : KeyContext) : KeyContext.codec.Restores c :=
  Record.restores_codec (by decide)
    ⟨.inr ⟨rfl, Codec.restores_string _⟩, .inr ⟨rfl, Codec.restores_string _⟩, trivial⟩ rfl

theorem KdfParams.restores (kdf : KdfParams) : KdfParams.codec.Restores kdf :=
  Record.restores_codec (by decide) ⟨.inr ⟨rfl, Codec.restores_uint32 _⟩, trivial⟩ rfl

namespace Key

/-- The key with given labels and wrapped material survives. -/
theorem restores_ofCiphertext (type : KeyType) (iv ciphertext : Bytes)
    (context : Option KeyContext) :
    Key.codec.Restores (ofCiphertext type iv ciphertext context) := by
  have hmembers : Key.record.fields.Restores (type, iv, ciphertext, context, ()) :=
    ⟨.inr ⟨rfl, KeyType.restores _⟩, .inr ⟨rfl, Codec.restores_bytes _⟩,
      .inr ⟨rfl, Codec.restores_bytes _⟩,
      Field.restores_optional (Record.avoidsNull_codec _ _ _) fun c _ => KeyContext.restores c,
      trivial⟩
  obtain ⟨ms, hms⟩ := Fields.exists_members hmembers
  refine ⟨.object ms, ?_, fun rest _ => ?_⟩
  · show Key.record.writer (type, iv, ciphertext, context, ()) = _
    rw [Record.writer, hms]
    rfl
  · refine Record.reader_written (by decide) hmembers hms ?_ rest
    rfl

/-- A wrapped key survives being stored. -/
theorem restores {k : Key} (h : k.isEncrypted = true) : Key.codec.Restores k := by
  obtain ⟨type, iv, context, material⟩ := k
  cases material with
  | plain secret => cases h
  | wrapped ciphertext => exact restores_ofCiphertext type iv ciphertext context

/-- No other keys are written. -/
theorem isEncrypted_of_writer {k : Key} {v : Value} (h : Key.codec.writer k = .ok v) :
    k.isEncrypted = true := by
  obtain ⟨type, iv, context, material⟩ := k
  cases material with
  | plain secret => cases h
  | wrapped ciphertext => rfl

/-- No other keys are read. -/
theorem isEncrypted_of_reads {k : Key} (h : Key.codec.Reads k) : k.isEncrypted = true := by
  obtain ⟨s, rest, hread⟩ := h
  obtain ⟨⟨type, iv, ciphertext, context, _⟩, -, hbuild⟩ := Record.reads_of_reader hread
  obtain rfl := Except.ok.inj hbuild
  rfl

end Key

namespace KeyPair

theorem restores {p : KeyPair} (h : p.isEncrypted = true) : KeyPair.codec.Restores p :=
  Record.restores_codec (by decide)
    ⟨.inr ⟨rfl, Codec.restores_choice rfl⟩, .inr ⟨rfl, Codec.restores_bytes _⟩,
      .inr ⟨rfl, Key.restores h⟩, trivial⟩ rfl

theorem isEncrypted_of_writer {p : KeyPair} {v : Value} (h : KeyPair.codec.writer p = .ok v) :
    p.isEncrypted = true := by
  obtain ⟨-, -, hkey, -⟩ := Record.writable_of_writer h
  obtain ⟨_, hw⟩ := hkey rfl
  exact Key.isEncrypted_of_writer hw

theorem isEncrypted_of_reads {p : KeyPair} (h : KeyPair.codec.Reads p) : p.isEncrypted = true := by
  obtain ⟨⟨_, publicKey, privateKey, _⟩, ⟨-, -, hkey, -⟩, rfl⟩ := Record.reads_of_codec h
  exact Key.isEncrypted_of_reads (hkey.of_required rfl)

end KeyPair

theorem SharedKey.restores (k : SharedKey) : SharedKey.codec.Restores k :=
  Record.restores_codec (by decide)
    ⟨.inr ⟨rfl, KeyType.restores _⟩, .inr ⟨rfl, Codec.restores_bytes _⟩, trivial⟩ rfl

theorem Capability.restores (c : Capability) : Capability.codec.Restores c :=
  Record.restores_codec (by decide)
    ⟨.inr ⟨rfl, Codec.restores_string _⟩, .inr ⟨rfl, Codec.restores_bytes _⟩, trivial⟩ rfl

end ChatKeys
