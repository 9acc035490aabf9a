/-
  ChatKeys.Proofs.Storage

  Everything that is stored survives it.

  `storage_keeps_values` puts together what the modules of the single types say of
  writing (`restores`), of what is not written (`*_of_writer`) and of what can have been
  read (`*_of_reads`).  Keys in the clear and times before 1970 are all that keeps a
  value from being written; and a message names its key by a text that has to be one
  which is read as that key (`Message.KeyIsReadable`).
-/
import ChatKeys.Proofs.Account.Stored
import ChatKeys.Proofs.Message.Stored
import ChatKeys.Proofs.Reset.Stored
import ChatKeys.Proofs.Room.Stored

namespace ChatKeys

open Json

theorem Capability.keeps : Capability.codec.Keeps (fun _ => True) fun _ => True :=
  Codec.keeps_of_restores (fun c _ => Capability.restores c) (fun _ _ _ => trivial)
    fun _ _ => trivial

/-- Every message is written. Those that name a readable key are read back, and no
    others are read. -/
theorem Message.keeps : Message.codec.Keeps (fun _ => True) Message.KeyIsReadable := by
  refine Codec.keeps_of_reads (fun m => ?_) (fun m _ hm => Message.restores_of_keyIsReadable hm)
    fun m hm => ⟨trivial, Message.keyIsReadable_of_reads hm⟩
  exact iff_of_true (Message.exists_writer m) trivial

/-- Storing keeps the values of every type that is stored. They are written exactly if
    all keys in them are wrapped and no time in them lies before 1970, so that no key is
    ever written in the clear; they are read back as they are; and whatever was read from
    any document can be written, and is read back as it is. -/
theorem storage_keeps_values :
    Key.codec.Keeps (fun k => k.isEncrypted = true) (fun _ => True) ∧
      KeyPair.codec.Keeps (fun p => p.isEncrypted = true) (fun _ => True) ∧
      Capability.codec.Keeps (fun _ => True) (fun _ => True) ∧
      MessageKey.codec.Keeps MessageKey.IsStorable (fun _ => True) ∧
      Room.codec.Keeps Room.IsStorable (fun _ => True) ∧
      Account.codec.Keeps Account.IsWrapped (fun _ => True) ∧
      ResetRequest.codec.Keeps ResetRequest.IsStorable (fun _ => True) ∧
      Message.codec.Keeps (fun _ => True) Message.KeyIsReadable := by
  have hkey := Codec.keeps_of_restores (fun _ => Key.restores)
    (fun _ _ => Key.isEncrypted_of_writer) fun _ => Key.isEncrypted_of_reads
  have hkeyPair := Codec.keeps_of_restores (fun _ => KeyPair.restores)
    (fun _ _ => KeyPair.isEncrypted_of_writer) fun _ => KeyPair.isEncrypted_of_reads
  have hmessageKey := Codec.keeps_of_restores (fun _ => MessageKey.restores)
    (fun _ _ => MessageKey.isStorable_of_writer) fun _ => MessageKey.isStorable_of_reads
  have hroom := Codec.keeps_of_restores (fun _ => Room.restores)
    (fun _ _ => Room.isStorable_of_writer) fun _ => Room.isStorable_of_reads
  have haccount := Codec.keeps_of_restores (fun _ => Account.restores)
    (fun _ _ => Account.isWrapped_of_writer) fun _ => Account.isWrapped_of_reads
  have hreset := Codec.keeps_of_restores (fun _ => ResetRequest.restores)
    (fun _ _ => ResetRequest.isStorable_of_writer) fun _ => ResetRequest.isStorable_of_reads
  exact ⟨hkey, hkeyPair, Capability.keeps, hmessageKey, hroom, haccount, hreset, Message.keeps⟩

end ChatKeys
