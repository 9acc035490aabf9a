/-
  ChatKeys.Proofs.Account.Stored

  An account whose keys are all wrapped (`Account.IsWrapped`) survives being
  stored.  No other account is written or read.
-/
import ChatKeys.Account
import ChatKeys.Proofs.Key.Stored

namespace ChatKeys.Account

open Json

/-- Every key that the account stores is wrapped. -/
structure IsWrapped (a : Account) : Prop where
  systemKey : a.systemKey.isEncrypted = true
  userKey : a.userKey.isEncrypted = true
  keyPair : a.keyPair.isEncrypted = true

theorem restores {a : Account} (h : a.IsWrapped) : Account.codec.Restores a :=
  Record.restores_codec (by decide)
    ⟨.inr ⟨rfl, Codec.restores_bytes _⟩, .inr ⟨rfl, Codec.restores_bytes _⟩,
      .inr ⟨rfl, KdfParams.restores _⟩, .inr ⟨rfl, Key.restores h.systemKey⟩,
      .inr ⟨rfl, Key.restores h.userKey⟩, .inr ⟨rfl, KeyPair.restores h.keyPair⟩,
      Field.restores_optional (Record.avoidsNull_codec _ _ _) fun c _ => Capability.restores c,
      trivial⟩ rfl

theorem isWrapped_of_writer {a : Account} {v : Value} (h : Account.codec.writer a = .ok v) :
    a.IsWrapped := by
  obtain ⟨-, -, -, hsystem, huser, hpair, -⟩ := Record.writable_of_writer h
  obtain ⟨_, hsystem⟩ := hsystem rfl
  obtain ⟨_, huser⟩ := huser rfl
  obtain ⟨_, hpair⟩ := hpair rfl
  exact {
    systemKey := Key.isEncrypted_of_writer hsystem
    userKey := Key.isEncrypted_of_writer huser
    keyPair := KeyPair.isEncrypted_of_writer hpair }

theorem isWrapped_of_reads {a : Account} (h : Account.codec.Reads a) : a.IsWrapped := by
  obtain ⟨⟨nonce, mac, kdf, systemKey, userKey, keyPair, staffCapability, _⟩,
    ⟨-, -, -, hsystem, huser, hpair, -⟩, rfl⟩ := Record.reads_of_codec h
  exact {
    systemKey := Key.isEncrypted_of_reads (hsystem.of_required rfl)
    userKey := Key.isEncrypted_of_reads (huser.of_required rfl)
    keyPair := KeyPair.isEncrypted_of_reads (hpair.of_required rfl) }

end ChatKeys.Account
