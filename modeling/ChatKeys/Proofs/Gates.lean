/-
  ChatKeys.Proofs.Gates

  Before a client key or a manager key is used for anything, its code is compared with the
  one that is kept.

  All that can be asked of an account with a client key goes through one gate, `openKek`, and
  an account is opened to nobody whom the gate turns away (`Account.view_of_openKek`).  A
  room has a gate of the same kind.  What a gate answers depends on the nonce and the code
  that are kept, and on nothing else, so whoever comes with the wrong key cannot tell two
  accounts or two rooms apart by the state of what is behind it
  (`Account.view_eq_of_mac_ne`, `Room.unlock_eq_of_mac_ne`).
-/
import ChatKeys.Proofs.Account.Operations
import ChatKeys.Proofs.Room.Hierarchy

namespace ChatKeys

variable {k new new' : Key} {own : Bytes}

namespace Account

/-- All that is answered to a client key. -/
structure View where
  unlock : Except Error KeyPair
  redeemGrant : Except Error Key
  replaceClientKey : Except Error Account
  staffCredential : Except Error Key

/-- The view of somebody who is refused everything, for the same reason. -/
def View.refused (e : Error) : View := ⟨.error e, .error e, .error e, .error e⟩

/-- What is answered to a client key that comes with a grant and with another client key. -/
def view (a : Account) (k new : Key) (c : Capability) : View where
  unlock := (a.unlock k).result
  redeemGrant := (a.redeemGrant k c).result
  replaceClientKey := (a.replaceClientKey k new).result
  staffCredential := (a.staffCredential k).result

variable {a a' : Account} {c c' : Capability}

/-- Who is turned away at the gate is told the reason whatever was asked for, except that an
    account that is not of staff has no credential to ask for. -/
theorem view_of_openKek {e : Error} (h : (a.openKek k).result = .error e) :
    a.view k new c = { View.refused e with
      staffCredential := if a.isStaff then .error e else .error .accessDenied } := by
  have hunlock : (a.unlock k).result = .error e := Logged.result_bind_of_error h _
  have hgrant : ∀ c, (a.redeemGrant k c).result = .error e :=
    fun c => Logged.result_bind_of_error h _
  have hreplace : (a.replaceClientKey k new).result = .error e := Logged.result_bind_of_error h _
  have hstaff : (a.staffCredential k).result
      = if a.isStaff then .error e else .error .accessDenied := by
    rw [staffCredential, isStaff]
    cases a.staffCapability with
    | none => rfl
    | some c => exact hgrant c
  rw [view, hunlock, hgrant c, hreplace, hstaff]
  rfl

/-- With another code than the account's, everything is denied. -/
theorem view_of_mac_ne (h : k.mac a.nonce = .ok own) (hne : a.mac ≠ own) :
    a.view k new c = .refused .accessDenied := by
  have hopen : (a.openKek k).result = .error .accessDenied := by
    rw [openKek_of_mac_ne h hne.symm]
    rfl
  rw [view_of_openKek hopen, ite_self]
  rfl

/-- To a key with another code all accounts with one nonce and one code look alike. -/
theorem view_eq_of_mac_ne (h : k.mac a.nonce = .ok own) (hne : a.mac ≠ own)
    (hnonce : a'.nonce = a.nonce) (hmac : a'.mac = a.mac) :
    a'.view k new' c' = a.view k new c := by
  rw [view_of_mac_ne h hne, view_of_mac_ne (hnonce ▸ h) (hmac ▸ hne)]

/-- A wrapped key is turned away for being wrapped. -/
theorem view_of_isEncrypted (h : k.isEncrypted = true) :
    a.view k new c = { View.refused (.keyState .mustBeDecrypted) with
      staffCredential :=
        if a.isStaff then .error (.keyState .mustBeDecrypted) else .error .accessDenied } := by
  refine view_of_openKek ?_
  rw [openKek_eq_checked, Key.checked_of_isEncrypted h]
  rfl

/-- A key with the code is let through, to whatever is behind the gate. -/
theorem result_unlock_of_mac (h : k.mac a.nonce = .ok a.mac) :
    (a.unlock k).result = a.userKey.unwrap k >>= a.keyPair.unwrap := by
  rw [unlock, Logged.result_bind, openKek_eq_checked, Key.result_checked_of_mac h, if_pos rfl]
  rfl

end Account

namespace Room

variable {r r' : Room}

/-- To a key with another code all rooms with one vector and one code look alike. -/
theorem unlock_eq_of_mac_ne (h : k.mac r.keyPair.iv = .ok own) (hne : r.mac ≠ own)
    (hiv : r'.keyPair.iv = r.keyPair.iv) (hmac : r'.mac = r.mac) :
    (r'.unlock k).result = (r.unlock k).result := by
  rw [result_unlock_of_mac_ne h hne.symm,
    result_unlock_of_mac_ne (hiv ▸ h) (hmac ▸ hne).symm]

theorem unlock_of_isEncrypted (h : k.isEncrypted = true) :
    (r.unlock k).result = .error (.keyState .mustBeDecrypted) := by
  rw [unlock_eq_checked, Key.checked_of_isEncrypted h]
  rfl

theorem result_unlock_of_mac (h : k.mac r.keyPair.iv = .ok r.mac) :
    (r.unlock k).result = r.keyPair.unwrap k := by
  rw [unlock_eq_checked, Key.result_checked_of_mac h, if_pos rfl]

end Room

/-- The code gates every use of a client key and of a manager key. A key in the clear whose
    code of the nonce is not the account's is denied all that can be asked of the account, and
    a key whose code of the vector is not the room's is denied the room. Accounts that agree in
    nonce and code answer it alike, and so do rooms that agree in vector and code, whatever
    their keys, the grant that is presented and the credential of staff are like, and whether
    they are there at all. With the right code it is what is behind the gate that is answered.
    A wrapped key is told that it is wrapped. -/
theorem code_gates_keys (k : Key) :
    (∀ secret, k.secret = .ok secret →
      (∀ (a : Account) (new : Key) (c : Capability),
        a.mac ≠ Hmac.mac secret.bytes a.nonce →
          a.view k new c = .refused .accessDenied ∧
          ∀ a' : Account, a'.nonce = a.nonce → a'.mac = a.mac → ∀ new' c',
            a'.view k new' c' = a.view k new c) ∧
      (∀ r : Room, r.mac ≠ Hmac.mac secret.bytes r.keyPair.iv →
        (r.unlock k).result = .error .accessDenied ∧
        ∀ r' : Room, r'.keyPair.iv = r.keyPair.iv → r'.mac = r.mac →
          (r'.unlock k).result = (r.unlock k).result) ∧
      (∀ a : Account, a.mac = Hmac.mac secret.bytes a.nonce →
        (a.unlock k).result = a.userKey.unwrap k >>= a.keyPair.unwrap) ∧
      ∀ r : Room, r.mac = Hmac.mac secret.bytes r.keyPair.iv →
        (r.unlock k).result = r.keyPair.unwrap k) ∧
    (k.isEncrypted = true →
      (∀ (a : Account) (new : Key) (c : Capability),
        a.view k new c = { Account.View.refused (.keyState .mustBeDecrypted) with
          staffCredential :=
            if a.isStaff then .error (.keyState .mustBeDecrypted) else .error .accessDenied }) ∧
      ∀ r : Room, (r.unlock k).result = .error (.keyState .mustBeDecrypted)) := by
  refine ⟨fun secret hsecret => ?_, fun hwrapped => ?_⟩
  · have hcode := Key.mac_of_secret hsecret
    refine ⟨fun a new c hne => ?_, fun r hne => ?_, fun a heq => ?_, fun r heq => ?_⟩
    · exact ⟨Account.view_of_mac_ne (hcode _) hne, fun a' hnonce hmac new' c' =>
        Account.view_eq_of_mac_ne (hcode _) hne hnonce hmac⟩
    · exact ⟨Room.result_unlock_of_mac_ne (hcode _) hne.symm, fun r' hiv hmac =>
        Room.unlock_eq_of_mac_ne (hcode _) hne hiv hmac⟩
    · exact Account.result_unlock_of_mac (heq ▸ hcode _)
    · exact Room.result_unlock_of_mac (heq ▸ hcode _)
  · exact ⟨fun a new c => Account.view_of_isEncrypted hwrapped, fun r =>
      Room.unlock_of_isEncrypted hwrapped⟩

/-- A key pair and a user key that are there and others that are not even wrapped, an account of
    staff and one that is not, are the same to the example key, since the code that is kept is
    empty. Wrapped, the key is told so. -/
theorem code_gates_keys_example :
    ∃ (a a' : Account) (r r' : Room) (wrapped : Key),
      a.isStaff = true ∧ a'.isStaff = false ∧ a'.userKey ≠ a.userKey ∧ r'.keyPair ≠ r.keyPair ∧
      a.view exampleKey exampleKey ⟨"", []⟩ = .refused .accessDenied ∧
      a'.view exampleKey wrapped ⟨"AA==", []⟩ = a.view exampleKey exampleKey ⟨"", []⟩ ∧
      (r.unlock exampleKey).result = .error .accessDenied ∧
      (r'.unlock exampleKey).result = (r.unlock exampleKey).result ∧
      ({ a with mac := Hmac.mac (List.replicate keySize 1) a.nonce }.unlock exampleKey).result
        = a.userKey.unwrap exampleKey >>= a.keyPair.unwrap ∧
      a.view wrapped exampleKey ⟨"", []⟩ = .refused (.keyState .mustBeDecrypted) ∧
      (r.unlock wrapped).result = .error (.keyState .mustBeDecrypted) := by
  let wrapped : Key := .ofCiphertext .xchacha20poly1305 [] [] none
  let a : Account :=
    { nonce := [7], mac := [], kdf := .standard, systemKey := wrapped, userKey := wrapped,
      keyPair := ⟨[], wrapped⟩, staffCapability := some ⟨"", []⟩ }
  let a' : Account :=
    { a with userKey := exampleKey, keyPair := ⟨[], exampleKey⟩, staffCapability := none }
  let r : Room :=
    { name := "lobby", nonce := [], mac := [], keyEncryptingKey := wrapped,
      keyPair := ⟨[], wrapped⟩, messageKey := none }
  let r' : Room := { r with keyPair := ⟨[], exampleKey⟩ }
  -- A code has the size of a digest.
  have hempty : ∀ message, [] ≠ Hmac.mac (List.replicate keySize 1) message := by
    intro message h
    have hlength := congrArg List.length h
    rw [Hmac.length_mac] at hlength
    cases hlength
  obtain ⟨hplain, -⟩ := code_gates_keys exampleKey
  obtain ⟨haccount, hroom, hright, -⟩ := hplain ⟨List.replicate keySize 1, rfl⟩ rfl
  obtain ⟨hdenied, halike⟩ := haccount a exampleKey ⟨"", []⟩ (hempty _)
  obtain ⟨hroomDenied, hroomAlike⟩ := hroom r (hempty _)
  obtain ⟨hview, hunlock⟩ := (code_gates_keys wrapped).2 rfl
  exact ⟨a, a', r, r', wrapped, rfl, rfl, by decide, by decide, hdenied,
    halike a' rfl rfl wrapped _, hroomDenied, hroomAlike r' rfl rfl,
    hright { a with mac := Hmac.mac (List.replicate keySize 1) a.nonce } rfl,
    hview a _ _, hunlock r⟩

end ChatKeys
