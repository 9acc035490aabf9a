/-
  ChatKeys.Proofs.Reset.Confirmation

  Which texts confirm a reset.

    * `ResetConfirmation.parse_eq_ok_iff` — which texts are read as a confirmation, and
      as which one; `parse_confirmation` — among them the text that the request gives;
    * `ResetRequest.result_authorize` — a confirmation is accepted exactly if it is for
      the request, has the request's code and is in time;
    * `ResetRequest.authorizes_parsed_iff` — from the text to the authorization: a text
      is good for a request exactly if it is the one that the request gives, up to
      zeros in front of it and the case of the code's letters.
-/
import ChatKeys.Proofs.Snowflake
import ChatKeys.Proofs.Text.Hex
import ChatKeys.Reset

namespace ChatKeys

namespace Snowflake

theorem digit_ne_hyphen : ∀ n < 36, digit n ≠ '-' := by
  decide

theorem hyphen_notMem_digits (width n : Nat) : '-' ∉ digits width n := by
  induction width generalizing n with
  | zero => exact List.not_mem_nil
  | succ w ih =>
    rw [digits, List.mem_append, List.mem_singleton]
    rintro (h | h)
    · exact ih _ h
    · exact digit_ne_hyphen _ (Nat.mod_lt _ (by decide)) h.symm

theorem hyphen_notMem_text (id : Snowflake) : '-' ∉ id.text.toList := by
  rw [text, String.toList_ofList]
  exact hyphen_notMem_digits _ _

end Snowflake

/-! ## Reading confirmations -/

namespace ResetConfirmation

/-- A text is taken apart at its first hyphen. -/
theorem splitAtHyphen?_eq_some_iff {cs front back : List Char} :
    splitAtHyphen? cs = some (front, back) ↔ '-' ∉ front ∧ cs = front ++ '-' :: back := by
  induction cs generalizing front with
  | nil => simp [splitAtHyphen?]
  | cons c cs ih =>
    rw [splitAtHyphen?]
    split
    · next hc =>
      subst hc
      cases front with
      | nil => simp [eq_comm]
      | cons d front => simp +contextual [eq_comm]
    · next hc =>
      simp only [Option.map_eq_some_iff, Prod.exists, Prod.mk.injEq]
      constructor
      · rintro ⟨before, behind, h, rfl, rfl⟩
        obtain ⟨hnot, rfl⟩ := ih.mp h
        exact ⟨List.not_mem_cons_of_ne_of_not_mem (Ne.symm hc) hnot, rfl⟩
      · rintro ⟨hnot, h⟩
        cases front with
        | nil => exact absurd (List.cons.inj h).1 hc
        | cons d before =>
          obtain ⟨rfl, rfl⟩ := List.cons.inj h
          exact ⟨before, back, ih.mpr ⟨fun hm => hnot (List.mem_cons_of_mem _ hm), rfl⟩, rfl, rfl⟩

/-- A text is read as a confirmation exactly if a hyphen stands between the identifier
    and the code. Zeros in front of the identifier may be missing, and the digits of the
    code may be of either case. -/
theorem parse_eq_ok_iff {s : String} {c : ResetConfirmation} :
    parse s = .ok c ↔
      ∃ (count : Nat) (id code : String), s = id ++ "-" ++ code ∧ id ≠ "" ∧
        List.replicate count '0' ++ id.toList = c.requestId.text.toList ∧
        code.toLower = Hex.encode c.mac := by
  have hcode : ∀ {code : String}, Hex.decodeChars? code.toList = some c.mac ↔
      code.toLower = Hex.encode c.mac := Hex.decode?_eq_some_iff
  constructor
  · intro h
    simp only [parse] at h
    split at h
    · next c' hparsed =>
      cases h
      simp only [Option.bind_eq_bind, Option.bind_eq_some_iff, Option.pure_def,
        Option.some.injEq, Prod.exists] at hparsed
      obtain ⟨id, code, hsplit, mac, hmac, requestId, hid, rfl⟩ := hparsed
      obtain ⟨-, hs⟩ := splitAtHyphen?_eq_some_iff.mp hsplit
      obtain ⟨hne, count, htext⟩ := Snowflake.parse?_eq_some_iff.mp hid
      rw [← String.toList_ofList (l := code)] at hmac
      refine ⟨count, String.ofList id, String.ofList code, ?_, hne, htext, hcode.mp hmac⟩
      rw [String.ext_iff, hs]
      simp
    · cases h
  · rintro ⟨count, id, code, rfl, hne, htext, hmac⟩
    -- No hyphen is in the identifier, so the text is taken apart where it was put together.
    have hnot : '-' ∉ id.toList := by
      intro hm
      apply c.requestId.hyphen_notMem_text
      rw [← htext]
      exact List.mem_append_right _ hm
    have hsplit : splitAtHyphen? (id ++ "-" ++ code).toList = some (id.toList, code.toList) :=
      splitAtHyphen?_eq_some_iff.mpr ⟨hnot, by simp⟩
    have hid : Snowflake.parse? (String.ofList id.toList) = some c.requestId := by
      rw [String.ofList_toList]
      exact Snowflake.parse?_eq_some_iff.mpr ⟨hne, count, htext⟩
    simp only [parse, hsplit, hcode.mpr hmac, hid, Option.bind_eq_bind, Option.bind_some,
      Option.pure_def]

end ResetConfirmation

namespace ResetRequest

/-- The text that a request gives is read as its own confirmation. -/
theorem parse_confirmation (r : ResetRequest) :
    ResetConfirmation.parse r.confirmation = .ok ⟨r.id, r.mac⟩ := by
  rw [ResetConfirmation.parse_eq_ok_iff]
  exact ⟨0, r.id.text, Hex.encode r.mac, rfl, r.id.text_ne_empty, List.nil_append _,
    Hex.toLower_encode _⟩

/-! ## Accepting confirmations -/

/-- A confirmation for this very request, with its code, before it expires. -/
def Accepts (r : ResetRequest) (c : ResetConfirmation) (now : Time) : Prop :=
  c.requestId = r.id ∧ c.mac = Hmac.mac r.key (Bytes.ofString r.id.text) ∧ now < r.expiresAt

instance (r : ResetRequest) (c : ResetConfirmation) (now : Time) : Decidable (r.Accepts c now) :=
  inferInstanceAs (Decidable (_ ∧ _ ∧ _))

/-- A confirmation that is accepted gives the permission for the account of the request.
    All others are refused alike. -/
theorem result_authorize (r : ResetRequest) (c : ResetConfirmation) (now : Time) :
    (r.authorize c now).result =
      if r.Accepts c now then .ok ⟨r.id, r.accountId⟩ else .error .accessDenied := by
  have htime : r.isExpired now = false ↔ now < r.expiresAt := by
    show decide (r.expiresAt.ns ≤ now.ns) = false ↔ now.ns < r.expiresAt.ns
    rw [decide_eq_false_iff_not, Int.not_le]
  have hmac : r.checkMac c.mac = true ↔ c.mac = r.mac := by
    rw [checkMac, decide_eq_true_iff, eq_comm]
  have hrejected : (c.requestId ≠ r.id ∨ r.checkMac c.mac = false) ↔
      ¬(c.requestId = r.id ∧ c.mac = r.mac) := by
    rw [← hmac, not_and_or, Bool.not_eq_true]
  have haccepts : r.Accepts c now ↔ (c.requestId = r.id ∧ c.mac = r.mac) ∧ now < r.expiresAt :=
    and_assoc.symm
  rw [authorize]
  split
  · next h =>
    rw [if_neg fun ha => hrejected.mp h (haccepts.mp ha).1]
    rfl
  · next h =>
    split
    · next hexpired =>
      rw [if_neg]
      · rfl
      · intro ha
        rw [htime.mpr (haccepts.mp ha).2] at hexpired
        cases hexpired
    · next hexpired =>
      have htogether := not_not.mp (mt hrejected.mpr h)
      rw [if_pos (haccepts.mpr ⟨htogether, htime.mp (Bool.not_eq_true _ ▸ hexpired)⟩)]
      rfl

theorem result_authorize_eq_ok_iff {r : ResetRequest} {c : ResetConfirmation} {now : Time}
    {a : ResetAuthorization} :
    (r.authorize c now).result = .ok a ↔ r.Accepts c now ∧ a = ⟨r.id, r.accountId⟩ := by
  rw [result_authorize]
  split
  · next h => simp [h, eq_comm]
  · next h => simp [h]

/-- All refusals are alike. -/
theorem eq_accessDenied_of_authorize {r : ResetRequest} {c : ResetConfirmation} {now : Time}
    {e : Error} (h : (r.authorize c now).result = .error e) : e = .accessDenied := by
  rw [result_authorize] at h
  split at h
  · cases h
  · exact (Except.error.inj h).symm

/-- In time, a request accepts its own confirmation. -/
theorem accepts_confirmation {r : ResetRequest} {now : Time} (h : now < r.expiresAt) :
    r.Accepts ⟨r.id, r.mac⟩ now :=
  ⟨rfl, rfl, h⟩

/-! ## From the text to the permission -/

/-- A text is good for a request exactly if it is in time and the text that the request
    gives, of which zeros in front may be missing and letters of the code may be
    capitals. -/
theorem authorizes_parsed_iff (r : ResetRequest) (now : Time) (s : String) :
    (∃ c a, ResetConfirmation.parse s = .ok c ∧ (r.authorize c now).result = .ok a) ↔
      now < r.expiresAt ∧
        ∃ (count : Nat) (id code : String), s = id ++ "-" ++ code ∧ id ≠ "" ∧
          List.replicate count '0' ++ id.toList = r.id.text.toList ∧
          code.toLower = Hex.encode r.mac := by
  constructor
  · rintro ⟨c, a, hparse, hauthorize⟩
    obtain ⟨⟨hid, hmac, htime⟩, -⟩ := result_authorize_eq_ok_iff.mp hauthorize
    obtain ⟨count, id, code, hs, hne, htext, hcode⟩ := ResetConfirmation.parse_eq_ok_iff.mp hparse
    rw [hid] at htext
    rw [hmac] at hcode
    exact ⟨htime, count, id, code, hs, hne, htext, hcode⟩
  · rintro ⟨htime, hspelling⟩
    have hparse : ResetConfirmation.parse s = .ok ⟨r.id, r.mac⟩ :=
      ResetConfirmation.parse_eq_ok_iff.mpr hspelling
    exact ⟨_, _, hparse, result_authorize_eq_ok_iff.mpr ⟨accepts_confirmation htime, rfl⟩⟩

/-- The text that a request gives is not the only one that is good for it: the zero that
    its identifier starts with can be left out. -/
theorem not_only_confirmation_authorizes :
    ¬∀ (r : ResetRequest) (now : Time) (s : String) (c : ResetConfirmation)
        (a : ResetAuthorization),
        ResetConfirmation.parse s = .ok c → (r.authorize c now).result = .ok a →
          s = r.confirmation := by
  intro h
  let r : ResetRequest :=
    { id := ⟨1202402938064565030⟩, accountId := ⟨42⟩, key := List.replicate secretSize 7,
      requestedAt := .epoch, expiresAt := ⟨1, by decide, by decide⟩ }
  have hid : r.id.text = "094vc9o3rrt46" := by decide
  have hparse : ResetConfirmation.parse ("94vc9o3rrt46" ++ "-" ++ Hex.encode r.mac)
      = .ok ⟨r.id, r.mac⟩ := by
    rw [ResetConfirmation.parse_eq_ok_iff]
    refine ⟨1, "94vc9o3rrt46", Hex.encode r.mac, rfl, by decide, ?_, Hex.toLower_encode _⟩
    rw [hid]
    decide
  have hauthorize : (r.authorize ⟨r.id, r.mac⟩ .epoch).result = .ok ⟨r.id, r.accountId⟩ :=
    result_authorize_eq_ok_iff.mpr ⟨accepts_confirmation (by decide), rfl⟩
  -- The code is the same in both texts, so that only the identifiers are left to compare.
  have hsame := h r .epoch _ _ _ hparse hauthorize
  rw [confirmation, hid, String.append_left_inj, String.append_left_inj] at hsame
  revert hsame
  decide

end ResetRequest

end ChatKeys
