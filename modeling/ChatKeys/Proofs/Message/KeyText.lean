/-
  ChatKeys.Proofs.Message.KeyText

  Which keys are read back from their text.

  Mark, name and the absence of a key share one space of texts.  A text with the mark stands
  for a key of the sealed-record format, and the empty text for no key, also where they are
  the name of a key of the older format; every other name stands for itself.

    * `EncryptionKeyId.parse_eq_some_iff` — a text stands for a key exactly if it is the text
      of that key and stands for no other;
    * `EncryptionKeyId.key_text_restored` — what becomes of each key, by itself and on a
      message that is stored.
-/
import ChatKeys.Proofs.Message.Stored

namespace ChatKeys

namespace EncryptionKeyId

/-- The text of the key stands for this key, not for one of the other format or for none. -/
def HasOwnText : EncryptionKeyId → Prop
  | v1 _ => True
  | unversioned id => id.text ≠ "" ∧ ¬ mark <+: id.text.toList

theorem parse_text_unversioned_marked (name : String) :
    parse (unversioned ⟨String.ofList mark ++ name⟩).text = some (v1 ⟨name⟩) :=
  parse_text_v1 ⟨name⟩

theorem parse_text_unversioned_empty : parse (unversioned ⟨""⟩).text = none := rfl

/-- Without the mark a name stands for itself. -/
theorem parse_of_not_mark {name : String} (hempty : name ≠ "") (hmark : ¬ mark <+: name.toList) :
    parse name = some (unversioned ⟨name⟩) := by
  rw [parse]
  split
  · next hnil => exact absurd (String.toList_eq_nil_iff.mp hnil) hempty
  · next id hid =>
    rw [hid] at hmark
    exact absurd (List.prefix_append mark id) hmark
  · rw [String.ofList_toList]

theorem parse_text_eq_self_iff {key : EncryptionKeyId} :
    parse key.text = some key ↔ key.HasOwnText := by
  cases key with
  | v1 id => exact iff_of_true (parse_text_v1 id) trivial
  | unversioned id =>
    constructor
    · intro h
      refine ⟨?_, ?_⟩
      · intro hempty
        rw [text, hempty] at h
        cases h
      · rintro ⟨name, hname⟩
        -- The text of the key is then the text of a marked one, which is what it is read as.
        have htext : (unversioned id).text = (v1 ⟨String.ofList name⟩).text := by
          rw [text, text, ← String.toList_inj, String.toList_append, String.toList_ofList,
            String.toList_ofList, hname]
        rw [htext, parse_text_v1] at h
        cases h
    · rintro ⟨hempty, hmark⟩
      exact parse_of_not_mark hempty hmark

/-- The text that a key was read from is its text. -/
theorem text_of_parse {text : String} {key : EncryptionKeyId} (h : parse text = some key) :
    key.text = text := by
  rw [parse] at h
  split at h
  · cases h
  · next id hid =>
    obtain rfl := Option.some.inj h
    rw [EncryptionKeyId.text, ← String.toList_inj, String.toList_append, String.toList_ofList,
      String.toList_ofList, hid]
    rfl
  · obtain rfl := Option.some.inj h
    exact String.ofList_toList

theorem parse_eq_some_iff {text : String} {key : EncryptionKeyId} :
    parse text = some key ↔ key.text = text ∧ key.HasOwnText := by
  constructor
  · intro h
    exact ⟨text_of_parse h, parse_text_eq_self_iff.mp (parse_text_of_parse h)⟩
  · rintro ⟨rfl, hown⟩
    exact parse_text_eq_self_iff.mpr hown

/-- A key is read back from its text exactly if it has one of its own: it is of the
    sealed-record format, or its name is not empty and does not begin with the mark. Those
    are the keys that are read from texts at all. Of the others the empty name is read as
    no key, and a marked name as a key of the sealed-record format. Every message can be
    stored and comes back with the key that its text stands for and with everything else,
    and so with its key exactly if that has a text of its own. -/
theorem key_text_restored :
    (∀ key : EncryptionKeyId, parse key.text = some key ↔ key.HasOwnText) ∧
    (∀ key : EncryptionKeyId, key.HasOwnText ↔ ∃ text, parse text = some key) ∧
    parse (unversioned ⟨""⟩).text = none ∧
    (∀ name, parse (unversioned ⟨String.ofList mark ++ name⟩).text = some (v1 ⟨name⟩)) ∧
    (∀ m : Message, Message.codec.reload m
      = some { m with encryptionKeyId := m.encryptionKeyId.bind fun key => parse key.text }) ∧
    ∀ (m : Message) (key : EncryptionKeyId),
      Message.codec.reload { m with encryptionKeyId := some key }
        = some { m with encryptionKeyId := some key } ↔ key.HasOwnText := by
  refine ⟨fun key => parse_text_eq_self_iff, fun key => ?_, parse_text_unversioned_empty,
    parse_text_unversioned_marked, fun m => m.readsBack.reload_eq, fun m key => ?_⟩
  · constructor
    · intro hown
      exact ⟨key.text, parse_text_eq_self_iff.mpr hown⟩
    · rintro ⟨text, htext⟩
      exact (parse_eq_some_iff.mp htext).2
  · rw [(Message.readsBack _).reload_eq, ← parse_text_eq_self_iff]
    constructor
    · intro h
      exact congrArg Message.encryptionKeyId (Option.some.inj h)
    · intro h
      rw [Message.stored, Option.bind_some, h]

/-- A name that begins with the mark, and the empty name, are lost. -/
theorem not_all_key_texts_restored :
    parse (unversioned ⟨"v1/k1"⟩).text = some (v1 ⟨"k1"⟩) ∧
      parse (unversioned ⟨""⟩).text = none ∧
      ¬ ∀ key : EncryptionKeyId, parse key.text = some key := by
  have hmarked : parse (unversioned ⟨"v1/k1"⟩).text = some (v1 ⟨"k1"⟩) := rfl
  refine ⟨hmarked, rfl, fun hall => ?_⟩
  rw [hall] at hmarked
  cases hmarked

end EncryptionKeyId

end ChatKeys
