/-
  ChatKeys.Proofs.Json.Wording

  What the full wording of a complaint shows of the document.

  A wording is made of the reader's own words (`Error.words`), of numbers, and of at most
  one string of the document (`Error.quotation?`), which stands between quotes.  A text with
  an equals sign and without quotes, such as padded base64, is neither a word of the reader
  nor a number, and it does not reach across a quote: it is in the wording exactly if it is in
  that string (`Error.infix_fullMessage_iff`).
-/
import ChatKeys.Json.Error

namespace ChatKeys

/-! ## Texts in texts -/

/-- A part of a text that does not hold a character is on one side of it. -/
theorem infix_append_cons_iff {α : Type} {c : α} {t front back : List α} (hc : c ∉ t) :
    t <:+: front ++ c :: back ↔ t <:+: front ∨ t <:+: back := by
  constructor
  · intro h
    -- Nothing of the part that begins at the character is there.
    have hnil : ∀ {u : List α}, u <+: c :: back → c ∉ u → u = [] := by
      intro u hu hcu
      cases u with
      | nil => rfl
      | cons d u => exact absurd (by simp [(List.cons_prefix_cons.mp hu).1]) hcu
    rcases List.infix_append_iff.mp h with h | h | ⟨u, v, rfl, hu, hv⟩
    · exact .inl h
    · rcases List.infix_cons_iff.mp h with h | h
      · exact .inl (hnil h hc ▸ List.nil_infix)
      · exact .inr h
    · rw [List.mem_append, not_or] at hc
      rw [hnil hv hc.2, List.append_nil]
      exact .inl hu.isInfix
  · rintro (h | h)
    · exact h.trans (List.prefix_append _ _).isInfix
    · exact h.trans ((List.suffix_cons _ _).trans (List.suffix_append _ _)).isInfix

/-- A part with one character and without another, between two of the latter. -/
theorem infix_between_iff {α : Type} {c q : α} {t front shown back : List α} (hc : c ∈ t)
    (hq : q ∉ t) (hfront : c ∉ front) (hback : c ∉ back) :
    t <:+: front ++ q :: (shown ++ q :: back) ↔ t <:+: shown := by
  rw [infix_append_cons_iff hq, infix_append_cons_iff hq]
  constructor
  · rintro (h | h | h)
    · exact absurd (h.mem hc) hfront
    · exact h
    · exact absurd (h.mem hc) hback
  · exact fun h => .inr (.inl h)

theorem equals_notMem_natRepr (n : Nat) : '=' ∉ n.repr.toList := by
  rw [Nat.toList_repr]
  intro h
  have hdigit := Nat.isDigit_of_mem_toDigits (by decide) (by decide) h
  exact absurd hdigit (by decide)

theorem equals_notMem_repr (n : Int) : '=' ∉ n.repr.toList := by
  cases n with
  | ofNat m => exact equals_notMem_natRepr m
  | negSucc m =>
    rw [Int.repr, String.toList_append, List.mem_append, not_or]
    exact ⟨by decide, equals_notMem_natRepr _⟩

theorem equals_notMem_append {a b : String} :
    '=' ∉ (a ++ b).toList ↔ '=' ∉ a.toList ∧ '=' ∉ b.toList := by
  rw [String.toList_append, List.mem_append, not_or]

namespace Text

/-- What stands between the quotes of a quoted text. -/
def shownText (s : String) : String :=
  String.join (s.toList.map shown)

end Text

namespace Json

/-! ## Quotations -/

/-- The string that a value is shown as, if it is a string. -/
def Found.quotation? : Found → Option String
  | string text => some (Text.shownText text)
  | _ => none

/-- The string of the document that the full wording shows, as it is shown. -/
def Error.quotation? : Error → Option String
  | invalidType found _ => found.quotation?
  | invalidValue found _ => found.quotation?
  | unknownVariant name _ => some name
  | unknownField name _ => some name
  | invalidSnowflake cause => some (Text.shownText cause.text)
  | _ => none

/-- The words of the wording that come from the description of what is read. -/
def Error.words : Error → List String
  | invalidType _ expected => [expected]
  | invalidValue _ expected => [expected]
  | invalidLength _ expected => [expected]
  | unknownVariant _ known => [alternatives known]
  | unknownField _ known => [alternatives known]
  | missingField name => [name]
  | duplicateField name => [name]
  | _ => []

/-- A text that is told from words and numbers by an equals sign, and that neither a quote nor a
    space divides. -/
structure IsPadded (t : List Char) : Prop where
  equals_mem : '=' ∈ t
  backquote_notMem : '`' ∉ t
  quote_notMem : '"' ∉ t
  space_notMem : ' ' ∉ t

namespace IsPadded

variable {t : List Char}

theorem not_infix (ht : IsPadded t) {text : List Char} (h : '=' ∉ text) : ¬ t <:+: text :=
  fun ht' => h (ht'.mem ht.equals_mem)

/-- Behind a label it is in what is labelled. -/
theorem infix_labelled_iff (ht : IsPadded t) (label text : String) (hlabel : '=' ∉ label.toList) :
    t <:+: (label ++ " " ++ text).toList ↔ t <:+: text.toList := by
  have hspace : " ".toList = [' '] := by decide
  have htext : (label ++ " " ++ text).toList = label.toList ++ ' ' :: text.toList := by
    simp only [String.toList_append, hspace, List.append_assoc, List.cons_append, List.nil_append]
  rw [htext, infix_append_cons_iff ht.space_notMem]
  exact or_iff_right (ht.not_infix hlabel)

/-- In a text that quotes another one between words, it is in the quoted one. -/
theorem infix_quoted_iff (ht : IsPadded t) (s : String) {front back : String}
    (hfront : '=' ∉ front.toList) (hback : '=' ∉ back.toList) :
    t <:+: (front ++ Text.quoted s ++ back).toList ↔ t <:+: (Text.shownText s).toList := by
  have htext : (front ++ Text.quoted s ++ back).toList =
      front.toList ++ '"' :: ((Text.shownText s).toList ++ '"' :: back.toList) := by
    simp only [Text.quoted, String.toList_append, List.append_assoc]
    rfl
  rw [htext, infix_between_iff ht.equals_mem ht.quote_notMem hfront hback]

/-- The same for a name between back quotes. -/
theorem infix_name_iff (ht : IsPadded t) (front name known : String)
    (hfront : '=' ∉ front.toList) (hknown : '=' ∉ known.toList) :
    t <:+: (front ++ "`" ++ name ++ "`, expected " ++ known).toList ↔ t <:+: name.toList := by
  have hback : '=' ∉ (", expected " ++ known).toList :=
    equals_notMem_append.mpr ⟨by decide, hknown⟩
  have htext : (front ++ "`" ++ name ++ "`, expected " ++ known).toList =
      front.toList ++ '`' :: (name.toList ++ '`' :: (", expected " ++ known).toList) := by
    have hquote : "`".toList = ['`'] := by decide
    have hquote' : "`, expected ".toList = '`' :: ", expected ".toList := by decide
    simp only [String.toList_append, hquote, hquote', List.append_assoc, List.cons_append,
      List.nil_append]
  rw [htext, infix_between_iff ht.equals_mem ht.backquote_notMem hfront hback]

end IsPadded

theorem Found.equals_notMem_description {found : Found} (h : found.quotation? = none) :
    '=' ∉ found.description.toList := by
  cases found with
  | boolean b => cases b <;> decide
  | integer n =>
    simp only [description, equals_notMem_append]
    exact ⟨⟨by decide, equals_notMem_repr n⟩, by decide⟩
  | string text => cases h
  | null => decide
  | real => decide
  | array => decide
  | object => decide

/-- Of a value in words, between other words, only a string is the document's. -/
theorem IsPadded.infix_description_iff {t : List Char} (ht : IsPadded t) (found : Found)
    {front back : String} (hfront : '=' ∉ front.toList) (hback : '=' ∉ back.toList) :
    t <:+: (front ++ found.description ++ back).toList ↔
      ∃ q, found.quotation? = some q ∧ t <:+: q.toList := by
  cases hfound : found.quotation? with
  | none =>
    refine iff_of_false (ht.not_infix ?_) nofun
    simp only [equals_notMem_append]
    exact ⟨⟨hfront, Found.equals_notMem_description hfound⟩, hback⟩
  | some q =>
    obtain ⟨text, rfl⟩ : ∃ text, found = .string text := by
      cases found with
      | string text => exact ⟨text, rfl⟩
      | _ => cases hfound
    obtain rfl := Option.some.inj hfound
    have hwords : '=' ∉ (front ++ "string ").toList :=
      equals_notMem_append.mpr ⟨hfront, by decide⟩
    rw [Found.description, ← String.append_assoc, ht.infix_quoted_iff text hwords hback]
    simp only [Option.some.injEq, exists_eq_left']

/-- A padded text is in the full wording exactly if it is in the string that the wording
    quotes. -/
theorem Error.infix_fullMessage_iff {t : List Char} (ht : IsPadded t) {e : Error}
    (hwords : ∀ w ∈ e.words, '=' ∉ w.toList) :
    t <:+: e.fullMessage.toList ↔ ∃ q, e.quotation? = some q ∧ t <:+: q.toList := by
  have hone : ∀ q : String, (∃ q', some q = some q' ∧ t <:+: q'.toList) ↔ t <:+: q.toList := by
    intro q
    simp only [Option.some.injEq, exists_eq_left']
  cases e with
  | invalidType found expected =>
    have hexpected : '=' ∉ (", expected " ++ expected).toList :=
      equals_notMem_append.mpr ⟨by decide, hwords expected List.mem_cons_self⟩
    have hfound := ht.infix_description_iff found (by decide : '=' ∉ "invalid type: ".toList)
      hexpected
    rwa [← String.append_assoc] at hfound
  | invalidValue found expected =>
    have hexpected : '=' ∉ (", expected " ++ expected).toList :=
      equals_notMem_append.mpr ⟨by decide, hwords expected List.mem_cons_self⟩
    have hfound := ht.infix_description_iff found (by decide : '=' ∉ "invalid value: ".toList)
      hexpected
    rwa [← String.append_assoc] at hfound
  | unknownVariant name known =>
    have hfront : "unknown variant " ++ "`" = "unknown variant `" := by decide
    have hname := ht.infix_name_iff "unknown variant " name (alternatives known) (by decide)
      (hwords _ List.mem_cons_self)
    rw [hfront] at hname
    exact hname.trans (hone name).symm
  | unknownField name known =>
    have hfront : "unknown field " ++ "`" = "unknown field `" := by decide
    have hname := ht.infix_name_iff "unknown field " name (alternatives known) (by decide)
      (hwords _ List.mem_cons_self)
    rw [hfront] at hname
    exact hname.trans (hone name).symm
  | invalidSnowflake cause =>
    have htext := ht.infix_quoted_iff cause.text (by decide : '=' ∉ "invalid snowflake: ".toList)
      (by decide : '=' ∉ "".toList)
    rw [String.append_empty] at htext
    exact htext.trans (hone (Text.shownText cause.text)).symm
  | invalidLength length expected =>
    refine iff_of_false (ht.not_infix ?_) nofun
    show '=' ∉ ("invalid length " ++ length.repr ++ ", expected " ++ expected).toList
    simp only [equals_notMem_append]
    exact ⟨⟨⟨by decide, equals_notMem_natRepr length⟩, by decide⟩,
      hwords expected List.mem_cons_self⟩
  | missingField name =>
    refine iff_of_false (ht.not_infix ?_) nofun
    show '=' ∉ ("missing field `" ++ name ++ "`").toList
    simp only [equals_notMem_append]
    exact ⟨⟨by decide, hwords name List.mem_cons_self⟩, by decide⟩
  | duplicateField name =>
    refine iff_of_false (ht.not_infix ?_) nofun
    show '=' ∉ ("duplicate field `" ++ name ++ "`").toList
    simp only [equals_notMem_append]
    exact ⟨⟨by decide, hwords name List.mem_cons_self⟩, by decide⟩
  | malformed => exact iff_of_false (ht.not_infix (by decide)) nofun
  | invalidBase64 => exact iff_of_false (ht.not_infix (by decide)) nofun
  | timeOffsetOverflow => exact iff_of_false (ht.not_infix (by decide)) nofun
  | timeOverflow => exact iff_of_false (ht.not_infix (by decide)) nofun

end Json

end ChatKeys
