/-
  ChatKeys.Proofs.Json.Refused

  What can have been refused, and where.

  A codec that refuses its input has a fault of grammar to complain about, or the string,
  number or name that it met; `Codec.choice_refused` and `Codec.bytes_refused` say which.  A
  record complains about its members' names and number (`Record.Objection`), about a value
  that is no record, or it hands on the complaint of one member's codec, and then that member's
  value was looked for behind its name or at its place in an array (`Fields.Refuses`).  The
  main result is `Record.refused_of_reader`.

    * `Codec.TakesFront` — what a codec leaves is the end of its input, so that the
      place of a complaint is a place in the document;
    * `Codec.Misnamed` — a string stands where one of a set of names, or nothing, should.
-/
import ChatKeys.Proofs.Json.Grammar
import ChatKeys.Proofs.Json.Wording
import Mathlib.Data.List.DropRight

namespace ChatKeys.Json

variable {α β γ : Type}

/-! ## Values of the wrong kind -/

theorem skipSpace_skipSpace (s : Bytes) : skipSpace (skipSpace s) = skipSpace s :=
  List.dropWhile_idempotent _ s

namespace Reader

theorem peek_eq_ok_iff {s behind : Bytes} {b : UInt8} :
    peek s = .ok (b, behind) ↔ skipSpace s = behind ∧ ∃ tail, behind = b :: tail := by
  rw [peek]
  constructor
  · intro h
    split at h
    · cases h
    · next b' rest hskip =>
      obtain ⟨rfl, rfl⟩ := Prod.mk.inj (Except.ok.inj h)
      exact ⟨hskip, rest, rfl⟩
  · rintro ⟨hskip, tail, rfl⟩
    rw [hskip]

/-- Behind the last element no other one is found. -/
theorem nextElement_bracket (first : Bool) (rest : Bytes) :
    nextElement first (0x5d :: rest) = .ok (false, 0x5d :: rest) := by
  rw [nextElement, bind_of_ok (peek_cons rfl rest)]
  rfl

theorem exists_bracket_of_nextElement {first : Bool} {s behind : Bytes}
    (h : nextElement first s = .ok (false, behind)) : ∃ tail, behind = 0x5d :: tail := by
  obtain ⟨b, atNext, hpeek, h⟩ := bind_eq_ok_iff.1 h
  obtain ⟨-, tail, rfl⟩ := peek_eq_ok_iff.1 hpeek
  split_ifs at h with hbracket hfirst hcomma
  · obtain ⟨-, rfl⟩ := pure_eq_ok_iff.1 h
    exact ⟨tail, by rw [hbracket]⟩
  · cases (pure_eq_ok_iff.1 h).1
  · obtain ⟨_, _, -, h⟩ := bind_eq_ok_iff.1 h
    obtain ⟨_, _, -, h⟩ := bind_eq_ok_iff.1 h
    split at h
    · cases h
    · cases (pure_eq_ok_iff.1 h).1
  · cases h

/-- What is found to be a string is one. -/
theorem string_of_found {s rest : Bytes} {t : String} (h : found s = .ok (.string t, rest)) :
    (∃ inside, skipSpace s = 0x22 :: inside) ∧ string (skipSpace s) = .ok (t, rest) := by
  obtain ⟨b, behind, hpeek, h⟩ := bind_eq_ok_iff.1 h
  obtain ⟨rfl, inside, hskip⟩ := peek_eq_ok_iff.1 hpeek
  split_ifs at h with hnull htrue hfalse hstring hnumber harray hobject
  · obtain ⟨_, _, -, h⟩ := bind_eq_ok_iff.1 h
    cases (pure_eq_ok_iff.1 h).1
  · obtain ⟨_, _, -, h⟩ := bind_eq_ok_iff.1 h
    cases (pure_eq_ok_iff.1 h).1
  · obtain ⟨_, _, -, h⟩ := bind_eq_ok_iff.1 h
    cases (pure_eq_ok_iff.1 h).1
  · obtain ⟨t', behind, hread, h⟩ := bind_eq_ok_iff.1 h
    obtain ⟨ht, rfl⟩ := pure_eq_ok_iff.1 h
    obtain rfl := Found.string.inj ht
    exact ⟨⟨inside, hstring ▸ hskip⟩, hread⟩
  · obtain ⟨n, _, -, h⟩ := bind_eq_ok_iff.1 h
    cases n <;> cases (pure_eq_ok_iff.1 h).1
  · cases (pure_eq_ok_iff.1 h).1
  · cases (pure_eq_ok_iff.1 h).1
  · cases h

/-- A complaint about a value of the wrong kind says what was found. -/
theorem mismatch_refused {expected : String} {s : Bytes} {e : Error}
    (h : (mismatch expected : Reader α) s = .error e) :
    e = .malformed ∨ ∃ v rest, found s = .ok (v, rest) ∧ e = .invalidType v expected := by
  obtain h | ⟨v, rest, hfound, h⟩ := bind_eq_error_iff.1 h
  · exact .inl (isGrammar_found.malformed_of_error h)
  · exact .inr ⟨v, rest, hfound, (Except.error.inj h).symm⟩

end Reader

/-! ## Scalars and choices -/

namespace Codec

/-- What the codec leaves is the end of what it is given. -/
def TakesFront (c : Codec α) : Prop :=
  ∀ {s a rest}, c.reader s = .ok (a, rest) → rest <:+ s

theorem takesFront_string : string.TakesFront := by
  intro s a rest h
  obtain ⟨b, behind, hpeek, h⟩ := Reader.bind_eq_ok_iff.1 h
  split at h
  · exact (Reader.isGrammar_string.rest_suffix h).trans (Reader.isGrammar_peek.rest_suffix hpeek)
  · exact absurd h Reader.mismatch_ne_ok

theorem TakesFront.refine {c : Codec α} (h : c.TakesFront) (build : α → Except Error β)
    (view : β → α) : (c.refine build view).TakesFront := by
  intro s b rest hread
  obtain ⟨a, behind, ha, hb⟩ := Reader.bind_eq_ok_iff.1 hread
  obtain ⟨-, rfl⟩ := Reader.ofExcept_eq_ok_iff.1 hb
  exact h ha

theorem takesFront_bytes : bytes.TakesFront :=
  takesFront_string.refine _ _

/-- Where bytes are refused, no string of the document is shown. -/
theorem bytes_refused {s : Bytes} {e : Error} (h : bytes.reader s = .error e) :
    e = .malformed ∨ e = .invalidBase64 ∨
      ∃ v, v.quotation? = none ∧ e = .invalidType v "a string" := by
  obtain h | ⟨text, behind, -, h⟩ := Reader.bind_eq_error_iff.1 h
  · -- What is no string is not shown as one.
    obtain h | ⟨b, behind, hpeek, h⟩ := Reader.bind_eq_error_iff.1 h
    · exact .inl (Reader.isGrammar_peek.malformed_of_error h)
    · obtain ⟨rfl, tail, hskip⟩ := Reader.peek_eq_ok_iff.1 hpeek
      split at h
      · exact .inl (Reader.isGrammar_string.malformed_of_error h)
      · next hquote =>
        obtain rfl | ⟨v, rest, hfound, rfl⟩ := Reader.mismatch_refused h
        · exact .inl rfl
        · refine .inr (.inr ⟨v, ?_, rfl⟩)
          cases v with
          | string t =>
            obtain ⟨⟨inside, hinside⟩, -⟩ := Reader.string_of_found hfound
            rw [skipSpace_skipSpace, hskip] at hinside
            exact absurd (List.cons.inj hinside).1 hquote
          | _ => rfl
  · refine .inr (.inl ?_)
    have hbuild := Reader.ofExcept_eq_error_iff.1 h
    dsimp only at hbuild
    split at hbuild
    · cases hbuild
    · exact (Except.error.inj hbuild).symm

/-- `q` is how complaints show a string that stands where the name of a variant, or nothing
    behind one, is expected: the string itself, the name of an object's member, or its value. -/
inductive Misnamed (variants : List (String × α)) (place : Bytes) : String → Prop where
  | name {name rest} : Reader.string (skipSpace place) = .ok (name, rest) →
      variants.lookup name = none → Misnamed variants place name
  | memberName {inside name rest} : skipSpace place = 0x7b :: inside →
      Reader.string (skipSpace inside) = .ok (name, rest) →
      variants.lookup name = none → Misnamed variants place name
  | memberValue {inside name behind last t rest} : skipSpace place = 0x7b :: inside →
      Reader.string (skipSpace inside) = .ok (name, behind) →
      Reader.colon behind = .ok ((), last) → Reader.string (skipSpace last) = .ok (t, rest) →
      Misnamed variants place (Text.shownText t)

theorem variantNamed_eq_error_iff {variants : List (String × α)} {name : String} {e : Error} :
    variantNamed variants name = .error e ↔
      variants.lookup name = none ∧ e = .unknownVariant name (variants.map Prod.fst) := by
  rw [variantNamed]
  cases variants.lookup name with
  | none =>
    rw [Except.error.injEq, eq_comm]
    exact (and_iff_right rfl).symm
  | some a => simp only [reduceCtorEq, false_and]

/-- What is read behind a variant's name in an object: no value, and the end. -/
def variantEnd (a : α) : Reader α := do
  Reader.colon
  if (← Reader.peek) = 0x6e then Reader.nullWord else Reader.mismatch "unit"
  Reader.endObject
  return a

theorem suffix_of_variantEnd {a b : α} {s rest : Bytes} (h : variantEnd a s = .ok (b, rest)) :
    rest <:+ s := by
  obtain ⟨_, last, hcolon, h⟩ := Reader.bind_eq_ok_iff.1 h
  refine List.IsSuffix.trans ?_ ((Reader.isGrammar_expect _).rest_suffix hcolon)
  obtain ⟨b', atValue, hpeek, h⟩ := Reader.bind_eq_ok_iff.1 h
  refine List.IsSuffix.trans ?_ (Reader.isGrammar_peek.rest_suffix hpeek)
  dsimp only at h
  split at h
  · exact ((Reader.isGrammar_literal _).bind fun _ =>
      (Reader.isGrammar_expect _).bind fun _ => .pure a).rest_suffix h
  · obtain ⟨_, _, h, -⟩ := Reader.bind_eq_ok_iff.1 h
    exact absurd h Reader.mismatch_ne_ok

theorem variantEnd_refused {a : α} {s : Bytes} {e : Error} (h : variantEnd a s = .error e) :
    e = .malformed ∨ ∃ last v rest, Reader.colon s = .ok ((), last) ∧
      Reader.found (skipSpace last) = .ok (v, rest) ∧ e = .invalidType v "unit" := by
  obtain h | ⟨_, last, hcolon, h⟩ := Reader.bind_eq_error_iff.1 h
  · exact .inl ((Reader.isGrammar_expect _).malformed_of_error h)
  obtain h | ⟨b, atValue, hpeek, h⟩ := Reader.bind_eq_error_iff.1 h
  · exact .inl (Reader.isGrammar_peek.malformed_of_error h)
  obtain ⟨rfl, -⟩ := Reader.peek_eq_ok_iff.1 hpeek
  dsimp only at h
  split at h
  · exact .inl (((Reader.isGrammar_literal _).bind fun _ =>
      (Reader.isGrammar_expect _).bind fun _ => .pure a).malformed_of_error h)
  · obtain h | ⟨_, _, h, -⟩ := Reader.bind_eq_error_iff.1 h
    · obtain he | ⟨v, rest, hfound, he⟩ := Reader.mismatch_refused h
      · exact .inl he
      · exact .inr ⟨last, v, rest, hcolon, hfound, he⟩
    · exact absurd h Reader.mismatch_ne_ok

theorem takesFront_choice (variants : List (String × α)) (label : α → String) :
    (choice variants label).TakesFront := by
  intro s a rest h
  obtain ⟨b, behind, hpeek, h⟩ := Reader.bind_eq_ok_iff.1 h
  refine List.IsSuffix.trans ?_ (Reader.isGrammar_peek.rest_suffix hpeek)
  split_ifs at h with hquote hbrace
  · obtain ⟨name, behindName, hname, h⟩ := Reader.bind_eq_ok_iff.1 h
    obtain ⟨-, rfl⟩ := Reader.ofExcept_eq_ok_iff.1 h
    exact Reader.isGrammar_string.rest_suffix hname
  · obtain ⟨_, inside, hadvance, h⟩ := Reader.bind_eq_ok_iff.1 h
    obtain ⟨b', atName, hpeek', h⟩ := Reader.bind_eq_ok_iff.1 h
    have hinside : atName <:+ behind := (Reader.isGrammar_peek.rest_suffix hpeek').trans
      (Reader.isGrammar_advance.rest_suffix hadvance)
    refine List.IsSuffix.trans ?_ hinside
    split at h
    · obtain ⟨name, behindName, hname, h⟩ := Reader.bind_eq_ok_iff.1 h
      obtain ⟨a', _, hlookup, h⟩ := Reader.bind_eq_ok_iff.1 h
      obtain ⟨-, rfl⟩ := Reader.ofExcept_eq_ok_iff.1 hlookup
      exact (suffix_of_variantEnd h).trans (Reader.isGrammar_string.rest_suffix hname)
    · obtain ⟨_, _, h, -⟩ := Reader.bind_eq_ok_iff.1 h
      cases h
  · cases h

/-- A complaint about a choice has the reader's words, and the string that it shows, if any,
    is misnamed. -/
theorem choice_refused {variants : List (String × α)} {label : α → String} {s : Bytes} {e : Error}
    (h : (choice variants label).reader s = .error e) :
    (∀ w ∈ e.words, w = alternatives (variants.map Prod.fst) ∨ w = "unit") ∧
      ∀ q, e.quotation? = some q → Misnamed variants s q := by
  have hgrammar (he : e = .malformed) :
      (∀ w ∈ e.words, w = alternatives (variants.map Prod.fst) ∨ w = "unit") ∧
        ∀ q, e.quotation? = some q → Misnamed variants s q := by
    subst he
    exact ⟨nofun, nofun⟩
  obtain h | ⟨b, behind, hpeek, h⟩ := Reader.bind_eq_error_iff.1 h
  · exact hgrammar (Reader.isGrammar_peek.malformed_of_error h)
  obtain ⟨rfl, tail, hskip⟩ := Reader.peek_eq_ok_iff.1 hpeek
  split_ifs at h with hquote hbrace
  · -- The variant's name alone.
    obtain h | ⟨name, rest, hname, h⟩ := Reader.bind_eq_error_iff.1 h
    · exact hgrammar (Reader.isGrammar_string.malformed_of_error h)
    obtain ⟨hlookup, rfl⟩ := variantNamed_eq_error_iff.1 (Reader.ofExcept_eq_error_iff.1 h)
    refine ⟨fun w hw => .inl (List.mem_singleton.mp hw), fun q hq => ?_⟩
    obtain rfl := Option.some.inj hq
    exact .name hname hlookup
  · -- An object with the name for its only member.
    obtain h | ⟨_, inside, hadvance, h⟩ := Reader.bind_eq_error_iff.1 h
    · exact hgrammar (Reader.isGrammar_advance.malformed_of_error h)
    obtain h | ⟨b', atName, hpeek', h⟩ := Reader.bind_eq_error_iff.1 h
    · exact hgrammar (Reader.isGrammar_peek.malformed_of_error h)
    obtain ⟨rfl, -⟩ := Reader.peek_eq_ok_iff.1 hpeek'
    have hinside : skipSpace s = 0x7b :: inside := by
      rw [hskip] at hadvance ⊢
      rw [hbrace, (Prod.mk.inj (Except.ok.inj hadvance)).2.symm]
      rfl
    split at h
    · obtain h | ⟨name, behind, hname, h⟩ := Reader.bind_eq_error_iff.1 h
      · exact hgrammar (Reader.isGrammar_string.malformed_of_error h)
      obtain h | ⟨a, behind', hlookup, h⟩ := Reader.bind_eq_error_iff.1 h
      · obtain ⟨hlookup, rfl⟩ := variantNamed_eq_error_iff.1 (Reader.ofExcept_eq_error_iff.1 h)
        refine ⟨fun w hw => .inl (List.mem_singleton.mp hw), fun q hq => ?_⟩
        obtain rfl := Option.some.inj hq
        exact .memberName hinside hname hlookup
      obtain ⟨-, rfl⟩ := Reader.ofExcept_eq_ok_iff.1 hlookup
      obtain he | ⟨last, v, rest, hcolon, hfound, rfl⟩ := variantEnd_refused h
      · exact hgrammar he
      refine ⟨fun w hw => .inr (List.mem_singleton.mp hw), fun q hq => ?_⟩
      cases v with
      | string t =>
        obtain rfl := Option.some.inj hq
        obtain ⟨-, hstring⟩ := Reader.string_of_found hfound
        rw [skipSpace_skipSpace] at hstring
        exact .memberValue hinside hname hcolon hstring
      | _ => cases hq
    · obtain h | ⟨_, _, h, -⟩ := Reader.bind_eq_error_iff.1 h
      · exact hgrammar (Except.error.inj h).symm
      · cases h
  · exact hgrammar (Except.error.inj h).symm

/-- A name that no variant has is refused with the name. -/
theorem choice_reader_of_lookup_none {variants : List (String × α)} {label : α → String}
    {name : String} (hname : variants.lookup name = none) (rest : Bytes) :
    (choice variants label).reader (Bytes.ofChars (stringChars name) ++ rest) =
      .error (.unknownVariant name (variants.map Prod.fst)) := by
  obtain ⟨tail, htext, hread⟩ := ofChars_stringChars_eq_cons name
  rw [htext, List.cons_append]
  refine (Reader.bind_of_ok (Reader.peek_cons rfl _)).trans ?_
  rw [if_pos rfl, Reader.bind_of_ok (hread rest), Reader.ofExcept_eq_error_iff]
  exact variantNamed_eq_error_iff.2 ⟨hname, rfl⟩

end Codec

/-! ## Members -/

namespace Fields

/-- Every member's codec leaves the end of its input. -/
def TakeFront : {γ : Type} → Fields γ → Prop
  | _, nil => True
  | _, cons field rest => field.codec.TakesFront ∧ TakeFront rest

/-- Behind a name, the codec of the member of that name refuses what stands behind the colon. -/
def RefusesNamed : {γ : Type} → Fields γ → (name : String) → Bytes → Error → Prop
  | _, nil, _, _, _ => False
  | _, cons field rest, name, s, e =>
    (name = field.name ∧ ∃ place, Reader.colon s = .ok ((), place) ∧
      field.codec.reader place = .error e) ∨ RefusesNamed rest name s e

/-- In an array, the codec of the member whose turn it is refuses an element. -/
def RefusesElement : {γ : Type} → Fields γ → (first : Bool) → Bytes → Error → Prop
  | _, nil, _, _, _ => False
  | _, cons field rest, first, s, e =>
    ∃ place, Reader.nextElement first s = .ok (true, place) ∧
      (field.codec.reader place = .error e ∨
        ∃ a behind, field.codec.reader place = .ok (a, behind) ∧ RefusesElement rest false behind e)

/-- The codec of a member refuses its value, in an object or in an array. -/
def Refuses (fs : Fields γ) (document : Bytes) (e : Error) : Prop :=
  (∃ front name behind, front <:+ document ∧ Reader.string front = .ok (name, behind) ∧
    fs.RefusesNamed name behind e) ∨
  ∃ inside, skipSpace document = 0x5b :: inside ∧ fs.RefusesElement true inside e

theorem suffix_of_store {fs : Fields γ} {name : String} {slots slots' : fs.Slots}
    {stored : Reader fs.Slots} {s rest : Bytes} (hfs : fs.TakeFront)
    (hstore : fs.store name slots = some stored) (h : stored s = .ok (slots', rest)) :
    rest <:+ s := by
  induction fs with
  | nil => cases hstore
  | cons field fields ih =>
    obtain ⟨slot, others⟩ := slots
    by_cases hname : name = field.name
    · subst hname
      cases slot with
      | some a =>
        obtain rfl := Option.some.inj ((store_slot_filled field fields a others).symm.trans hstore)
        cases h
      | none =>
        obtain rfl := Option.some.inj ((store_slot_self field fields others).symm.trans hstore)
        obtain ⟨_, behind, hcolon, h⟩ := Reader.bind_eq_ok_iff.1 h
        obtain ⟨a, behind', ha, h⟩ := Reader.bind_eq_ok_iff.1 h
        obtain ⟨-, rfl⟩ := Reader.pure_eq_ok_iff.1 h
        exact (hfs.1 ha).trans ((Reader.isGrammar_expect _).rest_suffix hcolon)
    · obtain ⟨storedLater, hlater, rfl⟩ :=
        Option.map_eq_some_iff.1 ((store_slot_of_ne hname slot others).symm.trans hstore)
      obtain ⟨others', behind, hothers', h⟩ := Reader.bind_eq_ok_iff.1 h
      obtain ⟨-, rfl⟩ := Reader.pure_eq_ok_iff.1 h
      exact ih hfs.2 hlater hothers'

/-- A member that is read into its slot is there twice, or its codec refuses it. -/
theorem store_refused {fs : Fields γ} {name : String} {slots : fs.Slots}
    {stored : Reader fs.Slots} {s : Bytes} {e : Error} (hstore : fs.store name slots = some stored)
    (h : stored s = .error e) :
    e = .malformed ∨ (name ∈ fs.names ∧ e = .duplicateField name) ∨ fs.RefusesNamed name s e := by
  induction fs with
  | nil => cases hstore
  | cons field fields ih =>
    obtain ⟨slot, others⟩ := slots
    by_cases hname : name = field.name
    · subst hname
      cases slot with
      | some a =>
        obtain rfl := Option.some.inj ((store_slot_filled field fields a others).symm.trans hstore)
        exact .inr (.inl ⟨List.mem_cons_self, (Except.error.inj h).symm⟩)
      | none =>
        obtain rfl := Option.some.inj ((store_slot_self field fields others).symm.trans hstore)
        obtain h | ⟨_, place, hcolon, h⟩ := Reader.bind_eq_error_iff.1 h
        · exact .inl ((Reader.isGrammar_expect _).malformed_of_error h)
        · obtain h | ⟨a, behind, -, h⟩ := Reader.bind_eq_error_iff.1 h
          · exact .inr (.inr (.inl ⟨rfl, place, hcolon, h⟩))
          · exact absurd h Reader.pure_ne_error
    · obtain ⟨storedLater, hlater, rfl⟩ :=
        Option.map_eq_some_iff.1 ((store_slot_of_ne hname slot others).symm.trans hstore)
      obtain h | ⟨_, _, -, h⟩ := Reader.bind_eq_error_iff.1 h
      · obtain he | ⟨hmem, he⟩ | hlater := ih hlater h
        · exact .inl he
        · exact .inr (.inl ⟨List.mem_cons_of_mem _ hmem, he⟩)
        · exact .inr (.inr (.inr hlater))
      · exact absurd h Reader.pure_ne_error

/-- The members that are missing at the end of an object are members. -/
theorem close_refused {fs : Fields γ} {slots : fs.Slots} {e : Error}
    (h : fs.close slots = .error e) : ∃ name ∈ fs.names, e = .missingField name := by
  induction fs with
  | nil => cases h
  | cons field rest ih =>
    obtain ⟨slot, others⟩ := slots
    simp only [close] at h
    split at h
    · exact ⟨field.name, List.mem_cons_self, (Except.error.inj h).symm⟩
    · cases hothers : rest.close others with
      | ok values =>
        rw [hothers] at h
        cases h
      | error e' =>
        rw [hothers] at h
        obtain rfl := Except.error.inj h
        obtain ⟨name, hname, he⟩ := ih hothers
        exact ⟨name, List.mem_cons_of_mem _ hname, he⟩

/-- At the end of an array only its length can be at fault. -/
theorem elements_end_refused {fs : Fields γ} {expected : String} {index : Nat} {tail : Bytes}
    {e : Error} (h : fs.elements expected index (0x5d :: tail) = .error e) :
    ∃ n, e = .invalidLength n expected := by
  induction fs generalizing index with
  | nil => exact absurd h Reader.pure_ne_error
  | cons field fields ih =>
    rw [elements, Reader.bind_of_ok (Reader.nextElement_bracket _ tail), if_neg (by decide)] at h
    cases habsent : field.absent with
    | none =>
      simp only [habsent] at h
      exact ⟨index, (Except.error.inj h).symm⟩
    | some a =>
      simp only [habsent] at h
      obtain h | ⟨_, _, -, h⟩ := Reader.bind_eq_error_iff.1 h
      · exact ih h
      · exact absurd h Reader.pure_ne_error

/-- An array that is refused is too short, or a member's codec refuses an element. -/
theorem elements_refused {fs : Fields γ} {expected : String} {index : Nat} {s : Bytes} {e : Error}
    (h : fs.elements expected index s = .error e) :
    e = .malformed ∨ (∃ n, e = .invalidLength n expected) ∨
      fs.RefusesElement (index = 0) s e := by
  induction fs generalizing index s with
  | nil => exact absurd h Reader.pure_ne_error
  | cons field fields ih =>
    obtain h | ⟨more, place, hmore, h⟩ := Reader.bind_eq_error_iff.1 h
    · exact .inl ((Reader.isGrammar_nextElement _).malformed_of_error h)
    cases more with
    | true =>
      obtain h | ⟨a, behind, ha, h⟩ := Reader.bind_eq_error_iff.1 h
      · exact .inr (.inr ⟨place, hmore, .inl h⟩)
      obtain h | ⟨_, _, -, h⟩ := Reader.bind_eq_error_iff.1 h
      · obtain he | he | hlater := ih h
        · exact .inl he
        · exact .inr (.inl he)
        · exact .inr (.inr ⟨place, hmore, .inr ⟨a, behind, ha, hlater⟩⟩)
      · exact absurd h Reader.pure_ne_error
    | false =>
      obtain ⟨tail, rfl⟩ := Reader.exists_bracket_of_nextElement hmore
      have hend : elements expected (cons field fields) index (0x5d :: tail) = .error e := by
        rw [elements, Reader.bind_of_ok (Reader.nextElement_bracket _ tail)]
        exact h
      exact .inr (.inl (elements_end_refused hend))

end Fields

/-! ## Records -/

namespace Record

variable {r : Record γ}

/-- What a record itself complains about: its grammar, its length as an array, and the names of
    its members. -/
inductive Objection (r : Record γ) : Error → Prop where
  | malformed : Objection r .malformed
  | invalidLength (length : Nat) : Objection r (.invalidLength length r.expectedLength)
  | missingField {name : String} : name ∈ r.fields.names → Objection r (.missingField name)
  | duplicateField {name : String} : name ∈ r.fields.names → Objection r (.duplicateField name)
  | unknownField (name : String) : r.closed = true →
      Objection r (.unknownField name r.fields.names)

theorem slotsIn_member_refused {n : Nat} {first : Bool} {slots : r.fields.Slots}
    {s atName atValue : Bytes} {name : String} {stored : Reader r.fields.Slots} {e : Error}
    (h : Reader.nextMember first s = .ok (true, atName))
    (hname : Reader.string atName = .ok (name, atValue))
    (hstore : r.fields.store name slots = some stored) (hstored : stored atValue = .error e) :
    r.slotsIn (n + 1) first slots s = .error e := by
  rw [slotsIn, Reader.bind_of_ok h, if_pos rfl, Reader.bind_of_ok hname, hstore]
  exact Reader.bind_eq_error_iff.2 (.inl hstored)

/-- Reading on in an object: the invariant is that the input is an end of the document. -/
theorem slotsIn_refused {fuel : Nat} {first : Bool} {slots : r.fields.Slots}
    {document s : Bytes} {e : Error} (hfields : r.fields.TakeFront) (hs : s <:+ document)
    (h : r.slotsIn fuel first slots s = .error e) :
    r.Objection e ∨ r.fields.Refuses document e := by
  induction fuel generalizing first slots s with
  | zero =>
    obtain rfl := Except.error.inj h
    exact .inl .malformed
  | succ n ih =>
    obtain h | ⟨more, atName, hmore, h⟩ := Reader.bind_eq_error_iff.1 h
    · obtain rfl := (Reader.isGrammar_nextMember _).malformed_of_error h
      exact .inl .malformed
    have hatName := ((Reader.isGrammar_nextMember _).rest_suffix hmore).trans hs
    cases more with
    | false => exact absurd h Reader.pure_ne_error
    | true =>
      obtain h | ⟨name, behind, hname, h⟩ := Reader.bind_eq_error_iff.1 h
      · obtain rfl := Reader.isGrammar_string.malformed_of_error h
        exact .inl .malformed
      have hbehind := (Reader.isGrammar_string.rest_suffix hname).trans hatName
      cases hstore : r.fields.store name slots with
      | some stored =>
        simp only [hstore] at h
        obtain h | ⟨filled, behind', hfilled, h⟩ := Reader.bind_eq_error_iff.1 h
        · obtain rfl | ⟨hmem, rfl⟩ | hrefuses := Fields.store_refused hstore h
          · exact .inl .malformed
          · exact .inl (.duplicateField hmem)
          · exact .inr (.inl ⟨atName, name, behind, hatName, hname, hrefuses⟩)
        · exact ih ((Fields.suffix_of_store hfields hstore hfilled).trans hbehind) h
      | none =>
        simp only [hstore] at h
        cases hclosed : r.closed with
        | true =>
          simp only [hclosed] at h
          obtain rfl := Except.error.inj h
          exact .inl (.unknownField name hclosed)
        | false =>
          simp only [hclosed] at h
          obtain h | ⟨_, atValue, hcolon, h⟩ := Reader.bind_eq_error_iff.1 h
          · obtain rfl := (Reader.isGrammar_expect _).malformed_of_error h
            exact .inl .malformed
          obtain h | ⟨_, behind', hskip, h⟩ := Reader.bind_eq_error_iff.1 h
          · obtain rfl := Reader.isGrammar_skipValue.malformed_of_error h
            exact .inl .malformed
          have hbehind' := (Reader.isGrammar_skipValue.rest_suffix hskip).trans
            ((Reader.isGrammar_expect _).rest_suffix hcolon)
          exact ih (hbehind'.trans hbehind) h

/-- What refuses a record: the record itself, a value that is none, what is made of the members,
    or the codec of one of them. -/
theorem refused_of_reader {build : γ → Except Error α} {document : Bytes} {e : Error}
    (hfields : r.fields.TakeFront) (h : r.reader build document = .error e) :
    r.Objection e ∨
      (∃ v rest, Reader.found (skipSpace document) = .ok (v, rest) ∧
        e = .invalidType v r.expected) ∨
      (∃ values, build values = .error e) ∨ r.fields.Refuses document e := by
  obtain h | ⟨b, behind, hpeek, h⟩ := Reader.bind_eq_error_iff.1 h
  · obtain rfl := Reader.isGrammar_peek.malformed_of_error h
    exact .inl .malformed
  obtain ⟨rfl, tail, hskip⟩ := Reader.peek_eq_ok_iff.1 hpeek
  split at h
  · -- An array.
    next hbracket =>
    obtain h | ⟨_, inside, hadvance, h⟩ := Reader.bind_eq_error_iff.1 h
    · cases h
    have hinside : skipSpace document = 0x5b :: inside := by
      rw [hskip] at hadvance ⊢
      rw [hbracket, ← (Prod.mk.inj (Except.ok.inj hadvance)).2]
      rfl
    obtain h | ⟨values, atEnd, -, h⟩ := Reader.bind_eq_error_iff.1 h
    · obtain rfl | ⟨n, rfl⟩ | hrefuses := Fields.elements_refused h
      · exact .inl .malformed
      · exact .inl (.invalidLength n)
      · exact .inr (.inr (.inr (.inr ⟨inside, hinside, hrefuses⟩)))
    obtain h | ⟨a, _, -, h⟩ := Reader.bind_eq_error_iff.1 h
    · exact .inr (.inr (.inl ⟨values, Reader.ofExcept_eq_error_iff.1 h⟩))
    · obtain rfl := ((Reader.isGrammar_expect _).bind fun _ => .pure a).malformed_of_error h
      exact .inl .malformed
  split at h
  · -- An object.
    obtain h | ⟨_, inside, hadvance, h⟩ := Reader.bind_eq_error_iff.1 h
    · cases h
    have hinside : inside <:+ document :=
      (Reader.isGrammar_advance.rest_suffix hadvance).trans (List.dropWhile_suffix _)
    obtain h | ⟨slots, atEnd, -, h⟩ := Reader.bind_eq_error_iff.1 h
    · obtain hobjection | hrefuses := slotsIn_refused hfields hinside h
      · exact .inl hobjection
      · exact .inr (.inr (.inr hrefuses))
    obtain h | ⟨a, _, -, h⟩ := Reader.bind_eq_error_iff.1 h
    · have hbuild := Reader.ofExcept_eq_error_iff.1 h
      cases hclose : r.fields.close slots with
      | error e' =>
        rw [hclose] at hbuild
        obtain rfl := Except.error.inj hbuild
        obtain ⟨name, hname, rfl⟩ := Fields.close_refused hclose
        exact .inl (.missingField hname)
      | ok values =>
        rw [hclose] at hbuild
        exact .inr (.inr (.inl ⟨values, hbuild⟩))
    · obtain rfl := ((Reader.isGrammar_expect _).bind fun _ => .pure a).malformed_of_error h
      exact .inl .malformed
  · obtain rfl | hfound := Reader.mismatch_refused h
    · exact .inl .malformed
    · exact .inr (.inl hfound)

end Record

end ChatKeys.Json
