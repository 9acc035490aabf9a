/-
  ChatKeys.Proofs.Json.Accepted

  What can have been read.

  `Codec.Reads c a` says that some input is read as `a`.  For a record that means that
  every member was read by its own codec, or was missing and assumed (`Fields.Reads`),
  however the members were given: as an object in any order, with other members between
  them, or as an array.  The main result is `Record.reads_of_reader`.

    * `Fields.Holds` — the invariant of reading an object: what is in the slots was read
      (`holds_of_store`, `holds_of_slotsIn`, `reads_of_close`);
    * `Fields.reads_of_elements` — the same for an array;
    * `Codec.Keeps` — what is said of a type whose values are stored: which of them are
      written, that they are read back, and that what is read can be written again.
-/
import ChatKeys.Proofs.Json.Record

namespace ChatKeys.Json

variable {α β γ : Type}

/-! ## Readers in a row -/

namespace Reader

theorem bind_eq_ok_iff {x : Reader α} {f : α → Reader β} {s rest : Bytes} {b : β} :
    (x >>= f) s = .ok (b, rest) ↔
      ∃ a behind, x s = .ok (a, behind) ∧ f a behind = .ok (b, rest) := by
  show (x s >>= fun p => f p.1 p.2) = .ok (b, rest) ↔ _
  rw [ChatKeys.bind_eq_ok_iff, Prod.exists]

theorem pure_eq_ok_iff {a b : α} {s rest : Bytes} :
    (pure a : Reader α) s = .ok (b, rest) ↔ a = b ∧ s = rest := by
  show Except.ok (a, s) = .ok (b, rest) ↔ _
  rw [Except.ok.injEq, Prod.mk.injEq]

theorem ofExcept_eq_ok_iff {x : Except Error α} {a : α} {s rest : Bytes} :
    ofExcept x s = .ok (a, rest) ↔ x = .ok a ∧ s = rest := by
  cases x with
  | ok b => rw [ofExcept, pure_eq_ok_iff, Except.ok.injEq]
  | error e => simp [ofExcept, fail]

/-- Whatever is checked of a value of the wrong kind, it is refused in the end. -/
theorem mismatch_ne_ok {expected : String} {s rest : Bytes} {a : α} :
    (mismatch expected : Reader α) s ≠ .ok (a, rest) := by
  intro h
  obtain ⟨_, _, -, hfail⟩ := bind_eq_ok_iff.mp h
  cases hfail

end Reader

namespace Codec

/-- Some input is read as the value. -/
def Reads (c : Codec α) (a : α) : Prop :=
  ∃ s rest, c.reader s = .ok (a, rest)

theorem reads_of_decode {c : Codec α} {document : Bytes} {a : α} (h : c.decode document = .ok a) :
    c.Reads a := by
  rw [decode, read] at h
  split at h
  · cases h
  · next a' rest hread =>
    split at h
    · obtain rfl := Except.ok.inj h
      exact ⟨document, rest, hread⟩
    · cases h

theorem Reads.of_refine {c : Codec α} {build : α → Except Error β} {view : β → α} {b : β}
    (h : (c.refine build view).Reads b) : ∃ a, c.Reads a ∧ build a = .ok b := by
  obtain ⟨s, rest, hread⟩ := h
  obtain ⟨a, behind, ha, hb⟩ := Reader.bind_eq_ok_iff.mp hread
  exact ⟨a, ⟨s, behind, ha⟩, (Reader.ofExcept_eq_ok_iff.mp hb).1⟩

theorem Reads.of_some {c : Codec α} {a : α} (h : c.option.Reads (some a)) : c.Reads a := by
  obtain ⟨s, rest, hread⟩ := h
  obtain ⟨b, behind, -, hread⟩ := Reader.bind_eq_ok_iff.mp hread
  split at hread
  · obtain ⟨_, _, -, hnone⟩ := Reader.bind_eq_ok_iff.mp hread
    cases (Reader.pure_eq_ok_iff.mp hnone).1
  · obtain ⟨a', behind', ha', hsome⟩ := Reader.bind_eq_ok_iff.mp hread
    obtain rfl := Option.some.inj (Reader.pure_eq_ok_iff.mp hsome).1
    exact ⟨behind, behind', ha'⟩

end Codec

/-! ## Members -/

/-- The value is read as the member's, or assumed where the member is missing. -/
def Field.Reads (field : Field α) (a : α) : Prop :=
  field.absent = some a ∨ field.codec.Reads a

/-- A member that nothing is assumed for was read. -/
theorem Field.Reads.of_required {field : Field α} {a : α} (h : field.Reads a)
    (hrequired : field.absent = none) : field.codec.Reads a := by
  refine h.resolve_left ?_
  rw [hrequired]
  nofun

theorem Field.Reads.of_optional {name : String} {codec : Codec α} {a : α}
    (h : (Field.optional name codec).Reads (some a)) : codec.Reads a := by
  rcases h with habsent | hread
  · cases habsent
  · exact hread.of_some

namespace Fields

/-- Every member was read or assumed. -/
def Reads : {γ : Type} → Fields γ → γ → Prop
  | _, nil, _ => True
  | _, cons field rest, (a, values) => field.Reads a ∧ Reads rest values

/-- What is in the slots was read, each by the codec of its member. -/
def Holds : {γ : Type} → (fs : Fields γ) → fs.Slots → Prop
  | _, nil => fun _ => True
  | _, @cons α _ field rest => fun (slots : Option α × rest.Slots) =>
    (∀ a, slots.1 = some a → field.codec.Reads a) ∧ Holds rest slots.2

theorem holds_empty (fs : Fields γ) : fs.Holds fs.empty := by
  induction fs with
  | nil => trivial
  | cons field rest ih => exact ⟨nofun, ih⟩

theorem store_slot_filled (field : Field α) (rest : Fields β) (a : α) (slots : rest.Slots) :
    (cons field rest).store field.name (slot (some a) slots) =
      some (Reader.fail (.duplicateField field.name)) :=
  if_pos rfl

/-- Reading one more member fills its slot with what was read. -/
theorem holds_of_store {fs : Fields γ} {name : String} {slots slots' : fs.Slots}
    {stored : Reader fs.Slots} {s rest : Bytes} (hslots : fs.Holds slots)
    (hstore : fs.store name slots = some stored) (hread : stored s = .ok (slots', rest)) :
    fs.Holds slots' := by
  induction fs with
  | nil => cases hstore
  | cons field fields ih =>
    obtain ⟨slot, others⟩ := slots
    obtain ⟨hslot, hothers⟩ := hslots
    by_cases hname : name = field.name
    · -- The slot of this member: a second value is refused.
      subst hname
      cases slot with
      | some a =>
        obtain rfl := Option.some.inj ((store_slot_filled field fields a others).symm.trans hstore)
        cases hread
      | none =>
        obtain rfl := Option.some.inj ((store_slot_self field fields others).symm.trans hstore)
        obtain ⟨_, behind, -, hread⟩ := Reader.bind_eq_ok_iff.mp hread
        obtain ⟨a, behind', ha, hread⟩ := Reader.bind_eq_ok_iff.mp hread
        obtain ⟨rfl, rfl⟩ := Reader.pure_eq_ok_iff.mp hread
        refine ⟨?_, hothers⟩
        rintro _ ⟨⟩
        exact ⟨behind, behind', ha⟩
    · -- The slot of a later member.
      obtain ⟨storedLater, hlater, rfl⟩ :=
        Option.map_eq_some_iff.mp ((store_slot_of_ne hname slot others).symm.trans hstore)
      obtain ⟨others', behind, hothers', hread⟩ := Reader.bind_eq_ok_iff.mp hread
      obtain ⟨rfl, rfl⟩ := Reader.pure_eq_ok_iff.mp hread
      exact ⟨hslot, ih hothers hlater hothers'⟩

/-- The values that slots are closed to were read or assumed. -/
theorem reads_of_close {fs : Fields γ} {slots : fs.Slots} {values : γ} (hslots : fs.Holds slots)
    (h : fs.close slots = .ok values) : fs.Reads values := by
  induction fs with
  | nil => trivial
  | cons field rest ih =>
    obtain ⟨slot, others⟩ := slots
    obtain ⟨hslot, hothers⟩ := hslots
    simp only [close] at h
    split at h
    · cases h
    · next a ha =>
      obtain ⟨values', hvalues', h⟩ := ChatKeys.bind_eq_ok_iff.mp h
      obtain rfl := Except.ok.inj h
      refine ⟨?_, ih hothers hvalues'⟩
      cases slot with
      | some a' =>
        obtain rfl : a' = a := Option.some.inj ha
        exact .inr (hslot a' rfl)
      | none => exact .inl ha

/-- The values of an array's elements were read, or assumed behind its end. -/
theorem reads_of_elements {fs : Fields γ} {expected : String} {index : Nat} {values : γ}
    {s rest : Bytes} (h : fs.elements expected index s = .ok (values, rest)) :
    fs.Reads values := by
  induction fs generalizing index s rest with
  | nil => trivial
  | cons field fields ih =>
    obtain ⟨more, behind, -, h⟩ := Reader.bind_eq_ok_iff.mp h
    cases more with
    | true =>
      obtain ⟨a, behind', ha, h⟩ := Reader.bind_eq_ok_iff.mp h
      obtain ⟨values', behind'', hvalues', h⟩ := Reader.bind_eq_ok_iff.mp h
      obtain ⟨rfl, -⟩ := Reader.pure_eq_ok_iff.mp h
      exact ⟨.inr ⟨behind, behind', ha⟩, ih hvalues'⟩
    | false =>
      cases habsent : field.absent with
      | none =>
        simp only [habsent] at h
        cases h
      | some a =>
        simp only [habsent] at h
        obtain ⟨values', behind', hvalues', h⟩ := Reader.bind_eq_ok_iff.mp h
        obtain ⟨rfl, -⟩ := Reader.pure_eq_ok_iff.mp h
        exact ⟨.inl habsent, ih hvalues'⟩

end Fields

/-! ## Records -/

namespace Record

/-- Whatever members an object has, what is in the slots at its end was read. -/
theorem holds_of_slotsIn {r : Record γ} {fuel : Nat} {first : Bool} {slots slots' : r.fields.Slots}
    {s rest : Bytes} (hslots : r.fields.Holds slots)
    (h : r.slotsIn fuel first slots s = .ok (slots', rest)) : r.fields.Holds slots' := by
  -- On the members, with the slots' invariant carried from one to the next.
  induction fuel generalizing first slots s with
  | zero => cases h
  | succ n ih =>
    obtain ⟨more, atName, -, h⟩ := Reader.bind_eq_ok_iff.mp h
    cases more with
    | false =>
      obtain ⟨rfl, -⟩ := Reader.pure_eq_ok_iff.mp h
      exact hslots
    | true =>
      obtain ⟨name, behind, -, h⟩ := Reader.bind_eq_ok_iff.mp h
      cases hstore : r.fields.store name slots with
      | some stored =>
        simp only [hstore] at h
        obtain ⟨filled, behind', hfilled, h⟩ := Reader.bind_eq_ok_iff.mp h
        exact ih (Fields.holds_of_store hslots hstore hfilled) h
      | none =>
        -- An unknown member is passed over, unless the record is closed.
        simp only [hstore] at h
        cases hclosed : r.closed with
        | true =>
          simp only [hclosed] at h
          cases h
        | false =>
          simp only [hclosed] at h
          obtain ⟨_, behind', -, h⟩ := Reader.bind_eq_ok_iff.mp h
          obtain ⟨_, behind'', -, h⟩ := Reader.bind_eq_ok_iff.mp h
          exact ih hslots h

/-- What is read of a record is made of members that were read or assumed. -/
theorem reads_of_reader {r : Record γ} {build : γ → Except Error α} {s rest : Bytes} {a : α}
    (h : r.reader build s = .ok (a, rest)) :
    ∃ values, r.fields.Reads values ∧ build values = .ok a := by
  obtain ⟨b, behind, -, h⟩ := Reader.bind_eq_ok_iff.mp h
  split at h
  · -- An array.
    obtain ⟨_, inside, -, h⟩ := Reader.bind_eq_ok_iff.mp h
    obtain ⟨values, behind', hvalues, h⟩ := Reader.bind_eq_ok_iff.mp h
    obtain ⟨a', behind'', hbuild, h⟩ := Reader.bind_eq_ok_iff.mp h
    obtain ⟨_, _, -, h⟩ := Reader.bind_eq_ok_iff.mp h
    obtain ⟨rfl, -⟩ := Reader.pure_eq_ok_iff.mp h
    exact ⟨values, Fields.reads_of_elements hvalues, (Reader.ofExcept_eq_ok_iff.mp hbuild).1⟩
  · split at h
    · -- An object.
      obtain ⟨_, inside, -, h⟩ := Reader.bind_eq_ok_iff.mp h
      obtain ⟨slots, behind', hslots, h⟩ := Reader.bind_eq_ok_iff.mp h
      obtain ⟨a', behind'', hbuild, h⟩ := Reader.bind_eq_ok_iff.mp h
      obtain ⟨_, _, -, h⟩ := Reader.bind_eq_ok_iff.mp h
      obtain ⟨rfl, -⟩ := Reader.pure_eq_ok_iff.mp h
      obtain ⟨values, hclose, hbuild⟩ :=
        ChatKeys.bind_eq_ok_iff.mp (Reader.ofExcept_eq_ok_iff.mp hbuild).1
      have hholds : r.fields.Holds slots := holds_of_slotsIn r.fields.holds_empty hslots
      exact ⟨values, Fields.reads_of_close hholds hclose, hbuild⟩
    · exact absurd h Reader.mismatch_ne_ok

theorem reads_of_codec {r : Record γ} {build : γ → α} {view : α → γ} {a : α}
    (h : (r.codec build view).Reads a) : ∃ values, r.fields.Reads values ∧ build values = a := by
  obtain ⟨s, rest, hread⟩ := h
  obtain ⟨values, hvalues, hbuild⟩ := reads_of_reader hread
  exact ⟨values, hvalues, Except.ok.inj hbuild⟩

end Record

/-- No point in time before 1970 is read. -/
theorem Codec.ns_nonneg_of_reads {t : Time} (h : Codec.time.Reads t) : 0 ≤ t.ns := by
  obtain ⟨s, rest, hread⟩ := h
  obtain ⟨offset, behind, -, hread⟩ := Reader.bind_eq_ok_iff.mp hread
  cases hadd : Time.epoch.add? offset with
  | none =>
    simp only [hadd] at hread
    cases hread
  | some t' =>
    simp only [hadd] at hread
    obtain ⟨rfl, -⟩ := Reader.pure_eq_ok_iff.mp hread
    rw [Time.ns_add? hadd]
    exact Int.add_nonneg (Int.le_refl _) (Int.natCast_nonneg _)

/-! ## Storage -/

namespace Codec

/-- What storing values of a type does: exactly those with a property are written; those
    that are sound are read back from what is written of them; and whatever is read from
    any document can be written, and is read back as it is. -/
structure Keeps (c : Codec α) (writable sound : α → Prop) : Prop where
  encode_iff : ∀ a, (∃ document, c.encode a = .ok document) ↔ writable a
  decodeText_of_encode : ∀ a document, sound a → c.encode a = .ok document →
    c.decodeText document = .ok a
  exists_encode_of_decode : ∀ document a, c.decode document = .ok a →
    ∃ document', c.encode a = .ok document' ∧ c.decodeText document' = .ok a

theorem exists_encode_iff {c : Codec α} {a : α} :
    (∃ document, c.encode a = .ok document) ↔ ∃ v, c.writer a = .ok v := by
  constructor
  · rintro ⟨document, h⟩
    obtain ⟨v, hv, -⟩ := map_eq_ok_iff.mp h
    exact ⟨v, hv⟩
  · rintro ⟨v, hv⟩
    exact ⟨v.render, map_eq_ok_iff.mpr ⟨v, hv, rfl⟩⟩

theorem Restores.decodeText_of_encode {c : Codec α} {a : α} {document : String}
    (h : c.Restores a) (hdocument : c.encode a = .ok document) :
    c.decodeText document = .ok a := by
  rw [h.encode_eq] at hdocument
  rw [← Except.ok.inj hdocument]
  exact h.decodeText_text

/-- Storing keeps the values of a type if those that are writable and sound survive it and
    no others are read. -/
theorem keeps_of_reads {c : Codec α} {writable sound : α → Prop}
    (hwriter : ∀ a, (∃ v, c.writer a = .ok v) ↔ writable a)
    (hrestores : ∀ a, writable a → sound a → c.Restores a)
    (hreads : ∀ a, c.Reads a → writable a ∧ sound a) : c.Keeps writable sound where
  encode_iff a := exists_encode_iff.trans (hwriter a)
  decodeText_of_encode a document hsound h :=
    have hwritable : writable a := (hwriter a).mp (exists_encode_iff.mp ⟨document, h⟩)
    (hrestores a hwritable hsound).decodeText_of_encode h
  exists_encode_of_decode document a h := by
    obtain ⟨hwritable, hsound⟩ := hreads a (reads_of_decode h)
    have ha := hrestores a hwritable hsound
    exact ⟨c.text a, ha.encode_eq, ha.decodeText_text⟩

/-- The same for a type whose values survive whenever they are written. -/
theorem keeps_of_restores {c : Codec α} {writable : α → Prop}
    (hrestores : ∀ a, writable a → c.Restores a)
    (hwriter : ∀ a v, c.writer a = .ok v → writable a)
    (hreads : ∀ a, c.Reads a → writable a) : c.Keeps writable fun _ => True := by
  refine keeps_of_reads (fun a => ⟨?_, ?_⟩) (fun a ha _ => hrestores a ha)
    fun a ha => ⟨hreads a ha, trivial⟩
  · rintro ⟨v, hv⟩
    exact hwriter a v hv
  · intro ha
    obtain ⟨v, hv, -⟩ := hrestores a ha
    exact ⟨v, hv⟩

end Codec

end ChatKeys.Json
