/-
  ChatKeys.Proofs.Json.Record

  Records that survive being stored.

  A record is restored if every member is: a member that is written restores its
  value, and a member that is left out has that value when it is absent
  (`Fields.Restores`).  The main result is `Record.restores_codec`.  It is a case of
  `Record.readsBack_codec`, which says what a record is read as whose members need not
  all be read as they were (`Fields.ReadsBack`).

  The members are written and read in declaration order, so the proof goes along
  the fields.  While it does, the slots of the whole record are those of the
  fields still to come in a fixed surrounding; `Fields.Places` says that a
  surrounding is transparent to reading one more member.

  Points in time are stored as a record as well: from 1970 on they are restored
  (`Codec.restores_time`).
-/
import ChatKeys.Json.Record
import ChatKeys.Proofs.Json.Codec
import ChatKeys.Proofs.Results

namespace ChatKeys.Json

/-- The member survives: it is written and restored, or left out and assumed. -/
def Field.Restores {α : Type} (field : Field α) (a : α) : Prop :=
  (field.hidden a = true ∧ field.absent = some a) ∨
    (field.hidden a = false ∧ field.codec.Restores a)

/-- The member is written and read as some value, or left out and this value assumed. -/
def Field.ReadsBack {α : Type} (field : Field α) (a a' : α) : Prop :=
  (field.hidden a = true ∧ field.absent = some a') ∨
    (field.hidden a = false ∧ field.codec.ReadsBack a a')

theorem Field.restores_optional {α : Type} {name : String} {codec : Codec α}
    (hc : codec.AvoidsNull) {o : Option α} (h : ∀ a, o = some a → codec.Restores a) :
    (Field.optional name codec).Restores o := by
  cases o with
  | none => exact .inl ⟨rfl, rfl⟩
  | some a => exact .inr ⟨rfl, (h a rfl).some hc⟩

namespace Fields

variable {γ : Type}

/-- All members survive. -/
def Restores : {γ : Type} → Fields γ → γ → Prop
  | _, nil, _ => True
  | _, cons field rest, (a, values) => field.Restores a ∧ Restores rest values

/-- All members are read as the values beside them. -/
def ReadsBack : {γ : Type} → Fields γ → γ → γ → Prop
  | _, nil, _, _ => True
  | _, cons field rest, (a, values), (a', values') =>
    field.ReadsBack a a' ∧ ReadsBack rest values values'

theorem Restores.readsBack {fs : Fields γ} {values : γ} (h : fs.Restores values) :
    fs.ReadsBack values values := by
  induction fs with
  | nil => trivial
  | cons field rest ih => exact ⟨h.1, ih h.2⟩

/-- The slots of some fields behind the slot of one more. -/
def slot {α β : Type} {field : Field α} {rest : Fields β} (o : Option α) (slots : rest.Slots) :
    (cons field rest).Slots :=
  (o, slots)

/-- What has been read once all members that were written are. -/
def filled : {γ : Type} → (fs : Fields γ) → γ → γ → fs.Slots
  | _, nil, _, _ => ()
  | _, cons field rest, (a, values), (a', values') =>
    slot (if field.hidden a then none else some a') (filled rest values values')

theorem ReadsBack.exists_members {fs : Fields γ} {values values' : γ}
    (h : fs.ReadsBack values values') : ∃ ms, fs.members values = .ok ms := by
  induction fs with
  | nil => exact ⟨[], rfl⟩
  | cons field rest ih =>
    obtain ⟨a, values⟩ := values
    obtain ⟨a', values'⟩ := values'
    obtain ⟨hfield, hrest⟩ := h
    obtain ⟨ms, hms⟩ := ih hrest
    rcases hfield with ⟨hhidden, -⟩ | ⟨hhidden, v, hv, -⟩
    · exact ⟨ms, by rw [members, if_pos hhidden, hms]⟩
    · refine ⟨(field.name, v) :: ms, ?_⟩
      rw [members, if_neg (by simp [hhidden]), hv, hms]
      rfl

theorem exists_members {fs : Fields γ} {values : γ} (h : fs.Restores values) :
    ∃ ms, fs.members values = .ok ms :=
  h.readsBack.exists_members

/-- The slots of what was written give all values, the assumed ones included. -/
theorem close_filled {fs : Fields γ} {values values' : γ} (h : fs.ReadsBack values values') :
    fs.close (fs.filled values values') = .ok values' := by
  induction fs with
  | nil => rfl
  | cons field rest ih =>
    obtain ⟨a, values⟩ := values
    obtain ⟨a', values'⟩ := values'
    obtain ⟨hfield, hrest⟩ := h
    have hclose := ih hrest
    rcases hfield with ⟨hhidden, habsent⟩ | ⟨hhidden, -⟩
    · -- Its slot is empty, and closing it takes the value that is assumed.
      simp only [filled, slot, close, hhidden, if_true, habsent, hclose]
      rfl
    · simp only [filled, slot, close, hhidden, hclose]
      rfl

/-! ## Fields still to come -/

/-- The surrounding `place` of some fields among those of a record is transparent
    to reading any of these fields. -/
def Places {β : Type} (whole : Fields γ) (part : Fields β) (place : part.Slots → whole.Slots) :
    Prop :=
  ∀ name ∈ part.names, ∀ slots, whole.store name (place slots) =
    (part.store name slots).map fun r => do return place (← r)

theorem places_whole (fs : Fields γ) : fs.Places fs id := by
  intro name _ slots
  simp

theorem store_slot_self {α β : Type} (field : Field α) (rest : Fields β) (slots : rest.Slots) :
    (cons field rest).store field.name (slot none slots) = some do
      Reader.colon
      return slot (some (← field.codec.reader)) slots :=
  if_pos rfl

theorem store_slot_of_ne {α β : Type} {field : Field α} {rest : Fields β} {name : String}
    (h : name ≠ field.name) (o : Option α) (slots : rest.Slots) :
    (cons field rest).store name (slot o slots) =
      (rest.store name slots).map fun r => do return slot o (← r) :=
  if_neg h

/-- Once the first field is done with, its slot is part of the surrounding. -/
theorem Places.tail {α β : Type} {whole : Fields γ} {field : Field α} {rest : Fields β}
    {place : (cons field rest).Slots → whole.Slots} (h : whole.Places (cons field rest) place)
    (hname : field.name ∉ rest.names) (o : Option α) :
    whole.Places rest fun slots => place (slot o slots) := by
  intro name hmem slots
  have hne : name ≠ field.name := by
    rintro rfl
    exact hname hmem
  rw [h name (List.mem_cons_of_mem _ hmem), store_slot_of_ne hne, Option.map_map]
  congr 1
  funext r
  simp [Function.comp]

end Fields

/-! ## Objects -/

theorem nextMember_written (first : Bool) (name : String) (rest : Bytes) :
    Reader.nextMember first
        (Bytes.ofChars ((if first then [] else [',']) ++ stringChars name) ++ rest)
      = .ok (true, Bytes.ofChars (stringChars name) ++ rest) := by
  obtain ⟨tail, htail, -⟩ := ofChars_stringChars_eq_cons name
  rw [Bytes.ofChars_append, htail]
  cases first with
  | true => exact Reader.nextMember_first _
  | false => exact Reader.nextMember_comma _

/-- Behind a member there is another one or the end of the object. -/
theorem isDelimited_members (ms : List (String × Value)) (tail : Bytes) :
    IsDelimited (Bytes.ofChars (membersChars false ms) ++ 0x7d :: tail) := by
  cases ms with
  | nil =>
    rw [membersChars]
    exact .inr rfl
  | cons m ms =>
    obtain ⟨name, v⟩ := m
    rw [membersChars]
    exact .inl rfl

namespace Record

variable {γ : Type}

theorem slotsIn_end {r : Record γ} {n : Nat} {first : Bool} {slots : r.fields.Slots}
    {s rest : Bytes} (h : Reader.nextMember first s = .ok (false, rest)) :
    r.slotsIn (n + 1) first slots s = .ok (slots, rest) := by
  rw [slotsIn, Reader.bind_of_ok h]
  rfl

theorem slotsIn_member {r : Record γ} {n : Nat} {first : Bool} {slots slots' : r.fields.Slots}
    {s atName atValue rest : Bytes} {name : String} {stored : Reader r.fields.Slots}
    (h : Reader.nextMember first s = .ok (true, atName))
    (hname : Reader.string atName = .ok (name, atValue))
    (hstore : r.fields.store name slots = some stored)
    (hstored : stored atValue = .ok (slots', rest)) :
    r.slotsIn (n + 1) first slots s = r.slotsIn n false slots' rest := by
  rw [slotsIn, Reader.bind_of_ok h, if_pos rfl, Reader.bind_of_ok hname, hstore]
  exact Reader.bind_of_ok hstored

/-- Reading one written member fills its slot. -/
theorem slotsIn_written (r : Record γ) {α β : Type} {field : Field α} {rest : Fields β}
    {place : (Fields.cons field rest).Slots → r.fields.Slots}
    (hplace : r.fields.Places (.cons field rest) place) (n : Nat) (first : Bool) {a : α} {v : Value}
    (hread : ∀ behind, IsDelimited behind →
      field.codec.reader (Bytes.ofChars v.chars ++ behind) = .ok (a, behind))
    (slots : rest.Slots) (ms : List (String × Value)) (tail : Bytes) :
    r.slotsIn (n + 1) first (place (Fields.slot none slots))
        (Bytes.ofChars (membersChars first ((field.name, v) :: ms)) ++ 0x7d :: tail)
      = r.slotsIn n false (place (Fields.slot (some a) slots))
        (Bytes.ofChars (membersChars false ms) ++ 0x7d :: tail) := by
  have hdelimited := isDelimited_members ms tail
  have htext : Bytes.ofChars (membersChars first ((field.name, v) :: ms)) ++ 0x7d :: tail
      = Bytes.ofChars ((if first then [] else [',']) ++ stringChars field.name)
        ++ 0x3a :: (Bytes.ofChars v.chars
          ++ (Bytes.ofChars (membersChars false ms) ++ 0x7d :: tail)) := by
    rw [membersChars]
    simp only [Bytes.ofChars_append, Bytes.ofChars_cons, List.append_assoc]
    rfl
  -- From here on it only counts that what is behind the member delimits its value.
  generalize Bytes.ofChars (membersChars false ms) ++ 0x7d :: tail = behind at hdelimited htext ⊢
  have hstore := hplace field.name List.mem_cons_self (Fields.slot none slots)
  rw [Fields.store_slot_self, Option.map_some] at hstore
  rw [htext]
  refine slotsIn_member (nextMember_written first _ _) (string_stringChars _ _) hstore ?_
  -- The value of the member is read between its colon and the rest.
  refine Reader.bind_of_ok ?_
  rw [Reader.bind_of_ok (Reader.colon_cons _), Reader.bind_of_ok (hread behind hdelimited)]
  rfl

/-- Reading what was written of the fields still to come fills their slots. -/
theorem slotsIn_members (r : Record γ) {β : Type} {part : Fields β}
    {place : part.Slots → r.fields.Slots} (hplace : r.fields.Places part place)
    (hnames : part.names.Nodup) {values values' : β} (h : part.ReadsBack values values')
    {ms : List (String × Value)} (hms : part.members values = .ok ms) (first : Bool) {fuel : Nat}
    (hfuel : ms.length < fuel) (tail : Bytes) :
    r.slotsIn fuel first (place part.empty)
        (Bytes.ofChars (membersChars first ms) ++ 0x7d :: tail)
      = .ok (place (part.filled values values'), 0x7d :: tail) := by
  -- Field by field: a field that is done with moves over into the surrounding `place`.
  induction part generalizing first fuel ms with
  | nil =>
    obtain rfl : [] = ms := Except.ok.inj hms
    obtain ⟨n, rfl⟩ : ∃ n, fuel = n + 1 := ⟨fuel - 1, by omega⟩
    rw [membersChars]
    exact slotsIn_end (Reader.nextMember_brace first tail)
  | cons field rest ih =>
    obtain ⟨a, values⟩ := values
    obtain ⟨a', values'⟩ := values'
    obtain ⟨hfield, hrest⟩ := h
    obtain ⟨hname, hnames⟩ := List.nodup_cons.mp hnames
    rcases hfield with ⟨hhidden, -⟩ | ⟨hhidden, v, hv, hread⟩
    · -- A member that was left out leaves its slot empty.
      have hms' : rest.members values = .ok ms := by
        rwa [Fields.members, if_pos hhidden] at hms
      rw [Fields.filled, hhidden]
      exact ih (hplace.tail hname none) hnames hrest hms' first hfuel
    · obtain ⟨ms', hms'⟩ := hrest.exists_members
      have hcons : ms = (field.name, v) :: ms' := by
        rw [Fields.members, if_neg (by simp [hhidden]), hv, hms'] at hms
        exact (Except.ok.inj hms).symm
      subst hcons
      obtain ⟨n, rfl⟩ : ∃ n, fuel = n + 1 := ⟨fuel - 1, by omega⟩
      rw [Fields.filled, hhidden]
      exact (r.slotsIn_written hplace n first hread rest.empty ms' tail).trans
        (ih (hplace.tail hname (some a')) hnames hrest hms' false (Nat.lt_of_succ_lt_succ hfuel))

/-- A written member takes at least the byte of a quote. -/
theorem length_le_membersChars (first : Bool) (ms : List (String × Value)) :
    ms.length ≤ (Bytes.ofChars (membersChars first ms)).length := by
  induction ms generalizing first with
  | nil => exact Nat.zero_le _
  | cons m ms ih =>
    obtain ⟨name, v⟩ := m
    obtain ⟨quoted, hquoted, -⟩ := ofChars_stringChars_eq_cons name
    have hrest := ih false
    rw [membersChars]
    simp only [Bytes.ofChars_append, Bytes.ofChars_cons, List.length_append, hquoted,
      List.length_cons]
    omega

theorem slots_written {r : Record γ} (hnames : r.fields.names.Nodup) {values values' : γ}
    (h : r.fields.ReadsBack values values') {ms : List (String × Value)}
    (hms : r.fields.members values = .ok ms) (tail : Bytes) :
    r.slots (Bytes.ofChars (membersChars true ms) ++ 0x7d :: tail)
      = .ok (r.fields.filled values values', 0x7d :: tail) := by
  -- The reader's fuel is the length of its input, which is at least one for each member.
  have hlength := length_le_membersChars true ms
  refine r.slotsIn_members (Fields.places_whole r.fields) hnames h hms true ?_ tail
  rw [List.length_append]
  omega

/-- The object that is written of a record is read as what its members are read as. -/
theorem reader_of_readsBack {r : Record γ} (hnames : r.fields.names.Nodup) {values values' : γ}
    (h : r.fields.ReadsBack values values') {ms : List (String × Value)}
    (hms : r.fields.members values = .ok ms) {α : Type} {build : γ → Except Error α} {a : α}
    (hbuild : build values' = .ok a) (rest : Bytes) :
    r.reader build (Bytes.ofChars (Value.object ms).chars ++ rest) = .ok (a, rest) := by
  have htext : Bytes.ofChars (Value.object ms).chars ++ rest
      = 0x7b :: (Bytes.ofChars (membersChars true ms) ++ 0x7d :: rest) := by
    rw [Value.chars, List.cons_append, Bytes.ofChars_cons, Bytes.ofChars_append]
    simp only [List.append_assoc]
    rfl
  have hadvance : Reader.advance (0x7b :: (Bytes.ofChars (membersChars true ms) ++ 0x7d :: rest))
      = .ok ((), Bytes.ofChars (membersChars true ms) ++ 0x7d :: rest) := rfl
  have hclose : (r.fields.close (r.fields.filled values values') >>= build) = .ok a := by
    rw [Fields.close_filled h]
    exact hbuild
  rw [htext, reader, Reader.bind_of_ok (Reader.peek_cons rfl _), if_neg (by decide), if_pos rfl,
    Reader.bind_of_ok hadvance, Reader.bind_of_ok (slots_written hnames h hms rest), hclose,
    Reader.bind_of_ok (Reader.ofExcept_ok a _), Reader.bind_of_ok (Reader.endObject_cons rest)]
  rfl

/-- The object that is written of a record is read back as the record. -/
theorem reader_written {r : Record γ} (hnames : r.fields.names.Nodup) {values : γ}
    (h : r.fields.Restores values) {ms : List (String × Value)}
    (hms : r.fields.members values = .ok ms) {α : Type} {build : γ → Except Error α} {a : α}
    (hbuild : build values = .ok a) (rest : Bytes) :
    r.reader build (Bytes.ofChars (Value.object ms).chars ++ rest) = .ok (a, rest) :=
  reader_of_readsBack hnames h.readsBack hms hbuild rest

/-- A record is read as what is made of the values that its members are read as. -/
theorem readsBack_codec {r : Record γ} (hnames : r.fields.names.Nodup) {α : Type} {build : γ → α}
    {view : α → γ} {a a' : α} {values' : γ} (h : r.fields.ReadsBack (view a) values')
    (hbuild : build values' = a') : (r.codec build view).ReadsBack a a' := by
  obtain ⟨ms, hms⟩ := h.exists_members
  have hwriter : r.writer (view a) = .ok (.object ms) := by
    rw [writer, hms]
    rfl
  exact ⟨.object ms, hwriter, fun rest _ => reader_of_readsBack hnames h hms (by rw [hbuild]) rest⟩

/-- A record whose members all survive does so itself. -/
theorem restores_codec {r : Record γ} (hnames : r.fields.names.Nodup) {α : Type} {build : γ → α}
    {view : α → γ} {a : α} (h : r.fields.Restores (view a)) (hbuild : build (view a) = a) :
    (r.codec build view).Restores a :=
  readsBack_codec hnames h.readsBack hbuild

theorem writer_ne_null (r : Record γ) (values : γ) : r.writer values ≠ .ok .null := by
  rw [writer]
  cases r.fields.members values with
  | ok ms => rintro ⟨⟩
  | error e => rintro ⟨⟩

theorem avoidsNull_codec (r : Record γ) {α : Type} (build : γ → α) (view : α → γ) :
    (r.codec build view).AvoidsNull :=
  fun a => r.writer_ne_null (view a)

end Record

/-! ## What can be written -/

/-- All members that are not left out can be written. -/
def Fields.Writable : {γ : Type} → Fields γ → γ → Prop
  | _, nil, _ => True
  | _, cons field rest, (a, values) =>
    (field.hidden a = false → ∃ v, field.codec.writer a = .ok v) ∧ Writable rest values

theorem Fields.writable_of_members {fs : Fields γ} {values : γ} {ms : List (String × Value)}
    (h : fs.members values = .ok ms) : fs.Writable values := by
  induction fs generalizing ms with
  | nil => trivial
  | cons field rest ih =>
    obtain ⟨a, values⟩ := values
    rw [members] at h
    split at h
    · next hhidden => exact ⟨fun hshown => by simp [hhidden] at hshown, ih h⟩
    · obtain ⟨v, hv, h⟩ := bind_eq_ok_iff.mp h
      obtain ⟨ms', hms', -⟩ := bind_eq_ok_iff.mp h
      exact ⟨fun _ => ⟨v, hv⟩, ih hms'⟩

theorem Fields.exists_members_of_writable {fs : Fields γ} {values : γ} (h : fs.Writable values) :
    ∃ ms, fs.members values = .ok ms := by
  induction fs with
  | nil => exact ⟨[], rfl⟩
  | cons field rest ih =>
    obtain ⟨a, values⟩ := values
    obtain ⟨hfield, hrest⟩ := h
    obtain ⟨ms, hms⟩ := ih hrest
    cases hhidden : field.hidden a with
    | true => exact ⟨ms, by rw [members, if_pos hhidden, hms]⟩
    | false =>
      obtain ⟨v, hv⟩ := hfield hhidden
      refine ⟨(field.name, v) :: ms, ?_⟩
      rw [members, if_neg (by simp [hhidden]), hv, hms]
      rfl

/-- A record is only written as a whole. -/
theorem Record.writable_of_writer {r : Record γ} {values : γ} {v : Value}
    (h : r.writer values = .ok v) : r.fields.Writable values := by
  obtain ⟨ms, hms, -⟩ := bind_eq_ok_iff.mp h
  exact Fields.writable_of_members hms

theorem Record.exists_writer {r : Record γ} {values : γ} (h : r.fields.Writable values) :
    ∃ v, r.writer values = .ok v := by
  obtain ⟨ms, hms⟩ := Fields.exists_members_of_writable h
  exact ⟨.object ms, bind_eq_ok_iff.mpr ⟨ms, hms, rfl⟩⟩

/-! ## Points in time -/

/-- The parts of a point in time that are written make up its distance from the start
    of 1970. -/
theorem ofParts?_seconds_nanos {t : Time} (h : 0 ≤ t.ns) :
    ∃ d, Duration.ofParts? (UInt64.ofNat t.seconds.toNat) (UInt32.ofNat t.nanos) = some d ∧
      (d.ns : Int) = t.ns := by
  have hparts := t.seconds_nanos
  have hbelow := t.ns_lt
  have hnanos := t.nanos_lt
  have hseconds : 0 ≤ t.seconds := Int.ediv_nonneg h (by decide)
  simp only [nsPerSecond] at hparts hbelow hnanos
  have hns : ((t.seconds.toNat * nsPerSecond + t.nanos : Nat) : Int) = t.ns := by
    simp only [nsPerSecond]
    omega
  have hlt : t.seconds.toNat * nsPerSecond + t.nanos < 2 ^ 64 * nsPerSecond := by
    simp only [nsPerSecond]
    omega
  -- Neither part is cut off by the width that it is written with.
  have hword : (UInt64.ofNat t.seconds.toNat).toNat = t.seconds.toNat :=
    UInt64.toNat_ofNat_of_lt (by simp only [UInt64.size]; omega)
  have hword' : (UInt32.ofNat t.nanos).toNat = t.nanos :=
    UInt32.toNat_ofNat_of_lt (by simp only [UInt32.size]; omega)
  refine ⟨⟨t.seconds.toNat * nsPerSecond + t.nanos, hlt⟩, ?_, hns⟩
  simp only [Duration.ofParts?, hword, hword', dif_pos hlt]

theorem epoch_add?_of_ns_eq {t : Time} {d : Duration} (h : (d.ns : Int) = t.ns) :
    Time.epoch.add? d = some t := by
  have hns : Time.epoch.ns + d.ns = t.ns := by rw [h]; exact Int.zero_add _
  rw [Time.add?, hns, Time.ofNs?, dif_pos ⟨t.le_ns, t.ns_lt⟩]

/-- The reader of points in time puts the two parts together. -/
theorem time_reader_written {seconds : UInt64} {nanos : UInt32} {d : Duration} {t : Time}
    (hd : Duration.ofParts? seconds nanos = some d) (ht : Time.epoch.add? d = some t)
    {ms : List (String × Value)} (hms : timeParts.fields.members (seconds, nanos, ()) = .ok ms)
    (rest : Bytes) :
    Codec.time.reader (Bytes.ofChars (Value.object ms).chars ++ rest) = .ok (t, rest) := by
  have hmembers : timeParts.fields.Restores (seconds, nanos, ()) :=
    ⟨.inr ⟨rfl, Codec.restores_uint64 _⟩, .inr ⟨rfl, Codec.restores_uint32 _⟩, trivial⟩
  show (timeParts.reader _ >>= _) _ = _
  -- The bounds of a span are kept out of sight: checking the match on it would count up to them.
  obtain ⟨parts, hparts⟩ : ∃ parts, parts = Duration.ofParts? := ⟨_, rfl⟩
  rw [← hparts] at hd ⊢
  rw [Reader.bind_of_ok (Record.reader_written (a := d) (by decide) hmembers hms
      (by simp only [hd]) rest), ht]
  rfl

/-- A point in time survives being stored, unless it lies before 1970. -/
theorem Codec.restores_time {t : Time} (h : 0 ≤ t.ns) : Codec.time.Restores t := by
  have hmembers : timeParts.fields.Restores
      (UInt64.ofNat t.seconds.toNat, UInt32.ofNat t.nanos, ()) :=
    ⟨.inr ⟨rfl, restores_uint64 _⟩, .inr ⟨rfl, restores_uint32 _⟩, trivial⟩
  obtain ⟨ms, hms⟩ := Fields.exists_members hmembers
  obtain ⟨d, hd, hns⟩ := ofParts?_seconds_nanos h
  refine ⟨.object ms, ?_, fun rest _ => time_reader_written hd (epoch_add?_of_ns_eq hns) hms rest⟩
  show (if t.ns < 0 then _ else timeParts.writer _) = _
  rw [if_neg (Int.not_lt.mpr h), Record.writer, hms]
  rfl

/-- No other points in time are written. -/
theorem Codec.ns_nonneg_of_writer {t : Time} {v : Value} (h : Codec.time.writer t = .ok v) :
    0 ≤ t.ns := by
  by_contra hneg
  have herror : Codec.time.writer t = .error .timeBeforeEpoch := if_pos (Int.not_le.mp hneg)
  rw [herror] at h
  cases h

end ChatKeys.Json
