/-
  ChatKeys.Json.Record

  Records: named members in a fixed order.

  `Fields` lists the members of a record; its index is the product of their
  types.  A record is written as an object with its members in that order.  It is
  read from an object with its members in any order, or from an array of them in
  declaration order; unknown members are passed over, unless the record is
  closed.

  A `Slots` value holds what has been read so far.  `Fields.store` puts a
  member's value into its slot and refuses a second one; `Fields.close` asks for
  the members that are still missing, in declaration order.
-/
import ChatKeys.Json.Codec

namespace ChatKeys.Json

/-- One member of a record. -/
structure Field (α : Type) where
  name : String
  codec : Codec α
  /-- The value that a member has when it is not there; without one it is required. -/
  absent : Option α := none
  /-- The values for which the member is left out. -/
  hidden : α → Bool := fun _ => false

/-- A member that may be left out, and is when there is no value. -/
def Field.optional {α : Type} (name : String) (codec : Codec α) : Field (Option α) where
  name := name
  codec := codec.option
  absent := some none
  hidden := Option.isNone

/-- The members of a record, in declaration order. -/
inductive Fields : Type → Type 1 where
  | nil : Fields Unit
  | cons {α β : Type} (field : Field α) (rest : Fields β) : Fields (α × β)

namespace Fields

/-- The names of the members. -/
def names : {γ : Type} → Fields γ → List String
  | _, nil => []
  | _, cons field rest => field.name :: names rest

/-- What has been read of each member. -/
def Slots : {γ : Type} → Fields γ → Type
  | _, nil => Unit
  | _, @cons α _ _ rest => Option α × Slots rest

/-- Nothing read yet. -/
def empty : {γ : Type} → (fs : Fields γ) → fs.Slots
  | _, nil => ()
  | _, cons _ rest => (none, empty rest)

/-- How the value of the member with a given name is read into its slot; none if
    there is no such member. -/
def store : {γ : Type} → (fs : Fields γ) → (name : String) → fs.Slots → Option (Reader fs.Slots)
  | _, nil => fun _ _ => none
  | _, @cons α _ field rest => fun name (slots : Option α × rest.Slots) =>
    if name = field.name then
      some <|
        match slots.1 with
        | some _ => Reader.fail (.duplicateField name)
        | none => do
          Reader.colon
          return (some (← field.codec.reader), slots.2)
    else
      (store rest name slots.2).map fun r => do return (slots.1, ← r)

/-- The values of all members, or the first one that is missing. -/
def close : {γ : Type} → (fs : Fields γ) → fs.Slots → Except Error γ
  | _, nil => fun _ => .ok ()
  | _, @cons α _ field rest => fun (slots : Option α × rest.Slots) =>
    match slots.1 <|> field.absent with
    | none => .error (.missingField field.name)
    | some a => do return (a, ← close rest slots.2)

/-- The values of all members from the elements of an array, `index` of which
    have been read. -/
def elements (expected : String) : {γ : Type} → Fields γ → (index : Nat) → Reader γ
  | _, nil, _ => pure ()
  | _, cons field rest, index => do
    if ← Reader.nextElement (index = 0) then
      let a ← field.codec.reader
      return (a, ← elements expected rest (index + 1))
    else
      match field.absent with
      | none => Reader.fail (.invalidLength index expected)
      | some a => return (a, ← elements expected rest (index + 1))

/-- The members to be written. -/
def members : {γ : Type} → Fields γ → γ → Except WriteError (List (String × Value))
  | _, nil, _ => .ok []
  | _, cons field rest, (a, values) =>
    if field.hidden a then members rest values
    else do
      let v ← field.codec.writer a
      return (field.name, v) :: (← members rest values)

end Fields

/-- A kind of record. -/
structure Record (γ : Type) where
  /-- Its name in complaints. -/
  name : String
  fields : Fields γ
  /-- Whether unknown members are refused. -/
  closed : Bool := false

namespace Record

variable {γ : Type}

/-- The record in complaints about the kind of a value. -/
def expected (r : Record γ) : String :=
  "struct " ++ r.name

/-- The record in complaints about the length of an array. -/
def expectedLength (r : Record γ) : String :=
  if r.closed then r.expected
  else
    let n := r.fields.names.length
    r.expected ++ s!" with {n} element" ++ (if n = 1 then "" else "s")

/-- The members of an object up to its closing brace, which stays in place.
    `fuel` bounds their number. -/
def slotsIn (r : Record γ) :
    (fuel : Nat) → (first : Bool) → r.fields.Slots → Reader r.fields.Slots
  | 0, _, _ => Reader.malformed
  | fuel + 1, first, slots => do
    if ← Reader.nextMember first then
      let name ← Reader.string
      match r.fields.store name slots with
      | some stored => slotsIn r fuel false (← stored)
      | none =>
        -- A closed record refuses before it looks at the colon.
        if r.closed then Reader.fail (.unknownField name r.fields.names)
        Reader.colon
        Reader.skipValue
        slotsIn r fuel false slots
    else return slots

/-- The members of an object. Every member takes a byte, so the length of the
    input bounds their number. -/
def slots (r : Record γ) : Reader r.fields.Slots := fun s =>
  slotsIn r (s.length + 1) true r.fields.empty s

/-- Reads a record. `build` makes the value of the members and has its say
    before the end of the record is looked for. -/
def reader {α : Type} (r : Record γ) (build : γ → Except Error α) : Reader α := do
  let b ← Reader.peek
  if b = 0x5b then
    Reader.advance
    let a ← Reader.ofExcept (build (← r.fields.elements r.expectedLength 0))
    Reader.endArray
    return a
  else if b = 0x7b then
    Reader.advance
    let slots ← r.slots
    let a ← Reader.ofExcept (r.fields.close slots >>= build)
    Reader.endObject
    return a
  else Reader.mismatch r.expected

/-- Writes a record. -/
def writer (r : Record γ) (values : γ) : Except WriteError Value := do
  return .object (← r.fields.members values)

/-- The codec of a type whose values are records of one kind. -/
def codec {α : Type} (r : Record γ) (build : γ → α) (view : α → γ) : Codec α where
  reader := r.reader fun values => .ok (build values)
  writer a := r.writer (view a)

end Record

/-! ## Points in time -/

/-- The two members of a stored point in time. -/
def timeParts : Record (UInt64 × UInt32 × Unit) where
  name := "SystemTime"
  fields :=
    .cons { name := "secs_since_epoch", codec := .uint64 } <|
    .cons { name := "nanos_since_epoch", codec := .uint32 } .nil
  closed := true

/-- Points in time as seconds and nanoseconds since the start of 1970.
    Nanoseconds beyond a second carry over; an earlier time has no stored form. -/
def Codec.time : Codec Time where
  reader := do
    let offset ← timeParts.reader fun (seconds, nanos, _) =>
      match Duration.ofParts? seconds nanos with
      | some d => .ok d
      | none => .error .timeOffsetOverflow
    match Time.epoch.add? offset with
    | some t => return t
    | none => Reader.fail .timeOverflow
  writer t :=
    if t.ns < 0 then .error .timeBeforeEpoch
    else timeParts.writer (UInt64.ofNat t.seconds.toNat, UInt32.ofNat t.nanos, ())

end ChatKeys.Json
