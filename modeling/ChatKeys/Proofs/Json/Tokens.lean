/-
  ChatKeys.Proofs.Json.Tokens

  Single steps of reading, on input that has no white space in front of a token.

  In a document a value stands in front of a comma, a closing brace or the end;
  `IsDelimited` is that condition on the rest of the input.
-/
import ChatKeys.Json.Reader

namespace ChatKeys.Json

/-- What may stand behind a value: the end of the document, or the end of the
    value's member. -/
def IsDelimited : Bytes → Prop
  | [] => True
  | b :: _ => b = 0x2c ∨ b = 0x7d

namespace Reader

variable {α β : Type}

/-- A reader that succeeds hands its value and the rest on to what follows. -/
theorem bind_of_ok {x : Reader α} {f : α → Reader β} {s rest : Bytes} {a : α}
    (h : x s = .ok (a, rest)) : (x >>= f) s = f a rest := by
  show (x s >>= fun p => f p.1 p.2) = f a rest
  rw [h]
  rfl

@[simp] theorem ofExcept_ok (a : α) (s : Bytes) :
    (ofExcept (.ok a) : Reader α) s = .ok (a, s) := rfl

theorem peek_cons {b : UInt8} (h : isSpace b = false) (rest : Bytes) :
    peek (b :: rest) = .ok (b, b :: rest) := by
  rw [peek, skipSpace, List.dropWhile_cons_of_neg (by simp [h])]

theorem expect_cons {b : UInt8} (h : isSpace b = false) (rest : Bytes) :
    expect b (b :: rest) = .ok ((), rest) := by
  rw [expect, bind_of_ok (peek_cons h rest), if_pos rfl]
  rfl

theorem colon_cons (rest : Bytes) : colon (0x3a :: rest) = .ok ((), rest) :=
  expect_cons rfl rest

theorem endObject_cons (rest : Bytes) : endObject (0x7d :: rest) = .ok ((), rest) :=
  expect_cons rfl rest

theorem literal_append (word rest : Bytes) : literal word (word ++ rest) = .ok ((), rest) := by
  rw [literal, List.take_left, if_pos rfl, List.drop_left]

/-- Behind the last member no other one is found. -/
theorem nextMember_brace (first : Bool) (rest : Bytes) :
    nextMember first (0x7d :: rest) = .ok (false, 0x7d :: rest) := by
  rw [nextMember, bind_of_ok (peek_cons rfl rest)]
  rfl

theorem nextMember_first (rest : Bytes) :
    nextMember true (0x22 :: rest) = .ok (true, 0x22 :: rest) := by
  rw [nextMember, bind_of_ok (peek_cons rfl rest)]
  rfl

theorem nextMember_comma (rest : Bytes) :
    nextMember false (0x2c :: 0x22 :: rest) = .ok (true, 0x22 :: rest) := by
  rw [nextMember, bind_of_ok (peek_cons rfl _)]
  have hadvance : advance (0x2c :: 0x22 :: rest) = .ok ((), 0x22 :: rest) := rfl
  rw [if_neg (by decide), if_neg (by decide), if_pos rfl, bind_of_ok hadvance,
    bind_of_ok (peek_cons rfl rest)]
  rfl

end Reader

end ChatKeys.Json
