/-
  ChatKeys.Proofs.Json.Grammar

  What the readers of grammar have in common (`Reader.IsGrammar`): they take a part off
  the front of the input and leave its end as it is, and all they complain about is the
  grammar.

  The two laws are closed under doing one thing after another (`IsGrammar.bind`), so each
  reader has them from its parts: tokens, strings and numbers, and by induction on the fuel
  the passing over of a whole value.
-/
import ChatKeys.Proofs.Json.Accepted

namespace ChatKeys.Json

variable {α β : Type}

/-! ## Errors of readers in a row -/

namespace Reader

theorem bind_eq_error_iff {x : Reader α} {f : α → Reader β} {s : Bytes} {e : Error} :
    (x >>= f) s = .error e ↔
      x s = .error e ∨ ∃ a behind, x s = .ok (a, behind) ∧ f a behind = .error e := by
  show (x s >>= fun p => f p.1 p.2) = .error e ↔ _
  cases x s with
  | error e' => simp [bind, Except.bind]
  | ok p => simp [bind, Except.bind, Prod.ext_iff]

theorem pure_ne_error {a : α} {s : Bytes} {e : Error} : (pure a : Reader α) s ≠ .error e :=
  nofun

theorem ofExcept_eq_error_iff {x : Except Error α} {s : Bytes} {e : Error} :
    ofExcept x s = .error e ↔ x = .error e := by
  cases x with
  | ok a => exact iff_of_false pure_ne_error nofun
  | error e' => rw [ofExcept, fail, Except.error.injEq, Except.error.injEq]

/-! ## The two laws -/

/-- The reader takes a part off the front, and refuses nothing but the grammar. -/
structure IsGrammar (r : Reader α) : Prop where
  rest_suffix : ∀ {s a rest}, r s = .ok (a, rest) → rest <:+ s
  malformed_of_error : ∀ {s e}, r s = .error e → e = .malformed

namespace IsGrammar

theorem pure (a : α) : IsGrammar (Pure.pure a : Reader α) where
  rest_suffix h := by
    obtain ⟨-, rfl⟩ := pure_eq_ok_iff.1 h
    exact List.suffix_rfl
  malformed_of_error h := absurd h pure_ne_error

theorem malformed : IsGrammar (Reader.malformed : Reader α) where
  rest_suffix h := by cases h
  malformed_of_error h := (Except.error.inj h).symm

theorem bind {x : Reader α} {f : α → Reader β} (hx : IsGrammar x) (hf : ∀ a, IsGrammar (f a)) :
    IsGrammar (x >>= f) where
  rest_suffix h := by
    obtain ⟨a, behind, ha, hb⟩ := bind_eq_ok_iff.1 h
    exact ((hf a).rest_suffix hb).trans (hx.rest_suffix ha)
  malformed_of_error h := by
    obtain hx' | ⟨a, behind, -, hb⟩ := bind_eq_error_iff.1 h
    · exact hx.malformed_of_error hx'
    · exact (hf a).malformed_of_error hb

theorem ite {p : Prop} [Decidable p] {x y : Reader α} (hx : IsGrammar x) (hy : IsGrammar y) :
    IsGrammar (if p then x else y) := by
  split
  · exact hx
  · exact hy

end IsGrammar

/-! ## Tokens -/

theorem isGrammar_peek : IsGrammar peek where
  rest_suffix {s _ _} h := by
    rw [peek] at h
    split at h
    · cases h
    · next b rest hskip =>
      obtain ⟨rfl, rfl⟩ := Prod.mk.inj (Except.ok.inj h)
      rw [← hskip]
      exact List.dropWhile_suffix _
  malformed_of_error h := by
    rw [peek] at h
    split at h
    · exact (Except.error.inj h).symm
    · cases h

theorem isGrammar_advance : IsGrammar advance where
  rest_suffix h := by
    obtain ⟨-, rfl⟩ := Prod.mk.inj (Except.ok.inj h)
    exact List.tail_suffix _
  malformed_of_error h := by cases h

theorem isGrammar_expect (b : UInt8) : IsGrammar (expect b) :=
  isGrammar_peek.bind fun _ => isGrammar_advance.ite .malformed

theorem isGrammar_literal (word : Bytes) : IsGrammar (literal word) where
  rest_suffix h := by
    rw [literal] at h
    split at h
    · obtain ⟨-, rfl⟩ := Prod.mk.inj (Except.ok.inj h)
      exact List.drop_suffix _ _
    · cases h
  malformed_of_error h := by
    rw [literal] at h
    split at h
    · cases h
    · exact (Except.error.inj h).symm

theorem isGrammar_nextElement (first : Bool) : IsGrammar (nextElement first) :=
  isGrammar_peek.bind fun _ => .ite (.pure _) <| .ite (.pure _) <|
    .ite (isGrammar_advance.bind fun _ => isGrammar_peek.bind fun _ => .ite .malformed (.pure _))
      .malformed

theorem isGrammar_nextMember (first : Bool) : IsGrammar (nextMember first) :=
  isGrammar_peek.bind fun _ => .ite (.pure _) <| .ite (.ite (.pure _) .malformed) <|
    .ite (isGrammar_advance.bind fun _ => isGrammar_peek.bind fun _ => .ite (.pure _) .malformed)
      .malformed

end Reader

/-! ## Strings -/

theorem exists_of_prependTo {front text rest : Bytes} {r : Except Error (Bytes × Bytes)}
    (h : prependTo front r = .ok (text, rest)) : ∃ t, r = .ok (t, rest) := by
  cases r with
  | error e => cases h
  | ok p => exact ⟨p.1, by rw [← (Prod.mk.inj (Except.ok.inj h)).2]⟩

theorem prependTo_eq_error_iff {front : Bytes} {r : Except Error (Bytes × Bytes)} {e : Error} :
    prependTo front r = .error e ↔ r = .error e := by
  cases r with
  | error e' => rfl
  | ok p => exact iff_of_false nofun nofun

theorem suffix_of_stringBody {s text rest : Bytes} (h : stringBody s = .ok (text, rest)) :
    rest <:+ s := by
  fun_induction stringBody s generalizing text with
  | case2 behind =>
    obtain ⟨-, rfl⟩ := Prod.mk.inj (Except.ok.inj h)
    exact List.suffix_cons _ _
  | case5 a b c d behind n _ _ _ ih =>
    -- An escape by number.
    obtain ⟨t, ht⟩ := exists_of_prependTo h
    exact (ih ht).trans (List.suffix_append [0x5c, 0x75, a, b, c, d] behind)
  | case7 a b c d n _ _ _ a' b' c' d' behind m _ _ ih =>
    -- A pair of them.
    obtain ⟨t, ht⟩ := exists_of_prependTo h
    exact (ih ht).trans
      (List.suffix_append [0x5c, 0x75, a, b, c, d, 0x5c, 0x75, a', b', c', d'] behind)
  | case11 letter behind _ b _ ih =>
    -- An escape by letter.
    obtain ⟨t, ht⟩ := exists_of_prependTo h
    exact (ih ht).trans (List.suffix_append [0x5c, letter] behind)
  | case13 b behind _ _ _ _ ih =>
    obtain ⟨t, ht⟩ := exists_of_prependTo h
    exact (ih ht).trans (List.suffix_cons _ _)
  | _ => cases h

theorem malformed_of_stringBody {s : Bytes} {e : Error} (h : stringBody s = .error e) :
    e = .malformed := by
  fun_induction stringBody s with
  | case2 => cases h
  | case5 _ _ _ _ _ _ _ _ _ ih => exact ih (prependTo_eq_error_iff.1 h)
  | case7 _ _ _ _ _ _ _ _ _ _ _ _ _ _ _ _ ih => exact ih (prependTo_eq_error_iff.1 h)
  | case11 _ _ _ _ _ ih => exact ih (prependTo_eq_error_iff.1 h)
  | case13 _ _ _ _ _ _ ih => exact ih (prependTo_eq_error_iff.1 h)
  | _ => exact (Except.error.inj h).symm

theorem suffix_of_skipStringBody {s rest : Bytes} (h : skipStringBody s = .ok rest) :
    rest <:+ s := by
  fun_induction skipStringBody s with
  | case2 behind =>
    obtain rfl := Except.ok.inj h
    exact List.suffix_cons _ _
  | case3 a b c d behind _ ih => exact (ih h).trans (List.suffix_append [0x5c, 0x75, a, b, c, d] _)
  | case5 letter behind _ _ ih => exact (ih h).trans (List.suffix_append [0x5c, letter] _)
  | case8 b behind _ _ _ _ ih => exact (ih h).trans (List.suffix_cons _ _)
  | _ => cases h

theorem malformed_of_skipStringBody {s : Bytes} {e : Error} (h : skipStringBody s = .error e) :
    e = .malformed := by
  fun_induction skipStringBody s with
  | case2 => cases h
  | case3 _ _ _ _ _ _ ih => exact ih h
  | case5 _ _ _ _ ih => exact ih h
  | case8 _ _ _ _ _ _ ih => exact ih h
  | _ => exact (Except.error.inj h).symm

namespace Reader

theorem isGrammar_string : IsGrammar string where
  rest_suffix {s _ _} h := by
    rw [string.eq_def] at h
    split at h
    · next inside =>
      split at h
      · cases h
      · next text behind hbody =>
        split at h
        · obtain ⟨-, rfl⟩ := Prod.mk.inj (Except.ok.inj h)
          exact (suffix_of_stringBody hbody).trans (List.suffix_cons _ _)
        · cases h
    · cases h
  malformed_of_error {s _} h := by
    rw [string.eq_def] at h
    split at h
    · split at h
      · next hbody =>
        obtain rfl := Except.error.inj h
        exact malformed_of_stringBody hbody
      · split at h
        · cases h
        · exact (Except.error.inj h).symm
    · exact (Except.error.inj h).symm

theorem isGrammar_skipString : IsGrammar skipString :=
  (isGrammar_expect _).bind fun _ =>
    { rest_suffix {s _ _} h := by
        obtain ⟨behind, hbody, hrest⟩ := map_eq_ok_iff.1 h
        obtain ⟨-, rfl⟩ := Prod.mk.inj hrest
        exact suffix_of_skipStringBody hbody
      malformed_of_error {s _} h := by
        cases hbody : skipStringBody s with
        | ok behind =>
          rw [hbody] at h
          cases h
        | error e =>
          rw [hbody] at h
          obtain rfl := Except.error.inj h
          exact malformed_of_skipStringBody hbody }

/-! ## Numbers -/

theorem isGrammar_digits : IsGrammar digits where
  rest_suffix h := by
    obtain ⟨-, rfl⟩ := Prod.mk.inj (Except.ok.inj h)
    exact List.dropWhile_suffix _
  malformed_of_error h := by cases h

theorem isGrammar_take? (among : Bytes) : IsGrammar (take? among) where
  rest_suffix h := by
    rw [take?.eq_def] at h
    split at h
    · split at h
      · obtain ⟨-, rfl⟩ := Prod.mk.inj (Except.ok.inj h)
        exact List.suffix_cons _ _
      · obtain ⟨-, rfl⟩ := Prod.mk.inj (Except.ok.inj h)
        exact List.suffix_rfl
    · obtain ⟨-, rfl⟩ := Prod.mk.inj (Except.ok.inj h)
      exact List.suffix_rfl
  malformed_of_error h := by
    rw [take?.eq_def] at h
    split at h
    · split at h <;> cases h
    · cases h

theorem isGrammar_someDigits : IsGrammar someDigits :=
  isGrammar_digits.bind fun _ => .ite .malformed (.pure _)

theorem isGrammar_wholeDigits : IsGrammar wholeDigits :=
  isGrammar_someDigits.bind fun _ => .ite .malformed (.pure _)

theorem isGrammar_fraction? : IsGrammar fraction? :=
  (isGrammar_take? _).bind fun _ => .ite (isGrammar_someDigits.bind fun _ => .pure _) (.pure _)

theorem isGrammar_exponent? : IsGrammar exponent? :=
  (isGrammar_take? _).bind fun _ => .ite
    ((isGrammar_take? _).bind fun _ => .ite (isGrammar_someDigits.bind fun _ => .pure _) <|
      (isGrammar_take? _).bind fun _ => isGrammar_someDigits.bind fun _ => .pure _)
    (.pure _)

theorem isGrammar_number : IsGrammar number := by
  refine (isGrammar_take? _).bind fun minus => isGrammar_wholeDigits.bind fun whole =>
    isGrammar_fraction?.bind fun fraction => isGrammar_exponent?.bind fun exponent => ?_
  split
  · exact .pure _
  · exact .malformed

theorem isGrammar_skipNumber : IsGrammar skipNumber :=
  (isGrammar_take? _).bind fun _ => isGrammar_wholeDigits.bind fun _ =>
    isGrammar_fraction?.bind fun _ => isGrammar_exponent?.bind fun _ => .pure _

/-! ## Whole values -/

/-- Passing over a value, the rest of an array or the rest of an object. -/
theorem isGrammar_skip (fuel : Nat) :
    IsGrammar (skipValueIn fuel) ∧ (∀ first, IsGrammar (skipElementsIn fuel first)) ∧
      ∀ first, IsGrammar (skipMembersIn fuel first) := by
  induction fuel with
  | zero => exact ⟨.malformed, fun _ => .malformed, fun _ => .malformed⟩
  | succ n ih =>
    obtain ⟨hvalue, helements, hmembers⟩ := ih
    refine ⟨?_, fun first => ?_, fun first => ?_⟩
    · rw [skipValueIn]
      exact isGrammar_peek.bind fun _ => .ite (isGrammar_literal _) <| .ite (isGrammar_literal _) <|
        .ite (isGrammar_literal _) <| .ite isGrammar_skipString <| .ite isGrammar_skipNumber <|
        .ite (isGrammar_advance.bind fun _ => helements true) <|
        .ite (isGrammar_advance.bind fun _ => hmembers true) .malformed
    · rw [skipElementsIn]
      exact (isGrammar_nextElement first).bind fun _ => .ite
        (hvalue.bind fun _ => helements false) (isGrammar_expect _)
    · rw [skipMembersIn]
      exact (isGrammar_nextMember first).bind fun _ => .ite
        (isGrammar_skipString.bind fun _ => (isGrammar_expect _).bind fun _ =>
          hvalue.bind fun _ => hmembers false)
        (isGrammar_expect _)

theorem isGrammar_skipValue : IsGrammar skipValue where
  rest_suffix {s _ _} h := (isGrammar_skip (2 * s.length + 1)).1.rest_suffix h
  malformed_of_error {s _} h := (isGrammar_skip (2 * s.length + 1)).1.malformed_of_error h

/-- Saying what a value is. -/
theorem isGrammar_found : IsGrammar found :=
  isGrammar_peek.bind fun _ => .ite ((isGrammar_literal _).bind fun _ => .pure _) <|
    .ite ((isGrammar_literal _).bind fun _ => .pure _) <|
    .ite ((isGrammar_literal _).bind fun _ => .pure _) <|
    .ite (isGrammar_string.bind fun _ => .pure _) <|
    .ite (isGrammar_number.bind fun _ => .pure _) <| .ite (.pure _) <| .ite (.pure _) .malformed

end Reader

end ChatKeys.Json
