/-
  ChatKeys.Proofs.Results

  When a computation in steps gives a value: exactly if every step does
  (`bind_eq_ok_iff`) and every condition on the way holds (`guard_eq_ite`).  An
  error of a key that becomes an error of the operation is no value either way
  (`liftM_eq_ok_iff`, `Logged.result_liftM_eq_ok_iff`).
-/
import ChatKeys.Audit.Logged

namespace ChatKeys

variable {ε ε' α β : Type}

theorem bind_eq_ok_iff {x : Except ε α} {f : α → Except ε β} {b : β} :
    (x >>= f) = .ok b ↔ ∃ a, x = .ok a ∧ f a = .ok b := by
  cases x with
  | error e => simp [bind, Except.bind]
  | ok a => simp [bind, Except.bind]

theorem pure_eq_ok_iff {a b : α} : (pure a : Except ε α) = .ok b ↔ b = a := by
  show (Except.ok a : Except ε α) = .ok b ↔ b = a
  rw [Except.ok.injEq, eq_comm]

theorem map_eq_ok_iff {x : Except ε α} {f : α → β} {b : β} :
    x.map f = .ok b ↔ ∃ a, x = .ok a ∧ f a = b := by
  cases x with
  | error e => simp [Except.map]
  | ok a => simp [Except.map]

theorem mapError_eq_ok_iff {x : Except ε α} {g : ε → ε'} {a : α} :
    x.mapError g = .ok a ↔ x = .ok a := by
  cases x with
  | error e => exact iff_of_false nofun nofun
  | ok b =>
    show Except.ok b = .ok a ↔ _
    rw [Except.ok.injEq, Except.ok.injEq]

/-- A list of computations that all give a value gives the list of their values. -/
theorem mapM_eq_ok {f : α → Except ε β} {f' : α → β} {l : List α}
    (h : ∀ a ∈ l, f a = .ok (f' a)) : l.mapM f = .ok (l.map f') := by
  induction l with
  | nil => rfl
  | cons a l ih =>
    obtain ⟨ha, hl⟩ := List.forall_mem_cons.mp h
    rw [List.mapM_cons, ha, ih hl]
    rfl

/-- A condition that does not hold leaves no value. -/
theorem guard_eq_ite (p : Prop) [Decidable p] :
    (guard p : Option Unit) = if p then some () else none := rfl

theorem toOption_eq_some_iff {x : Except ε α} {a : α} : x.toOption = some a ↔ x = .ok a := by
  cases x with
  | error e => simp [Except.toOption]
  | ok b => simp [Except.toOption]

theorem liftM_eq_ok_iff {x : Except KeyError α} {a : α} :
    (liftM x : Except Error α) = .ok a ↔ x = .ok a :=
  mapError_eq_ok_iff

theorem Logged.result_liftM_eq_ok_iff {x : Except KeyError α} {a : α} :
    (liftM x : Logged α).result = .ok a ↔ x = .ok a :=
  mapError_eq_ok_iff

theorem Logged.result_liftM (x : Except Error α) : (liftM x : Logged α).result = x := rfl

/-- Nothing comes after an error. -/
theorem Logged.result_bind_of_error {x : Logged α} {e : Error} (h : x.result = .error e)
    (f : α → Logged β) : (x >>= f).result = .error e := by
  rw [Logged.result_bind, h]
  rfl

end ChatKeys
