import MessageRelay.Stage

/-!
# Stages, one after the other

A stage and the one that works with its value come to a value exactly if both do, and to an error if
one of them does (`MessageRelay.Stage.ending_bind_eq_value_iff`,
`MessageRelay.Stage.ending_bind_eq_error_iff`). What they do is what the first one does, and behind
that what the second one does, if it is reached. So what is true of the deeds of every stage is true
of those of all of them (`MessageRelay.Stage.Only.bind`).
-/

namespace MessageRelay

namespace Stage

variable {ε ε' α β : Type} {x : Stage ε α} {f : α → Stage ε β} {a : α} {e : ε} {horizon : Nat}

/-! ### Endings -/

@[simp] theorem ending_pure : (pure a : Stage ε α).ending = .value a := rfl

@[simp] theorem ending_fail : (fail e : Stage ε α).ending = .error e := rfl

theorem ending_bind :
    (x >>= f).ending =
      match x.ending with
      | .value a => (f a).ending
      | .error e => .error e
      | .death => .death
      | .never => .never := by
  change (bind x f).ending = _
  unfold bind
  cases x.ending <;> rfl

/-- **The value of the second stage** is reached through one of the first. -/
theorem ending_bind_eq_value_iff {b : β} :
    (x >>= f).ending = .value b ↔ ∃ a, x.ending = .value a ∧ (f a).ending = .value b := by
  rw [ending_bind]
  cases x.ending <;> simp

/-- **An error** is that of the first stage, or that of the second one behind it. -/
theorem ending_bind_eq_error_iff :
    (x >>= f).ending = .error e ↔
      x.ending = .error e ∨ ∃ a, x.ending = .value a ∧ (f a).ending = .error e := by
  rw [ending_bind]
  cases x.ending <;> simp

/-- One waits for ever in the first stage, or in the second one behind it. -/
theorem ending_bind_eq_never_iff :
    (x >>= f).ending = .never ↔
      x.ending = .never ∨ ∃ a, x.ending = .value a ∧ (f a).ending = .never := by
  rw [ending_bind]
  cases x.ending <;> simp

/-- The program dies in the first stage, or in the second one behind it. -/
theorem ending_bind_eq_death_iff :
    (x >>= f).ending = .death ↔
      x.ending = .death ∨ ∃ a, x.ending = .value a ∧ (f a).ending = .death := by
  rw [ending_bind]
  cases x.ending <;> simp

theorem ending_ofExcept_eq_value_iff {r : Except ε α} :
    (ofExcept r).ending = .value a ↔ r = .ok a := by
  cases r <;> simp [ofExcept]

theorem ending_ofExcept_eq_error_iff {r : Except ε α} :
    (ofExcept r).ending = .error e ↔ r = .error e := by
  cases r <;> simp [ofExcept]

theorem ending_ofExcept_ne_never {r : Except ε α} : (ofExcept r).ending ≠ .never := by
  cases r <;> simp [ofExcept]

theorem ending_ofExcept_ne_death {r : Except ε α} : (ofExcept r).ending ≠ .death := by
  cases r <;> simp [ofExcept]

theorem ending_mapError_eq_value_iff {g : ε → ε'} :
    (x.mapError g).ending = .value a ↔ x.ending = .value a := by
  unfold mapError
  cases x.ending <;> simp

theorem ending_mapError_eq_error_iff {g : ε → ε'} {e' : ε'} :
    (x.mapError g).ending = .error e' ↔ ∃ e, x.ending = .error e ∧ g e = e' := by
  unfold mapError
  cases x.ending <;> simp

theorem ending_mapError_eq_never_iff {g : ε → ε'} :
    (x.mapError g).ending = .never ↔ x.ending = .never := by
  unfold mapError
  cases x.ending <;> simp

theorem ending_mapError_eq_death_iff {g : ε → ε'} :
    (x.mapError g).ending = .death ↔ x.ending = .death := by
  unfold mapError
  cases x.ending <;> simp

section

variable {deed : Deed} {reply : Reply α}

theorem ending_perform_eq_value_iff :
    (perform deed reply).ending = .value a ↔ ∃ delay, reply = .answer delay (.ok a) := by
  unfold perform
  rcases reply with ⟨delay, _ | _⟩ | _ | _ <;> simp

theorem ending_perform_eq_death_iff :
    (perform deed reply).ending = .death ↔ ∃ delay, reply = .death delay := by
  unfold perform
  rcases reply with ⟨delay, _ | _⟩ | _ | _ <;> simp

end

/-! ### Logs -/

@[simp] theorem log_pure : (pure a : Stage ε α).log horizon = [] := rfl

@[simp] theorem log_fail : (fail e : Stage ε α).log horizon = [] := rfl

@[simp] theorem log_ofExcept {r : Except ε α} : (ofExcept r).log horizon = [] := by
  cases r <;> rfl

@[simp] theorem log_mapError {g : ε → ε'} : (x.mapError g).log horizon = x.log horizon := rfl

@[simp] theorem log_perform {deed : Deed} {reply : Reply α} :
    (perform deed reply).log horizon = [deed] := rfl

theorem log_bind :
    (x >>= f).log horizon =
      x.log horizon ++
        match x.ending with
        | .value a => (f a).log horizon
        | .error _ | .death | .never => [] := by
  change (bind x f).log horizon = _
  unfold bind
  cases x.ending <;> simp

/-- What the second stage does stands behind what the first one does. -/
theorem log_bind_of_value (h : x.ending = .value a) :
    (x >>= f).log horizon = x.log horizon ++ (f a).log horizon := by
  rw [log_bind, h]

/-! ### Laws -/

/-- Two stages are the same if they do the same and end in the same way. -/
theorem eq_of_parts {y : Stage ε α} (hlog : ∀ horizon, x.log horizon = y.log horizon)
    (hending : x.ending = y.ending) : x = y := by
  cases x
  cases y
  cases hending
  obtain rfl := funext hlog
  rfl

/-- **Stages can be put together in any grouping**, and one that does nothing can be left out. -/
instance : LawfulMonad (Stage ε) :=
  .mk' _
    (fun x => eq_of_parts
      (fun horizon => by
        change (x >>= pure).log horizon = _
        rw [log_bind]
        cases x.ending <;> simp)
      (by
        change (x >>= pure).ending = _
        rw [ending_bind]
        cases x.ending <;> rfl))
    (fun _ _ => eq_of_parts
      (fun horizon => by rw [log_bind_of_value ending_pure, log_pure, List.nil_append])
      (by rw [ending_bind, ending_pure]))
    -- if one of the first two stages has no value, the third is not reached on either side
    (fun x f g => eq_of_parts
      (fun horizon => by
        rw [log_bind, log_bind, log_bind, ending_bind]
        cases x.ending <;> simp [log_bind])
      (by
        rw [ending_bind, ending_bind, ending_bind]
        cases x.ending <;> simp [ending_bind]))

/-- What the second stage would do with other values does not matter. -/
theorem bind_congr_of_value {g : α → Stage ε β} (h : ∀ a, x.ending = .value a → f a = g a) :
    x >>= f = x >>= g := by
  change bind x f = bind x g
  unfold bind
  cases hx : x.ending with
  | value a => simp only [h a hx]
  | error | death | never => rfl

/-- An error that is told in another way is told so in each stage. -/
theorem mapError_bind {g : ε → ε'} :
    (x >>= f).mapError g = x.mapError g >>= fun a => (f a).mapError g := by
  refine eq_of_parts (fun horizon => ?_) ?_
  · rw [log_mapError, log_bind, log_bind, mapError]
    cases x.ending <;> rfl
  · rw [mapError, ending_bind, ending_bind, mapError]
    cases x.ending <;> rfl

theorem mapError_mapError {ε'' : Type} {g : ε → ε'} {h : ε' → ε''} :
    (x.mapError g).mapError h = x.mapError (h ∘ g) := by
  refine eq_of_parts (fun _ => rfl) ?_
  rw [mapError, mapError, mapError]
  cases x.ending <;> rfl

/-! ### Deeds of some kind -/

/-- **A stage does nothing but** deeds of some kind. -/
def Only (p : Deed → Prop) (x : Stage ε α) : Prop :=
  ∀ horizon, ∀ d ∈ x.log horizon, p d

namespace Only

variable {p : Deed → Prop}

theorem of_log (h : ∀ horizon, x.log horizon = []) : Only p x := by
  intro horizon d hd
  rw [h] at hd
  exact absurd hd List.not_mem_nil

theorem ofExcept {r : Except ε α} : Only p (ofExcept r) :=
  .of_log fun _ => log_ofExcept

theorem pure : Only p (pure a : Stage ε α) :=
  .of_log fun _ => log_pure

theorem perform {deed : Deed} {reply : Reply α} (h : p deed) : Only p (perform deed reply) := by
  intro horizon d hd
  rw [List.mem_singleton.mp hd]
  exact h

theorem mapError {g : ε → ε'} (h : Only p x) : Only p (x.mapError g) :=
  h

/-- What is true of all deeds of two stages is true of those of both. -/
theorem bind (hx : Only p x) (hf : ∀ a, x.ending = .value a → Only p (f a)) :
    Only p (x >>= f) := by
  intro horizon d hd
  rw [log_bind] at hd
  rcases List.mem_append.mp hd with hd | hd
  · exact hx horizon d hd
  · cases hend : x.ending with
    | value a =>
      rw [hend] at hd
      exact hf a hend horizon d hd
    | error | death | never =>
      rw [hend] at hd
      exact absurd hd List.not_mem_nil

end Only

end Stage

end MessageRelay
