import MessageRelay.Gate

/-!
# What the gate does to the items that wait

The waiting items of a gate are read by position: an offer adds the item at its position
(`MessageRelay.Gate.offer_eq_ok`), letting the next item through removes the one at the cursor and
moves the cursor one on (`MessageRelay.Gate.next_eq_some_iff`), and closing leaves nothing behind.
Everything else about the list of waiting items, its order above all, is invisible.
-/

namespace MessageRelay

namespace Gate

variable {α : Type}

/-! ### Looking up a waiting item -/

/-- Taking out one position leaves what waits at the others. -/
theorem lookup_filter_bne (l : List (Nat × α)) (k p : Nat) :
    (l.filter (·.1 != k)).lookup p = if p = k then none else l.lookup p := by
  induction l with
  | nil => simp
  | cons entry l ih =>
    obtain ⟨q, item⟩ := entry
    by_cases hq : q = k
    · subst hq
      rw [List.filter_cons_of_neg (by simp), ih]
      by_cases hp : p = q
      · rw [if_pos hp, if_pos hp]
      · rw [if_neg hp, if_neg hp, List.lookup_cons, beq_false_of_ne hp]
    · rw [List.filter_cons_of_pos (by simpa using hq), List.lookup_cons, List.lookup_cons]
      by_cases hp : p = q
      · subst hp
        rw [beq_self_eq_true, if_neg hq]
      · rw [beq_false_of_ne hp]
        exact ih

/-! ### The three operations -/

/-- **An offer is accepted** at a position that exists, has not been passed and has no item. -/
theorem offer_eq_ok {g : Gate α} {p : Nat} {item : α} (hp : p < g.size) (hc : g.cursor ≤ p)
    (hw : g.waiting.lookup p = none) :
    g.offer p item = (.ok (), { g with waiting := (p, item) :: g.waiting }) := by
  have hheld : g.holds p = false := by rw [holds, hw, Option.isSome_none]
  rw [offer, if_neg (Nat.not_le.mpr hp), if_neg]
  rintro (h | h)
  · exact absurd hc (Nat.not_le.mpr h)
  · rw [hheld] at h
    exact Bool.false_ne_true h

/-- What is accepted is added to what waits, and nothing else is accepted. -/
theorem offer_eq_ok_iff {g g' : Gate α} {p : Nat} {item : α} :
    g.offer p item = (.ok (), g') ↔
      p < g.size ∧ g.cursor ≤ p ∧ g.waiting.lookup p = none ∧
        g' = { g with waiting := (p, item) :: g.waiting } := by
  constructor
  · intro h
    rw [offer] at h
    split at h
    next => cases congrArg Prod.fst h
    next hsize =>
      split at h
      next => cases congrArg Prod.fst h
      next hfree =>
        rw [not_or, Nat.not_lt, holds, Option.not_isSome_iff_eq_none] at hfree
        exact ⟨Nat.not_le.mp hsize, hfree.1, hfree.2, (congrArg Prod.snd h).symm⟩
  · rintro ⟨hp, hc, hw, rfl⟩
    exact offer_eq_ok hp hc hw

/-- **An offer that is refused** leaves the gate as it is. -/
theorem eq_of_offer_error {g g' : Gate α} {p : Nat} {item : α} {cause : GateError}
    (h : g.offer p item = (.error cause, g')) : g' = g := by
  rw [offer] at h
  split at h
  next => exact (congrArg Prod.snd h).symm
  next =>
    split at h
    next => exact (congrArg Prod.snd h).symm
    next => cases congrArg Prod.fst h

/-- **What leaves the gate** is the item that waits at the cursor, which moves one on. -/
theorem next_eq_some_iff {g g' : Gate α} {p : Nat} {item : α} :
    g.next = some ((p, item), g') ↔
      p = g.cursor ∧ g.waiting.lookup g.cursor = some item ∧
        g' = { g with cursor := g.cursor + 1, waiting := g.waiting.filter (·.1 != g.cursor) } := by
  rw [next, Option.map_eq_some_iff]
  constructor
  · rintro ⟨x, hx, h⟩
    rw [Prod.mk.injEq, Prod.mk.injEq] at h
    obtain ⟨⟨rfl, rfl⟩, rfl⟩ := h
    exact ⟨rfl, hx, rfl⟩
  · rintro ⟨rfl, hx, rfl⟩
    exact ⟨item, hx, rfl⟩

/-- Nothing can leave the gate exactly when nothing waits at the cursor. -/
theorem next_eq_none_iff {g : Gate α} : g.next = none ↔ g.waiting.lookup g.cursor = none := by
  rw [next, Option.map_eq_none_iff]

/-- Nothing leaves a closed gate. -/
theorem next_close (g : Gate α) : g.close.next = none :=
  next_eq_none_iff.mpr rfl

end Gate

end MessageRelay
