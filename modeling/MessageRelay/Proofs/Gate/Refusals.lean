import MessageRelay.Proofs.Gate.Histories

/-!
# What a gate refuses

Whether a gate takes an item is decided by what it looks like: the position has to exist, to lie at
the cursor or behind, and to have no item waiting. But a gate forgets what has passed it, so this
says nothing by itself about what has been done there. It is the balance of an open gate
(`MessageRelay.Gate.Keeps`) that turns the one into the other. A position lies in front of the
cursor or has an item waiting exactly if an item was accepted for it, or if the gate was closed and
no position is left (`MessageRelay.Gate.taken_iff`).

So the gate refuses a second item for a position however long ago the first one has passed, and
refuses nothing else (`MessageRelay.Gate.offer_exact`). What it refuses leaves no trace in it.
-/

namespace MessageRelay

namespace Gate

variable {α : Type} {g g' : Gate α} {p q size : Nat} {item : α}

/-! ### Refusals by the look of the gate -/

/-- A position has had its item, or has been passed over, as far as the gate can tell. -/
def Taken (g : Gate α) (p : Nat) : Prop :=
  p < g.cursor ∨ g.waiting.lookup p ≠ none

theorem taken_iff_holds : g.Taken p ↔ p < g.cursor ∨ g.holds p = true := by
  rw [Taken, holds, Option.isSome_iff_ne_none]

theorem offer_of_beyond (h : g.size ≤ p) :
    g.offer p item = (.error (.outOfRange p g.size), g) := by
  rw [offer, if_pos h]

theorem offer_of_taken (hp : p < g.size) (h : g.Taken p) :
    g.offer p item = (.error (.duplicate p), g) := by
  rw [offer, if_neg (Nat.not_le.mpr hp), if_pos (taken_iff_holds.mp h)]

theorem offer_of_free (hp : p < g.size) (h : ¬ g.Taken p) :
    g.offer p item = (.ok (), { g with waiting := (p, item) :: g.waiting }) := by
  rw [Taken, not_or, Nat.not_lt, not_not] at h
  exact offer_eq_ok hp h.1 h.2

/-- **Every item that is handed in** is refused in one of two ways or accepted, as the position
is. -/
theorem offer_cases (g : Gate α) (p : Nat) (item : α) :
    (g.size ≤ p ∧ g.offer p item = (.error (.outOfRange p g.size), g)) ∨
      (p < g.size ∧ g.Taken p ∧ g.offer p item = (.error (.duplicate p), g)) ∨
      (p < g.size ∧ ¬ g.Taken p ∧
        g.offer p item = (.ok (), { g with waiting := (p, item) :: g.waiting })) := by
  rcases Nat.lt_or_ge p g.size with hp | hp
  · by_cases h : g.Taken p
    · exact Or.inr (Or.inl ⟨hp, h, offer_of_taken hp h⟩)
    · exact Or.inr (Or.inr ⟨hp, h, offer_of_free hp h⟩)
  · exact Or.inl ⟨hp, offer_of_beyond hp⟩

theorem offer_outOfRange_iff :
    (g.offer p item).1 = .error (.outOfRange q size) ↔ g.size ≤ p ∧ q = p ∧ size = g.size := by
  rcases offer_cases g p item with ⟨hp, h⟩ | ⟨hp, -, h⟩ | ⟨hp, -, h⟩
  · rw [h, Except.error.injEq, GateError.outOfRange.injEq, eq_comm (a := p), eq_comm (a := g.size)]
    exact (and_iff_right hp).symm
  · rw [h]
    exact iff_of_false (by simp) fun hall => absurd hall.1 (Nat.not_le.mpr hp)
  · rw [h]
    exact iff_of_false (by simp) fun hall => absurd hall.1 (Nat.not_le.mpr hp)

theorem offer_duplicate_iff :
    (g.offer p item).1 = .error (.duplicate q) ↔ q = p ∧ p < g.size ∧ g.Taken p := by
  rcases offer_cases g p item with ⟨hp, h⟩ | ⟨hp, htaken, h⟩ | ⟨hp, hfree, h⟩
  · rw [h]
    exact iff_of_false (by simp) fun hall => absurd hall.2.1 (Nat.not_lt.mpr hp)
  · rw [h, Except.error.injEq, GateError.duplicate.injEq, eq_comm]
    exact (and_iff_left ⟨hp, htaken⟩).symm
  · rw [h]
    exact iff_of_false (by simp) fun hall => hfree hall.2.2

theorem offer_ok_iff : (g.offer p item).1 = .ok () ↔ p < g.size ∧ ¬ g.Taken p := by
  rcases offer_cases g p item with ⟨hp, h⟩ | ⟨-, htaken, h⟩ | ⟨hp, hfree, h⟩
  · rw [h]
    exact iff_of_false (by simp) fun hall => absurd hall.1 (Nat.not_lt.mpr hp)
  · rw [h]
    exact iff_of_false (by simp) fun hall => hall.2 htaken
  · rw [h]
    exact iff_of_true rfl ⟨hp, hfree⟩

/-- **An item that is refused** changes nothing about the gate. -/
theorem offer_of_error {cause : GateError} (h : (g.offer p item).1 = .error cause) :
    g.offer p item = (.error cause, g) :=
  Prod.ext h (eq_of_offer_error (Prod.ext h rfl))

/-- **An item that is accepted** waits at its position, and nothing else about the gate changes. -/
theorem lookup_of_offer (h : g.offer p item = (.ok (), g')) :
    g'.size = g.size ∧ g'.cursor = g.cursor ∧ g'.buffered = g.buffered + 1 ∧
      ∀ q, g'.waiting.lookup q = if q = p then some item else g.waiting.lookup q := by
  obtain ⟨-, -, -, rfl⟩ := offer_eq_ok_iff.mp h
  refine ⟨rfl, rfl, rfl, fun q => ?_⟩
  rw [List.lookup_cons]
  by_cases hq : q = p
  · rw [beq_iff_eq.mpr hq, if_pos hq]
  · rw [beq_false_of_ne hq, if_neg hq]

/-! ### Refusals by what has been done -/

/-- No move adds or takes away positions. -/
theorem size_perform (g : Gate α) (move : Move α) : (g.perform move).2.size = g.size := by
  cases move with
  | offer p item =>
    rcases h : g.offer p item with ⟨cause | _, g'⟩
    · rw [perform_offer_of_error h]
    · rw [perform_offer_of_ok h, (lookup_of_offer h).1]
  | next =>
    cases h : g.next with
    | none => rw [perform_next_of_none h]
    | some moved =>
      obtain ⟨⟨p, item⟩, g'⟩ := moved
      obtain ⟨-, -, rfl⟩ := next_eq_some_iff.mp h
      rw [perform_next_of_some h]
  | close => rfl

theorem size_after (g : Gate α) (moves : List (Move α)) : (g.after moves).size = g.size := by
  induction moves generalizing g with
  | nil => rfl
  | cons move moves ih => exact (ih _).trans (g.size_perform move)

/-- An open gate has taken exactly the positions for which it has accepted an item. -/
theorem Keeps.taken_iff {n : Nat} {history : List (Event α)} (h : Keeps n g history) :
    g.Taken p ↔ ∃ earlier, (p, earlier) ∈ accepted history := by
  have hmem : (∃ earlier, (p, earlier) ∈ accepted history) ↔
      p ∈ (accepted history).map Prod.fst := by
    simp
  rw [hmem, h.perm_positions.mem_iff, List.mem_append, List.mem_range, Taken, ne_eq,
    lookup_eq_none_iff, not_not]

/-- A closed gate has taken all positions that there are. -/
theorem IsClosed.taken (h : g.IsClosed) (hp : p < g.size) : g.Taken p :=
  Or.inl (by rwa [h.cursor])

/-- **Which positions a gate has taken**: those for which an item was accepted, and all of them once
it has been closed. -/
theorem taken_iff {n : Nat} (moves : List (Move α)) (hp : p < n) :
    ((new n : Gate α).after moves).Taken p ↔
      (∃ earlier, (p, earlier) ∈ accepted ((new n : Gate α).events moves)) ∨ .close ∈ moves := by
  by_cases hclose : .close ∈ moves
  · refine iff_of_true ((isClosed_after _ hclose).taken ?_) (Or.inr hclose)
    rwa [size_after]
  · rw [((Keeps.start n).after hclose).taken_iff, or_iff_left hclose]
    rfl

/-- **What is refused leaves no trace**: the moves behind it come to what they would have come to
without it, and so does the gate. -/
theorem after_refused {cause : GateError} (front rest : List (Move α))
    (h : ((g.after front).offer p item).1 = .error cause) :
    g.after (front ++ .offer p item :: rest) = g.after (front ++ rest) ∧
      g.events (front ++ .offer p item :: rest) =
        g.events front ++ .refused cause :: (g.after front).events rest := by
  rw [after_append, after_append, events_append, after, events,
    perform_offer_of_error (offer_of_error h)]
  exact ⟨rfl, rfl⟩

/-- **A gate accepts exactly one item for each position, and refuses without a trace.** Whatever has
been done at a gate of `n` positions, an item for a position is refused as out of range exactly if
there is no such position; it is refused as a duplicate exactly if there is, and an item was
accepted for it before or the gate has been closed; and otherwise it is accepted. If it is refused
then the gate behind it is the gate before, and everything that follows comes to what it would have
come to otherwise. If it is accepted then it waits at its position, where nothing was waiting, and
the gate is the same in every other respect. Closing a gate again passes over nothing and leaves it
as it is. -/
theorem offer_exact (n : Nat) (moves : List (Move α)) (p : Nat) (item : α) :
    let g := (new n : Gate α).after moves
    let history := (new n : Gate α).events moves
    let verdict := (g.offer p item).1
    let g' := (g.offer p item).2
    (∀ q size, verdict = .error (.outOfRange q size) ↔ n ≤ p ∧ q = p ∧ size = n) ∧
    (∀ q, verdict = .error (.duplicate q) ↔
      q = p ∧ p < n ∧ ((∃ earlier, (p, earlier) ∈ accepted history) ∨ .close ∈ moves)) ∧
    (verdict = .ok () ↔
      p < n ∧ (∀ earlier, (p, earlier) ∉ accepted history) ∧ .close ∉ moves) ∧
    (∀ cause, verdict = .error cause → g' = g ∧ ∀ rest,
      (new n : Gate α).after (moves ++ .offer p item :: rest) =
        (new n : Gate α).after (moves ++ rest) ∧
      ∃ later, (new n : Gate α).events (moves ++ rest) = history ++ later ∧
        (new n : Gate α).events (moves ++ .offer p item :: rest) =
          history ++ .refused cause :: later) ∧
    (verdict = .ok () →
      g.waiting.lookup p = none ∧ g'.waiting.lookup p = some item ∧
      (∀ q, q ≠ p → g'.waiting.lookup q = g.waiting.lookup q) ∧
      g'.buffered = g.buffered + 1 ∧ g'.cursor = g.cursor ∧ g'.size = g.size) ∧
    (.close ∈ moves → g.perform .close = (.closed [], g)) := by
  intro g history verdict g'
  have hsize : g.size = n := size_after _ moves
  have htaken : p < n → (g.Taken p ↔
      (∃ earlier, (p, earlier) ∈ accepted history) ∨ .close ∈ moves) := taken_iff moves
  refine ⟨fun q size => ?beyond, fun q => ?duplicate, ?free,
    fun cause h => ⟨congrArg Prod.snd (offer_of_error h), fun rest => ?refused⟩,
    fun h => ?accepted, fun hclose => ?closed⟩
  case beyond => rw [offer_outOfRange_iff, hsize]
  case duplicate =>
    rw [offer_duplicate_iff, hsize]
    exact and_congr_right fun _ => and_congr_right htaken
  case free =>
    rw [offer_ok_iff, hsize, ← not_exists, ← not_or]
    exact and_congr_right fun hp => not_congr (htaken hp)
  case refused =>
    obtain ⟨hafter, hevents⟩ := after_refused moves rest h
    exact ⟨hafter, g.events rest, events_append _ moves rest, hevents⟩
  case accepted =>
    have hoffer : g.offer p item = (.ok (), g') := Prod.ext h rfl
    obtain ⟨-, -, hnone, -⟩ := offer_eq_ok_iff.mp hoffer
    obtain ⟨hsame, hcursor, hmore, hlookup⟩ := lookup_of_offer hoffer
    exact ⟨hnone, by rw [hlookup, if_pos rfl], fun q hq => by rw [hlookup, if_neg hq], hmore,
      hcursor, hsame⟩
  case closed => exact (isClosed_after _ hclose).perform_close

/-- Behind an item that has been let through, a second one for its position is refused as one is
whose turn is still to come, and the gate stays as it is. Once the gate is closed, so is one for a
position that never had an item, and closing again passes over nothing. -/
theorem offer_exact_passed :
    let before : List (Move Char) := [.offer 0 'a', .next, .offer 2 'c']
    let g := (new 3 : Gate Char).after before
    let closed := (new 3 : Gate Char).after (before ++ [.close])
    (∃ earlier, (0, earlier) ∈ accepted ((new 3 : Gate Char).events before)) ∧
      g.offer 0 'b' = (.error (.duplicate 0), g) ∧
      (g.offer 2 'b').1 = .error (.duplicate 2) ∧
      (g.offer 5 'b').1 = .error (.outOfRange 5 3) ∧
      ((g.offer 1 'b').1 = .ok () ∧ (g.offer 1 'b').2.waiting.lookup 2 = some 'c') ∧
      (closed.offer 1 'b').1 = .error (.duplicate 1) ∧
      closed.perform .close = (.closed [], closed) := by
  intro before g closed
  have hpassed : (0, 'a') ∈ accepted ((new 3 : Gate Char).events before) := List.mem_cons_self
  have hwaits : (2, 'c') ∈ accepted ((new 3 : Gate Char).events before) :=
    List.mem_cons_of_mem _ List.mem_cons_self
  have hnone : ∀ earlier, (1, earlier) ∉ accepted ((new 3 : Gate Char).events before) := by
    simp [before, events, accepted, perform, offer, next, new, holds, Event.accepted?]
  obtain ⟨-, hpass, -, hsame, -⟩ := offer_exact 3 before 0 'b'
  obtain ⟨-, hwait, -⟩ := offer_exact 3 before 2 'b'
  obtain ⟨hbeyond, -⟩ := offer_exact 3 before 5 'b'
  obtain ⟨-, -, hfree, -, hkeeps, -⟩ := offer_exact 3 before 1 'b'
  obtain ⟨-, hclosed, -, -, -, hagain⟩ := offer_exact 3 (before ++ [.close]) 1 'b'
  have hmem : .close ∈ before ++ [.close] := List.mem_append_right _ List.mem_cons_self
  have hrefused := (hpass 0).mpr ⟨rfl, by decide, Or.inl ⟨'a', hpassed⟩⟩
  have haccepted := hfree.mpr ⟨by decide, hnone, by simp [before]⟩
  refine ⟨⟨'a', hpassed⟩, Prod.ext hrefused (hsame _ hrefused).1,
    (hwait 2).mpr ⟨rfl, by decide, Or.inl ⟨'c', hwaits⟩⟩, (hbeyond 5 3).mpr ⟨by decide, rfl, rfl⟩,
    ⟨haccepted, ?_⟩, (hclosed 1).mpr ⟨rfl, by decide, Or.inr hmem⟩, hagain hmem⟩
  exact ((hkeeps haccepted).2.2.1 2 (by decide)).trans rfl

end Gate

end MessageRelay
