import Mathlib.Data.List.Perm.Basic
import Mathlib.Data.List.Range
import Mathlib.Order.Bounds.Basic
import MessageRelay.Proofs.Gate

/-!
# What passes through a gate

A gate is used by moves in any order (`MessageRelay.Gate.Move`): items are handed in, the item whose
turn it is is asked for, and the gate is closed. What the moves come to is a history
(`MessageRelay.Gate.events`), and everything that is promised of the gate is promised of histories.

The whole point is a balance, `MessageRelay.Gate.Keeps`: as long as the gate is open, what it has
accepted is what it has released and what waits, and nothing is in there twice. What it has released
stands at the positions in front of the cursor, in order, and what waits does not. Every move but
closing keeps the balance, and a gate that is closed neither accepts nor releases anything
(`MessageRelay.Gate.IsClosed.events`). So every position is released once or passed over once.
-/

namespace MessageRelay

namespace Gate

variable {α : Type}

/-! ### Moves and what they come to -/

/-- What can be done at a gate. -/
inductive Move (α : Type) where
  /-- To hand in the item for a position. -/
  | offer (position : Nat) (item : α)
  /-- To ask for the item whose turn it is. -/
  | next
  /-- To close the gate. -/
  | close

/-- What a move comes to. -/
inductive Event (α : Type) where
  /-- An item is accepted. -/
  | accepted (position : Nat) (item : α)
  /-- An item is refused. -/
  | refused (cause : GateError)
  /-- An item is let through. -/
  | released (position : Nat) (item : α)
  /-- The item whose turn it is is not there. -/
  | nothing
  /-- The gate is closed, and positions are passed over. -/
  | closed (positions : List Nat)

/-- The item that is accepted, with its position. -/
def Event.accepted? : Event α → Option (Nat × α)
  | accepted position item => some (position, item)
  | _ => none

/-- The item that is let through, with its position. -/
def Event.released? : Event α → Option (Nat × α)
  | released position item => some (position, item)
  | _ => none

/-- What a move comes to, and the gate behind it. -/
def perform (g : Gate α) : Move α → Event α × Gate α
  | .offer position item =>
    match g.offer position item with
    | (.ok _, g') => (.accepted position item, g')
    | (.error cause, g') => (.refused cause, g')
  | .next =>
    match g.next with
    | some ((position, item), g') => (.released position item, g')
    | none => (.nothing, g)
  | .close => (.closed g.remaining, g.close)

section

variable {g g' : Gate α} {position : Nat} {item : α}

theorem perform_offer_of_ok (h : g.offer position item = (.ok (), g')) :
    g.perform (.offer position item) = (.accepted position item, g') := by
  simp only [perform, h]

theorem perform_offer_of_error {cause : GateError}
    (h : g.offer position item = (.error cause, g')) :
    g.perform (.offer position item) = (.refused cause, g) := by
  simp only [perform, h, eq_of_offer_error h]

theorem perform_next_of_some (h : g.next = some ((position, item), g')) :
    g.perform .next = (.released position item, g') := by
  simp only [perform, h]

theorem perform_next_of_none (h : g.next = none) : g.perform .next = (.nothing, g) := by
  simp only [perform, h]

end

/-- What moves come to, one after the other. -/
def events (g : Gate α) : List (Move α) → List (Event α)
  | [] => []
  | move :: moves => (g.perform move).1 :: events (g.perform move).2 moves

/-- The gate behind some moves. -/
def after (g : Gate α) : List (Move α) → Gate α
  | [] => g
  | move :: moves => after (g.perform move).2 moves

/-- All items that were accepted, in order. -/
def accepted (history : List (Event α)) : List (Nat × α) :=
  history.filterMap Event.accepted?

/-- All items that were let through, in order. -/
def released (history : List (Event α)) : List (Nat × α) :=
  history.filterMap Event.released?

theorem accepted_append (front back : List (Event α)) :
    accepted (front ++ back) = accepted front ++ accepted back :=
  List.filterMap_append

theorem released_append (front back : List (Event α)) :
    released (front ++ back) = released front ++ released back :=
  List.filterMap_append

theorem events_append (g : Gate α) (front back : List (Move α)) :
    g.events (front ++ back) = g.events front ++ (g.after front).events back := by
  induction front generalizing g with
  | nil => rfl
  | cons move front ih => exact congrArg _ (ih (g.perform move).2)

theorem after_append (g : Gate α) (front back : List (Move α)) :
    g.after (front ++ back) = (g.after front).after back := by
  induction front generalizing g with
  | nil => rfl
  | cons move front ih => exact ih (g.perform move).2

/-! ### The balance of an open gate -/

/-- **What is known of an open gate** of `n` positions and of what has happened at it. -/
structure Keeps (n : Nat) (g : Gate α) (history : List (Event α)) : Prop where
  size : g.size = n
  /-- What was accepted was let through or waits. -/
  balance : (accepted history).Perm (released history ++ g.waiting)
  /-- What was let through stands in front of the cursor, in order. -/
  released : (released history).map Prod.fst = List.range g.cursor
  /-- What waits does not stand there, and no two items wait for one position. -/
  waiting : ∀ entry ∈ g.waiting, g.cursor ≤ entry.1 ∧ entry.1 < n
  nodup : (g.waiting.map Prod.fst).Nodup
  cursor : g.cursor ≤ n

/-- An item waits exactly where one is found. -/
theorem lookup_eq_none_iff {l : List (Nat × α)} {p : Nat} :
    l.lookup p = none ↔ p ∉ l.map Prod.fst := by
  rw [List.lookup_eq_none_iff]
  simp only [List.mem_map, not_exists, not_and]
  exact ⟨fun h entry hentry hp => (bne_iff_ne.mp (h entry hentry)) hp.symm,
    fun h entry hentry => bne_iff_ne.mpr fun hp => h entry hentry hp.symm⟩

/-- Taking out the item at a position takes out nothing else. -/
theorem perm_cons_filter {l : List (Nat × α)} (hnodup : (l.map Prod.fst).Nodup) {p : Nat} {item : α}
    (hitem : l.lookup p = some item) : l.Perm ((p, item) :: l.filter (·.1 != p)) := by
  obtain ⟨front, back, rfl, hfront⟩ := List.lookup_eq_some_iff.mp hitem
  rw [List.map_append, List.map_cons] at hnodup
  have hother : ∀ entry ∈ front ++ back, (entry.1 != p) = true := by
    rw [List.perm_middle.nodup_iff, List.nodup_cons, ← List.map_append] at hnodup
    intro entry hentry
    refine bne_iff_ne.mpr fun heq => hnodup.1 ?_
    exact List.mem_map.mpr ⟨entry, hentry, heq⟩
  have hkept : (front ++ (p, item) :: back).filter (·.1 != p) = front ++ back := by
    rw [List.filter_append, List.filter_cons_of_neg (by simp), ← List.filter_append]
    exact List.filter_eq_self.mpr hother
  rw [hkept]
  exact List.perm_middle

namespace Keeps

variable {n : Nat} {g : Gate α} {history : List (Event α)}

/-- At the start nothing has happened. -/
theorem start (n : Nat) : Keeps n (new n : Gate α) [] where
  size := rfl
  balance := List.Perm.refl []
  released := rfl
  waiting := nofun
  nodup := List.nodup_nil
  cursor := Nat.zero_le n

/-- **Only the items count**: what neither accepts nor lets anything through keeps the balance. -/
theorem idle (h : Keeps n g history) {event : Event α} (haccepted : event.accepted? = none)
    (hreleased : event.released? = none) : Keeps n g (history ++ [event]) := by
  have hsame : accepted (history ++ [event]) = accepted history ∧
      Gate.released (history ++ [event]) = Gate.released history := by
    rw [accepted_append, released_append]
    simp [accepted, Gate.released, haccepted, hreleased]
  refine { h with balance := ?_, released := ?_ }
  · rw [hsame.1, hsame.2]
    exact h.balance
  · rw [hsame.2]
    exact h.released

/-- **Handing in an item** keeps the balance. -/
theorem offer (h : Keeps n g history) (p : Nat) (item : α) :
    Keeps n (g.perform (.offer p item)).2 (history ++ [(g.perform (.offer p item)).1]) := by
  rcases hoffer : g.offer p item with ⟨cause | _, g'⟩
  · rw [perform_offer_of_error hoffer]
    exact h.idle rfl rfl
  · obtain ⟨hp, hcursor, hfree, rfl⟩ := offer_eq_ok_iff.mp hoffer
    rw [perform_offer_of_ok hoffer]
    rw [h.size] at hp
    refine ⟨h.size, ?_, ?_, ?_, ?_, h.cursor⟩
    · rw [accepted_append, released_append]
      refine (h.balance.append_right [(p, item)]).trans ?_
      simp only [Gate.released, List.filterMap_cons, Event.released?, List.filterMap_nil,
        List.append_nil, List.append_assoc]
      exact (List.perm_append_singleton (p, item) g.waiting).append_left _
    · rw [released_append, List.map_append, h.released]
      exact List.append_nil _
    · intro entry hentry
      rcases List.mem_cons.mp hentry with rfl | hentry
      · exact ⟨hcursor, hp⟩
      · exact h.waiting entry hentry
    · exact List.nodup_cons.mpr ⟨lookup_eq_none_iff.mp hfree, h.nodup⟩

/-- **Asking for the item whose turn it is** keeps the balance. -/
theorem next (h : Keeps n g history) :
    Keeps n (g.perform .next).2 (history ++ [(g.perform .next).1]) := by
  cases hnext : g.next with
  | none =>
    rw [perform_next_of_none hnext]
    exact h.idle rfl rfl
  | some moved =>
    obtain ⟨⟨p, item⟩, g'⟩ := moved
    obtain ⟨rfl, hitem, rfl⟩ := next_eq_some_iff.mp hnext
    rw [perform_next_of_some hnext]
    have hmoved := perm_cons_filter h.nodup hitem
    have hlt : g.cursor < n := (h.waiting (g.cursor, item) (hmoved.mem_iff.mpr
      List.mem_cons_self)).2
    refine ⟨h.size, ?_, ?_, ?_, ?_, hlt⟩
    · rw [accepted_append, released_append, List.append_assoc]
      simp only [accepted, List.filterMap_cons, Event.accepted?, List.filterMap_nil,
        List.append_nil]
      exact h.balance.trans (hmoved.append_left _)
    · rw [released_append, List.map_append, h.released, List.range_succ]
      rfl
    · intro entry hentry
      obtain ⟨hmem, hne⟩ := List.mem_filter.mp hentry
      obtain ⟨hle, hlt⟩ := h.waiting entry hmem
      exact ⟨Nat.lt_of_le_of_ne hle fun heq => (bne_iff_ne.mp hne) heq.symm, hlt⟩
    · exact h.nodup.sublist (List.filter_sublist.map Prod.fst)

/-- **Every move but closing keeps the balance**, and so do all moves together. -/
theorem after (h : Keeps n g history) {moves : List (Move α)} (hopen : .close ∉ moves) :
    Keeps n (g.after moves) (history ++ g.events moves) := by
  induction moves generalizing g history with
  | nil => rwa [events, List.append_nil]
  | cons move moves ih =>
    rw [List.mem_cons, not_or] at hopen
    rw [events, List.append_cons]
    refine ih ?_ hopen.2
    cases move with
    | offer p item => exact h.offer p item
    | next => exact h.next
    | close => exact absurd rfl hopen.1

/-! ### Read off the balance -/

variable {n : Nat} {g : Gate α} {history : List (Event α)}

/-- What is let through is what was accepted for its position. -/
theorem mem_accepted (h : Keeps n g history) {entry : Nat × α}
    (hentry : entry ∈ Gate.released history) : entry ∈ accepted history :=
  h.balance.mem_iff.mpr (List.mem_append_left _ hentry)

/-- The positions of what was accepted are those in front of the cursor and those of what waits. -/
theorem perm_positions (h : Keeps n g history) :
    ((accepted history).map Prod.fst).Perm (List.range g.cursor ++ g.waiting.map Prod.fst) := by
  have hperm := h.balance.map Prod.fst
  rwa [List.map_append, h.released] at hperm

/-- Nothing is accepted twice for one position. -/
theorem nodup_accepted (h : Keeps n g history) : ((accepted history).map Prod.fst).Nodup := by
  rw [h.perm_positions.nodup_iff]
  refine List.nodup_append.mpr ⟨List.nodup_range, h.nodup, fun p hp q hq heq => ?_⟩
  obtain ⟨entry, hentry, rfl⟩ := List.mem_map.mp hq
  have hle := (h.waiting entry hentry).1
  rw [List.mem_range] at hp
  omega

/-- **Where nothing can leave the gate**, the cursor stands at the least position for which nothing
was accepted. -/
theorem isLeast_cursor (h : Keeps n g history) (hnext : g.next = none) :
    IsLeast {p | p ∉ (accepted history).map Prod.fst} g.cursor := by
  rw [next_eq_none_iff, lookup_eq_none_iff] at hnext
  have hmem : ∀ p, p ∈ (accepted history).map Prod.fst ↔
      p < g.cursor ∨ p ∈ g.waiting.map Prod.fst := by
    intro p
    rw [h.perm_positions.mem_iff, List.mem_append, List.mem_range]
  refine ⟨fun hcursor => ?_, fun p hp => Nat.not_lt.mp fun hlt => hp ((hmem p).mpr (Or.inl hlt))⟩
  rcases (hmem g.cursor).mp hcursor with hlt | hwaits
  · exact absurd hlt (Nat.lt_irrefl _)
  · exact hnext hwaits

end Keeps

/-! ### Letting through all that can leave -/

/-- The moves that drain a gate: its items are asked for one after the other. -/
def draining (g : Gate α) : List (Move α) :=
  List.replicate g.drain.1.length .next

/-- **Draining a gate** is asking for items until there is none. -/
theorem drain_spec (g : Gate α) :
    g.events g.draining = g.drain.1.map (fun entry => .released entry.1 entry.2) ∧
      g.after g.draining = g.drain.2 ∧ g.drain.2.next = none := by
  rw [draining]
  fun_induction drain g with
  | case1 g hnext => exact ⟨rfl, rfl, hnext⟩
  | case2 g x g' hnext xs g'' hdrain ih =>
    rw [hdrain] at ih
    obtain ⟨hevents, hafter, hnone⟩ := ih
    rw [List.length_cons, List.replicate_succ, events, after, perform_next_of_some hnext]
    exact ⟨congrArg _ hevents, hafter, hnone⟩

/-- A gate that is drained accepts nothing on the way. -/
theorem accepted_draining (g : Gate α) : accepted (g.events g.draining) = [] := by
  rw [(drain_spec g).1, accepted, List.filterMap_map]
  exact List.filterMap_eq_nil_iff.mpr fun entry _ => rfl

/-! ### A closed gate -/

/-- Nothing is left of the gate. -/
structure IsClosed (g : Gate α) : Prop where
  cursor : g.cursor = g.size
  waiting : g.waiting = []

theorem isClosed_close (g : Gate α) : g.close.IsClosed :=
  ⟨rfl, rfl⟩

/-- Closing a closed gate passes over nothing. -/
theorem IsClosed.perform_close {g : Gate α} (h : g.IsClosed) :
    g.perform .close = (.closed [], g) := by
  obtain ⟨size, cursor, waiting⟩ := g
  obtain rfl : cursor = size := h.cursor
  obtain rfl : waiting = [] := h.waiting
  rw [Gate.perform, remaining, Nat.sub_self]
  rfl

/-- **A closed gate** stays as it is, whatever is done at it. -/
theorem IsClosed.perform {g : Gate α} (h : g.IsClosed) (move : Move α) :
    (g.perform move).2 = g ∧ (g.perform move).1.accepted? = none ∧
      (g.perform move).1.released? = none := by
  cases move with
  | offer p item =>
    rcases hoffer : g.offer p item with ⟨cause | _, g'⟩
    · rw [perform_offer_of_error hoffer]
      exact ⟨rfl, rfl, rfl⟩
    · obtain ⟨hp, hcursor, -⟩ := offer_eq_ok_iff.mp hoffer
      rw [h.cursor] at hcursor
      exact absurd hp (Nat.not_lt.mpr hcursor)
  | next =>
    have hnext : g.next = none := by
      rw [next_eq_none_iff, h.waiting]
      rfl
    rw [perform_next_of_none hnext]
    exact ⟨rfl, rfl, rfl⟩
  | close =>
    rw [h.perform_close]
    exact ⟨rfl, rfl, rfl⟩

/-- Behind a closed gate nothing is accepted and nothing let through any more. -/
theorem IsClosed.events {g : Gate α} (h : g.IsClosed) (moves : List (Move α)) :
    accepted (g.events moves) = [] ∧ released (g.events moves) = [] ∧ g.after moves = g := by
  induction moves with
  | nil => exact ⟨rfl, rfl, rfl⟩
  | cons move moves ih =>
    obtain ⟨hsame, haccepted, hreleased⟩ := h.perform move
    rw [Gate.events, Gate.after, hsame]
    refine ⟨?_, ?_, ih.2.2⟩
    · rw [accepted, List.filterMap_cons_none haccepted]
      exact ih.1
    · rw [released, List.filterMap_cons_none hreleased]
      exact ih.2.1

/-- **A gate that has been closed** at some time is closed. -/
theorem isClosed_after (g : Gate α) {moves : List (Move α)} (h : .close ∈ moves) :
    (g.after moves).IsClosed := by
  obtain ⟨front, rest, rfl, -⟩ := List.eq_append_cons_of_mem h
  obtain ⟨-, -, hsame⟩ := (g.after front).isClosed_close.events rest
  rw [after_append, after]
  change ((g.after front).close.after rest).IsClosed
  rw [hsame]
  exact (g.after front).isClosed_close

/-! ### Whole histories -/

/-- What waits stands between the cursor and the last position, whatever has been done. -/
theorem waiting_after_new (n : Nat) (moves : List (Move α)) :
    ∀ entry ∈ ((new n : Gate α).after moves).waiting,
      ((new n : Gate α).after moves).cursor ≤ entry.1 ∧ entry.1 < n := by
  by_cases hclose : .close ∈ moves
  · rw [(isClosed_after _ hclose).waiting]
    exact nofun
  · exact ((Keeps.start n).after hclose).waiting

/-- **Every position is let through once, or passed over once when the gate is closed**, whatever is
done at the gate and in whatever order. As long as it is open, the positions in front of the cursor
have been let through, in order, each one with the item that was accepted for it, and no second item
is ever accepted for a position. What waits stands at the cursor or behind. Draining the gate leaves
the cursor at the least position for which nothing was accepted, which is the end of the batch if
there is none. The first closing passes over exactly the positions from the cursor on, and behind it
nothing is accepted or let through any more. -/
theorem passes_in_order (n : Nat) {before : List (Move α)} (hopen : .close ∉ before) :
    let g := (new n : Gate α).after before
    let history := (new n : Gate α).events before
    (released history).map Prod.fst = List.range g.cursor ∧
    (∀ entry ∈ released history, entry ∈ accepted history) ∧
    ((accepted history).map Prod.fst).Nodup ∧
    (∀ moves, ∀ entry ∈ ((new n : Gate α).after moves).waiting,
      ((new n : Gate α).after moves).cursor ≤ entry.1 ∧ entry.1 < n) ∧
    ((g.after g.draining).next = none ∧ (g.after g.draining).cursor ≤ n ∧
      IsLeast {p | p ∉ (accepted history).map Prod.fst} (g.after g.draining).cursor) ∧
    ∀ rest, ∃ later,
      (new n : Gate α).events (before ++ .close :: rest) =
        history ++ .closed (List.range' g.cursor (n - g.cursor)) :: later ∧
      accepted later = [] ∧ released later = [] ∧
      (released history).map Prod.fst ++ List.range' g.cursor (n - g.cursor) = List.range n := by
  intro g history
  have hkeeps : Keeps n g history := (Keeps.start n).after hopen
  refine ⟨hkeeps.released, fun entry => hkeeps.mem_accepted, hkeeps.nodup_accepted,
    waiting_after_new n, ?drained, ?closed⟩
  case drained =>
    have hnext : (g.after g.draining).next = none := by
      rw [(drain_spec g).2.1]
      exact (drain_spec g).2.2
    have hdrained : Keeps n (g.after g.draining) (history ++ g.events g.draining) :=
      hkeeps.after fun hclose => nomatch List.eq_of_mem_replicate hclose
    refine ⟨hnext, hdrained.cursor, ?_⟩
    have hleast := hdrained.isLeast_cursor hnext
    rwa [accepted_append, accepted_draining, List.append_nil] at hleast
  case closed =>
    intro rest
    obtain ⟨haccepted, hreleased, -⟩ := g.isClosed_close.events rest
    refine ⟨g.close.events rest, ?_, haccepted, hreleased, ?_⟩
    · rw [events_append, events]
      change history ++ .closed (List.range' g.cursor (g.size - g.cursor)) :: _ = _
      rw [hkeeps.size]
      rfl
    · rw [hkeeps.released, List.range_eq_range', List.range_eq_range']
      have hrange := @List.range'_append_1 0 g.cursor (n - g.cursor)
      rwa [Nat.zero_add, Nat.add_sub_cancel' hkeeps.cursor] at hrange

/-- Items that are handed in for the last and the first one of three positions, a second one for the
last, and one for a position that there is not: the first is let through, and closing the gate
passes over the other two. -/
theorem passes_in_order_three :
    let before : List (Move Char) :=
      [.offer 2 'c', .next, .offer 0 'a', .offer 2 'd', .next, .next, .offer 3 'e']
    .close ∉ before ∧
      released ((new 3 : Gate Char).events before) = [(0, 'a')] ∧
      ∃ later, (new 3 : Gate Char).events (before ++ [.close, .offer 1 'b', .next]) =
        (new 3 : Gate Char).events before ++ .closed [1, 2] :: later ∧ released later = [] := by
  intro before
  have hopen : .close ∉ before := by simp [before]
  obtain ⟨-, -, -, -, -, hclosed⟩ := passes_in_order 3 hopen
  obtain ⟨later, hevents, -, hnone, -⟩ := hclosed [.offer 1 'b', .next]
  exact ⟨hopen, by decide, later, hevents, hnone⟩

end Gate

end MessageRelay
