/-!
# The ordering gate

Items are offered for positions of a batch in any order and leave in the order of the positions.
The gate (`MessageRelay.Gate`) keeps the position whose turn it is and the items that came early.
Closing it passes over all positions that are left, and nothing leaves it any more.
-/

namespace MessageRelay

/-- A gate that lets items through in the order of their positions. -/
structure Gate (α : Type) where
  /-- How many positions there are. -/
  size : Nat
  /-- The position whose turn it is. -/
  cursor : Nat
  /-- The items that wait for their turn, under their positions. -/
  waiting : List (Nat × α)

/-- Why an item is refused. -/
inductive GateError where
  /-- There is no such position. -/
  | outOfRange (position size : Nat)
  /-- The position has had its item, or has been passed over. -/
  | duplicate (position : Nat)
deriving DecidableEq

/-- The cause in words. -/
def GateError.message : GateError → String
  | outOfRange position size =>
    "position " ++ toString position ++ " is outside the batch of " ++ toString size
  | duplicate position => "position " ++ toString position ++ " was already offered"

namespace Gate

variable {α : Type}

/-- A gate at its first position, with nothing waiting. -/
def new (size : Nat) : Gate α :=
  ⟨size, 0, []⟩

/-- Whether an item waits for a position. -/
def holds (g : Gate α) (position : Nat) : Bool :=
  (g.waiting.lookup position).isSome

/-- Hands in the item for a position: whether it is accepted, and the gate behind it. -/
def offer (g : Gate α) (position : Nat) (item : α) : Except GateError Unit × Gate α :=
  if g.size ≤ position then (.error (.outOfRange position g.size), g)
  else if position < g.cursor ∨ g.holds position then (.error (.duplicate position), g)
  else (.ok (), { g with waiting := (position, item) :: g.waiting })

/-- Lets the item through whose turn it is, if it is there. -/
def next (g : Gate α) : Option ((Nat × α) × Gate α) :=
  (g.waiting.lookup g.cursor).map fun item =>
    ((g.cursor, item),
      { g with cursor := g.cursor + 1, waiting := g.waiting.filter (·.1 != g.cursor) })

/-- Whether every position has had its turn. -/
def isComplete (g : Gate α) : Bool :=
  g.cursor == g.size

/-- How many items wait. -/
def buffered (g : Gate α) : Nat :=
  g.waiting.length

/-- The positions that have not had their turn, in order. -/
def remaining (g : Gate α) : List Nat :=
  List.range' g.cursor (g.size - g.cursor)

/-- Passes over everything that is left. -/
def close (g : Gate α) : Gate α :=
  { g with cursor := g.size, waiting := [] }

/-- Looking up a position leaves fewer items waiting once its item is taken. -/
theorem length_waiting_next {g g' : Gate α} {x : Nat × α} (h : g.next = some (x, g')) :
    g'.waiting.length < g.waiting.length := by
  simp only [next, Option.map_eq_some_iff, Prod.mk.injEq] at h
  obtain ⟨item, hl, -, rfl⟩ := h
  obtain ⟨l₁, l₂, hw, -⟩ := List.lookup_eq_some_iff.1 hl
  have hlen := List.length_filter_le (fun p => p.1 != g.cursor) l₁
  have hlen' := List.length_filter_le (fun p => p.1 != g.cursor) l₂
  simp only [hw, List.filter_append, List.filter_cons, bne_self_eq_false, Bool.false_eq_true,
    if_false, List.length_append, List.length_cons]
  omega

/-- Everything that can leave now, in order, and the gate behind it. -/
def drain (g : Gate α) : List (Nat × α) × Gate α :=
  match _h : g.next with
  | none => ([], g)
  | some (x, g') =>
    let (xs, g'') := g'.drain
    (x :: xs, g'')
termination_by g.waiting.length
decreasing_by exact length_waiting_next (by assumption)

end Gate

end MessageRelay
