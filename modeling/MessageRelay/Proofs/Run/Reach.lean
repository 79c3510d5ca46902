import Mathlib.Data.List.Nodup
import Mathlib.Logic.Function.Basic
import MessageRelay.Run
import MessageRelay.Proofs.Gate
import MessageRelay.Proofs.Relay

/-!
# The states of a run's driver

The driver of a run does three things, one after the other and in whatever order the polls make
necessary: it learns that a poll has ended, it hands a result to the gate, and it takes the message
whose turn it is. `MessageRelay.Run.Reaches` says just that, and keeps book of what the gate has
been handed so far (`MessageRelay.Run.Handed`). It knows nothing of the order in which polls end.

What holds in every such state is one of three things (`MessageRelay.Run.Reaches.phase`):

| phase | what is settled |
|---|---|
| `MessageRelay.Run.Open` | the messages in front of the cursor, each by what the gate was handed |
| `MessageRelay.Run.Halted` | the same, but the relay at the cursor does not come to an end |
| `MessageRelay.Run.Aborted` | everything, the messages behind the first failure as aborted by it |

The whole point is `MessageRelay.Run.Series`: the messages that were not aborted are settled in
batch order, each one only when all messages in front of it are, and by nothing else than its own
result. Everything that is said elsewhere about reports and submissions is read off these phases.
-/

namespace MessageRelay

/-- What becomes of a message by its relay. -/
def Outcome.ofRelay : Except RelayError Hash → Outcome
  | .ok tx => relayed tx
  | .error e => relayFailed e.message

namespace Run

/-- What the gate has been handed: at each position, when the poll ended and its result. -/
abbrev Handed : Type := Nat → Option (Nat × Polled)

variable (c : RunConfig) (ledger : Ledger) (batch : Batch)

/-! ### Moves of the driver -/

/-- **The states that the driver gets into**, with what the gate has been handed by then. -/
inductive Reaches : Handed → State → Prop where
  /-- Nothing has happened yet. -/
  | start : Reaches (fun _ => none) (State.start batch.size)
  /-- A poll has ended. -/
  | learn {handed : Handed} {s : State} (instant : Nat) : Reaches handed s → s.halted = none →
      Reaches handed { s with now := max s.now instant, latest := instant }
  /-- The gate is handed the result of a message that has none yet. -/
  | offer {handed : Handed} {s : State} {position instant : Nat} {polled : Polled} :
      Reaches handed s → s.halted = none → s.aborted = false → position < batch.size →
      handed position = none → instant ≤ s.now →
      Reaches (Function.update handed position (some (instant, polled))) (s.offer position polled)
  /-- The message whose turn it is leaves the gate and is taken. -/
  | take {handed : Handed} {s : State} {position : Nat} {polled : Polled} {gate : Gate Polled} :
      Reaches handed s → s.halted = none → s.gate.next = some ((position, polled), gate) →
      Reaches handed ({ s with gate }.take c batch.keys (relayOn c ledger) position polled)

/-! ### Messages settled one after the other -/

/-- **How a result settles its message**: a failure at once, a final message by its relay. -/
inductive Settles (start : Nat) : Polled → Settlement → Prop where
  /-- A failed poll is the outcome. -/
  | failed (position : Nat) (outcome : Outcome) :
      Settles start (.failed outcome) ⟨position, outcome, start, []⟩
  /-- A relay that starts now and comes to a result gives the outcome. -/
  | relayed (position instant : Nat) (m : FinalizedMessage) (result : Except RelayError Hash) :
      (relayOn c ledger m start).ending = .result instant result →
      Settles start (.finalized m)
        ⟨position, Outcome.ofRelay result, instant, (relayOn c ledger m start).calls⟩

/-- **Messages settled in batch order**, each one by what the gate was handed for it, when its poll
had ended and all messages in front of it were settled. -/
inductive Series (handed : Handed) : List Settlement → Prop where
  /-- No message is settled yet. -/
  | nil : Series handed []
  /-- The next message is settled. -/
  | snoc {own : List Settlement} {st : Settlement} {instant start : Nat} {polled : Polled} :
      Series handed own → st.position = own.length →
      handed own.length = some (instant, polled) → instant ≤ start →
      (∀ earlier ∈ own, earlier.instant ≤ start) → Settles c ledger start polled st →
      Series handed (own ++ [st])

/-- The messages behind a failure, aborted by it. -/
def blocked (failure : Settlement) : List Settlement :=
  (List.range' (failure.position + 1) (batch.size - (failure.position + 1))).map fun p =>
    ⟨p, .aborted (batch.keys[failure.position]?.getD default), failure.instant, []⟩

variable {c ledger batch}

/-- The messages up to a failure come first. -/
theorem prefix_of_blocked {settled before : List Settlement} {failure : Settlement}
    (h : settled = before ++ failure :: blocked batch failure) :
    before ++ [failure] <+: settled :=
  ⟨blocked batch failure, by rw [h, List.append_assoc, List.singleton_append]⟩

/-- A settlement does not end before it starts, and its calls lie in between. -/
theorem Settles.bounds {start : Nat} {polled : Polled} {st : Settlement}
    (h : Settles c ledger start polled st) :
    start ≤ st.instant ∧ ∀ call ∈ st.calls, start ≤ call.start ∧ call.AnsweredBy st.instant := by
  cases h with
  | failed => exact ⟨Nat.le_refl start, fun call hcall => nomatch hcall⟩
  | relayed _ instant m result h =>
    obtain ⟨hle, hall⟩ := Relay.submit_answered ledger c.retry m.message start h
    exact ⟨hle, fun call hcall =>
      ⟨(Relay.submit_call ledger c.retry m.message start hcall).2, hall call hcall⟩⟩

namespace Series

variable {handed handed' : Handed} {own : List Settlement}

/-- A series stands when the gate is handed more. -/
theorem mono (h : Series c ledger handed own)
    (hle : ∀ p a, handed p = some a → handed' p = some a) : Series c ledger handed' own := by
  induction h with
  | nil => exact nil
  | snoc _ hpos hh hi he hst ih => exact ih.snoc hpos (hle _ _ hh) hi he hst

/-- **What a settlement of a series rests on.** -/
theorem get (h : Series c ledger handed own) {p : Nat} {st : Settlement} (hp : own[p]? = some st) :
    st.position = p ∧ ∃ instant polled start, handed p = some (instant, polled) ∧
      instant ≤ start ∧ (∀ earlier ∈ own.take p, earlier.instant ≤ start) ∧
      Settles c ledger start polled st := by
  induction h with
  | nil => exact nomatch hp
  | @snoc own st' instant start polled _ hpos hh hi he hst ih =>
    -- the message was settled before, or it is the one that is settled now
    rcases Nat.lt_trichotomy p own.length with hlt | rfl | hgt
    · rw [List.getElem?_append_left hlt] at hp
      rw [List.take_append_of_le_length (Nat.le_of_lt hlt)]
      exact ih hp
    · rw [List.getElem?_concat_length] at hp
      obtain rfl := Option.some.inj hp
      rw [List.take_append_of_le_length (Nat.le_refl _), List.take_length]
      exact ⟨hpos, instant, polled, start, hh, hi, he, hst⟩
    · rw [List.getElem?_eq_none (by rw [List.length_append]; exact hgt)] at hp
      exact nomatch hp

/-- The positions of a series are the first ones, in order. -/
theorem map_position (h : Series c ledger handed own) :
    own.map Settlement.position = List.range own.length := by
  refine List.ext_getElem? fun p => ?_
  rw [List.getElem?_map]
  cases hp : own[p]? with
  | none =>
    rw [List.getElem?_eq_none_iff] at hp
    rw [Option.map_none, List.getElem?_eq_none (by rw [List.length_range]; exact hp)]
  | some st =>
    obtain ⟨hlt, -⟩ := List.getElem?_eq_some_iff.mp hp
    rw [Option.map_some, (h.get hp).1, List.getElem?_range hlt]

/-- For every message of a series the gate has been handed something. -/
theorem handed_ne_none (h : Series c ledger handed own) {p : Nat} (hp : p < own.length) :
    handed p ≠ none := by
  obtain ⟨-, instant, polled, -, hh, -⟩ := h.get (List.getElem?_eq_getElem hp)
  rw [hh]
  exact Option.some_ne_none _

end Series

/-! ### The phases of a run -/

variable (c ledger batch)

/-- **What holds at all times**: the gate has a place for every message and has refused nothing, and
nothing that was handed to it or settled lies in the future. -/
structure Steady (handed : Handed) (s : State) : Prop where
  /-- There is a place for every message. -/
  size : s.gate.size = batch.size
  /-- The gate has refused nothing. -/
  accepted : s.refused = []
  /-- What was handed over belongs to a message whose poll has ended. -/
  handed_spec : ∀ p instant polled, handed p = some (instant, polled) →
    p < batch.size ∧ instant ≤ s.now
  /-- What is settled was settled before. -/
  settled_le : ∀ st ∈ s.settled, st.instant ≤ s.now

/-- **The gate is open**: the messages in front of the cursor are settled, and what was handed over
for the others waits. If failures abort the run, there has been none. -/
structure Open (handed : Handed) (s : State) : Prop extends Steady batch handed s where
  aborted : s.aborted = false
  halted : s.halted = none
  series : Series c ledger handed s.settled
  cursor : s.gate.cursor = s.settled.length
  waiting : ∀ p, s.gate.waiting.lookup p =
    if s.gate.cursor ≤ p then (handed p).map Prod.snd else none
  relayed : c.policy = .abortRemaining → ∀ st ∈ s.settled, st.outcome.isRelayed = true

/-- **A relay does not come to an end**: it is the relay of the message behind the settled ones. -/
structure Halted (handed : Handed) (s : State) : Prop extends Steady batch handed s where
  aborted : s.aborted = false
  series : Series c ledger handed s.settled
  stopped : ∃ instant start m, handed s.settled.length = some (instant, .finalized m) ∧
    instant ≤ start ∧ (∀ st ∈ s.settled, st.instant ≤ start) ∧
    s.halted = some (relayOn c ledger m start) ∧
    ∀ t result, (relayOn c ledger m start).ending ≠ .result t result
  relayed : c.policy = .abortRemaining → ∀ st ∈ s.settled, st.outcome.isRelayed = true

/-- **A failure has closed the gate**: the messages in front of it were relayed, and those behind it
are settled as aborted by it. -/
structure Aborted (handed : Handed) (s : State) : Prop extends Steady batch handed s where
  aborted : s.aborted = true
  halted : s.halted = none
  closed : s.gate.next = none
  policy : c.policy = .abortRemaining
  settled : ∃ before failure, Series c ledger handed (before ++ [failure]) ∧
    (∀ st ∈ before, st.outcome.isRelayed = true) ∧ failure.outcome.isRelayed = false ∧
    s.settled = before ++ failure :: blocked batch failure

variable {c ledger batch} {handed : Handed} {s : State}

/-- The messages of a series belong to the batch. -/
theorem Steady.length_le (h : Steady batch handed s) {own : List Settlement}
    (hown : Series c ledger handed own) : own.length ≤ batch.size := by
  rcases Nat.eq_zero_or_pos own.length with h0 | hpos
  · omega
  · cases hh : handed (own.length - 1) with
    | none => exact absurd hh (hown.handed_ne_none (by omega))
    | some a =>
      have := (h.handed_spec _ a.1 a.2 hh).1
      omega

/-- Time may pass. -/
theorem Steady.later (h : Steady batch handed s) {s' : State} (hgate : s'.gate.size = s.gate.size)
    (hrefused : s'.refused = s.refused) (hsettled : s'.settled = s.settled)
    (hnow : s.now ≤ s'.now) :
    Steady batch handed s' where
  size := hgate.trans h.size
  accepted := hrefused.trans h.accepted
  handed_spec p instant polled hp :=
    ⟨(h.handed_spec p instant polled hp).1,
      Nat.le_trans (h.handed_spec p instant polled hp).2 hnow⟩
  settled_le st hst := Nat.le_trans (h.settled_le st (hsettled ▸ hst)) hnow

/-- A halted run is not to be taken for another one. -/
theorem Halted.halted_ne_none (h : Halted c ledger batch handed s) : s.halted ≠ none := by
  obtain ⟨_, _, _, -, -, -, hsome, -⟩ := h.stopped
  rw [hsome]
  exact Option.some_ne_none _

/-- At the start the gate is open. -/
theorem Open.start : Open c ledger batch (fun _ => none) (State.start batch.size) where
  size := rfl
  accepted := rfl
  handed_spec := nofun
  settled_le := nofun
  aborted := rfl
  halted := rfl
  series := .nil
  cursor := rfl
  waiting p := by split <;> rfl
  relayed _ := nofun

/-- Learning of a poll's end leaves an open gate as it is. -/
theorem Open.learn (h : Open c ledger batch handed s) (instant : Nat) :
    Open c ledger batch handed { s with now := max s.now instant, latest := instant } where
  toSteady := h.toSteady.later rfl rfl rfl (Nat.le_max_left _ _)
  aborted := h.aborted
  halted := h.halted
  series := h.series
  cursor := h.cursor
  waiting := h.waiting
  relayed := h.relayed

/-- The end of a poll changes nothing either once the run is aborted. -/
theorem Aborted.learn (h : Aborted c ledger batch handed s) (instant : Nat) :
    Aborted c ledger batch handed { s with now := max s.now instant, latest := instant } where
  toSteady := h.toSteady.later rfl rfl rfl (Nat.le_max_left _ _)
  aborted := h.aborted
  halted := h.halted
  closed := h.closed
  policy := h.policy
  settled := h.settled

/-- **An open gate accepts a result** for a message that has none. -/
theorem Open.offer_eq (h : Open c ledger batch handed s) {position : Nat} {polled : Polled}
    (hlt : position < batch.size) (hnone : handed position = none) :
    s.offer position polled =
      { s with gate := { s.gate with waiting := (position, polled) :: s.gate.waiting } } := by
  have hcursor : s.gate.cursor ≤ position := by
    by_contra hc
    exact h.series.handed_ne_none (h.cursor ▸ Nat.lt_of_not_le hc) hnone
  have hwaiting : s.gate.waiting.lookup position = none := by
    rw [h.waiting, hnone, Option.map_none, ite_self]
  rw [State.offer, Gate.offer_eq_ok (h.size ▸ hlt) hcursor hwaiting]

/-- What the gate had been handed it keeps when it is handed more. -/
theorem handed_update {position : Nat} {a : Nat × Polled} (hnone : handed position = none) (p : Nat)
    (b : Nat × Polled) (hp : handed p = some b) :
    Function.update handed position (some a) p = some b := by
  rw [Function.update_of_ne, hp]
  rintro rfl
  exact nomatch hnone.symm.trans hp

/-- **Handing over a result** keeps the gate open. -/
theorem Open.offer (h : Open c ledger batch handed s) {position instant : Nat} {polled : Polled}
    (hlt : position < batch.size) (hnone : handed position = none) (hle : instant ≤ s.now) :
    Open c ledger batch (Function.update handed position (some (instant, polled)))
      (s.offer position polled) := by
  rw [h.offer_eq hlt hnone]
  refine ⟨⟨h.size, h.accepted, ?_, h.settled_le⟩, h.aborted, h.halted,
    h.series.mono (handed_update hnone), h.cursor, ?_, h.relayed⟩
  · intro p instant' polled' hp
    rcases eq_or_ne p position with rfl | hne
    · rw [Function.update_self, Option.some.injEq, Prod.mk.injEq] at hp
      obtain ⟨rfl, rfl⟩ := hp
      exact ⟨hlt, hle⟩
    · rw [Function.update_of_ne hne] at hp
      exact h.handed_spec p instant' polled' hp
  · intro p
    rcases eq_or_ne p position with rfl | hne
    · have hcursor : s.gate.cursor ≤ p := by
        by_contra hc
        exact h.series.handed_ne_none (h.cursor ▸ Nat.lt_of_not_le hc) hnone
      rw [List.lookup_cons_self, Function.update_self, if_pos hcursor]
      rfl
    · rw [List.lookup_cons, beq_false_of_ne hne, Function.update_of_ne hne]
      exact h.waiting p

/-- **The message whose turn it is** is the first one that is not settled, and what leaves the gate
is what was handed over for it. -/
theorem Open.next (h : Open c ledger batch handed s) {position : Nat} {polled : Polled}
    {gate : Gate Polled} (hnext : s.gate.next = some ((position, polled), gate)) :
    position = s.settled.length ∧
      (∃ instant, handed s.settled.length = some (instant, polled) ∧ instant ≤ s.now) ∧
      gate.size = s.gate.size ∧ gate.cursor = s.settled.length + 1 ∧
      ∀ p, gate.waiting.lookup p = if gate.cursor ≤ p then (handed p).map Prod.snd else none := by
  obtain ⟨rfl, hitem, rfl⟩ := Gate.next_eq_some_iff.mp hnext
  refine ⟨h.cursor, ?_, rfl, congrArg (· + 1) h.cursor, fun p => ?_⟩
  · rw [h.waiting, if_pos (Nat.le_refl _), Option.map_eq_some_iff, h.cursor] at hitem
    obtain ⟨⟨instant, polled'⟩, hh, rfl⟩ := hitem
    exact ⟨instant, hh, (h.handed_spec _ _ _ hh).2⟩
  · rw [Gate.lookup_filter_bne, h.waiting]
    split
    · rw [if_neg (by dsimp only; omega)]
    · refine if_congr ?_ rfl rfl
      dsimp only
      omega

/-- A failure closes the gate if failures abort the run. -/
theorem settle_of_failure {keys : List MessageKey} {position : Nat} {outcome : Outcome}
    {calls : List LedgerCall} (hout : outcome.isRelayed = false)
    (hpolicy : c.policy = .abortRemaining) :
    s.settle c keys position outcome calls =
      ({ s with settled := s.settled ++ [⟨position, outcome, s.now, calls⟩] } :
        State).abortBehind keys position := by
  have hif : (!outcome.isRelayed && c.policy == .abortRemaining) = true := by
    rw [hout, hpolicy]
    rfl
  rw [State.settle, if_pos hif]

/-- Otherwise the message is settled and that is all. -/
theorem settle_of_not_failure {keys : List MessageKey} {position : Nat} {outcome : Outcome}
    {calls : List LedgerCall}
    (hgo : ¬(outcome.isRelayed = false ∧ c.policy = .abortRemaining)) :
    s.settle c keys position outcome calls =
      { s with settled := s.settled ++ [⟨position, outcome, s.now, calls⟩] } := by
  have hif : ¬(!outcome.isRelayed && c.policy == .abortRemaining) = true := by
    rw [Bool.and_eq_true, Bool.not_eq_true', beq_iff_eq]
    exact hgo
  rw [State.settle, if_neg hif]

/-- **Settling the message whose turn it is** leaves the gate open, or it is the first failure and
closes it. -/
theorem Open.settle (h : Open c ledger batch handed s) {position now' : Nat} {polled : Polled}
    {gate : Gate Polled} {outcome : Outcome} {calls : List LedgerCall}
    (events : List Metrics.Event) (hnext : s.gate.next = some ((position, polled), gate))
    (hst : Settles c ledger s.now polled ⟨position, outcome, now', calls⟩) :
    let s' : State := { s with gate, now := now', events }
    Open c ledger batch handed (s'.settle c batch.keys position outcome calls) ∨
      Aborted c ledger batch handed (s'.settle c batch.keys position outcome calls) := by
  intro s'
  obtain ⟨rfl, ⟨instant, hh, hle⟩, hsize, hcursor, hwaiting⟩ := h.next hnext
  have hnow : s.now ≤ now' := hst.bounds.1
  have hseries : Series c ledger handed (s.settled ++ [⟨s.settled.length, outcome, now', calls⟩]) :=
    h.series.snoc rfl hh hle h.settled_le hst
  have hlater : ∀ st ∈ s.settled ++ [⟨s.settled.length, outcome, now', calls⟩],
      st.instant ≤ now' := by
    intro st hst
    rcases List.mem_append.mp hst with hst | hst
    · exact Nat.le_trans (h.settled_le st hst) hnow
    · obtain rfl := List.mem_singleton.mp hst
      exact Nat.le_refl now'
  have hhanded : ∀ p instant polled, handed p = some (instant, polled) →
      p < batch.size ∧ instant ≤ now' := fun p instant polled hp =>
    ⟨(h.handed_spec p instant polled hp).1,
      Nat.le_trans (h.handed_spec p instant polled hp).2 hnow⟩
  have hlength : s.settled.length + 1 = (s.settled ++
      [(⟨s.settled.length, outcome, now', calls⟩ : Settlement)]).length := by
    rw [List.length_append, List.length_singleton]
  by_cases hfail : outcome.isRelayed = false ∧ c.policy = .abortRemaining
  · -- the first failure
    right
    obtain ⟨hout, hpolicy⟩ := hfail
    rw [settle_of_failure hout hpolicy, State.abortBehind]
    refine ⟨⟨hsize.trans h.size, h.accepted, hhanded, ?_⟩, rfl, h.halted, Gate.next_close _,
      hpolicy, s.settled, ⟨s.settled.length, outcome, now', calls⟩, hseries, h.relayed hpolicy,
      hout, ?_⟩
    · intro st hst
      rcases List.mem_append.mp hst with hst | hst
      · exact hlater st hst
      · obtain ⟨p, -, rfl⟩ := List.mem_map.mp hst
        exact Nat.le_refl now'
    · rw [List.append_assoc, List.singleton_append, Gate.remaining, hcursor, hsize, h.size]
      rfl
  · left
    rw [settle_of_not_failure hfail]
    refine ⟨⟨hsize.trans h.size, h.accepted, hhanded, hlater⟩, h.aborted, h.halted, hseries,
      hcursor.trans hlength, hwaiting, fun hpolicy st hst => ?_⟩
    rcases List.mem_append.mp hst with hst | hst
    · exact h.relayed hpolicy st hst
    · rw [List.mem_singleton.mp hst]
      exact (Bool.not_eq_false _).mp fun hout => hfail ⟨hout, hpolicy⟩

variable (c ledger batch) in
/-- **What taking a message does**: it is settled by its result at the instant at which that is
there, or its relay does not come to an end and halts the run. -/
theorem take_cases (s : State) (position : Nat) (polled : Polled) :
    (∃ st events, st.position = position ∧ Settles c ledger s.now polled st ∧
      s.take c batch.keys (relayOn c ledger) position polled =
        ({ s with now := st.instant, events } : State).settle c batch.keys position st.outcome
          st.calls) ∨
      ∃ m now' events, polled = .finalized m ∧ s.now ≤ now' ∧
        (∀ t result, (relayOn c ledger m s.now).ending ≠ .result t result) ∧
        s.take c batch.keys (relayOn c ledger) position polled =
          { s with now := now', halted := some (relayOn c ledger m s.now), events } := by
  cases polled with
  | failed outcome =>
    exact Or.inl ⟨⟨position, outcome, s.now, []⟩, s.events, rfl, .failed position outcome, rfl⟩
  | finalized m =>
    cases hend : (relayOn c ledger m s.now).ending with
    | result now' result =>
      refine Or.inl ⟨⟨position, Outcome.ofRelay result, now', (relayOn c ledger m s.now).calls⟩,
        s.events ++ (relayOn c ledger m s.now).events, rfl,
        .relayed position now' m result hend, ?_⟩
      simp only [State.take, hend]
      cases result <;> rfl
    | death now' =>
      refine Or.inr ⟨m, now', s.events ++ (relayOn c ledger m s.now).events, rfl,
        Relay.le_of_submit_death ledger c.retry m.message s.now hend,
        fun t result => by rw [hend]; exact nofun, ?_⟩
      simp only [State.take, hend]
    | stuck =>
      refine Or.inr ⟨m, s.now, s.events ++ (relayOn c ledger m s.now).events, rfl,
        Nat.le_refl s.now, fun t result => by rw [hend]; exact nofun, ?_⟩
      simp only [State.take, hend]

/-- **Taking the message whose turn it is** settles it, or its relay does not come to an end. -/
theorem Open.take (h : Open c ledger batch handed s) {position : Nat} {polled : Polled}
    {gate : Gate Polled} (hnext : s.gate.next = some ((position, polled), gate)) :
    let s' := ({ s with gate } : State).take c batch.keys (relayOn c ledger) position polled
    Open c ledger batch handed s' ∨ Halted c ledger batch handed s' ∨
      Aborted c ledger batch handed s' := by
  intro s'
  rcases take_cases c ledger batch { s with gate } position polled with
    ⟨⟨_, outcome, now', calls⟩, events, rfl, hst, hs'⟩ | ⟨m, now', events, rfl, hnow, hne, hs'⟩
  · simp only [s', hs']
    exact (h.settle events hnext hst).imp_right Or.inr
  · -- a relay without a result halts the run where it stands, whatever the clock says by then
    obtain ⟨rfl, ⟨instant, hh, hle⟩, hsize, -, -⟩ := h.next hnext
    simp only [s', hs']
    exact Or.inr (Or.inl ⟨h.toSteady.later hsize rfl rfl hnow, h.aborted, h.series,
      ⟨instant, s.now, m, hh, hle, h.settled_le, rfl, hne⟩, h.relayed⟩)

/-- **In every state of the driver the gate is open, a relay does not come to an end, or a failure
has closed the gate.** -/
theorem Reaches.phase (h : Reaches c ledger batch handed s) :
    Open c ledger batch handed s ∨ Halted c ledger batch handed s ∨
      Aborted c ledger batch handed s := by
  -- all moves are those of an open gate, except that time may pass when the run is aborted
  induction h with
  | start => exact Or.inl Open.start
  | learn instant _ hhalted ih =>
    rcases ih with h | h | h
    · exact Or.inl (h.learn instant)
    · exact absurd hhalted h.halted_ne_none
    · exact Or.inr (Or.inr (h.learn instant))
  | offer _ hhalted haborted hlt hnone hle ih =>
    rcases ih with h | h | h
    · exact Or.inl (h.offer hlt hnone hle)
    · exact absurd hhalted h.halted_ne_none
    · exact nomatch haborted.symm.trans h.aborted
  | take _ hhalted hnext ih =>
    rcases ih with h | h | h
    · exact h.take hnext
    · exact absurd hhalted h.halted_ne_none
    · exact nomatch hnext.symm.trans h.closed

/-- As long as nothing halts or aborts the run, the gate is open. -/
theorem Reaches.open_of (h : Reaches c ledger batch handed s) (hhalted : s.halted = none)
    (haborted : s.aborted = false) : Open c ledger batch handed s := by
  rcases h.phase with h | h | h
  · exact h
  · exact absurd hhalted h.halted_ne_none
  · exact nomatch haborted.symm.trans h.aborted

/-- What halts a run is a relay that does not come to an end. -/
theorem Reaches.halted_of (h : Reaches c ledger batch handed s) {relay : RelayTrace}
    (hhalted : s.halted = some relay) : Halted c ledger batch handed s := by
  rcases h.phase with h | h | h
  · exact nomatch hhalted.symm.trans h.halted
  · exact h
  · exact nomatch hhalted.symm.trans h.halted

/-- A run that is aborted has not been halted. -/
theorem Reaches.halted_of_aborted (h : Reaches c ledger batch handed s)
    (haborted : s.aborted = true) : s.halted = none := by
  rcases h.phase with h | h | h
  · exact h.halted
  · exact nomatch haborted.symm.trans h.aborted
  · exact h.halted

/-- Whatever the phase, nothing was refused. -/
theorem Reaches.steady (h : Reaches c ledger batch handed s) : Steady batch handed s := by
  rcases h.phase with h | h | h
  · exact h.toSteady
  · exact h.toSteady
  · exact h.toSteady

end Run

end MessageRelay
