import MessageRelay.Proofs.Run.Clock

/-!
# The driver never idles

A message can be settled when its poll has ended and the message in front of it is settled. That it
is settled no earlier is the order of the gate; that it is settled *at* the later of those two
instants is what this module is about. So the instants at which messages are settled follow from
the ends of the polls and the lengths of the relays alone, by a recurrence over the positions
(`MessageRelay.Run.Punctual`).

While the driver is in a relay, ends of polls pile up that it has not learned of yet, and it learns
of them only at the instant at which the relay is over. The whole point is that no time is lost by
that. What carries the argument is `MessageRelay.Run.OnTime.turn`: whenever an item waits at the
cursor, the clock stands at the later of the end of its poll and the last settlement. It holds when
the item is handed in, since the driver is told of the polls in the order of their ends, and it
holds behind every settlement, since then everything that waits has arrived by then.

A poll that dies is no part of this: its message is settled by the repair, when all polls have
ended.
-/

namespace MessageRelay

namespace Run

/-! ### The messages that the gate reaches -/

/-- The messages up to the first one that is not relayed, that one included. -/
def upToFailure : List Settlement → List Settlement
  | [] => []
  | st :: rest => if st.outcome.isRelayed then st :: upToFailure rest else [st]

/-- **The messages that the gate has reached**: all that are settled, or, if failures abort the run,
those up to the first failure. -/
def State.reached (c : RunConfig) (s : State) : List Settlement :=
  match c.policy with
  | .abortRemaining => upToFailure s.settled
  | .skipAndContinue => s.settled

theorem upToFailure_of_relayed {own : List Settlement}
    (h : ∀ st ∈ own, st.outcome.isRelayed = true) : upToFailure own = own := by
  induction own with
  | nil => rfl
  | cons st own ih =>
    obtain ⟨hst, hown⟩ := List.forall_mem_cons.mp h
    rw [upToFailure, if_pos hst, ih hown]

theorem upToFailure_of_failure {before behind : List Settlement} {failure : Settlement}
    (hbefore : ∀ st ∈ before, st.outcome.isRelayed = true)
    (hfailure : failure.outcome.isRelayed = false) :
    upToFailure (before ++ failure :: behind) = before ++ [failure] := by
  induction before with
  | nil =>
    rw [List.nil_append, upToFailure, if_neg (by rw [hfailure]; exact Bool.false_ne_true)]
    rfl
  | cons st before ih =>
    obtain ⟨hst, hbefore⟩ := List.forall_mem_cons.mp hbefore
    rw [List.cons_append, upToFailure, if_pos hst, ih hbefore, List.cons_append]

variable {c : RunConfig} {ledger : Ledger} {batch : Batch} {handed : Handed} {s : State}
  {done : List Completion}

/-- Without a failure that aborts the run all messages are reached. -/
theorem reached_of_relayed
    (h : c.policy = .abortRemaining → ∀ st ∈ s.settled, st.outcome.isRelayed = true) :
    s.reached c = s.settled := by
  cases hpolicy : c.policy with
  | abortRemaining => rw [State.reached, hpolicy]; exact upToFailure_of_relayed (h hpolicy)
  | skipAndContinue => rw [State.reached, hpolicy]

/-- If the run is aborted, those up to the failure are. -/
theorem reached_of_failure (hpolicy : c.policy = .abortRemaining)
    {before behind : List Settlement} {failure : Settlement}
    (hbefore : ∀ st ∈ before, st.outcome.isRelayed = true)
    (hfailure : failure.outcome.isRelayed = false)
    (hsettled : s.settled = before ++ failure :: behind) :
    s.reached c = before ++ [failure] := by
  rw [State.reached, hpolicy, hsettled]
  exact upToFailure_of_failure hbefore hfailure

/-! ### Messages settled on time -/

variable (c ledger) in
/-- **Messages settled on time**: each one by the result of its poll, from the instant on at which
the poll had ended and the message in front of it was settled. -/
def Punctual (done : List Completion) (own : List Settlement) : Prop :=
  ∀ p st, own[p]? = some st → st.position = p ∧ ∃ ended polled,
    ⟨ended, p, some polled⟩ ∈ done ∧
      Settles c ledger (max ended (lastSettled (own.take p))) polled st

namespace Punctual

variable {own : List Settlement} {st : Settlement}

theorem nil : Punctual c ledger done [] :=
  fun _ _ hp => nomatch hp

/-- The ends of more polls make no difference. -/
theorem mono (h : Punctual c ledger done own) {done' : List Completion}
    (hsub : ∀ d ∈ done, d ∈ done') : Punctual c ledger done' own := by
  intro p st hp
  obtain ⟨hpos, ended, polled, hmem, hst⟩ := h p st hp
  exact ⟨hpos, ended, polled, hsub _ hmem, hst⟩

/-- The next message is settled on time. -/
theorem concat (h : Punctual c ledger done own) {ended : Nat} {polled : Polled}
    (hpos : st.position = own.length) (hmem : ⟨ended, own.length, some polled⟩ ∈ done)
    (hst : Settles c ledger (max ended (lastSettled own)) polled st) :
    Punctual c ledger done (own ++ [st]) := by
  intro p st' hp
  -- the message was settled before, or it is the one that is settled now
  rcases Nat.lt_trichotomy p own.length with hlt | rfl | hgt
  · rw [List.getElem?_append_left hlt] at hp
    rw [List.take_append_of_le_length (Nat.le_of_lt hlt)]
    exact h p st' hp
  · rw [List.getElem?_concat_length] at hp
    obtain rfl := Option.some.inj hp
    rw [List.take_append_of_le_length (Nat.le_refl _), List.take_length]
    exact ⟨hpos, ended, polled, hmem, hst⟩
  · rw [List.getElem?_eq_none (by rw [List.length_append]; exact hgt)] at hp
    exact nomatch hp

/-- The messages in front are settled on time. -/
theorem of_concat (h : Punctual c ledger done (own ++ [st])) :
    Punctual c ledger done own ∧ lastSettled own ≤ st.instant := by
  constructor
  · intro p st' hp
    obtain ⟨hlt, -⟩ := List.getElem?_eq_some_iff.mp hp
    have hget := h p st' (by rw [List.getElem?_append_left hlt, hp])
    rw [List.take_append_of_le_length (Nat.le_of_lt hlt)] at hget
    exact hget
  · obtain ⟨-, ended, polled, -, hst⟩ := h own.length st List.getElem?_concat_length
    rw [List.take_append_of_le_length (Nat.le_refl _), List.take_length] at hst
    exact Nat.le_trans (Nat.le_max_right _ _) hst.bounds.1

/-- The last message is the last one to be settled. -/
theorem latestOf_eq (h : Punctual c ledger done own) :
    latestOf (own.map Settlement.instant) = lastSettled own := by
  induction own using List.reverseRecOn with
  | nil => rfl
  | append_singleton own st ih =>
    obtain ⟨hown, hle⟩ := h.of_concat
    rw [List.map_append, List.map_singleton, latestOf_concat, ih hown, lastSettled_concat,
      Nat.max_eq_right hle]

end Punctual

/-! ### States of the driver that are on time -/

variable (c ledger) in
/-- **The driver is on time**: what the gate has reached was settled on time, and if there is an
item at the cursor then this is the instant at which it can be taken first. A relay that halts the
run was started on time, too. -/
structure OnTime (done : List Completion) (s : State) : Prop where
  /-- What is settled was settled on time. -/
  punctual : Punctual c ledger done (s.reached c)
  /-- What waits at the cursor can be taken now, and not before. -/
  turn : s.halted = none → s.aborted = false → ∀ polled,
    s.gate.waiting.lookup s.gate.cursor = some polled → ∃ ended,
      ⟨ended, s.settled.length, some polled⟩ ∈ done ∧ s.now = max ended (lastSettled s.settled)
  /-- The relay that does not come to an end was started on time. -/
  stopped : ∀ relay, s.halted = some relay → ∃ ended m,
    ⟨ended, s.settled.length, some (.finalized m)⟩ ∈ done ∧
      relay = relayOn c ledger m (max ended (lastSettled s.settled))

/-- The ends of more polls make no difference. -/
theorem OnTime.mono (h : OnTime c ledger done s) {done' : List Completion}
    (hsub : ∀ d ∈ done, d ∈ done') : OnTime c ledger done' s where
  punctual := h.punctual.mono hsub
  turn hs haborted polled hp := by
    obtain ⟨ended, hmem, hnow⟩ := h.turn hs haborted polled hp
    exact ⟨ended, hsub _ hmem, hnow⟩
  stopped relay hrelay := by
    obtain ⟨ended, m, hmem, heq⟩ := h.stopped relay hrelay
    exact ⟨ended, m, hsub _ hmem, heq⟩

/-- If nothing can leave the gate, nothing is late. -/
theorem OnTime.of_idle (hpunctual : Punctual c ledger done (s.reached c)) (hs : s.halted = none)
    (hnext : s.gate.next = none) : OnTime c ledger done s where
  punctual := hpunctual
  turn _ _ _ hp := nomatch (Gate.next_eq_none_iff.mp hnext).symm.trans hp
  stopped _ hsome := nomatch hs.symm.trans hsome

/-- Behind a settlement everything that waits has arrived. -/
theorem Open.onTime (h : Open c ledger batch handed s)
    (hfrom : ∀ p ended polled, handed p = some (ended, polled) → ⟨ended, p, some polled⟩ ∈ done)
    (hpunctual : Punctual c ledger done s.settled) (hnow : s.now = lastSettled s.settled) :
    OnTime c ledger done s where
  punctual := by
    rw [reached_of_relayed h.relayed]
    exact hpunctual
  turn _ _ polled hp := by
    rw [h.waiting, if_pos (Nat.le_refl _), h.cursor, Option.map_eq_some_iff] at hp
    obtain ⟨⟨ended, polled'⟩, hh, rfl⟩ := hp
    refine ⟨ended, hfrom _ _ _ hh, ?_⟩
    rw [← hnow, Nat.max_eq_right (h.handed_spec _ _ _ hh).2]
  stopped _ hsome := nomatch h.halted.symm.trans hsome

/-- **A step on time**: the message whose turn it is, is taken at the first instant at which it can
be, and behind it the driver is still on time. -/
theorem Open.onTime_take (h : Open c ledger batch handed s)
    (hfrom : ∀ p ended polled, handed p = some (ended, polled) → ⟨ended, p, some polled⟩ ∈ done)
    (hon : OnTime c ledger done s) {position : Nat} {polled : Polled} {gate : Gate Polled}
    (hnext : s.gate.next = some ((position, polled), gate)) :
    OnTime c ledger done
      (({ s with gate } : State).take c batch.keys (relayOn c ledger) position polled) := by
  obtain ⟨rfl, hitem, -⟩ := Gate.next_eq_some_iff.mp hnext
  obtain ⟨ended, hmem, hnow⟩ := hon.turn h.halted h.aborted polled hitem
  have hpunctual : Punctual c ledger done s.settled :=
    reached_of_relayed h.relayed ▸ hon.punctual
  rcases take_cases c ledger batch { s with gate } s.gate.cursor polled with
    ⟨st, events, hpos, hst, htake⟩ | ⟨m, now', events, rfl, -, -, htake⟩
  · have hsettled : Punctual c ledger done (s.settled ++ [st]) :=
      hpunctual.concat (hpos.trans h.cursor) hmem (by rw [← hnow]; exact hst)
    obtain ⟨_, outcome, instant, calls⟩ := st
    obtain rfl : _ = s.gate.cursor := hpos
    by_cases hfail : outcome.isRelayed = false ∧ c.policy = .abortRemaining
    · -- the first failure, behind which nothing leaves the gate any more
      rw [htake, settle_of_failure hfail.1 hfail.2, State.abortBehind]
      refine .of_idle ?_ h.halted (Gate.next_close _)
      rw [reached_of_failure hfail.2 (h.relayed hfail.2) hfail.1 (by
        dsimp only
        rw [List.append_assoc, List.singleton_append])]
      exact hsettled
    · have hopen := (h.settle events hnext hst).resolve_right fun habort => by
        have haborted := habort.aborted
        rw [settle_of_not_failure hfail] at haborted
        exact absurd (h.aborted.symm.trans haborted) Bool.false_ne_true
      rw [htake]
      rw [settle_of_not_failure hfail] at hopen ⊢
      refine hopen.onTime hfrom hsettled ?_
      dsimp only
      rw [lastSettled_concat]
  · rw [htake]
    refine ⟨?_, fun hnone => absurd hnone (Option.some_ne_none _), fun relay hrelay => ?_⟩
    · rw [reached_of_relayed (by exact h.relayed)]
      exact hpunctual
    · obtain rfl := Option.some.inj hrelay
      refine ⟨ended, m, hmem, ?_⟩
      dsimp only
      rw [hnow]

/-- **A whole release is on time.** -/
theorem Reaches.onTime_release (h : Reaches c ledger batch handed s)
    (hfrom : ∀ p ended polled, handed p = some (ended, polled) → ⟨ended, p, some polled⟩ ∈ done)
    (hon : OnTime c ledger done s) :
    OnTime c ledger done (s.release c batch.keys (relayOn c ledger)) := by
  refine (releaseUpTo_induction (P := fun s => Reaches c ledger batch handed s ∧
    OnTime c ledger done s) ⟨h, hon⟩ ?_ _).2
  rintro s position polled gate ⟨h, hon⟩ hhalted hnext
  have haborted : s.aborted = false := by
    rcases h.phase with hphase | hphase | hphase
    · exact hphase.aborted
    · exact hphase.aborted
    · exact nomatch hnext.symm.trans hphase.closed
  exact ⟨h.take hhalted hnext, (h.open_of hhalted haborted).onTime_take hfrom hon hnext⟩

/-! ### The driver -/

/-- Between two completions nothing is left whose turn it is, unless a relay halts the run. -/
theorem drive_next (done : List Completion) :
    (drive c batch.keys (relayOn c ledger) done).halted.isSome = true ∨
      (drive c batch.keys (relayOn c ledger) done).gate.next = none := by
  induction done using List.reverseRecOn with
  | nil => exact Or.inr rfl
  | append_singleton done d ih =>
    rw [drive_append_singleton]
    rcases step_cases (drive c batch.keys (relayOn c ledger) done) d with
      ⟨-, hstep⟩ | ⟨-, -, hstep⟩ | ⟨-, -, polled, -, hstep⟩
    · rw [hstep]
      exact ih
    · rw [hstep]
      exact ih
    · rw [hstep]
      exact release_next _

/-- **A result that arrives last is on time**: the driver learns of it when it arrives, or when the
relay is over that has kept the driver busy. -/
theorem Arrivals.onTime_offer {d : Completion} (h : Arrivals c ledger batch (done ++ [d]))
    (hlast : ∀ e ∈ done, e.instant ≤ d.instant)
    (hon : OnTime c ledger done (drive c batch.keys (relayOn c ledger) done))
    (hhalted : (drive c batch.keys (relayOn c ledger) done).halted = none)
    (haborted : (drive c batch.keys (relayOn c ledger) done).aborted = false)
    {polled : Polled} (hpolled : d.polled = some polled) :
    let s := drive c batch.keys (relayOn c ledger) done
    OnTime c ledger (done ++ [d])
      ((({ s with now := max s.now d.instant, latest := d.instant } : State).offer d.position
        polled).release c batch.keys (relayOn c ledger)) := by
  intro s
  obtain ⟨handed, hreach, hfrom, -⟩ :=
    (h.sublist (List.sublist_append_left done [d])).exists_drive
  obtain ⟨-, hoffered, hfrom'⟩ := h.offer_last hreach hfrom hhalted haborted hpolled
  have hopen : Open c ledger batch handed s := hreach.open_of hhalted haborted
  have hnext : s.gate.next = none :=
    (drive_next done).resolve_left (by rw [hhalted]; exact Bool.false_ne_true)
  -- the clock stands at the last settlement, or at an end that came before this one
  have hclock : s.now = max (latestOf (done.map Completion.instant)) (lastSettled s.settled) :=
    (clocked_iff_of_not_cancelled (by rw [haborted, Bool.false_and])).mp (drive_clock hhalted)
  have hlatest : latestOf (done.map Completion.instant) ≤ d.instant := by
    rw [latestOf_le_iff, List.forall_mem_map]
    exact hlast
  refine hoffered.onTime_release hfrom' ⟨?punctual, ?turn, ?stopped⟩
  case punctual =>
    rw [State.reached, settled_offer]
    exact hon.punctual.mono fun e he => List.mem_append_left [d] he
  case turn =>
    intro hhalted' haborted' polled' hp
    have hopen' := hoffered.open_of hhalted' haborted'
    rw [hopen'.waiting, if_pos (Nat.le_refl _), hopen'.cursor] at hp
    rw [settled_offer] at hp ⊢
    rw [(offer_frame _ _ _).1]
    obtain ⟨⟨ended, polled''⟩, hh, rfl⟩ := Option.map_eq_some_iff.mp hp
    have hmem := hfrom' _ _ _ hh
    by_cases hturn : s.settled.length = d.position
    · rw [hturn, Function.update_self] at hh
      obtain ⟨rfl, -⟩ := Prod.mk.inj (Option.some.inj hh)
      refine ⟨d.instant, hmem, ?_⟩
      dsimp only
      rw [hclock, Nat.max_right_comm, Nat.max_eq_right hlatest]
    · -- nothing has been waiting at the cursor
      rw [Function.update_of_ne hturn] at hh
      rw [Gate.next_eq_none_iff, hopen.waiting, if_pos (Nat.le_refl _), hopen.cursor, hh] at hnext
      exact nomatch hnext
  case stopped =>
    intro relay hrelay
    rw [(offer_frame _ _ _).2.2] at hrelay
    exact nomatch hhalted.symm.trans hrelay

/-- **The driver is on time** if it is told of the polls in the order in which they end. -/
theorem Arrivals.onTime_drive (h : Arrivals c ledger batch done)
    (hsorted : done.Pairwise fun d e => d.instant ≤ e.instant) :
    OnTime c ledger done (drive c batch.keys (relayOn c ledger) done) := by
  -- on the arrivals from the last one on, since that is the driver's last step
  induction done using List.reverseRecOn with
  | nil =>
    refine .of_idle ?_ rfl rfl
    rw [reached_of_relayed fun _ _ hst => absurd hst List.not_mem_nil]
    exact .nil
  | append_singleton done d ih =>
    have harrivals := h.sublist (List.sublist_append_left done [d])
    obtain ⟨hsorted, -, hlast⟩ := List.pairwise_append.mp hsorted
    have hmore : ∀ e ∈ done, e ∈ done ++ [d] := fun e he => List.mem_append_left [d] he
    have hon := ih harrivals hsorted
    rw [drive_append_singleton]
    rcases step_cases (drive c batch.keys (relayOn c ledger) done) d with
      ⟨-, hstep⟩ | ⟨hover, -, hstep⟩ | ⟨hover, haborted, polled, hpolled, hstep⟩
    · rw [hstep]
      exact hon.mono hmore
    · -- the driver only learns of the end
      rw [hstep]
      have hhalted := halted_of_isOver hover
      have hnext := (drive_next done).resolve_left (by rw [hhalted]; exact Bool.false_ne_true)
      exact .of_idle (hon.mono hmore).punctual hhalted hnext
    · rw [hstep]
      exact h.onTime_offer (fun e he => hlast e he d (List.mem_singleton_self d)) hon
        (halted_of_isOver hover) haborted hpolled

/-! ### The end of a run -/

/-- **If no poll dies, there is nothing to repair.** -/
theorem Finished.eq_drive (h : Finished c ledger batch done s)
    (hlive : ∀ d ∈ done, d.polled ≠ none) :
    s = drive c batch.keys (relayOn c ledger) done := by
  rw [h.state, finish]
  split
  next => rfl
  next hover =>
    rw [repair]
    split
    next => rfl
    next hmissing =>
      exfalso
      rw [Bool.not_eq_true, Bool.or_eq_false_iff, Bool.or_eq_false_iff] at hmissing
      obtain ⟨⟨-, haborted⟩, hcomplete⟩ := hmissing
      have hhalted := halted_of_isOver (Bool.eq_false_iff.mpr hover)
      obtain ⟨handed, hreach, -, hall⟩ := h.arrivals.exists_drive
      have hopen := hreach.open_of hhalted haborted
      have hnext := (drive_next done).resolve_left (by rw [hhalted]; exact Bool.false_ne_true)
      have hle := hopen.toSteady.length_le hopen.series
      -- otherwise the result of the message at the cursor would have left the gate
      have hlt : (drive c batch.keys (relayOn c ledger) done).gate.cursor < batch.size := by
        rw [Gate.isComplete, beq_eq_false_iff_ne, hopen.size] at hcomplete
        rw [hopen.cursor] at hcomplete ⊢
        omega
      obtain ⟨d, hd, hposition⟩ := (h.complete.resolve_left hover) _ hlt
      obtain ⟨polled, hpolled⟩ := Option.ne_none_iff_exists'.mp (hlive d hd)
      have hhanded := hall hhalted haborted d.position d.instant polled
        (by rw [← hpolled]; exact hd)
      rw [Gate.next_eq_none_iff, hopen.waiting, if_pos (Nat.le_refl _), ← hposition, hhanded]
        at hnext
      exact absurd hnext (Option.some_ne_none _)

variable (c ledger) in
/-- **A message is settled at its turn**: if its poll called it final, its relay makes its first
submission at that instant, and the message is settled when the relay is over; otherwise it is
settled at that instant. -/
def AtTurn (m : Message) (turn : Nat) (st : Settlement) : PollResult → Prop
  | .finalized _ => ∃ first rest result, st.calls = first :: rest ∧ first.kind = .submit ∧
      first.start = turn ∧ (Relay.submit ledger c.retry m turn).calls = st.calls ∧
      (Relay.submit ledger c.retry m turn).ending = .result st.instant result
  | .timedOut _ _ | .failed _ => st.calls = [] ∧ st.instant = turn

/-- **A message that is settled on time is settled at its turn.** -/
theorem Punctual.atTurn (h : Arrivals c ledger batch done) {own : List Settlement}
    (hown : Punctual c ledger done own) {p : Nat} {st : Settlement} (hp : own[p]? = some st) :
    st.position = p ∧ ∃ m horizon ended r, batch.messages[p]? = some m ∧
      (Poll.observe ledger m c.schedule horizon).ending = some (ended, .result r) ∧
      AtTurn c ledger m (max ended (lastSettled (own.take p))) st r := by
  obtain ⟨hpos, ended, polled, hmem, hst⟩ := hown p st hp
  obtain ⟨m, horizon, r, hm, hending, rfl⟩ := h.result _ hmem _ rfl
  refine ⟨hpos, m, horizon, ended, r, hm, hending, ?_⟩
  cases r with
  | finalized f =>
    obtain ⟨rfl, -⟩ := Poll.exists_positive_answer hending
    cases hst with
    | relayed _ instant _ result hend =>
      obtain ⟨first, rest, hcalls, hstart, -⟩ := Relay.submit_first ledger c.retry f.message
        (max ended (lastSettled (own.take p)))
      have hkind : first.kind = .submit :=
        (Relay.submit_call ledger c.retry f.message _ (hcalls ▸ List.mem_cons_self)).1
      exact ⟨first, rest, result, hcalls, hkind, hstart, rfl, hend⟩
  | timedOut n elapsed =>
    cases hst
    exact ⟨rfl, rfl⟩
  | failed e =>
    cases hst
    exact ⟨rfl, rfl⟩

/-- The messages that are not reached are settled together with the last one that is. -/
theorem Finished.lastSettled_reached (h : Finished c ledger batch done s)
    (hhalted : s.halted = none) : lastSettled (s.reached c) = lastSettled s.settled := by
  obtain ⟨-, _, -, ⟨-, hrelayed⟩ | ⟨hpolicy, before, failure, -, hbefore, hfailure, hsettled⟩⟩ :=
    h.settled_cases hhalted
  · rw [reached_of_relayed hrelayed]
  · rw [reached_of_failure hpolicy hbefore hfailure hsettled, lastSettled_concat, hsettled,
      lastSettled_blocked]

/-- **When a run ends** that no relay halts: with its polls and with the messages that the gate has
reached, or, if it was aborted and cancels its polls, with the failure. -/
theorem Finished.now_eq (h : Finished c ledger batch done s)
    (hlive : ∀ d ∈ done, d.polled ≠ none) (hpunctual : Punctual c ledger done (s.reached c))
    (hhalted : s.halted = none) :
    if s.aborted && c.cancelOnAbort then
      ∃ front failure, s.reached c = front ++ [failure] ∧ failure.outcome.isRelayed = false ∧
        s.now = failure.instant
    else (∀ p < batch.size, ∃ d ∈ done, d.position = p) ∧
      s.now = latestOf (done.map Completion.instant ++ (s.reached c).map Settlement.instant) := by
  split
  next hcancelled =>
    obtain ⟨haborted, hcancel⟩ := Bool.and_eq_true_iff.mp hcancelled
    obtain ⟨-, hpolicy, before, failure, hsettled, hbefore, hfailure, hnow⟩ :=
      h.failure_of_cancelled haborted hcancel
    exact ⟨before, failure, reached_of_failure hpolicy hbefore hfailure hsettled, hfailure, hnow⟩
  next hcancelled =>
    have hgo := Bool.eq_false_iff.mpr hcancelled
    rw [latestOf_append, hpunctual.latestOf_eq, h.lastSettled_reached hhalted]
    refine ⟨h.complete.resolve_left ?_, (clocked_iff_of_not_cancelled hgo).mp (h.clocked hhalted)⟩
    rw [← h.eq_drive hlive, State.isOver, hhalted, hgo]
    exact Bool.false_ne_true

/-- A run whose polls come in the order in which they end, and of which none dies, is on time. -/
theorem Finished.onTime (h : Finished c ledger batch done s)
    (hsorted : done.Pairwise fun d e => d.instant ≤ e.instant)
    (hlive : ∀ d ∈ done, d.polled ≠ none) : OnTime c ledger done s := by
  rw [h.eq_drive hlive]
  exact h.arrivals.onTime_drive hsorted

/-- So is a run that is observed against a ledger. -/
theorem onTime_of_observe {horizon : Nat} {t : Trace}
    (h : observe c ledger batch horizon = some t)
    (hlive : ∀ d ∈ completions (polls c ledger batch horizon), d.polled ≠ none) :
    OnTime c ledger (completions (polls c ledger batch horizon)) t.state :=
  (finished_of_observe h).1.onTime (pairwise_completions _) hlive

/-- **The driver never idles.** Let the driver be told of the polls in the order in which they end,
and let no poll die. Every message that the gate has reached is settled at its turn, which comes
when its poll has ended and the message in front of it is settled, or at the start of the run if
there is none: a final message makes its first submission exactly then and is settled when its relay
is over, with all waits, and any other one is settled exactly then. A relay that does not come to an
end was started at its turn as well. Otherwise the run settles every message and ends with the
latest of its polls and of the messages reached; if it was aborted and cancels its polls, it ends
with the failure. -/
theorem driver_never_idles (h : Finished c ledger batch done s)
    (hsorted : done.Pairwise fun d e => d.instant ≤ e.instant)
    (hlive : ∀ d ∈ done, d.polled ≠ none) :
    (∀ p st, (s.reached c)[p]? = some st → st.position = p ∧
      ∃ m horizon ended r, batch.messages[p]? = some m ∧
        (Poll.observe ledger m c.schedule horizon).ending = some (ended, .result r) ∧
        AtTurn c ledger m (max ended (lastSettled ((s.reached c).take p))) st r) ∧
    (∀ relay, s.halted = some relay → ∃ m horizon ended f,
      batch.messages[s.settled.length]? = some m ∧
        (Poll.observe ledger m c.schedule horizon).ending =
          some (ended, .result (.finalized f)) ∧
        relay = Relay.submit ledger c.retry m (max ended (lastSettled s.settled))) ∧
    (s.halted = none → s.settled.map Settlement.position = List.range batch.size ∧
      if s.aborted && c.cancelOnAbort then
        ∃ front failure, s.reached c = front ++ [failure] ∧ failure.outcome.isRelayed = false ∧
          s.now = failure.instant
      else (∀ p < batch.size, ∃ d ∈ done, d.position = p) ∧
        s.now = latestOf (done.map Completion.instant ++
          (s.reached c).map Settlement.instant)) := by
  have hon := h.onTime hsorted hlive
  refine ⟨fun p st hp => hon.punctual.atTurn h.arrivals hp, fun relay hrelay => ?_,
    fun hhalted => ⟨(h.settled_cases hhalted).1, h.now_eq hlive hon.punctual hhalted⟩⟩
  obtain ⟨ended, f, hmem, rfl⟩ := hon.stopped relay hrelay
  obtain ⟨hm, horizon, hending⟩ := h.arrivals.finalized hmem
  exact ⟨f.message, horizon, ended, f, hm, hending, rfl⟩

/-- A ledger that calls all messages final at once and takes five milliseconds to deliver one. -/
def slowDelivery : Ledger where
  estimate _ _ := .answer 0 (.ok 0)
  check _ _ _ _ := .answer 0 (.ok true)
  finalityTime _ _ := .answer 0 (.ok none)
  submit m _ _ := .answer 5 (.ok ⟨Octets.replicate 32 m.sequence.toUInt8, successStatus⟩)

/-- The polls of three messages, of which the last one ends first. -/
def lastFirst : List Completion :=
  [⟨0, 2, some (.finalized ⟨.sample 3, 1, 0⟩)⟩, ⟨0, 0, some (.finalized ⟨.sample 1, 1, 0⟩)⟩,
    ⟨0, 1, some (.finalized ⟨.sample 2, 1, 0⟩)⟩]

/-- The three deliveries take their time, one after the other. -/
theorem instants_slowDelivery :
    let c : RunConfig := { retry := .disabled }
    let s := finish c Batch.three.keys (relayOn c slowDelivery) lastFirst
    s.halted.isNone = true ∧ s.aborted = false ∧
      (s.reached c).map Settlement.instant = [5, 10, 15] := by
  decide

/-- On that ledger the polls of three messages end at once, the last one first. The second message
is submitted as soon as the first one is delivered, and the run takes as long as three deliveries.
-/
theorem driver_never_idles_slowDelivery :
    let c : RunConfig := { retry := .disabled }
    let s := finish c Batch.three.keys (relayOn c slowDelivery) lastFirst
    (Finished c slowDelivery Batch.three lastFirst s ∧
        (lastFirst.Pairwise fun d e => d.instant ≤ e.instant) ∧
        ∀ d ∈ lastFirst, d.polled ≠ none) ∧
      s.now = 15 ∧ ∃ st m ended r, (s.reached c)[1]? = some st ∧
        AtTurn c slowDelivery m (max ended 5) st r := by
  intro c s
  have hfinished : Finished c slowDelivery Batch.three lastFirst s := by
    refine ⟨arrivals_at_once (fun m _ => ⟨0, rfl, rfl⟩) (by decide) (by decide) (by decide) ?_,
      Or.inr (by decide), rfl⟩
    intro d hd
    rw [lastFirst, List.mem_cons, List.mem_cons, List.mem_singleton] at hd
    rcases hd with rfl | rfl | rfl
    · exact ⟨.sample 3, rfl, Or.inr ⟨rfl, rfl⟩⟩
    · exact ⟨.sample 1, rfl, Or.inr ⟨rfl, rfl⟩⟩
    · exact ⟨.sample 2, rfl, Or.inr ⟨rfl, rfl⟩⟩
  have hsorted : lastFirst.Pairwise fun d e => d.instant ≤ e.instant := by decide
  have hlive : ∀ d ∈ lastFirst, d.polled ≠ none := by decide
  obtain ⟨hnone, haborted, hinstants⟩ : s.halted.isNone = true ∧ s.aborted = false ∧
      (s.reached c).map Settlement.instant = [5, 10, 15] := instants_slowDelivery
  obtain ⟨hturn, -, hend⟩ := driver_never_idles hfinished hsorted hlive
  clear_value s
  refine ⟨⟨hfinished, hsorted, hlive⟩, ?_, ?_⟩
  · obtain ⟨-, hnow⟩ := hend (Option.isNone_iff_eq_none.mp hnone)
    rw [haborted, Bool.false_and, if_neg Bool.false_ne_true, hinstants] at hnow
    exact hnow.2
  · -- the message in front of the second one was settled after five milliseconds
    obtain ⟨first, rest, hreached, hfirst, hrest⟩ := List.map_eq_cons_iff.mp hinstants
    obtain ⟨second, rest, rfl, -, -⟩ := List.map_eq_cons_iff.mp hrest
    have hsecond : (s.reached c)[1]? = some second := by rw [hreached]; rfl
    obtain ⟨-, m, -, ended, r, -, -, hat⟩ := hturn 1 second hsecond
    have hlast : lastSettled ((s.reached c).take 1) = 5 := by rw [hreached]; exact hfirst
    rw [hlast] at hat
    exact ⟨second, m, ended, r, hsecond, hat⟩

end Run

end MessageRelay
