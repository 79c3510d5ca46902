import MessageRelay.Proofs.Run.Arrivals

/-!
# The submissions of a run

The submissions of a run fall into blocks, one for each message that is relayed
(`MessageRelay.Run.State.blocks`). Within a block the relay sees to it that a call is answered
before the next one is made (`MessageRelay.Relay.submit_inTurn`). Between blocks it is the driver,
which starts no relay before the one in front of it has come to a result. The whole point is thus
`MessageRelay.Run.Series.inTurn_append`: calls that start when everything settled lies behind may
follow those of the settled messages.

What a single block rests on is `MessageRelay.Run.Block`. Its message has been handed over as final
and everything in front of it is settled before the first call is made. Since blocks are read off
the settled messages this holds in every state of the driver, also while polls are still running
(`MessageRelay.Run.AtRest`).
-/

namespace MessageRelay

namespace Run

/-! ### Blocks -/

/-- The blocks of settled messages: the position of each one that was submitted, with the calls of
its relay. -/
def blocksOf (settled : List Settlement) : List (Nat × List LedgerCall) :=
  (settled.filter fun st => !st.calls.isEmpty).map fun st => (st.position, st.calls)

/-- **The submissions of a run, block by block.** A relay that halts the run makes the last one. -/
def State.blocks (s : State) : List (Nat × List LedgerCall) :=
  blocksOf s.settled ++ (s.halted.map fun relay => (s.settled.length, relay.calls)).toList

theorem blocksOf_append (front back : List Settlement) :
    blocksOf (front ++ back) = blocksOf front ++ blocksOf back := by
  rw [blocksOf, List.filter_append, List.map_append]
  rfl

theorem mem_blocksOf {settled : List Settlement} {b : Nat × List LedgerCall} :
    b ∈ blocksOf settled ↔ ∃ st ∈ settled, st.calls ≠ [] ∧ b = (st.position, st.calls) := by
  rw [blocksOf, List.mem_map]
  constructor
  · rintro ⟨st, hst, rfl⟩
    obtain ⟨hmem, hne⟩ := List.mem_filter.mp hst
    exact ⟨st, hmem, by simpa using hne, rfl⟩
  · rintro ⟨st, hst, hne, rfl⟩
    exact ⟨st, List.mem_filter.mpr ⟨hst, by simpa using hne⟩, rfl⟩

/-- Taken together, the blocks are all calls of the settled messages. -/
theorem flatMap_blocksOf (settled : List Settlement) :
    (blocksOf settled).flatMap Prod.snd = settled.flatMap Settlement.calls := by
  induction settled with
  | nil => rfl
  | cons st settled ih =>
    rw [List.flatMap_cons, ← ih, ← List.singleton_append, blocksOf_append, List.flatMap_append]
    congr 1
    by_cases hne : st.calls = []
    · simp [blocksOf, hne]
    · simp [blocksOf, hne]

variable {c : RunConfig} {ledger : Ledger} {batch : Batch} {handed : Handed} {s : State}
  {own settled : List Settlement}

/-- Messages that are blocked by a failure are not submitted. -/
theorem blocksOf_blocked (failure : Settlement) : blocksOf (blocked batch failure) = [] := by
  refine List.eq_nil_iff_forall_not_mem.mpr fun b hb => ?_
  obtain ⟨st, hst, hne, -⟩ := mem_blocksOf.mp hb
  obtain ⟨p, -, rfl⟩ := List.mem_map.mp hst
  exact hne rfl

/-! ### Blocks in batch order -/

namespace Series

/-- The blocks of a series stand in batch order. -/
theorem pairwise_blocksOf (h : Series c ledger handed own) :
    ((blocksOf own).map Prod.fst).Pairwise (· < ·) := by
  have hsorted : (own.map Settlement.position).Pairwise (· < ·) := by
    rw [h.map_position]
    exact List.pairwise_lt_range
  rw [blocksOf, List.map_map]
  exact hsorted.sublist (List.filter_sublist.map _)

/-- They belong to messages of the series. -/
theorem lt_of_mem_blocksOf (h : Series c ledger handed own) {b : Nat × List LedgerCall}
    (hb : b ∈ blocksOf own) : b.1 < own.length := by
  obtain ⟨st, hst, -, rfl⟩ := mem_blocksOf.mp hb
  obtain ⟨p, hp⟩ := List.getElem?_of_mem hst
  obtain ⟨hlt, -⟩ := List.getElem?_eq_some_iff.mp hp
  rw [(h.get hp).1]
  exact hlt

/-! ### One call at a time -/

/-- The calls for a settled message have been answered. -/
theorem answered (h : Series c ledger handed own) :
    ∀ st ∈ own, ∀ call ∈ st.calls, call.AnsweredBy st.instant := by
  intro st hst call hcall
  obtain ⟨p, hp⟩ := List.getElem?_of_mem hst
  obtain ⟨-, _, _, _, -, -, -, hsettles⟩ := h.get hp
  exact (hsettles.bounds.2 call hcall).2

/-- **Calls may follow those of a series** when they are made in turn, and none of them before
everything in the series is settled. -/
theorem inTurn_append (h : Series c ledger handed own) {start : Nat} {calls : List LedgerCall}
    (hown : (own.flatMap Settlement.calls).Pairwise fun a b => a.AnsweredBy b.start)
    (hsettled : ∀ st ∈ own, st.instant ≤ start) (hstart : ∀ call ∈ calls, start ≤ call.start)
    (hcalls : calls.Pairwise fun a b => a.AnsweredBy b.start) :
    (own.flatMap Settlement.calls ++ calls).Pairwise fun a b => a.AnsweredBy b.start := by
  refine List.pairwise_append.mpr ⟨hown, hcalls, fun a ha b hb => ?_⟩
  obtain ⟨st, hst, ha⟩ := List.mem_flatMap.mp ha
  have hanswered : a.AnsweredBy st.instant := h.answered st hst a ha
  exact hanswered.mono (Nat.le_trans (hsettled st hst) (hstart b hb))

/-- **The calls of a series are made one at a time.** -/
theorem inTurn (h : Series c ledger handed own) :
    (own.flatMap Settlement.calls).Pairwise fun a b => a.AnsweredBy b.start := by
  -- a relay starts when everything in front of its message is settled
  induction h with
  | nil => exact List.Pairwise.nil
  | @snoc own st instant start polled h hpos hh hi he hst ih =>
    rw [List.flatMap_append, List.flatMap_singleton]
    refine h.inTurn_append ih he (fun call hcall => (hst.bounds.2 call hcall).1) ?_
    cases hst with
    | failed => exact List.Pairwise.nil
    | relayed _ _ m => exact Relay.submit_inTurn ledger c.retry m.message start

end Series

/-! ### What a block rests on -/

variable (c ledger) in
/-- **A block of submissions**: the message has been handed over as final and all messages in front
of it are settled when its relay starts. If failures abort the run, those were relayed. -/
structure Block (handed : Handed) (settled : List Settlement) (b : Nat × List LedgerCall)
    (m : FinalizedMessage) (start : Nat) : Prop where
  final : ∃ instant, handed b.1 = some (instant, .finalized m) ∧ instant ≤ start
  calls : b.2 = (relayOn c ledger m start).calls
  front : ∀ p < b.1, ∃ st, settled[p]? = some st ∧ st.position = p ∧ st.instant ≤ start ∧
    (c.policy = .abortRemaining → st.outcome.isRelayed = true)

/-- What is settled in front of a block stays so. -/
theorem Block.mono {b : Nat × List LedgerCall} {m : FinalizedMessage} {start : Nat}
    (h : Block c ledger handed own b m start) (hown_le : own <+: settled) :
    Block c ledger handed settled b m start where
  final := h.final
  calls := h.calls
  front p hp := by
    obtain ⟨st, hst, hrest⟩ := h.front p hp
    obtain ⟨more, rfl⟩ := hown_le
    obtain ⟨hlt, -⟩ := List.getElem?_eq_some_iff.mp hst
    exact ⟨st, (List.getElem?_append_left hlt).trans hst, hrest⟩

/-- The messages of a series in front of one that starts later. -/
theorem Series.front (h : Series c ledger handed own) {start n : Nat} (hn : n ≤ own.length)
    (hsettled : ∀ st ∈ own.take n, st.instant ≤ start)
    (hrelayed : c.policy = .abortRemaining → ∀ st ∈ own.take n, st.outcome.isRelayed = true) :
    ∀ p < n, ∃ st, own[p]? = some st ∧ st.position = p ∧ st.instant ≤ start ∧
      (c.policy = .abortRemaining → st.outcome.isRelayed = true) := by
  intro p hp
  have hget : own[p]? = some own[p] := List.getElem?_eq_getElem (by omega)
  have hmem : own[p] ∈ own.take n :=
    List.mem_of_getElem? ((List.getElem?_take_of_lt hp).trans hget)
  exact ⟨own[p], hget, (h.get hget).1, hsettled _ hmem, fun hpolicy => hrelayed hpolicy _ hmem⟩

/-- Every block of a series rests on what is in front of it. -/
theorem Series.block (h : Series c ledger handed own)
    (hrelayed : c.policy = .abortRemaining → ∀ n < own.length, ∀ st ∈ own.take n,
      st.outcome.isRelayed = true) :
    ∀ b ∈ blocksOf own, ∃ m start, Block c ledger handed own b m start := by
  intro b hb
  obtain ⟨st, hst, hne, rfl⟩ := mem_blocksOf.mp hb
  obtain ⟨p, hp⟩ := List.getElem?_of_mem hst
  obtain ⟨hlt, -⟩ := List.getElem?_eq_some_iff.mp hp
  obtain ⟨rfl, instant, polled, start, hh, hi, he, hsettles⟩ := h.get hp
  cases hsettles with
  | failed => exact absurd rfl hne
  | relayed p _ m =>
    exact ⟨m, start, ⟨instant, hh, hi⟩, rfl, h.front (Nat.le_of_lt hlt) he fun hpolicy =>
      hrelayed hpolicy p hlt⟩

/-- **What holds of the submissions in every state of the driver**: the blocks stand in batch order,
no two calls overlap, and every block rests on what is in front of it. -/
theorem Reaches.blocks (h : Reaches c ledger batch handed s) :
    (s.blocks.map Prod.fst).Pairwise (· < ·) ∧
      (s.blocks.flatMap Prod.snd).Pairwise (fun a b => a.AnsweredBy b.start) ∧
      ∀ b ∈ s.blocks, ∃ m start, Block c ledger handed s.settled b m start := by
  have htake : ∀ {n : Nat}, (c.policy = .abortRemaining → ∀ st ∈ s.settled,
      st.outcome.isRelayed = true) → c.policy = .abortRemaining → ∀ st ∈ s.settled.take n,
      st.outcome.isRelayed = true :=
    fun hall hpolicy st hst => hall hpolicy st (List.mem_of_mem_take hst)
  rcases h.phase with hphase | hphase | hphase
  · have hblocks : s.blocks = blocksOf s.settled := by
      rw [State.blocks, hphase.halted]
      exact List.append_nil _
    rw [hblocks, flatMap_blocksOf]
    exact ⟨hphase.series.pairwise_blocksOf, hphase.series.inTurn, hphase.series.block
      fun hpolicy n _ => htake hphase.relayed hpolicy⟩
  · -- the relay that halts the run is the last block
    obtain ⟨instant, start, m, hh, hi, hsettled, hstopped, -⟩ := hphase.stopped
    have hblocks : s.blocks =
        blocksOf s.settled ++ [(s.settled.length, (relayOn c ledger m start).calls)] := by
      rw [State.blocks, hstopped]
      rfl
    rw [hblocks, List.map_append, List.flatMap_append, flatMap_blocksOf]
    refine ⟨List.pairwise_append.mpr ⟨hphase.series.pairwise_blocksOf, List.pairwise_singleton _ _,
      ?_⟩, ?_, ?_⟩
    · intro p hp q hq
      obtain ⟨b, hb, rfl⟩ := List.mem_map.mp hp
      rw [List.mem_singleton.mp hq]
      exact hphase.series.lt_of_mem_blocksOf hb
    · rw [List.flatMap_singleton]
      exact hphase.series.inTurn_append hphase.series.inTurn hsettled
        (fun call hcall => (Relay.submit_call ledger c.retry m.message start hcall).2)
        (Relay.submit_inTurn ledger c.retry m.message start)
    · intro b hb
      rcases List.mem_append.mp hb with hb | hb
      · exact hphase.series.block (fun hpolicy n _ => htake hphase.relayed hpolicy) b hb
      · rw [List.mem_singleton.mp hb]
        exact ⟨m, start, ⟨instant, hh, hi⟩, rfl, hphase.series.front (Nat.le_refl _)
          (fun st hst => hsettled st (List.mem_of_mem_take hst)) (htake hphase.relayed)⟩
  · obtain ⟨before, failure, hown, hbefore, -, hsettled⟩ := hphase.settled
    have hblocks : s.blocks = blocksOf (before ++ [failure]) := by
      rw [State.blocks, hphase.halted, hsettled, List.append_cons, blocksOf_append,
        blocksOf_blocked, List.append_nil]
      exact List.append_nil _
    have hrelayed : ∀ n < (before ++ [failure]).length, ∀ st ∈ (before ++ [failure]).take n,
        st.outcome.isRelayed = true := by
      intro n hn st hst
      rw [List.length_append, List.length_singleton] at hn
      rw [List.take_append_of_le_length (by omega)] at hst
      exact hbefore st (List.mem_of_mem_take hst)
    rw [hblocks, flatMap_blocksOf]
    refine ⟨hown.pairwise_blocksOf, hown.inTurn, fun b hb => ?_⟩
    obtain ⟨m, start, hblock⟩ := hown.block (fun _ => hrelayed) b hb
    exact ⟨m, start, hblock.mono (prefix_of_blocked hsettled)⟩

/-! ### The submissions of a run in time -/

variable {done : List Completion}

variable (c ledger batch) in
/-- **A run between two ends of polls**, or at its own end. While the driver waits for a relay, the
calls made so far are among those of the state in which it waits for a poll again. -/
inductive AtRest (done : List Completion) : State → Prop where
  /-- Some polls have ended. -/
  | waiting : Arrivals c ledger batch done →
      AtRest done (drive c batch.keys (relayOn c ledger) done)
  /-- The run is at its end. -/
  | finished {s : State} : Finished c ledger batch done s → AtRest done s

/-- Such a state is one that the driver gets into. -/
theorem AtRest.exists_reaches (h : AtRest c ledger batch done s) :
    Arrivals c ledger batch done ∧
      ∃ handed, Reaches c ledger batch handed s ∧ HandedFrom done handed := by
  cases h with
  | waiting harrivals =>
    obtain ⟨handed, hreach, hfrom, -⟩ := harrivals.exists_drive
    exact ⟨harrivals, handed, hreach, fun p instant polled hp => Or.inl (hfrom p instant polled hp)⟩
  | finished hfinished =>
    obtain ⟨handed, hreach, hfrom, -⟩ := hfinished.exists_reaches
    exact ⟨hfinished.arrivals, handed, hreach, hfrom⟩

/-- **The submissions of a run are made in batch order and one at a time.** They fall into blocks,
the positions of which increase, and no call is made before the one in front of it is answered. A
block is the relay of its message, of one call and as many more as there are retries at most. Its
first call is made when a poll has ended with a positive answer to a finality query about the
message, and when all messages in front of it are settled; if failures abort the run, all of those
were relayed. -/
theorem submissions_in_order (h : AtRest c ledger batch done s) :
    (s.blocks.map Prod.fst).Pairwise (· < ·) ∧
      (s.blocks.flatMap Prod.snd).Pairwise (fun a b => a.AnsweredBy b.start) ∧
      ∀ b ∈ s.blocks, ∃ m first rest, batch.messages[b.1]? = some m ∧ b.2 = first :: rest ∧
        b.2 = (Relay.submit ledger c.retry m first.start).calls ∧
        rest.length ≤ c.retry.maxRetries.toNat ∧ (∀ call ∈ b.2, call.kind = .submit) ∧
        (∃ t f, ⟨t, b.1, some (.finalized f)⟩ ∈ done ∧ t ≤ first.start ∧
          ∃ check ∈ (Poll.observe ledger m c.schedule (t + 1)).calls,
            check.isCheck = true ∧ check.answer = some (t, .finality true)) ∧
        ∀ p < b.1, ∃ st, s.settled[p]? = some st ∧ st.position = p ∧ st.instant ≤ first.start ∧
          (c.policy = .abortRemaining → st.outcome.isRelayed = true) := by
  obtain ⟨harrivals, handed, hreach, hfrom⟩ := h.exists_reaches
  obtain ⟨hsorted, hinTurn, hblocks⟩ := hreach.blocks
  refine ⟨hsorted, hinTurn, fun b hb => ?_⟩
  obtain ⟨f, start, hblock⟩ := hblocks b hb
  obtain ⟨t, hh, ht⟩ := hblock.final
  obtain ⟨first, rest, hcalls, rfl, hlength⟩ :=
    Relay.submit_first ledger c.retry f.message start
  have hmem : ⟨t, b.1, some (.finalized f)⟩ ∈ done := by
    rcases hfrom b.1 t _ hh with hmem | ⟨hlost, -⟩
    · exact hmem
    · exact nomatch hlost
  obtain ⟨hm, horizon, hending⟩ := harrivals.finalized hmem
  -- whoever watches beyond the end of the poll sees the answer
  have hseen := Poll.observe_eq_of_lt hending (Nat.lt_succ_self t)
  rw [← hseen] at hending
  obtain ⟨-, check, hcheck, hkind, hanswer⟩ := Poll.exists_positive_answer hending
  refine ⟨f.message, first, rest, hm, hblock.calls.trans hcalls, hblock.calls, hlength, ?_,
    ⟨t, f, hmem, ht, check, hcheck, hkind, hanswer⟩, hblock.front⟩
  intro call hcall
  rw [hblock.calls] at hcall
  exact (Relay.submit_call ledger c.retry f.message first.start hcall).1

/-- The message in the middle is not submitted, because its poll has died. -/
theorem submissions_in_order_three :
    let c : RunConfig := { policy := .skipAndContinue, retry := .disabled }
    let s := finish c Batch.three.keys (relayOn c (.prompt fun _ => successStatus)) threeArrivals
    s.blocks.map Prod.fst = [0, 2] ∧
      (s.blocks.flatMap Prod.snd).Pairwise (fun a b => a.AnsweredBy b.start) ∧
      ∀ b ∈ s.blocks, ∃ first, b.2 = [first] := by
  intro c s
  have hfinished := finished_three .skipAndContinue fun _ => successStatus
  obtain ⟨-, hinTurn, hblocks⟩ := submissions_in_order (.finished hfinished)
  refine ⟨by decide, hinTurn, fun b hb => ?_⟩
  obtain ⟨m, first, rest, -, hb, -, hlength, -⟩ := hblocks b hb
  obtain rfl : rest = [] := List.eq_nil_of_length_eq_zero (Nat.le_zero.mp hlength)
  exact ⟨first, hb⟩

end Run

end MessageRelay
