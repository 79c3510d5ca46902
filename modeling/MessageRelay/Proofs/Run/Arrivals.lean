import Mathlib.Data.List.Induction
import MessageRelay.Proofs.Poll.Round
import MessageRelay.Proofs.Run.Reach
import MessageRelay.Scripted.Sample

/-!
# Runs whose polls end in any order

The driver of a run is told of the ends of the polls one by one, and it is at the mercy of the order
in which they come. `MessageRelay.Run.Arrivals` is all that is known of them: no poll ends twice,
and the result of a poll is what polling the message gives. Which polls die without a result, when
the others end and in which order the driver is told is left open.

* `MessageRelay.Run.Arrivals.exists_drive`: whatever the arrivals, the driver gets into no other
  states than those of `MessageRelay.Run.Reaches`, and the gate has been handed nothing but results
  that arrived;
* `MessageRelay.Run.Finished.exists_reaches`: the same for a run that has come to its end, where the
  messages without a result have been settled as lost;
* `MessageRelay.Run.finished_of_observe`: a run that is observed against a ledger is such a run,
  with the polls in the order of the instants at which they end.
-/

namespace MessageRelay

namespace Run

/-! ### The end of a run -/

section Driver

variable (c : RunConfig) (keys : List MessageKey) (relay : FinalizedMessage → Nat → RelayTrace)

/-- The driver's last state, when all polls have ended of whose ends it takes notice. -/
def finish (done : List Completion) : State :=
  let s := drive c keys relay done
  if s.isOver c then s else repair c keys relay s

variable {c keys relay}

/-- **What the driver does for one completed poll.** If the run is over it does nothing; if there is
no result, or the run is aborted, it only learns that the poll has ended; otherwise it hands the
result to the gate and settles every message whose turn it is. -/
theorem step_cases (s : State) (d : Completion) :
    (s.isOver c = true ∧ step c keys relay s d = s) ∨
      (s.isOver c = false ∧ (d.polled = none ∨ s.aborted = true) ∧
        step c keys relay s d = { s with now := max s.now d.instant, latest := d.instant }) ∨
      (s.isOver c = false ∧ s.aborted = false ∧ ∃ polled, d.polled = some polled ∧
        step c keys relay s d =
          (({ s with now := max s.now d.instant, latest := d.instant } : State).offer d.position
            polled).release c keys relay) := by
  cases hover : s.isOver c with
  | true => exact Or.inl ⟨rfl, by rw [step, if_pos hover]⟩
  | false =>
    right
    cases hpolled : d.polled with
    | none => exact Or.inl ⟨rfl, Or.inl rfl, by simp [step, hover, hpolled]⟩
    | some polled =>
      cases haborted : s.aborted with
      | true => exact Or.inl ⟨rfl, Or.inr rfl, by simp [step, hover, hpolled, haborted]⟩
      | false => exact Or.inr ⟨rfl, rfl, polled, rfl, by simp [step, hover, hpolled, haborted]⟩

/-- One more completed poll is one more step. -/
theorem drive_append_singleton (done : List Completion) (d : Completion) :
    drive c keys relay (done ++ [d]) = step c keys relay (drive c keys relay done) d := by
  rw [drive, List.foldl_append, List.foldl_cons, List.foldl_nil, ← drive]

/-- A run that is not over has not been halted. -/
theorem halted_of_isOver {s : State} (h : s.isOver c = false) : s.halted = none := by
  rw [State.isOver, Bool.or_eq_false_iff] at h
  exact Option.not_isSome_iff_eq_none.mp (by rw [h.1]; exact Bool.false_ne_true)

/-- A run that is neither halted nor aborted is not over. -/
theorem isOver_eq_false {s : State} (hhalted : s.halted = none) (haborted : s.aborted = false) :
    s.isOver c = false := by
  rw [State.isOver, hhalted, haborted]
  rfl

variable (c keys relay) in
/-- Taking a message leaves the gate as it is or closes it. -/
theorem take_gate (s : State) (position : Nat) (polled : Polled) :
    (s.take c keys relay position polled).gate = s.gate ∨
      (s.take c keys relay position polled).gate = s.gate.close := by
  have hsettle : ∀ (s : State) outcome calls,
      (s.settle c keys position outcome calls).gate = s.gate ∨
        (s.settle c keys position outcome calls).gate = s.gate.close := by
    intro s outcome calls
    rw [State.settle]
    split
    · exact Or.inr rfl
    · exact Or.inl rfl
  cases polled with
  | failed outcome => exact hsettle s outcome []
  | finalized m =>
    cases hend : (relay m s.now).ending with
    | result instant result => simpa only [State.take, hend] using hsettle _ _ _
    | death | stuck => exact Or.inl (by simp only [State.take, hend])

/-- **A release preserves whatever every take preserves.** What is taken is the item that leaves the
gate, and nothing is taken once a relay has halted the run. -/
theorem releaseUpTo_induction {P : State → Prop} {s : State} (hs : P s)
    (htake : ∀ {s : State} {position polled gate}, P s → s.halted = none →
      s.gate.next = some ((position, polled), gate) →
        P (({ s with gate } : State).take c keys relay position polled)) (steps : Nat) :
    P (s.releaseUpTo c keys relay steps) := by
  induction steps generalizing s with
  | zero => exact hs
  | succ steps ih =>
    rw [State.releaseUpTo]
    split
    next => exact hs
    next hhalted =>
      split
      next => exact hs
      next position polled gate hnext =>
        exact ih (htake hs (Option.not_isSome_iff_eq_none.mp hhalted) hnext)

/-- **Nothing that could leave the gate stays in it**, unless a relay halts the run: every step
takes one of the waiting items away. -/
theorem releaseUpTo_next {steps : Nat} {s : State} (h : s.gate.waiting.length ≤ steps) :
    (s.releaseUpTo c keys relay steps).halted.isSome = true ∨
      (s.releaseUpTo c keys relay steps).gate.next = none := by
  -- what leaves the gate leaves fewer items waiting, so the steps suffice for all of them
  induction steps generalizing s with
  | zero =>
    right
    rw [State.releaseUpTo, Gate.next_eq_none_iff, List.eq_nil_of_length_eq_zero (Nat.le_zero.mp h)]
    rfl
  | succ steps ih =>
    rw [State.releaseUpTo]
    split
    next hhalted => exact Or.inl hhalted
    next =>
      split
      next hnext => exact Or.inr hnext
      next position polled gate hnext =>
        refine ih ?_
        have hlt := Gate.length_waiting_next hnext
        rcases take_gate c keys relay { s with gate } position polled with hgate | hgate
        · rw [hgate]
          dsimp only
          omega
        · rw [hgate]
          exact Nat.zero_le steps

/-- Behind a release nothing is left whose turn it is, unless a relay halts the run. -/
theorem release_next (s : State) :
    (s.release c keys relay).halted.isSome = true ∨ (s.release c keys relay).gate.next = none :=
  releaseUpTo_next (Nat.le_refl s.gate.waiting.length)

end Driver

variable {c : RunConfig} {ledger : Ledger} {batch : Batch} {handed : Handed} {s : State}

/-! ### Releasing and repairing -/

/-- Releasing is a sequence of takes. -/
theorem Reaches.releaseUpTo (h : Reaches c ledger batch handed s) (steps : Nat) :
    Reaches c ledger batch handed (s.releaseUpTo c batch.keys (relayOn c ledger) steps) :=
  releaseUpTo_induction h (fun h => h.take) steps

theorem Reaches.release (h : Reaches c ledger batch handed s) :
    Reaches c ledger batch handed (s.release c batch.keys (relayOn c ledger)) :=
  h.releaseUpTo _

/-- Handing over a result takes no time, aborts nothing and halts nothing. -/
theorem offer_frame (s : State) (position : Nat) (polled : Polled) :
    (s.offer position polled).now = s.now ∧ (s.offer position polled).aborted = s.aborted ∧
      (s.offer position polled).halted = s.halted := by
  rw [State.offer]
  split
  · exact ⟨rfl, rfl, rfl⟩
  · exact ⟨rfl, rfl, rfl⟩

/-- **Handing over the same for several messages** that have no result yet. -/
theorem Reaches.offerAll (h : Reaches c ledger batch handed s) {missing : List Nat}
    (polled : Polled) (hhalted : s.halted = none) (haborted : s.aborted = false)
    (hnodup : missing.Nodup)
    (hmissing : ∀ p ∈ missing, p < batch.size ∧ handed p = none) :
    Reaches c ledger batch (fun p => if p ∈ missing then some (s.now, polled) else handed p)
      (missing.foldl (fun s p => s.offer p polled) s) := by
  -- no message occurs twice, so each one still has no result when it comes to it
  induction missing generalizing handed s with
  | nil => simpa using h
  | cons q missing ih =>
    obtain ⟨hq, hnodup⟩ := List.nodup_cons.mp hnodup
    obtain ⟨hlt, hnone⟩ := hmissing q List.mem_cons_self
    obtain ⟨hnow', haborted', hhalted'⟩ := offer_frame s q polled
    have hrest : ∀ p ∈ missing, p < batch.size ∧
        Function.update handed q (some (s.now, polled)) p = none := by
      intro p hp
      have hne : p ≠ q := by
        rintro rfl
        exact hq hp
      rw [Function.update_of_ne hne]
      exact hmissing p (List.mem_cons_of_mem q hp)
    have hreach := ih (h.offer hhalted haborted hlt hnone (Nat.le_refl s.now))
      (hhalted'.trans hhalted) (haborted'.trans haborted) hnodup hrest
    rw [List.foldl_cons]
    convert hreach using 1
    funext p
    rcases eq_or_ne p q with rfl | hne
    · rw [if_pos List.mem_cons_self, if_neg hq, Function.update_self]
    · rw [Function.update_of_ne hne, hnow']
      exact if_congr (List.mem_cons.trans (or_iff_right hne)) rfl rfl

/-- **The repair hands over a loss for every message without a result.** Behind it every message is
settled, unless the run is halted or aborted by then. -/
theorem Reaches.repair (h : Reaches c ledger batch handed s) (hhalted : s.halted = none)
    (haborted : s.aborted = false) :
    let s' := Run.repair c batch.keys (relayOn c ledger) s
    Reaches c ledger batch
        (fun p => (handed p).or (if p < batch.size then some (s.now, lost) else none)) s' ∧
      (s'.halted = none → s'.aborted = false → s'.settled.length = batch.size) := by
  intro s'
  have hopen := h.open_of hhalted haborted
  -- the messages without a result are not settled
  have hfront : ∀ p, handed p = none → s.gate.cursor ≤ p := by
    intro p hnone
    by_contra hc
    exact hopen.series.handed_ne_none (hopen.cursor ▸ Nat.lt_of_not_le hc) hnone
  by_cases hcomplete : s.gate.isComplete = true
  · -- every message has had its turn
    have hs' : s' = s := by simp [s', Run.repair, hcomplete]
    have hcursor : s.gate.cursor = batch.size := (beq_iff_eq.mp hcomplete).trans hopen.size
    rw [hs']
    refine ⟨?_, fun _ _ => hopen.cursor.symm.trans hcursor⟩
    convert h using 1
    funext p
    cases hp : handed p with
    | some a => rfl
    | none => exact if_neg (Nat.not_lt.mpr (hcursor ▸ hfront p hp))
  · let missing := s.gate.remaining.filter fun p => !s.gate.holds p
    have hs' : s' = (missing.foldl (fun s p => s.offer p lost) s).release c batch.keys
        (relayOn c ledger) := by
      simp [s', Run.repair, hcomplete, hhalted, haborted, missing]
    have hmem : ∀ p, p ∈ missing ↔ p < batch.size ∧ handed p = none := by
      intro p
      rw [List.mem_filter, Gate.remaining, List.mem_range'_1, Gate.holds, hopen.waiting, hopen.size]
      constructor
      · rintro ⟨⟨hle, hlt⟩, hnone⟩
        rw [if_pos hle] at hnone
        refine ⟨by omega, ?_⟩
        cases hp : handed p with
        | none => rfl
        | some a => simp [hp] at hnone
      · rintro ⟨hlt, hnone⟩
        have hle := hfront p hnone
        exact ⟨⟨hle, by omega⟩, by simp [hnone]⟩
    have hnodup : missing.Nodup := (List.nodup_range' 1).filter _
    have hreach := h.offerAll lost hhalted haborted hnodup fun p hp => (hmem p).mp hp
    have hhanded : (fun p => if p ∈ missing then some (s.now, lost) else handed p) =
        fun p => (handed p).or (if p < batch.size then some (s.now, lost) else none) := by
      funext p
      cases hp : handed p with
      | some a =>
        have hnot : p ∉ missing := fun hm =>
          Option.some_ne_none a (hp.symm.trans ((hmem p).mp hm).2)
        exact if_neg hnot
      | none => exact if_congr ((hmem p).trans (and_iff_left hp)) rfl rfl
    rw [hhanded] at hreach
    rw [hs']
    refine ⟨hreach.release, fun hhalted' haborted' => ?_⟩
    have hopen' := hreach.release.open_of hhalted' haborted'
    rcases release_next _ with hsome | hnext
    · exact absurd hhalted' (Option.isSome_iff_ne_none.mp hsome)
    · -- nothing waits at the cursor, so it stands behind the last message
      rw [Gate.next_eq_none_iff, hopen'.waiting, if_pos (Nat.le_refl _)] at hnext
      have hsize := hopen'.toSteady.length_le hopen'.series
      rw [hopen'.cursor] at hnext
      by_contra hne
      rw [if_pos (by omega), Option.map_eq_none_iff, Option.or_eq_none_iff] at hnext
      exact Option.some_ne_none _ hnext.2

/-! ### Arrivals -/

variable (c ledger batch) in
/-- **What is known of the polls of whose ends the driver is told**, in the order in which it is. -/
structure Arrivals (done : List Completion) : Prop where
  /-- No poll ends twice. -/
  nodup : (done.map Completion.position).Nodup
  /-- Each one polls a message of the batch. -/
  lt : ∀ d ∈ done, d.position < batch.size
  /-- A result is the one that the poll of the message comes to, at the instant at which it does. -/
  result : ∀ d ∈ done, ∀ polled, d.polled = some polled → ∃ m horizon r,
    batch.messages[d.position]? = some m ∧
      (Poll.observe ledger m c.schedule horizon).ending = some (d.instant, .result r) ∧
      polled = .ofResult r

variable {done : List Completion}

/-- There are as many keys as messages. -/
theorem length_keys (batch : Batch) : batch.keys.length = batch.size :=
  List.length_map _

/-- Some of the arrivals, in the same order, are arrivals. -/
theorem Arrivals.sublist (h : Arrivals c ledger batch done) {part : List Completion}
    (hsub : part.Sublist done) : Arrivals c ledger batch part where
  nodup := h.nodup.sublist (hsub.map Completion.position)
  lt d hd := h.lt d (hsub.subset hd)
  result d hd := h.result d (hsub.subset hd)

/-- **A message that arrives as final is the one that was polled.** -/
theorem Arrivals.finalized (h : Arrivals c ledger batch done) {p instant : Nat}
    {f : FinalizedMessage} (hd : ⟨instant, p, some (.finalized f)⟩ ∈ done) :
    batch.messages[p]? = some f.message ∧ ∃ horizon,
      (Poll.observe ledger f.message c.schedule horizon).ending =
        some (instant, .result (.finalized f)) := by
  obtain ⟨m, horizon, r, hm, hending, heq⟩ := h.result _ hd _ rfl
  cases r with
  | finalized f' =>
    obtain rfl := Polled.finalized.inj heq
    obtain ⟨rfl, -⟩ := Poll.exists_positive_answer hending
    exact ⟨hm, horizon, hending⟩
  | timedOut | failed => exact nomatch heq

/-- **The last arrival is a new one**, so the gate has nothing yet for its message, and handing over
its result is a move of the driver. -/
theorem Arrivals.offer_last {d : Completion} (h : Arrivals c ledger batch (done ++ [d]))
    (hreach : Reaches c ledger batch handed s)
    (hfrom : ∀ p instant polled, handed p = some (instant, polled) →
      ⟨instant, p, some polled⟩ ∈ done)
    (hhalted : s.halted = none) (haborted : s.aborted = false) {polled : Polled}
    (hpolled : d.polled = some polled) :
    let handed' := Function.update handed d.position (some (d.instant, polled))
    (∀ e ∈ done, e.position ≠ d.position) ∧
      Reaches c ledger batch handed'
        (({ s with now := max s.now d.instant, latest := d.instant } : State).offer d.position
          polled) ∧
      ∀ p instant polled, handed' p = some (instant, polled) →
        ⟨instant, p, some polled⟩ ∈ done ++ [d] := by
  intro handed'
  have hnew : ∀ e ∈ done, e.position ≠ d.position := by
    intro e he heq
    have hnodup := h.nodup
    rw [List.map_append, List.map_singleton] at hnodup
    exact (List.nodup_append.mp hnodup).2.2 _ (List.mem_map_of_mem he) _
      (List.mem_singleton_self _) heq
  have hnone : handed d.position = none := by
    cases hp : handed d.position with
    | none => rfl
    | some a =>
      obtain ⟨instant, polled'⟩ := a
      exact absurd rfl (hnew ⟨instant, d.position, some polled'⟩ (hfrom _ instant polled' hp))
  refine ⟨hnew, (hreach.learn d.instant hhalted).offer hhalted haborted
    (h.lt d (List.mem_append_right _ (List.mem_singleton_self d))) hnone (Nat.le_max_right _ _), ?_⟩
  intro p instant polled' hp
  dsimp only [handed'] at hp
  rcases eq_or_ne p d.position with rfl | hne
  · rw [Function.update_self, Option.some.injEq, Prod.mk.injEq] at hp
    obtain ⟨rfl, rfl⟩ := hp
    rw [← hpolled]
    exact List.mem_append_right _ (List.mem_singleton_self d)
  · rw [Function.update_of_ne hne] at hp
    exact List.mem_append_left _ (hfrom p instant polled' hp)

/-- **Whatever the arrivals, the driver keeps to its moves.** The gate has been handed nothing but
results that arrived, and as long as nothing halts or aborts the run, all of them. -/
theorem Arrivals.exists_drive (h : Arrivals c ledger batch done) :
    ∃ handed, Reaches c ledger batch handed (drive c batch.keys (relayOn c ledger) done) ∧
      (∀ p instant polled, handed p = some (instant, polled) →
        ⟨instant, p, some polled⟩ ∈ done) ∧
      ((drive c batch.keys (relayOn c ledger) done).halted = none →
        (drive c batch.keys (relayOn c ledger) done).aborted = false →
        ∀ p instant polled, ⟨instant, p, some polled⟩ ∈ done →
          handed p = some (instant, polled)) := by
  -- on the arrivals from the last one on, since that is the driver's last step
  induction done using List.reverseRecOn with
  | nil =>
    refine ⟨fun _ => none, ?_, nofun, fun _ _ => nofun⟩
    rw [drive, List.foldl_nil, length_keys]
    exact .start
  | append_singleton done d ih =>
    obtain ⟨handed, hreach, hfrom, hall⟩ := ih (h.sublist (List.sublist_append_left done [d]))
    rw [drive_append_singleton]
    rcases step_cases (drive c batch.keys (relayOn c ledger) done) d with
      ⟨hover, hstep⟩ | ⟨hover, hdrop, hstep⟩ | ⟨hover, haborted, polled, hpolled, hstep⟩
    · -- the run is over
      rw [hstep]
      refine ⟨handed, hreach, fun p instant polled hp =>
        List.mem_append_left _ (hfrom p instant polled hp), fun hhalted haborted => ?_⟩
      exact nomatch hover.symm.trans (isOver_eq_false hhalted haborted)
    · -- the result is dropped, or there is none
      rw [hstep]
      refine ⟨handed, hreach.learn d.instant (halted_of_isOver hover), fun p instant polled hp =>
        List.mem_append_left _ (hfrom p instant polled hp), ?_⟩
      intro hhalted haborted p instant polled hp
      rcases List.mem_append.mp hp with hp | hp
      · exact hall hhalted haborted p instant polled hp
      · rcases hdrop with hnone | hdrop
        · rw [← List.mem_singleton.mp hp] at hnone
          exact nomatch hnone
        · exact nomatch hdrop.symm.trans haborted
    · -- the result is handed to the gate
      obtain ⟨hnew, hoffered, hfrom'⟩ :=
        h.offer_last hreach hfrom (halted_of_isOver hover) haborted hpolled
      rw [hstep]
      refine ⟨_, hoffered.release, hfrom', fun _ _ p instant polled' hp => ?_⟩
      rcases List.mem_append.mp hp with hp | hp
      · rw [Function.update_of_ne (hnew _ hp)]
        exact hall (halted_of_isOver hover) haborted p instant polled' hp
      · obtain rfl := List.mem_singleton.mp hp
        obtain rfl := Option.some.inj hpolled
        rw [Function.update_self]

/-! ### Runs that have come to their end -/

variable (c ledger batch) in
/-- **A run that has come to its end**: the driver takes no notice any more of what the polls do, or
all of them have ended. -/
structure Finished (done : List Completion) (s : State) : Prop where
  /-- The polls of whose ends the driver was told. -/
  arrivals : Arrivals c ledger batch done
  /-- There is nothing left to wait for. -/
  complete : (drive c batch.keys (relayOn c ledger) done).isOver c = true ∨
    ∀ p < batch.size, ∃ d ∈ done, d.position = p
  /-- The driver's last state. -/
  state : s = finish c batch.keys (relayOn c ledger) done

/-- **What the gate has been handed came from the polls**: the result that arrived, or a loss if the
poll died. -/
def HandedFrom (done : List Completion) (handed : Handed) : Prop :=
  ∀ p instant polled, handed p = some (instant, polled) →
    ⟨instant, p, some polled⟩ ∈ done ∨ polled = lost ∧ ∃ d ∈ done, d.position = p ∧ d.polled = none

/-- **The end of a run in terms of the driver's moves.** What the gate has been handed came from the
polls. Every message is settled, unless the run is halted or aborted. -/
theorem Finished.exists_reaches (h : Finished c ledger batch done s) :
    ∃ handed, Reaches c ledger batch handed s ∧ HandedFrom done handed ∧
      (s.halted = none → s.aborted = false → s.settled.length = batch.size) := by
  obtain ⟨handed, hreach, hfrom, hall⟩ := h.arrivals.exists_drive
  have hsound : HandedFrom done handed := fun p instant polled hp =>
    Or.inl (hfrom p instant polled hp)
  rw [h.state, finish]
  by_cases hover : (drive c batch.keys (relayOn c ledger) done).isOver c = true
  · rw [if_pos hover]
    refine ⟨handed, hreach, hsound, fun hhalted haborted => ?_⟩
    exact absurd hover (Bool.eq_false_iff.mp (isOver_eq_false hhalted haborted))
  rw [if_neg hover]
  have hhalted := halted_of_isOver (Bool.eq_false_iff.mpr hover)
  by_cases haborted : (drive c batch.keys (relayOn c ledger) done).aborted = true
  · have hrepair : repair c batch.keys (relayOn c ledger)
        (drive c batch.keys (relayOn c ledger) done) =
          drive c batch.keys (relayOn c ledger) done := by
      rw [repair, haborted, Bool.or_true, Bool.true_or, if_pos rfl]
    rw [hrepair]
    exact ⟨handed, hreach, hsound, fun _ hc => nomatch haborted.symm.trans hc⟩
  · have haborted := Bool.eq_false_iff.mpr haborted
    obtain ⟨hreach', hsize⟩ := hreach.repair hhalted haborted
    refine ⟨_, hreach', fun p instant polled hp => ?_, hsize⟩
    dsimp only at hp
    cases hh : handed p with
    | some a =>
      rw [hh, Option.some_or] at hp
      exact hsound p instant polled (hh.trans hp)
    | none =>
      rw [hh, Option.none_or] at hp
      split at hp
      next hlt =>
        obtain ⟨rfl, rfl⟩ := Prod.mk.inj (Option.some.inj hp)
        obtain ⟨d, hd, rfl⟩ := (h.complete.resolve_left hover) p hlt
        refine Or.inr ⟨rfl, d, hd, rfl, ?_⟩
        -- a result that had arrived would have been handed over
        cases hpolled : d.polled with
        | none => rfl
        | some polled =>
          refine nomatch hh.symm.trans (hall hhalted haborted d.position d.instant polled ?_)
          rw [← hpolled]
          exact hd
      next => exact nomatch hp

/-! ### Runs that are observed -/

/-- The result with which a poll ends, if it does not die. -/
def polled? : PollEnding → Option Polled
  | .result r => some (.ofResult r)
  | .death => none

/-- The completions of polls are those that have ended. -/
theorem mem_completions {polls : List PollTrace} {d : Completion} :
    d ∈ completions polls ↔ ∃ poll ending, polls[d.position]? = some poll ∧
      poll.ending = some (d.instant, ending) ∧ d.polled = polled? ending := by
  rw [completions, List.mem_mergeSort, List.mem_filterMap]
  constructor
  · rintro ⟨⟨poll, position⟩, hmem, hd⟩
    obtain ⟨⟨instant, ending⟩, hending, rfl⟩ := Option.map_eq_some_iff.mp hd
    refine ⟨poll, ending, List.mem_zipIdx_iff_getElem?.mp hmem, hending, ?_⟩
    cases ending <;> rfl
  · rintro ⟨poll, ending, hpoll, hending, hpolled⟩
    refine ⟨(poll, d.position), List.mem_zipIdx_iff_getElem?.mpr hpoll, ?_⟩
    dsimp only
    rw [hending, Option.map_some, Option.some.injEq]
    obtain ⟨instant, position, polled⟩ := d
    obtain rfl : polled = _ := hpolled
    cases ending <;> rfl

/-- No poll ends twice. -/
theorem nodup_completions (polls : List PollTrace) :
    ((completions polls).map Completion.position).Nodup := by
  refine ((List.mergeSort_perm _ _).map _).nodup_iff.mpr (List.pairwise_map.mpr ?_)
  have hzip : polls.zipIdx.Pairwise fun a b => a.2 ≠ b.2 := by
    refine List.pairwise_map.mp ?_
    rw [List.zipIdx_map_snd]
    exact List.nodup_range' 1
  refine List.pairwise_filterMap.mpr (hzip.imp fun hne d hd e he => ?_)
  obtain ⟨_, -, rfl⟩ := Option.map_eq_some_iff.mp hd
  obtain ⟨_, -, rfl⟩ := Option.map_eq_some_iff.mp he
  exact hne

/-- They come in the order in which the polls end. -/
theorem pairwise_completions (polls : List PollTrace) :
    (completions polls).Pairwise fun d e => d.instant ≤ e.instant := by
  have htrans : ∀ a b c : Completion, decide (a.instant ≤ b.instant) = true →
      decide (b.instant ≤ c.instant) = true → decide (a.instant ≤ c.instant) = true := by
    intro a b c hab hbc
    exact decide_eq_true (Nat.le_trans (of_decide_eq_true hab) (of_decide_eq_true hbc))
  have htotal : ∀ a b : Completion,
      (decide (a.instant ≤ b.instant) || decide (b.instant ≤ a.instant)) = true := by
    intro a b
    rw [Bool.or_eq_true, decide_eq_true_eq, decide_eq_true_eq]
    exact Nat.le_total a.instant b.instant
  exact (List.pairwise_mergeSort htrans htotal _).imp of_decide_eq_true

/-- **The polls that an observer sees are arrivals.** -/
theorem arrivals_completions (c : RunConfig) (ledger : Ledger) (batch : Batch) (horizon : Nat) :
    Arrivals c ledger batch (completions (polls c ledger batch horizon)) where
  nodup := nodup_completions _
  lt d hd := by
    obtain ⟨poll, -, hpoll, -⟩ := mem_completions.mp hd
    obtain ⟨hlt, -⟩ := List.getElem?_eq_some_iff.mp hpoll
    rw [polls, List.length_map] at hlt
    exact hlt
  result d hd polled hpolled := by
    obtain ⟨poll, ending, hpoll, hending, heq⟩ := mem_completions.mp hd
    rw [polls, List.getElem?_map] at hpoll
    obtain ⟨m, hm, rfl⟩ := Option.map_eq_some_iff.mp hpoll
    rw [heq] at hpolled
    cases ending with
    | death => exact nomatch hpolled
    | result r => exact ⟨m, horizon, r, hm, hending, (Option.some.inj hpolled).symm⟩

/-- An aborted run is repaired by doing nothing. -/
theorem finish_of_aborted {done : List Completion}
    (h : (drive c batch.keys (relayOn c ledger) done).aborted = true) :
    finish c batch.keys (relayOn c ledger) done = drive c batch.keys (relayOn c ledger) done := by
  rw [finish, repair, h, Bool.or_true, Bool.true_or, if_pos rfl, ite_self]

/-- A run that is over but leaves its polls to themselves waits for a relay, and the repair does
nothing for it. -/
theorem isStuck_repair {s : State} (h : s.isOver c = true) (hpolls : s.endsPolls c = false) :
    (repair c batch.keys (relayOn c ledger) s).isStuck = true := by
  rw [State.endsPolls, h, Bool.true_and, Bool.not_eq_false'] at hpolls
  have hhalted : s.halted.isSome = true := by
    obtain ⟨relay, hrelay, -⟩ := (Option.any_eq_true _ _).mp hpolls
    exact hrelay ▸ rfl
  rw [repair, hhalted, Bool.true_or, Bool.true_or, if_pos rfl]
  exact hpolls

/-- **What an observer sees of a run**: the driver has put an end to the polls, or all of them have
ended and it has repaired what is missing. It does not wait for a relay. -/
theorem observe_cases {horizon : Nat} {t : Trace} (h : observe c ledger batch horizon = some t) :
    let seen := polls c ledger batch horizon
    let s := drive c batch.keys (relayOn c ledger) (completions seen)
    t.reports = t.state.reports batch.keys ∧ t.state.isStuck = false ∧
      ((s.isOver c = true ∧ t.state = s ∧ t.polls = polls c ledger batch s.cut) ∨
        (s.isOver c = false ∧ t.state = repair c batch.keys (relayOn c ledger) s ∧
          t.polls = seen ∧ ∀ poll ∈ seen, ∃ stop ending, poll.ending = some (stop, ending))) := by
  intro seen s
  unfold observe at h
  dsimp only at h
  split at h
  next hends =>
    obtain rfl := Option.some.inj h
    rw [State.endsPolls, Bool.and_eq_true, Bool.not_eq_true'] at hends
    exact ⟨rfl, hends.2, Or.inl ⟨hends.1, rfl, rfl⟩⟩
  next hends =>
    split at h
    next hended =>
      split at h
      next => contradiction
      next hlive =>
        obtain rfl := Option.some.inj h
        have hover : s.isOver c = false := Bool.eq_false_iff.mpr fun hover =>
          hlive (isStuck_repair hover (Bool.eq_false_iff.mpr hends))
        refine ⟨rfl, Bool.eq_false_iff.mpr hlive, Or.inr ⟨hover, rfl, rfl, fun poll hpoll => ?_⟩⟩
        obtain ⟨⟨stop, ending⟩, hending⟩ :=
          Option.isSome_iff_exists.mp (List.all_eq_true.mp hended poll hpoll)
        exact ⟨stop, ending, hending⟩
    next => contradiction

/-- All calls that the destination ledger received in a run: those of the polls, those of the relays
that came to their ends, and those of a relay that did not. -/
def Trace.calls (t : Trace) : List LedgerCall :=
  t.polls.flatMap (·.calls) ++ t.state.settled.flatMap (·.calls)
    ++ (t.state.halted.map (·.calls)).getD []

/-- **A run that is observed is put together** from its polls, which are seen up to some instant,
and its last state. -/
theorem eq_of_observe {horizon : Nat} {t : Trace} (h : observe c ledger batch horizon = some t) :
    t = .of batch t.polls t.state ∧ ∃ watched, t.polls = polls c ledger batch watched := by
  unfold observe at h
  dsimp only at h
  split at h
  next =>
    obtain rfl := Option.some.inj h
    exact ⟨rfl, _, rfl⟩
  next =>
    split at h
    next =>
      split at h
      next => contradiction
      next =>
        obtain rfl := Option.some.inj h
        exact ⟨rfl, horizon, rfl⟩
    next => contradiction

/-- **A run that is observed has come to its end**, and its reports are those of its last state. -/
theorem finished_of_observe {horizon : Nat} {t : Trace}
    (h : observe c ledger batch horizon = some t) :
    Finished c ledger batch (completions (polls c ledger batch horizon)) t.state ∧
      t.reports = t.state.reports batch.keys := by
  have harrivals := arrivals_completions c ledger batch horizon
  obtain ⟨hreports, -, ⟨hover, hstate, -⟩ | ⟨hover, hstate, -, hended⟩⟩ := observe_cases h
  · exact ⟨⟨harrivals, Or.inl hover, by rw [finish, if_pos hover, hstate]⟩, hreports⟩
  · have hgo := Bool.eq_false_iff.mp hover
    refine ⟨⟨harrivals, Or.inr fun p hp => ?_, by rw [finish, if_neg hgo, hstate]⟩, hreports⟩
    have hlt : p < (polls c ledger batch horizon).length := by
      rw [polls, List.length_map]
      exact hp
    obtain ⟨instant, ending, hending⟩ := hended _ (List.getElem_mem hlt)
    exact ⟨⟨instant, p, polled? ending⟩, mem_completions.mpr
      ⟨_, ending, List.getElem?_eq_getElem hlt, hending, rfl⟩, rfl⟩

/-- The run of a batch is about this batch. -/
theorem batch_of_trace {t : Trace} (h : trace c ledger batch = some t) : t.batch = batch := by
  obtain ⟨n, -, hn⟩ := List.exists_of_findSome?_eq_some h
  rw [(eq_of_observe hn).1, Trace.of]

/-- The run against a ledger is one of these. -/
theorem exists_finished_of_trace {t : Trace} (h : trace c ledger batch = some t) :
    ∃ done, Finished c ledger batch done t.state ∧ t.reports = t.state.reports batch.keys := by
  obtain ⟨n, -, hn⟩ := List.exists_of_findSome?_eq_some h
  exact ⟨_, finished_of_observe hn⟩

end Run

/-! ### Polls that end at once -/

/-- The ledger answers the first query about a message at once, and positively. -/
def Ledger.FinalAtOnce (ledger : Ledger) (m : Message) : Prop :=
  ∃ cost, ledger.estimate m 0 = .answer 0 (.ok cost) ∧
    ledger.check m (Poll.paddedGas cost) 1 0 = .answer 0 (.ok true)

/-- A ledger that answers every call at once: all messages are final, and a delivery comes back with
a status that depends on the message. -/
def Ledger.prompt (status : Message → UInt64) : Ledger where
  estimate _ _ := .answer 0 (.ok 0)
  check _ _ _ _ := .answer 0 (.ok true)
  finalityTime _ _ := .answer 0 (.ok none)
  submit m _ _ := .answer 0 (.ok ⟨Octets.replicate 32 m.sequence.toUInt8, status m⟩)

namespace Run

/-- On such a ledger the first query of a poll ends it. -/
theorem observe_at_once {m : Message} {schedule : Schedule} (h : ledger.FinalAtOnce m)
    (hi : schedule.interval ≠ .zero) (hd : schedule.deadline ≠ some .zero) :
    (Poll.observe ledger m schedule 1).ending = some (0, .result (.finalized ⟨m, 1, 0⟩)) := by
  obtain ⟨cost, hestimate, hcheck⟩ := h
  have hwait : ∀ {α : Type} (result : Except LedgerError α),
      (Reply.answer 0 result).await 0 schedule.cutOff 1 = .answered 0 result := by
    intro α result
    cases hs : schedule.cutOff <;> simp [Reply.await]
  rw [Poll.observe, if_neg (by decide), if_neg hi, if_neg hd]
  simp only [hestimate, hwait]
  rw [Poll.attempts, dif_pos ⟨by decide, by decide, hi⟩, if_neg (by decide)]
  simp only [hcheck, hwait]
  rfl

/-- A submission that is answered at once, and with success, is the only one. -/
theorem relayOn_at_once {f : FinalizedMessage} {now : Nat} {tx : Hash}
    (h : ledger.submit f.message 0 now = .answer 0 (.ok ⟨tx, successStatus⟩)) :
    ∃ calls events, relayOn c ledger f now = ⟨calls, events, .result now (.ok tx)⟩ := by
  rw [relayOn, Relay.submit, RetryPolicy.attempts, RetryPolicy.attemptsFrom_of_ok h]
  exact ⟨_, _, rfl⟩

/-- The driver relays the only message of a batch when its poll has ended. -/
theorem drive_one {k : MessageKey} {relay : FinalizedMessage → Nat → RelayTrace}
    {f : FinalizedMessage} {tx : Hash} {calls : List LedgerCall} {events : List Metrics.Event}
    (h : relay f 0 = ⟨calls, events, .result 0 (.ok tx)⟩) :
    drive c [k] relay [⟨0, 0, some (.finalized f)⟩] =
      { State.start 1 with
        gate := ⟨1, 1, []⟩
        settled := [⟨0, .relayed tx, 0, calls⟩]
        events } := by
  simp [drive, step, State.start, State.isOver, State.offer, Gate.offer, Gate.new, Gate.holds,
    Gate.buffered, State.release, State.releaseUpTo, Gate.next, State.take, h, State.settle,
    Outcome.isRelayed]

/-- **A single message that is final and delivered at once** is reported as relayed. -/
theorem trace_one {m : Message} {tx : Hash} (hbatch : batch.messages = [m])
    (hfinal : ledger.FinalAtOnce m) (hi : c.schedule.interval ≠ .zero)
    (hd : c.schedule.deadline ≠ some .zero)
    (hsubmit : ledger.submit m 0 0 = .answer 0 (.ok ⟨tx, successStatus⟩)) :
    ∃ t, trace c ledger batch = some t ∧ t.state.halted = none ∧
      t.reports = [⟨m.key, .relayed tx⟩] := by
  have hkeys : batch.keys = [m.key] := by
    rw [Batch.keys, hbatch]
    rfl
  have hpoll := observe_at_once hfinal hi hd
  have hdone : completions (polls c ledger batch 1) = [⟨0, 0, some (.finalized ⟨m, 1, 0⟩)⟩] := by
    simp [completions, polls, hbatch, hpoll, Polled.ofResult]
  have hended : (polls c ledger batch 1).all (·.ending.isSome) = true := by
    simp [polls, hbatch, hpoll]
  obtain ⟨calls, events, hrelay⟩ :
      ∃ calls events, relayOn c ledger ⟨m, 1, 0⟩ 0 = ⟨calls, events, .result 0 (.ok tx)⟩ :=
    relayOn_at_once hsubmit
  have hdrive : drive c [m.key] (relayOn c ledger) _ = _ := drive_one hrelay
  -- the first horizon that is tried is enough
  rw [trace, List.range_succ_eq_map, List.findSome?_cons, Nat.shiftLeft_zero, observe]
  simp only [hdone, hkeys, hdrive, hended]
  refine ⟨_, rfl, rfl, ?_⟩
  rw [Trace.of, hkeys]
  rfl

/-- Any polls may end in any order, with that result or by dying. -/
theorem arrivals_at_once (hfinal : ∀ m ∈ batch.messages, ledger.FinalAtOnce m)
    (hi : c.schedule.interval ≠ .zero) (hd : c.schedule.deadline ≠ some .zero)
    (hnodup : (done.map Completion.position).Nodup)
    (hdone : ∀ d ∈ done, ∃ m, batch.messages[d.position]? = some m ∧
      (d.polled = none ∨ d.instant = 0 ∧ d.polled = some (.finalized ⟨m, 1, 0⟩))) :
    Arrivals c ledger batch done where
  nodup := hnodup
  lt d hd := by
    obtain ⟨m, hm, -⟩ := hdone d hd
    exact (List.getElem?_eq_some_iff.mp hm).1
  result d hmem polled hpolled := by
    obtain ⟨m, hm, hnone | ⟨hinstant, hsome⟩⟩ := hdone d hmem
    · exact nomatch hnone.symm.trans hpolled
    · refine ⟨m, 1, .finalized ⟨m, 1, 0⟩, hm, ?_, Option.some.inj (hpolled.symm.trans hsome)⟩
      rw [hinstant]
      exact observe_at_once (hfinal m (List.mem_of_getElem? hm)) hi hd

/-- Three messages. -/
def Batch.three : Batch :=
  ⟨[.sample 1, .sample 2, .sample 3], by decide⟩

/-- Ends of the polls of three messages: the last one is final first, and the poll in the middle
dies. -/
def threeArrivals : List Completion :=
  [⟨0, 2, some (.finalized ⟨.sample 3, 1, 0⟩)⟩, ⟨0, 1, none⟩,
    ⟨0, 0, some (.finalized ⟨.sample 1, 1, 0⟩)⟩]

theorem arrivals_three_of_final (hfinal : ∀ m, ledger.FinalAtOnce m)
    (hi : c.schedule.interval ≠ .zero) (hd : c.schedule.deadline ≠ some .zero) :
    Arrivals c ledger Batch.three threeArrivals := by
  refine arrivals_at_once (fun m _ => hfinal m) hi hd (by decide) fun d hmem => ?_
  rw [threeArrivals, List.mem_cons, List.mem_cons, List.mem_singleton] at hmem
  rcases hmem with rfl | rfl | rfl
  · exact ⟨.sample 3, rfl, Or.inr ⟨rfl, rfl⟩⟩
  · exact ⟨.sample 2, rfl, Or.inl rfl⟩
  · exact ⟨.sample 1, rfl, Or.inr ⟨rfl, rfl⟩⟩

theorem arrivals_three (status : Message → UInt64) (hi : c.schedule.interval ≠ .zero)
    (hd : c.schedule.deadline ≠ some .zero) :
    Arrivals c (.prompt status) Batch.three threeArrivals :=
  arrivals_three_of_final (fun _ => ⟨0, rfl, rfl⟩) hi hd

/-- A run with these arrivals comes to its end. -/
theorem finished_three (policy : FailurePolicy) (status : Message → UInt64) :
    let c : RunConfig := { policy, retry := .disabled }
    Finished c (.prompt status) Batch.three threeArrivals
      (finish c Batch.three.keys (relayOn c (.prompt status)) threeArrivals) where
  arrivals := by
    cases policy
    · exact arrivals_three status (by decide) (by decide)
    · exact arrivals_three status (by decide) (by decide)
  complete := Or.inr (by decide)
  state := rfl

/-- If failures abort such a run, the first message is relayed, the second one is lost and the third
one is blocked. -/
theorem outcomes_three :
    let c : RunConfig := { retry := .disabled }
    let s := finish c Batch.three.keys (relayOn c (.prompt fun _ => successStatus)) threeArrivals
    s.halted.isNone = true ∧ s.settled.map Settlement.outcome =
      [.relayed (Octets.replicate 32 1), .pollFailed "poll task ended unexpectedly",
        .aborted (Message.sample 2).key] := by
  decide

end Run

end MessageRelay
