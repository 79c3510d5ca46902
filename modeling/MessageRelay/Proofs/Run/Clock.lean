import MessageRelay.Proofs.Run.Reports

/-!
# The clock of a run

The clock of a run's driver moves on two occasions only: the driver learns that a poll has ended,
or it settles a message. It never moves back. So it stands at the latest instant of either kind, and
the only exception is a run that was aborted and cancels its polls, which learns nothing any more
and whose clock stays where the last message was settled. That is `MessageRelay.Run.Clocked`.

The step is `MessageRelay.Run.take_clock`: when a message is settled the clock stands at that
instant, because everything that an abortion settles behind it is settled at the same one. It makes
no difference in which order the polls end, nor which of them die.
-/

namespace MessageRelay

namespace Run

/-! ### Instants -/

/-- The latest of some instants; the start of the run if there are none. -/
def latestOf (instants : List Nat) : Nat :=
  instants.foldr max 0

@[simp] theorem latestOf_nil : latestOf [] = 0 := rfl

@[simp] theorem latestOf_cons (t : Nat) (ts : List Nat) :
    latestOf (t :: ts) = max t (latestOf ts) := rfl

theorem latestOf_append (ts ts' : List Nat) :
    latestOf (ts ++ ts') = max (latestOf ts) (latestOf ts') := by
  induction ts with
  | nil => simp
  | cons t ts ih => rw [List.cons_append, latestOf_cons, latestOf_cons, ih, Nat.max_assoc]

@[simp] theorem latestOf_concat (ts : List Nat) (t : Nat) :
    latestOf (ts ++ [t]) = max (latestOf ts) t := by
  rw [latestOf_append, latestOf_cons, latestOf_nil, Nat.max_zero]

theorem latestOf_le_iff {ts : List Nat} {t : Nat} : latestOf ts ≤ t ↔ ∀ x ∈ ts, x ≤ t := by
  induction ts with
  | nil => simp
  | cons x ts ih => rw [latestOf_cons, Nat.max_le, ih, List.forall_mem_cons]

theorem le_latestOf {ts : List Nat} {t : Nat} (h : t ∈ ts) : t ≤ latestOf ts :=
  latestOf_le_iff.mp (Nat.le_refl _) t h

/-- When the last of some messages was settled; the start of the run if there are none. -/
def lastSettled (settled : List Settlement) : Nat :=
  (settled.getLast?.map Settlement.instant).getD 0

@[simp] theorem lastSettled_nil : lastSettled [] = 0 := rfl

@[simp] theorem lastSettled_concat (front : List Settlement) (st : Settlement) :
    lastSettled (front ++ [st]) = st.instant := by
  rw [lastSettled, List.getLast?_concat]
  rfl

/-- Messages that are settled together with the one in front of them are settled when that one is.
-/
theorem lastSettled_append_cons {front behind : List Settlement} {st : Settlement}
    (h : ∀ b ∈ behind, b.instant = st.instant) :
    lastSettled (front ++ st :: behind) = st.instant := by
  rcases List.eq_nil_or_concat behind with rfl | ⟨behind, b, rfl⟩
  · exact lastSettled_concat front st
  · rw [List.concat_eq_append] at h ⊢
    rw [← List.cons_append, ← List.append_assoc, lastSettled_concat]
    exact h b (List.mem_append_right _ (List.mem_singleton_self b))

/-! ### The clock while messages are settled -/

variable {c : RunConfig} {ledger : Ledger} {batch : Batch} {s : State}

/-- **When a message is settled the clock stands at that instant**, and it has not moved back. -/
theorem take_clock {position : Nat} {polled : Polled}
    (h : (s.take c batch.keys (relayOn c ledger) position polled).halted = none) :
    s.now ≤ (s.take c batch.keys (relayOn c ledger) position polled).now ∧
      (s.take c batch.keys (relayOn c ledger) position polled).now =
        lastSettled (s.take c batch.keys (relayOn c ledger) position polled).settled := by
  rcases take_cases c ledger batch s position polled with
    ⟨st, events, -, hst, htake⟩ | ⟨m, now', events, -, -, -, htake⟩
  · rw [htake]
    by_cases hfail : st.outcome.isRelayed = false ∧ c.policy = .abortRemaining
    · -- what an abortion settles, it settles at once
      rw [settle_of_failure hfail.1 hfail.2, State.abortBehind]
      refine ⟨hst.bounds.1, ?_⟩
      dsimp only
      rw [List.append_assoc, List.singleton_append, lastSettled_append_cons]
      intro b hb
      obtain ⟨p, -, rfl⟩ := List.mem_map.mp hb
      rfl
    · rw [settle_of_not_failure hfail]
      refine ⟨hst.bounds.1, ?_⟩
      dsimp only
      rw [lastSettled_concat]
  · rw [htake] at h
    exact absurd h (Option.some_ne_none _)

/-- **The clock behind a release** stands where the last message was settled, unless none was. -/
theorem releaseUpTo_clock {steps : Nat}
    (h : (s.releaseUpTo c batch.keys (relayOn c ledger) steps).halted = none) :
    let s' := s.releaseUpTo c batch.keys (relayOn c ledger) steps
    s.now ≤ s'.now ∧ (s'.now = lastSettled s'.settled ∨
      (s'.now = s.now ∧ s'.settled = s.settled ∧ s'.aborted = s.aborted)) := by
  refine releaseUpTo_induction (P := fun s' => s'.halted = none → s.now ≤ s'.now ∧
    (s'.now = lastSettled s'.settled ∨
      (s'.now = s.now ∧ s'.settled = s.settled ∧ s'.aborted = s.aborted))) ?_ ?_ steps h
  · exact fun _ => ⟨Nat.le_refl _, Or.inr ⟨rfl, rfl, rfl⟩⟩
  · intro s' position polled gate hbefore hhalted _ htaken
    obtain ⟨hle, hnow⟩ := take_clock htaken
    exact ⟨Nat.le_trans (hbefore hhalted).1 hle, Or.inl hnow⟩

/-! ### The clock of the driver -/

variable (c) in
/-- **Where the clock stands** if `learned` is the latest end of a poll that there has been: there,
or where the last message was settled. A run that was aborted and cancels its polls does not wait
for them. -/
def Clocked (learned : Nat) (s : State) : Prop :=
  s.now = if s.aborted && c.cancelOnAbort then lastSettled s.settled
    else max learned (lastSettled s.settled)

theorem clocked_iff_of_not_cancelled {learned : Nat} (h : (s.aborted && c.cancelOnAbort) = false) :
    Clocked c learned s ↔ s.now = max learned (lastSettled s.settled) := by
  rw [Clocked, if_neg (Bool.eq_false_iff.mp h)]

/-- The end of a poll moves the clock of a run that still waits for its polls. -/
theorem Clocked.learn {learned : Nat} (hclock : Clocked c learned s) (hover : s.isOver c = false)
    (instant : Nat) :
    Clocked c (max learned instant) { s with now := max s.now instant, latest := instant } := by
  have hopen : (s.aborted && c.cancelOnAbort) = false := (Bool.or_eq_false_iff.mp hover).2
  rw [clocked_iff_of_not_cancelled hopen] at hclock
  rw [clocked_iff_of_not_cancelled (by exact hopen)]
  dsimp only
  rw [hclock, Nat.max_right_comm]

/-- Handing over a result takes no time. -/
theorem Clocked.offer {learned : Nat} (hclock : Clocked c learned s) (position : Nat)
    (polled : Polled) : Clocked c learned (s.offer position polled) := by
  obtain ⟨hnow, haborted, -⟩ := offer_frame s position polled
  rw [Clocked, hnow, haborted, settled_offer]
  exact hclock

/-- What is released keeps the clock where it should be. -/
theorem Clocked.release {learned : Nat} (hclock : Clocked c learned s)
    (haborted : s.aborted = false)
    (h : (s.release c batch.keys (relayOn c ledger)).halted = none) :
    Clocked c learned (s.release c batch.keys (relayOn c ledger)) := by
  have hopen : (s.aborted && c.cancelOnAbort) = false := by rw [haborted, Bool.false_and]
  rw [clocked_iff_of_not_cancelled hopen] at hclock
  obtain ⟨hle, hlast | ⟨hsame, hsettled, haborted'⟩⟩ := releaseUpTo_clock h
  · -- the last settlement lies behind the ends of the polls
    have hlearned : learned ≤ lastSettled (s.release c batch.keys (relayOn c ledger)).settled :=
      Nat.le_trans (hclock ▸ Nat.le_max_left _ _) (hlast ▸ hle)
    rw [Clocked, Nat.max_eq_right hlearned, ite_self]
    exact hlast
  · rw [clocked_iff_of_not_cancelled (haborted'.symm ▸ hopen)]
    exact hsame.trans (hsettled.symm ▸ hclock)

/-- **The clock of the driver**, whatever the completions are. -/
theorem drive_clock {done : List Completion}
    (h : (drive c batch.keys (relayOn c ledger) done).halted = none) :
    Clocked c (latestOf (done.map Completion.instant))
      (drive c batch.keys (relayOn c ledger) done) := by
  -- on the completions from the last one on, since that is the driver's last step
  induction done using List.reverseRecOn with
  | nil => exact (Nat.max_self 0).symm
  | append_singleton done d ih =>
    rw [List.map_append, List.map_singleton, latestOf_concat]
    rw [drive_append_singleton] at h ⊢
    rcases step_cases (drive c batch.keys (relayOn c ledger) done) d with
      ⟨hover, hstep⟩ | ⟨hover, -, hstep⟩ | ⟨hover, haborted, polled, -, hstep⟩
    · -- a run that is over, but not by a relay, does not wait for its polls
      rw [hstep] at h ⊢
      have hcancelled :
          (drive c batch.keys (relayOn c ledger) done).aborted && c.cancelOnAbort := by
        rw [State.isOver, h] at hover
        exact hover
      have hclock := ih h
      rw [Clocked, if_pos hcancelled] at hclock ⊢
      exact hclock
    · rw [hstep]
      exact (ih (halted_of_isOver hover)).learn hover d.instant
    · rw [hstep] at h ⊢
      have hhalted := halted_of_isOver hover
      have hlearn := (ih hhalted).learn hover d.instant
      exact (hlearn.offer d.position polled).release ((offer_frame _ _ _).2.1.trans haborted) h

/-- **The clock at the end of a run.** -/
theorem finish_clock {done : List Completion}
    (h : (finish c batch.keys (relayOn c ledger) done).halted = none) :
    Clocked c (latestOf (done.map Completion.instant))
      (finish c batch.keys (relayOn c ledger) done) := by
  rw [finish] at h ⊢
  split at h
  next hover =>
    rw [if_pos hover]
    exact drive_clock h
  next hover =>
    rw [if_neg hover]
    have hclock := drive_clock (halted_of_isOver (Bool.eq_false_iff.mpr hover))
    rcases repair_cases c batch.keys (relayOn c ledger)
        (drive c batch.keys (relayOn c ledger) done) with
      hrepair | ⟨-, haborted, missing, hrepair⟩
    · rw [hrepair]
      exact hclock
    · rw [hrepair] at h ⊢
      obtain ⟨hnow', haborted', -, hsettled'⟩ := foldl_offer_frame missing lost
        (drive c batch.keys (relayOn c ledger) done)
      refine Clocked.release ?_ (haborted'.trans haborted) h
      rw [Clocked, hnow', haborted', hsettled']
      exact hclock

theorem Finished.clocked {done : List Completion} (h : Finished c ledger batch done s)
    (hhalted : s.halted = none) : Clocked c (latestOf (done.map Completion.instant)) s := by
  rw [h.state] at hhalted ⊢
  exact finish_clock hhalted

/-- Everything that a failure blocks is settled together with it. -/
theorem lastSettled_blocked (before : List Settlement) (failure : Settlement) :
    lastSettled (before ++ failure :: blocked batch failure) = failure.instant := by
  refine lastSettled_append_cons fun b hb => ?_
  obtain ⟨p, -, rfl⟩ := List.mem_map.mp hb
  rfl

/-- **An aborted run that cancels its polls ends with its failure.** -/
theorem Finished.failure_of_cancelled {done : List Completion}
    (h : Finished c ledger batch done s) (haborted : s.aborted = true)
    (hcancel : c.cancelOnAbort = true) :
    s.halted = none ∧ c.policy = .abortRemaining ∧ ∃ before failure,
      s.settled = before ++ failure :: blocked batch failure ∧
        (∀ st ∈ before, st.outcome.isRelayed = true) ∧ failure.outcome.isRelayed = false ∧
        s.now = failure.instant := by
  obtain ⟨handed, hreach, -, -⟩ := h.exists_reaches
  rcases hreach.phase with hphase | hphase | hphase
  · exact nomatch haborted.symm.trans hphase.aborted
  · exact nomatch haborted.symm.trans hphase.aborted
  · obtain ⟨before, failure, -, hbefore, hfailure, hsettled⟩ := hphase.settled
    have hclock := h.clocked hphase.halted
    rw [Clocked, haborted, hcancel, Bool.and_self, if_pos rfl, hsettled, lastSettled_blocked]
      at hclock
    exact ⟨hphase.halted, hphase.policy, before, failure, hsettled, hbefore, hfailure, hclock⟩

end Run

end MessageRelay
