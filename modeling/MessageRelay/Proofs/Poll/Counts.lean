import MessageRelay.Proofs.Metrics
import MessageRelay.Proofs.Poll.Lookup

/-!
# What a poll counts

A poll counts its queries when it makes them, so it does not matter what becomes of them: a query
that is cut off, or whose poll is cancelled or dies, has been counted. Beside its queries a poll
counts how long it took until its message was final, once, when it ends so.

A round counts one query, and the last round counts that time if the message is final
(`MessageRelay.Poll.round_events`). By induction over the rounds a poll counts nothing else, up to
whatever instant it is watched (`MessageRelay.Poll.observe_events`).
-/

namespace MessageRelay

open Metrics

namespace Poll

/-- The message that a poll has called final, going by its ending. -/
def finalized? : Option (Nat × PollEnding) → Option FinalizedMessage
  | some (_, .result (.finalized f)) => some f
  | _ => none

/-- The observation of how long it took until a message was final. -/
def waitOf (f : FinalizedMessage) : Float :=
  (Duration.ofMillis f.waited).toSeconds

/-- What a poll with a given ending counts beside its queries. -/
def waits (ending : Option (Nat × PollEnding)) : List Event :=
  ((finalized? ending).map fun f => .finalityWait (waitOf f)).toList

variable {ledger : Ledger} {m : Message} {s : Schedule} {horizon : Nat} {gas : UInt64}
  {attempt : Nat} {slot : Duration} {now : Nat}

/-- A pause does not end with a final message. -/
theorem pause_waits {t : Nat} {ending : Option (Nat × PollEnding)}
    (h : (pause ledger m s horizon attempt slot t).2 = .last ending) : waits ending = [] := by
  have hpause := pause_sequel ledger m s horizon attempt slot t
  rw [h] at hpause
  rcases ending with _ | ⟨t', result | _⟩
  · rfl
  · cases result with
    | finalized f => exact absurd rfl (hpause.2.2.1 f)
    | timedOut | failed => rfl
  · rfl

variable (ledger m s horizon gas attempt slot now) in
/-- **A round counts its query**, and the time if the message is final. -/
theorem round_events :
    (round ledger m s horizon gas attempt slot now).events = .pollAttempt ::
      match (round ledger m s horizon gas attempt slot now).sequel with
      | .last ending => waits ending
      | .another _ _ => [] := by
  cases ha : (ledger.check m gas attempt now).await now s.cutOff horizon with
  | pending | died t | cutOff t =>
    simp only [round, ha]
    rfl
  | answered t result =>
    rcases result with e | (_ | _)
    · simp only [round, ha]
      rfl
    · rw [round_of_negative ha]
      dsimp only
      cases hp : (pause ledger m s horizon attempt slot t).2 with
      | last ending => exact congrArg (List.cons _) (pause_waits hp).symm
      | another slot' now' => rfl
    · simp only [round, ha]
      rfl

/-- A poll that has counted its queries and, if the message is final, the time, and nothing else. -/
def Accounted (t : PollTrace) : Prop :=
  t.events = List.replicate t.queries.length .pollAttempt ++ waits t.ending

theorem accounted_attempts : Accounted (attempts ledger m s horizon gas attempt slot now) := by
  refine attempts_induction rfl (fun _ => rfl) ?_ ?_
  · intro attempt slot now ending hseq
    rw [Accounted, length_queries_before, Round.before, round_events, hseq]
    exact List.append_nil _
  · intro attempt slot now slot' now' rest hseq hrest
    have hevents : rest.events = _ := hrest
    rw [Accounted, length_queries_before, Round.before, round_events, hseq, hevents]
    rfl

/-- A call that is no query is not counted. -/
theorem Accounted.afterCall {t : PollTrace} (h : Accounted t) {c : LedgerCall}
    (hc : c.isCheck = false) : Accounted (t.afterCall c) := by
  rw [Accounted, PollTrace.queries_afterCall hc]
  exact h

/-- **A poll counts its queries and the time until the message is final**, up to whatever instant it
is watched. -/
theorem observe_events (ledger : Ledger) (m : Message) (s : Schedule) (horizon : Nat) :
    Accounted (observe ledger m s horizon) := by
  rw [observe]
  split
  · rfl
  split
  · rfl
  split
  · rfl
  cases (ledger.estimate m 0).await 0 s.cutOff horizon with
  | pending | died t | cutOff t => rfl
  | answered t result =>
    cases result with
    | error e => rfl
    | ok cost => exact accounted_attempts.afterCall rfl

namespace Accounted

variable {t : PollTrace}

/-- A poll counts nothing but queries and times until finality. -/
theorem kind_of_mem (h : Accounted t) {e : Event} (he : e ∈ t.events) :
    e.isExtracted = false ∧ e.label? = none ∧ e.relayLatency? = none := by
  rw [h] at he
  rcases List.mem_append.mp he with he | he
  · rw [List.eq_of_mem_replicate he]
    exact ⟨rfl, rfl, rfl⟩
  · obtain ⟨f, -, rfl⟩ := Option.map_eq_some_iff.mp (Option.mem_toList.mp he)
    exact ⟨rfl, rfl, rfl⟩

theorem countP_isPollAttempt (h : Accounted t) :
    t.events.countP Event.isPollAttempt = t.calls.countP LedgerCall.isCheck := by
  have hwaits : (waits t.ending).countP Event.isPollAttempt = 0 := by
    refine List.countP_eq_zero.mpr fun e he => ?_
    obtain ⟨f, -, rfl⟩ := Option.map_eq_some_iff.mp (Option.mem_toList.mp he)
    exact Bool.false_ne_true
  rw [h, List.countP_append, hwaits, List.countP_replicate, List.countP_eq_length_filter]
  rfl

theorem filterMap_finalityWait? (h : Accounted t) :
    t.events.filterMap Event.finalityWait? = ((finalized? t.ending).map waitOf).toList := by
  have hqueries : (List.replicate t.queries.length Event.pollAttempt).filterMap
      Event.finalityWait? = [] :=
    List.filterMap_eq_nil_iff.mpr fun e he => by rw [List.eq_of_mem_replicate he]; rfl
  rw [h, List.filterMap_append, hqueries, List.nil_append, waits]
  cases finalized? t.ending with
  | none => rfl
  | some f => rfl

end Accounted

end Poll

end MessageRelay
