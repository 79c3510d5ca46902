import MessageRelay.Metrics

/-!
# What a registry counts

A registry is a fold over events, and what it holds behind some of them is said in terms of the
events alone. A counter has grown by the number of events of its kind
(`MessageRelay.Metrics.Registry.counter_recordAll`), and a histogram by what they observed
(`MessageRelay.Metrics.Registry.histogram_recordAll`). The extracted messages are added up in binary
floating point, which is exact as long as the sum stays below two to the power of 53
(`MessageRelay.Metrics.Registry.extracted_record`).
-/

namespace MessageRelay

namespace Metrics

/-! ### Events by kind -/

namespace Event

/-- The label of the outcome that is counted. -/
def label? : Event → Option String
  | outcome o => some o.label
  | _ => none

/-- Whether a finality query is counted. -/
def isPollAttempt : Event → Bool
  | pollAttempt => true
  | _ => false

/-- The time until finality that is observed. -/
def finalityWait? : Event → Option Float
  | finalityWait seconds => some seconds
  | _ => none

/-- The time until a receipt that is observed. -/
def relayLatency? : Event → Option Float
  | relayLatency seconds => some seconds
  | _ => none

/-- Whether a batch is counted. -/
def isExtracted : Event → Bool
  | extracted _ => true
  | _ => false

end Event

namespace Registry

/-! ### A registry behind some events -/

/-- The registry behind some more events. -/
def recordAll (r : Registry) (events : List Event) : Registry :=
  events.foldl record r

variable (r : Registry) (events : List Event)

@[simp] theorem recordAll_nil : r.recordAll [] = r := rfl

@[simp] theorem recordAll_cons (e : Event) :
    r.recordAll (e :: events) = (r.record e).recordAll events := rfl

/-- **A batch is counted exactly** as long as fifty-three bits hold the sum. -/
theorem extracted_record {n : Nat} (h : r.extracted.getD 0 + n < 2 * Binary.leadingBit) :
    (r.record (.extracted n)).extracted = some (r.extracted.getD 0 + n) := by
  have hn : n < 2 * Binary.leadingBit := Nat.lt_of_le_of_lt (Nat.le_add_left _ _) h
  rw [record, Decimal.round53_of_lt hn, Decimal.round53_of_lt h]

/-- Nothing else touches that counter. -/
theorem extracted_recordAll (h : ∀ e ∈ events, e.isExtracted = false) :
    (r.recordAll events).extracted = r.extracted := by
  induction events generalizing r with
  | nil => rfl
  | cons e events ih =>
    obtain ⟨he, hrest⟩ := List.forall_mem_cons.mp h
    rw [recordAll_cons, ih _ hrest]
    cases e with
    | extracted n => cases he
    | outcome | pollAttempt | finalityWait | relayLatency => rfl

/-- **What is counted one by one**: if every event of a kind adds one, then behind some events there
are as many more as are of that kind. -/
theorem counter_recordAll (field : Registry → Nat) (counts : Event → Bool)
    (h : ∀ r e, field (r.record e) = field r + if counts e then 1 else 0) :
    field (r.recordAll events) = field r + events.countP counts := by
  induction events generalizing r with
  | nil => rfl
  | cons e events ih =>
    rw [recordAll_cons, ih, h, List.countP_cons, Nat.add_assoc, Nat.add_comm (List.countP _ _)]

theorem pollAttempts_recordAll :
    (r.recordAll events).pollAttempts = r.pollAttempts + events.countP Event.isPollAttempt :=
  counter_recordAll r events pollAttempts Event.isPollAttempt fun _ e => by cases e <;> rfl

/-- How many outcomes were counted under a label. -/
def outcomesOf (label : String) (r : Registry) : Nat :=
  r.outcomes.count label

/-- How many were counted under all labels together. -/
def totalOutcomes (r : Registry) : Nat :=
  (outcomeLabels.map fun label => r.outcomesOf label).foldr (· + ·) 0

theorem outcomesOf_recordAll (label : String) :
    (r.recordAll events).outcomesOf label =
      r.outcomesOf label + events.countP (fun e => e.label? == some label) := by
  refine counter_recordAll r events (outcomesOf label) _ fun r e => ?_
  cases e with
  | outcome o => simp [outcomesOf, record, Event.label?, List.count_cons]
  | extracted | pollAttempt | finalityWait | relayLatency => rfl

/-- Every outcome has one of the labels, so each one counts in the total. -/
theorem totalOutcomes_recordAll :
    (r.recordAll events).totalOutcomes =
      r.totalOutcomes + events.countP (fun e => e.label?.isSome) := by
  refine counter_recordAll r events totalOutcomes _ fun r e => ?_
  cases e with
  | outcome o =>
    cases o with
    | relayed | finalityTimeout | pollFailed | relayFailed | aborted =>
      simp [totalOutcomes, outcomesOf, outcomeLabels, record, Event.label?, Outcome.label,
        List.count_cons]
      omega
  | extracted | pollAttempt | finalityWait | relayLatency => rfl

/-- **What is observed**: if every event puts what it tells in front, then behind some events there
is, in front of the old list, what they told. -/
theorem histogram_recordAll (field : Registry → List Float) (told : Event → Option Float)
    (h : ∀ r e, field (r.record e) = (told e).toList ++ field r) :
    field (r.recordAll events) = (events.filterMap told).reverse ++ field r := by
  induction events generalizing r with
  | nil => rfl
  | cons e events ih =>
    rw [recordAll_cons, ih, h]
    cases htold : told e with
    | none => rw [List.filterMap_cons_none htold, Option.toList_none, List.nil_append]
    | some a =>
      rw [List.filterMap_cons_some htold, List.reverse_cons, List.append_assoc, Option.toList_some]

theorem finalityWaits_recordAll :
    (r.recordAll events).finalityWaits =
      (events.filterMap Event.finalityWait?).reverse ++ r.finalityWaits :=
  histogram_recordAll r events finalityWaits Event.finalityWait? fun _ e => by cases e <;> rfl

theorem relayLatencies_recordAll :
    (r.recordAll events).relayLatencies =
      (events.filterMap Event.relayLatency?).reverse ++ r.relayLatencies :=
  histogram_recordAll r events relayLatencies Event.relayLatency? fun _ e => by cases e <;> rfl

end Registry

end Metrics

end MessageRelay
