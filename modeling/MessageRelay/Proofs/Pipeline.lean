import MessageRelay.Pipeline
import MessageRelay.Proofs.Extraction
import MessageRelay.Proofs.Stage

/-!
# Nothing is done by halves

The receipts of source transactions are read to the end before the destination ledger is asked
anything. So if anything in them is wrong, be it in the last entry of the last receipt, the batch is
refused as a whole, and the messages in front of the fault are not relayed either.

What a refused batch leaves behind is said by the log of the stages: there is no call in it, and
nothing that was counted (`MessageRelay.Pipeline.all_or_nothing`). Only a run calls and counts
(`MessageRelay.Run.stage`), it fails with no error of its own, and it is reached only with a batch.
When receipts are refused is known from extraction
(`MessageRelay.Batch.exists_ofReceipts_error_iff`), and a triggering transaction is nothing but one
more way to come to a receipt.
-/

namespace MessageRelay

/-- What is done in runs: the destination ledger is called, and something is counted. -/
def Deed.IsRunning : Deed → Prop
  | called _ _ | counted _ => True
  | askedNetwork | lookedUp _ | submitted _ => False

namespace Run

variable {c : RunConfig} {ledger : Ledger} {batch : Batch} {ε : Type} {t : Trace}

/-- **A run only calls and counts.** -/
theorem only_stage : Stage.Only Deed.IsRunning (stage c ledger batch : Stage ε Trace) := by
  have hdeeds : ∀ {batch polls s}, ∀ d ∈ deedsOf batch polls s, d.IsRunning := by
    intro batch polls s d hd
    rcases List.mem_append.mp hd with hd | hd
    · obtain ⟨e, -, rfl⟩ := List.mem_map.mp hd
      exact trivial
    · obtain ⟨x, -, rfl⟩ := List.mem_map.mp hd
      exact trivial
  intro horizon d hd
  unfold stage at hd
  cases htrace : trace c ledger batch with
  | none =>
    simp only [htrace] at hd
    exact hdeeds d hd
  | some t =>
    simp only [htrace] at hd
    rcases List.mem_append.mp hd with hd | hd
    · exact hdeeds d hd
    · -- behind its deeds, a run that returns counts the outcomes
      cases hhalted : t.state.halted with
      | some relay => simp [hhalted] at hd
      | none =>
        simp only [hhalted, Option.isSome_none, Bool.false_eq_true, if_false] at hd
        obtain ⟨r, -, rfl⟩ := List.mem_map.mp hd
        exact trivial

/-- A run comes to a value when it returns. -/
theorem ending_stage_eq_value_iff :
    (stage c ledger batch : Stage ε Trace).ending = .value t ↔
      trace c ledger batch = some t ∧ t.state.halted = none := by
  unfold stage
  cases trace c ledger batch with
  | none => simp
  | some t' =>
    cases hhalted : t'.state.halted with
    | none =>
      simp only [hhalted, Option.isSome_none, Bool.false_eq_true, if_false, Ending.value.injEq,
        Option.some_inj]
      exact ⟨fun h => ⟨h, h ▸ hhalted⟩, And.left⟩
    | some relay =>
      simp only [hhalted, Option.isSome_some, if_true, reduceCtorEq, Option.some_inj, false_iff]
      rintro ⟨rfl, hnone⟩
      exact absurd (hhalted.symm.trans hnone) (Option.some_ne_none _)

/-- It has no errors of its own. -/
theorem ending_stage_ne_error {e : ε} :
    (stage c ledger batch : Stage ε Trace).ending ≠ .error e := by
  unfold stage
  cases trace c ledger batch with
  | none => simp
  | some t => cases hhalted : t.state.halted <;> simp [hhalted]

end Run

namespace Pipeline

open Stage

variable {p : Pipeline} {destination : Ledger} {rs : List SourceReceipt} {batch : Batch}
  {horizon : Nat}

/-! ### Receipts -/

/-- A refusal comes from extraction alone. -/
theorem ending_runReceipts_eq_error_iff {err : ExtractionError} :
    (p.runReceipts destination rs).ending = .error err ↔
      Batch.ofReceipts p.extractor rs = .error err := by
  rw [runReceipts, ending_bind_eq_error_iff, ending_ofExcept_eq_error_iff]
  refine or_iff_left ?_
  rintro ⟨batch, -, hrun⟩
  exact Run.ending_stage_ne_error hrun

/-- Receipts are refused exactly if something in them is wrong. -/
theorem exists_runReceipts_error_iff :
    (∃ err, (p.runReceipts destination rs).ending = .error err) ↔ p.extractor.Refuses rs := by
  simp only [ending_runReceipts_eq_error_iff, Batch.exists_ofReceipts_error_iff]

/-- Receipts that give a batch are relayed by the run of it. -/
theorem runReceipts_of_ok (h : Batch.ofReceipts p.extractor rs = .ok batch) :
    (p.runReceipts destination rs).ending = (Run.stage p.config destination batch).ending ∧
      (p.runReceipts destination rs).log horizon =
        (Run.stage p.config destination batch : Stage ExtractionError _).log horizon := by
  have hbatch : (ofExcept (Batch.ofReceipts p.extractor rs)).ending = .value batch :=
    ending_ofExcept_eq_value_iff.mpr h
  constructor
  · rw [runReceipts, ending_bind, hbatch]
  · rw [runReceipts, log_bind_of_value hbatch, log_ofExcept, List.nil_append]

/-- **A refusal leaves nothing behind.** -/
theorem log_runReceipts_of_error {err : ExtractionError}
    (h : (p.runReceipts destination rs).ending = .error err) :
    (p.runReceipts destination rs).log horizon = [] := by
  rw [ending_runReceipts_eq_error_iff, ← ending_ofExcept_eq_error_iff] at h
  rw [runReceipts, log_bind, h, log_ofExcept, List.append_nil]

/-! ### A triggering transaction -/

variable {source : SourceLedger} {request : TransactionRequest}

/-- **The submission comes first**, and once there is a receipt, the rest is the run of it. -/
theorem log_runTriggered :
    (p.runTriggered destination source request).log horizon =
      .submitted request ::
        match source.submit request with
        | .answer _ (.ok r) => (p.runReceipts destination [r]).log horizon
        | .answer _ (.error _) | .silence | .death _ => [] := by
  rw [runTriggered, log_bind, log_mapError, log_perform, List.singleton_append]
  rcases source.submit request with ⟨delay, _ | _⟩ | _ | _ <;> rfl

theorem ending_runTriggered :
    (p.runTriggered destination source request).ending =
      match source.submit request with
      | .answer _ (.ok r) => ((p.runReceipts destination [r]).mapError .extraction).ending
      | .answer _ (.error e) => .error (.source e)
      | .silence => .never
      | .death _ => .death := by
  rw [runTriggered, ending_bind]
  rcases source.submit request with ⟨delay, _ | _⟩ | _ | _ <;> rfl

/-- A triggered run is refused because there is no receipt, or because of the receipt. -/
theorem ending_runTriggered_eq_error_iff {err : PipelineError} :
    (p.runTriggered destination source request).ending = .error err ↔
      (∃ delay e, source.submit request = .answer delay (.error e) ∧ err = .source e) ∨
        ∃ delay r e, source.submit request = .answer delay (.ok r) ∧
          Batch.ofReceipts p.extractor [r] = .error e ∧ err = .extraction e := by
  rw [ending_runTriggered]
  rcases source.submit request with ⟨delay, e | r⟩ | _ | _
  · simp [eq_comm]
  · have hrefused : ((p.runReceipts destination [r]).mapError .extraction).ending = .error err ↔
        ∃ e, Batch.ofReceipts p.extractor [r] = .error e ∧ PipelineError.extraction e = err := by
      simp only [ending_mapError_eq_error_iff, ending_runReceipts_eq_error_iff]
    simp [hrefused, eq_comm]
  · simp
  · simp

/-- **A refusal leaves the submission behind and nothing else.** -/
theorem log_runTriggered_of_error {err : PipelineError}
    (h : (p.runTriggered destination source request).ending = .error err) :
    (p.runTriggered destination source request).log horizon = [.submitted request] := by
  rw [log_runTriggered]
  rcases ending_runTriggered_eq_error_iff.mp h with
    ⟨delay, e, hsubmit, -⟩ | ⟨delay, r, e, hsubmit, hbatch, -⟩
  · rw [hsubmit]
  · rw [hsubmit]
    dsimp only
    rw [log_runReceipts_of_error (ending_runReceipts_eq_error_iff.mpr hbatch)]

/-- Receipts are relayed by calls and counts alone. -/
theorem only_runReceipts : Only Deed.IsRunning (p.runReceipts destination rs) :=
  .bind .ofExcept fun _ _ => Run.only_stage

/-- Nothing is submitted to the source ledger on the way. -/
theorem submissions_runReceipts : (p.runReceipts destination rs).submissions horizon = [] := by
  refine List.filterMap_eq_nil_iff.mpr fun d hd => ?_
  have hrunning := only_runReceipts horizon d hd
  cases d with
  | called | counted => rfl
  | askedNetwork | lookedUp | submitted => exact hrunning.elim

/-- **A triggering transaction is submitted once**, whatever comes of it. -/
theorem submissions_runTriggered :
    (p.runTriggered destination source request).submissions horizon = [request] := by
  rw [submissions, log_runTriggered]
  have hrest : ∀ r, ((p.runReceipts destination [r]).log horizon).filterMap Deed.submitted? = [] :=
    fun r => submissions_runReceipts
  rcases source.submit request with ⟨delay, _ | _⟩ | _ | _ <;> simp [Deed.submitted?, hrest]

/-- **All or nothing.** Receipts are refused exactly if a transaction in them failed, a selected
entry cannot be read, or two messages have one key. A refusal leaves no call and no count behind,
and it is the same whatever destination ledger there is. A triggering transaction is submitted once,
whatever comes of it. If its submission fails, or its receipt is refused, then again nothing is
called and nothing is counted; otherwise its run is that of its receipt, with the same calls and the
same counts behind the submission. -/
theorem all_or_nothing (p : Pipeline) (destination : Ledger) (source : SourceLedger)
    (request : TransactionRequest) (rs : List SourceReceipt) :
    let run := p.runReceipts destination rs
    let triggered := p.runTriggered destination source request
    ((∃ err, run.ending = .error err) ↔ p.extractor.Refuses rs) ∧
    (∀ err, run.ending = .error err →
      (∀ horizon, run.calls horizon = [] ∧ run.events horizon = []) ∧
      ∀ destination', (p.runReceipts destination' rs).ending = .error err) ∧
    (∀ horizon, triggered.submissions horizon = [request]) ∧
    ((∃ err, triggered.ending = .error err) ↔
      (∃ delay e, source.submit request = .answer delay (.error e)) ∨
        ∃ delay r, source.submit request = .answer delay (.ok r) ∧ p.extractor.Refuses [r]) ∧
    (∀ err, triggered.ending = .error err →
      (∀ horizon, triggered.calls horizon = [] ∧ triggered.events horizon = []) ∧
      ∀ destination', (p.runTriggered destination' source request).ending = .error err) ∧
    ∀ delay r, source.submit request = .answer delay (.ok r) →
      triggered.ending = ((p.runReceipts destination [r]).mapError .extraction).ending ∧
      ∀ horizon, triggered.log horizon =
          .submitted request :: (p.runReceipts destination [r]).log horizon ∧
        triggered.calls horizon = (p.runReceipts destination [r]).calls horizon ∧
        triggered.events horizon = (p.runReceipts destination [r]).events horizon := by
  intro run triggered
  refine ⟨exists_runReceipts_error_iff, ?receipts, fun _ => submissions_runTriggered, ?refused,
    ?trigger, ?same⟩
  case receipts =>
    intro err h
    refine ⟨fun horizon => ?_, fun destination' =>
      ending_runReceipts_eq_error_iff.mpr (ending_runReceipts_eq_error_iff.mp h)⟩
    rw [calls, events, log_runReceipts_of_error h]
    exact ⟨rfl, rfl⟩
  case refused =>
    simp only [triggered, ending_runTriggered_eq_error_iff, ← Batch.exists_ofReceipts_error_iff]
    constructor
    · rintro ⟨err, ⟨delay, e, he, -⟩ | ⟨delay, r, e, hr, he, -⟩⟩
      · exact Or.inl ⟨delay, e, he⟩
      · exact Or.inr ⟨delay, r, hr, e, he⟩
    · rintro (⟨delay, e, he⟩ | ⟨delay, r, hr, e, he⟩)
      · exact ⟨_, Or.inl ⟨delay, e, he, rfl⟩⟩
      · exact ⟨_, Or.inr ⟨delay, r, e, hr, he, rfl⟩⟩
  case trigger =>
    intro err h
    refine ⟨fun horizon => ?_, fun destination' =>
      ending_runTriggered_eq_error_iff.mpr (ending_runTriggered_eq_error_iff.mp h)⟩
    rw [calls, events, log_runTriggered_of_error h]
    exact ⟨rfl, rfl⟩
  case same =>
    intro delay r h
    refine ⟨?_, fun horizon => ?_⟩
    · rw [ending_runTriggered, h]
    · have hlog : triggered.log horizon =
          .submitted request :: (p.runReceipts destination [r]).log horizon := by
        rw [log_runTriggered, h]
      rw [calls, events, hlog]
      exact ⟨rfl, rfl, rfl⟩

end Pipeline

end MessageRelay
