import MessageRelay.Program
import MessageRelay.Proofs.Config.RoundTrip
import MessageRelay.Proofs.Pipeline
import MessageRelay.Proofs.Run.Deliveries

/-!
# What exit status zero means

The program comes to its end in stages, and each of them can fail: the arguments are parsed, the
configuration is loaded, the bus and the client are found, the receipts are fetched, a batch is
extracted from them, the batch is run, and every report is looked at. The status is zero exactly if
no stage fails, texts that were asked for apart (`MessageRelay.Program.status_run_eq_zero_iff`), so
each failure is seen from outside.

What the stages say together is the whole point. The receipts are those that the source node
reported (`MessageRelay.Program.Obtained`), the batch is what they publish, entry by entry, and a
run in which everything was relayed has delivered its batch, message by message. So if the status is
zero then nothing of what was published is missing on the other side
(`MessageRelay.Program.status_zero_sound`).
-/

namespace MessageRelay

open Rpc

/-! ### Receipts from the source node -/

namespace SourceClient

variable {c : SourceClient} {provider : SourceProvider} {time : Nat} {r : SourceReceipt}

/-- A look-up finds a receipt if the node reports it. -/
theorem receipt_eq_some_iff {number : Nat} {tx : Hash} :
    (c.ledger provider).receipt number tx = .answer time (.ok (some r)) ↔
      ∃ found, provider.receipt number tx = .after time (.ok (some found)) ∧
        found.onSource = r := by
  simp only [ledger]
  rcases provider.receipt number tx with ⟨_, _ | _ | _⟩ | _ <;>
    simp [Answer.map, Answer.reply, Except.map, Except.mapError]

/-- **A submission that comes to a receipt** had its transaction mined. -/
theorem exists_mined_of_submit (hlawful : provider.Lawful) {request : TransactionRequest}
    (h : (c.ledger provider).submit request = .answer time (.ok r)) :
    ∃ signer tx found, c.signer = some signer ∧ request.IsMetBy signer tx ∧
      (provider.send signer request).Mined tx found ∧ found.onSource = r := by
  simp only [ledger] at h
  cases hsigner : c.signer with
  | none => simp [hsigner] at h
  | some signer =>
    simp only [hsigner, Answer.reply_eq_answer_iff] at h
    obtain ⟨result, houtcome, hresult⟩ := Answer.map_eq_after_iff.mp h
    obtain ⟨found, rfl, hfound⟩ := except_map_eq_ok_iff.mp hresult
    obtain ⟨tx, hmet, hmined⟩ := (hlawful signer request).exists_mined houtcome
    exact ⟨signer, tx, found, rfl, hmet, hmined, hfound⟩

end SourceClient

/-- Receipts are fetched if every look-up finds its receipt. -/
theorem SourceLedger.ending_fetchFrom_eq_value_iff {source : SourceLedger} {number : Nat}
    {txs : List Hash} {rs : List SourceReceipt} :
    (source.fetchFrom number txs).ending = .value rs ↔
      List.Forall₂ (fun lookup r =>
        ∃ time, source.receipt lookup.2 lookup.1 = .answer time (.ok (some r)))
        (txs.zipIdx number) rs := by
  induction txs generalizing number rs with
  | nil =>
    rw [fetchFrom, List.zipIdx_nil, List.forall₂_nil_left_iff, Stage.ending_pure,
      Ending.value.injEq, eq_comm]
  | cons tx txs ih =>
    simp only [fetchFrom, List.zipIdx_cons, List.forall₂_cons_left_iff,
      Stage.ending_bind_eq_value_iff, Stage.ending_perform_eq_value_iff]
    constructor
    · rintro ⟨found, ⟨time, hfound⟩, h⟩
      cases found with
      | none => cases h
      | some r =>
        obtain ⟨rest, hrest, h⟩ := Stage.ending_bind_eq_value_iff.mp h
        obtain rfl := Ending.value.inj h
        exact ⟨r, rest, ⟨time, hfound⟩, ih.mp hrest, rfl⟩
    · rintro ⟨r, rest, ⟨time, hfound⟩, hrest, rfl⟩
      exact ⟨some r, ⟨time, hfound⟩,
        Stage.ending_bind_eq_value_iff.mpr ⟨rest, ih.mpr hrest, rfl⟩⟩

namespace Program

open Stage

variable {around : Surroundings} {files : String → FileContent} {env : Environment}
  {args : List String} {s : Setup} {rs : List SourceReceipt} {batch : Batch} {t : Run.Trace}
  {f : Failure}

/-- **The receipts are those that the source node reported**, of the given transactions or of the
triggering one. -/
inductive Obtained (around : Surroundings) (s : Setup) : List SourceReceipt → Prop where
  /-- The receipts of the given transactions, one by one. -/
  | lookedUp {rs : List SourceReceipt} : s.line.triggerTo = none →
      List.Forall₂ (fun lookup r => ∃ time found,
        around.source.receipt lookup.2 lookup.1 = .after time (.ok (some found)) ∧
          found.onSource = r) s.line.transactions.zipIdx rs →
      Obtained around s rs
  /-- The receipt of a transaction that triggers the contract. -/
  | triggered {recipient signer : Address} {client : SourceClient} {tx : Transaction}
      {found : TransactionReceipt} : s.line.triggerTo = some recipient →
      triggerClient s = .ok client → client.signer = some signer →
      (triggerRequest s.line recipient client).IsMetBy signer tx →
      (around.source.send signer (triggerRequest s.line recipient client)).Mined tx found →
      Obtained around s [found.onSource]

/-- **What is relied on around the program.** -/
def Surroundings.Lawful (around : Surroundings) : Prop :=
  around.source.Lawful ∧ around.destination.Lawful

/-! ### The way to the receipts -/

/-- The receipts that are relayed. -/
def receipts (around : Surroundings) (s : Setup) : Stage Failure (List SourceReceipt) :=
  match s.line.triggerTo with
  | none => do
    let client ← ofExcept (sourceClient s)
    ((client.ledger around.source).fetchReceipts s.line.transactions).mapError .receipts
  | some recipient => do
    let client ← ofExcept (triggerClient s)
    let request := triggerRequest s.line recipient client
    let submission := perform (.submitted request) ((client.ledger around.source).submit request)
    let r ← submission.mapError .trigger
    pure [r]

/-- **However the receipts are come by**, they are relayed in the same way. -/
theorem relay_eq :
    relay around s = receipts around s >>= fun rs =>
      ((pipeline around s).runReceipts (s.client.ledger around.destination) rs).mapError
        .extraction := by
  unfold relay receipts
  cases s.line.triggerTo with
  | none => simp only [bind_assoc]
  | some recipient =>
    simp only [bind_assoc, pure_bind, Pipeline.runTriggered, mapError_bind, mapError_mapError]
    rfl

/-- No other receipts are relayed. -/
theorem obtained_of_receipts (hlawful : around.Lawful)
    (h : (receipts around s).ending = .value rs) : Obtained around s rs := by
  unfold receipts at h
  split at h
  next hnone =>
    obtain ⟨client, -, hfetch⟩ := ending_bind_eq_value_iff.mp h
    rw [ending_mapError_eq_value_iff, SourceLedger.fetchReceipts,
      SourceLedger.ending_fetchFrom_eq_value_iff] at hfetch
    refine .lookedUp hnone (hfetch.imp fun lookup r ⟨time, hfound⟩ => ?_)
    exact ⟨time, SourceClient.receipt_eq_some_iff.mp hfound⟩
  next recipient hsome =>
    obtain ⟨client, hclient, h⟩ := ending_bind_eq_value_iff.mp h
    obtain ⟨r, hsubmit, h⟩ := ending_bind_eq_value_iff.mp h
    obtain rfl := Ending.value.inj h
    rw [ending_mapError_eq_value_iff, ending_perform_eq_value_iff] at hsubmit
    obtain ⟨time, hsubmit⟩ := hsubmit
    obtain ⟨signer, tx, found, hsigner, hmet, hmined, rfl⟩ :=
      SourceClient.exists_mined_of_submit hlawful.1 hsubmit
    exact .triggered hsome (ending_ofExcept_eq_value_iff.mp hclient) hsigner hmet hmined

/-! ### The stages of the program -/

/-- **No stage of the program has failed.** -/
structure Succeeds (around : Surroundings) (files : String → FileContent) (env : Environment)
    (args : List String) (s : Setup) (rs : List SourceReceipt) (batch : Batch) (t : Run.Trace) :
    Prop where
  /-- The arguments are parsed. -/
  line : CommandLine.parse args = .ok s.line
  /-- The configuration is loaded. -/
  config : Config.load env s.line.envFile (files s.line.envFile) = .ok s.config
  /-- The bus is configured or found. -/
  bus : (messageBus around s.config).ending = .value s.client.messageBus
  /-- There is a client. -/
  client : DestinationClient.ofConfig s.config.destination s.client.messageBus = .ok s.client
  /-- The receipts are fetched. -/
  fetched : (receipts around s).ending = .value rs
  /-- A batch is extracted from them. -/
  extracted : Batch.ofReceipts (pipeline around s).extractor rs = .ok batch
  /-- The run comes to an end. -/
  ended : Run.trace s.config.runConfig (s.client.ledger around.destination) batch = some t
  /-- No relay halts it. -/
  running : t.state.halted = none
  /-- Every message is relayed. -/
  relayed : ∀ r ∈ t.reports, r.isRelayed = true

/-- A client has the contracts that it is configured with. -/
theorem contracts_of_ofConfig {c : DestinationConfig} {bus : Address} {client : DestinationClient}
    (h : DestinationClient.ofConfig c bus = .ok client) :
    client.messageBus = bus ∧ client.messenger = c.messenger := by
  obtain ⟨url, -, h⟩ := except_bind_eq_ok_iff.mp h
  obtain ⟨key, -, h⟩ := except_bind_eq_ok_iff.mp h
  obtain rfl := Except.ok.inj h
  exact ⟨rfl, rfl⟩

theorem setup_eq_value_iff :
    (setup around files env args).ending = .value s ↔
      CommandLine.parse args = .ok s.line ∧
        Config.load env s.line.envFile (files s.line.envFile) = .ok s.config ∧
        (messageBus around s.config).ending = .value s.client.messageBus ∧
        DestinationClient.ofConfig s.config.destination s.client.messageBus = .ok s.client := by
  simp only [setup, ending_bind_eq_value_iff, ending_ofExcept_eq_value_iff, mapError_eq_ok_iff,
    ending_pure, Ending.value.injEq]
  constructor
  · rintro ⟨line, hline, config, hconfig, bus, hbus, client, hclient, rfl⟩
    obtain rfl := (contracts_of_ofConfig hclient).1
    exact ⟨hline, hconfig, hbus, hclient⟩
  · rintro ⟨hline, hconfig, hbus, hclient⟩
    exact ⟨_, hline, _, hconfig, _, hbus, _, hclient, rfl⟩

/-- The configuration of a setup is valid. -/
theorem valid_of_setup (h : (setup around files env args).ending = .value s) : s.config.Valid := by
  obtain ⟨-, hload, -, -⟩ := setup_eq_value_iff.mp h
  obtain ⟨full, -, hloaded⟩ := Config.load_eq_ok_iff.mp hload
  exact (Config.ofEnvironment_eq_ok_iff.mp hloaded).2.2.2

/-- A failure has exit status zero only if a text was asked for. -/
theorem Failure.exitStatus_eq_zero_iff :
    f.exitStatus = 0 ↔ f = .refusal .help ∨ f = .refusal .version := by
  cases f with
  | refusal cause => cases cause <;> simp [exitStatus, CommandLine.Refusal.exitStatus]
  | _ => simp [exitStatus]

/-- The arguments are refused before anything else is done, and nothing else refuses them. -/
theorem setup_eq_refusal_iff {cause : CommandLine.Refusal} :
    (setup around files env args).ending = .error (.refusal cause) ↔
      CommandLine.parse args = .error cause := by
  have hbus : ∀ config, (messageBus around config).ending ≠ .error (.refusal cause) := by
    intro config h
    unfold messageBus at h
    split at h
    · cases h
    · obtain ⟨_, -, he⟩ := ending_mapError_eq_error_iff.mp h
      cases he
  simp only [setup, ending_bind_eq_error_iff, ending_ofExcept_eq_error_iff, mapError_eq_error_iff]
  constructor
  · rintro (⟨_, hline, ⟨⟩⟩ |
      ⟨line, -, ⟨_, -, ⟨⟩⟩ | ⟨config, -, h | ⟨bus, -, ⟨_, -, ⟨⟩⟩ | ⟨_, -, h⟩⟩⟩⟩)
    · exact hline
    · exact absurd h (hbus config)
    · cases h
  · exact fun h => Or.inl ⟨cause, h, rfl⟩

/-- Once the arguments are accepted, no failure is a refusal of them. -/
theorem relay_ne_refusal {cause : CommandLine.Refusal} :
    (relay around s).ending ≠ .error (.refusal cause) := by
  intro h
  unfold relay at h
  split at h
  next =>
    rcases ending_bind_eq_error_iff.mp h with hclient | ⟨client, -, h⟩
    · obtain ⟨_, -, hkind⟩ := mapError_eq_error_iff.mp (ending_ofExcept_eq_error_iff.mp hclient)
      cases hkind
    rcases ending_bind_eq_error_iff.mp h with hfetch | ⟨rs, -, h⟩
    · obtain ⟨_, -, hkind⟩ := ending_mapError_eq_error_iff.mp hfetch
      cases hkind
    · obtain ⟨_, -, hkind⟩ := ending_mapError_eq_error_iff.mp h
      cases hkind
  next =>
    rcases ending_bind_eq_error_iff.mp h with hclient | ⟨client, -, h⟩
    · have hclient := ending_ofExcept_eq_error_iff.mp hclient
      unfold triggerClient at hclient
      split at hclient
      · cases hclient
      · obtain ⟨_, -, hkind⟩ := mapError_eq_error_iff.mp hclient
        cases hkind
    · obtain ⟨e, -, hkind⟩ := ending_mapError_eq_error_iff.mp h
      cases e <;> cases hkind

/-- A relay comes to a value if there are receipts, they give a batch, and the run of it returns. -/
theorem relay_eq_value_iff :
    (relay around s).ending = .value t ↔ ∃ rs batch, (receipts around s).ending = .value rs ∧
      Batch.ofReceipts (pipeline around s).extractor rs = .ok batch ∧
      Run.trace s.config.runConfig (s.client.ledger around.destination) batch = some t ∧
      t.state.halted = none := by
  simp only [relay_eq, ending_bind_eq_value_iff, ending_mapError_eq_value_iff, Pipeline.runReceipts,
    ending_ofExcept_eq_value_iff, Run.ending_stage_eq_value_iff, pipeline, exists_and_left]

/-- The program comes to a value if its setup and its relay do. -/
theorem body_eq_value_iff :
    (body around files env args).ending = .value (s, t) ↔
      (setup around files env args).ending = .value s ∧ (relay around s).ending = .value t := by
  simp only [body, ending_bind_eq_value_iff, ending_pure, Ending.value.injEq, Prod.mk.injEq]
  constructor
  · rintro ⟨s', hsetup, t', hrelay, rfl, rfl⟩
    exact ⟨hsetup, hrelay⟩
  · rintro ⟨hsetup, hrelay⟩
    exact ⟨s, hsetup, t, hrelay, rfl, rfl⟩

/-- It fails with its setup, or with its relay behind that. -/
theorem body_eq_error_iff :
    (body around files env args).ending = .error f ↔
      (setup around files env args).ending = .error f ∨
        ∃ s, (setup around files env args).ending = .value s ∧
          (relay around s).ending = .error f := by
  simp only [body, ending_bind_eq_error_iff, ending_pure, reduceCtorEq, and_false, exists_false,
    or_false]

/-- The program ends with status zero if it comes to a run in which every message is relayed, or if
it fails with a failure of status zero. -/
theorem status_result_eq_zero_iff {stage : Stage Failure (Setup × Run.Trace)} :
    (result around stage).status = some 0 ↔
      (∃ s t, stage.ending = .value (s, t) ∧ ∀ r ∈ t.reports, r.isRelayed = true) ∨
        ∃ f, stage.ending = .error f ∧ f.exitStatus = 0 := by
  unfold result
  split
  next s t hending =>
    simp only [hending, Option.some_inj, ite_eq_left_iff, Nat.one_ne_zero, imp_false, not_not,
      Report.allRelayed, List.all_eq_true, reduceCtorEq, false_and, exists_false, or_false]
    constructor
    · exact fun h => ⟨s, t, rfl, h⟩
    · rintro ⟨_, _, heq, h⟩
      obtain ⟨rfl, rfl⟩ := Prod.mk.inj (Ending.value.inj heq)
      exact h
  next f hending => simp [hending]
  next hending => simp [hending]
  next hending => simp [hending]

/-- If no stage fails, the program comes to the run of its batch. -/
theorem Succeeds.body_eq_value (h : Succeeds around files env args s rs batch t) :
    (body around files env args).ending = .value (s, t) :=
  body_eq_value_iff.mpr
    ⟨setup_eq_value_iff.mpr ⟨h.line, h.config, h.bus, h.client⟩,
      relay_eq_value_iff.mpr ⟨rs, batch, h.fetched, h.extracted, h.ended, h.running⟩⟩

/-- **The status is zero exactly if no stage fails**, or if a text was asked for. -/
theorem status_run_eq_zero_iff :
    (run around files env args).status = some 0 ↔
      CommandLine.parse args = .error .help ∨ CommandLine.parse args = .error .version ∨
        ∃ s rs batch t, Succeeds around files env args s rs batch t := by
  rw [run, status_result_eq_zero_iff]
  constructor
  · rintro (⟨s, t, hbody, hrelayed⟩ | ⟨f, hbody, hzero⟩)
    · obtain ⟨hsetup, hrelay⟩ := body_eq_value_iff.mp hbody
      obtain ⟨hline, hconfig, hbus, hclient⟩ := setup_eq_value_iff.mp hsetup
      obtain ⟨rs, batch, hreceipts, hbatch, htrace, hrunning⟩ := relay_eq_value_iff.mp hrelay
      exact Or.inr (Or.inr ⟨s, rs, batch, t,
        ⟨hline, hconfig, hbus, hclient, hreceipts, hbatch, htrace, hrunning, hrelayed⟩⟩)
    · -- only the arguments ask for a text
      rcases Failure.exitStatus_eq_zero_iff.mp hzero with rfl | rfl <;>
        rcases body_eq_error_iff.mp hbody with hsetup | ⟨s, -, hrelay⟩
      · exact Or.inl (setup_eq_refusal_iff.mp hsetup)
      · exact absurd hrelay relay_ne_refusal
      · exact Or.inr (Or.inl (setup_eq_refusal_iff.mp hsetup))
      · exact absurd hrelay relay_ne_refusal
  · rintro (h | h | ⟨s, rs, batch, t, h⟩)
    · exact Or.inr ⟨_, body_eq_error_iff.mpr (Or.inl (setup_eq_refusal_iff.mpr h)), rfl⟩
    · exact Or.inr ⟨_, body_eq_error_iff.mpr (Or.inl (setup_eq_refusal_iff.mpr h)), rfl⟩
    · exact Or.inl ⟨s, t, h.body_eq_value, h.relayed⟩

/-! ### What success means -/

namespace Succeeds

variable (h : Succeeds around files env args s rs batch t)

include h

/-- The batch is what the receipts publish, entry by entry. -/
theorem published :
    (rs.flatMap (pipeline around s).extractor.selected).map (Published.decode around.explain) =
      batch.messages.map .ok := by
  obtain ⟨ms, hms, hbatch⟩ := except_bind_eq_ok_iff.mp h.extracted
  obtain ⟨rfl, -⟩ := Batch.ofMessages_eq_ok_iff.mp hbatch
  exact (Extractor.extractAll_eq_ok_iff.mp hms).2

/-- A word can say how long the payload of a message is, for the message has been read. -/
theorem length_payload_lt : ∀ m ∈ batch.messages, m.payload.length < Octets.count 32 := by
  intro m hm
  have hmem : .ok m ∈ (rs.flatMap (pipeline around s).extractor.selected).map
      (Published.decode around.explain) := by
    rw [h.published]
    exact List.mem_map_of_mem hm
  obtain ⟨log, -, hlog⟩ := List.mem_map.mp hmem
  exact (Published.decode_eq_ok_iff.mp hlog).2.1

/-- What the destination node is asked to pass on is what is sent to settle the messages. -/
theorem toDestination_run :
    (run around files env args).toDestination =
      t.state.settled.flatMap (s.client.sentFor around.destination batch) := by
  rw [run, result, h.body_eq_value]
  dsimp only
  rw [sentToDestination, Run.batch_of_trace h.ended]
  rfl

/-- **The batch is delivered.** -/
theorem exists_deliveries (hlawful : around.destination.Lawful) :
    ∃ ds, List.Forall₂ (s.client.Delivered around.destination) batch.messages ds ∧
      ds.Pairwise (fun a b => a.stop ≤ b.start) ∧
      (ds.map DestinationClient.Delivery.transaction).Sublist
        (run around files env args).toDestination := by
  obtain ⟨done, hfinished, hreports⟩ := Run.exists_finished_of_trace h.ended
  have hrelayed := h.relayed
  rw [hreports] at hrelayed
  rw [h.toDestination_run]
  exact hfinished.exists_deliveries h.running hrelayed hlawful h.length_payload_lt

end Succeeds

/-- The receipt of a transaction that was mined with success, under one hash for all. -/
def minedReceipt : TransactionReceipt :=
  ⟨Octets.replicate 32 1, true, []⟩

/-- A pending transaction of which this receipt is reported at once. -/
def minedPending : Pending where
  hash := minedReceipt.transaction
  receipt :=
    { exchanges := [.query minedReceipt.transaction (.found minedReceipt)]
      answer := .after 0 (.ok minedReceipt) }

/-- Surroundings in which everything is answered at once. Each source transaction has published the
same message, every message is final, and whatever is sent is mined with success. -/
def promptSurroundings : Surroundings where
  source :=
    { send := fun signer request => .accepting minedPending signer request
      receipt := fun _ tx => .after 0 (.ok (some ⟨tx, true, [Published.encode (.sample 1)]⟩)) }
  destination :=
    { DestinationProvider.unreachable with
      estimate := fun _ _ => .after 0 (.ok 0)
      truth := fun _ _ _ => .after 0 (.ok true)
      send := fun signer request _ _ => .accepting minedPending signer request }

theorem lawful_accepting_mined {ε : Type} (signer : Address) (request : TransactionRequest) :
    (Sending.accepting minedPending signer request : Sending ε).Lawful signer request := by
  refine Sending.lawful_accepting (fun tx answer hmem => ?quiet) (fun time r hanswer => ?reported)
    fun hash report hmem => ?failed
  case quiet => cases List.mem_singleton.mp hmem
  case reported =>
    obtain ⟨-, hr⟩ := Answer.after.inj hanswer
    rw [← Except.ok.inj hr]
    exact List.mem_singleton_self _
  case failed => cases List.mem_singleton.mp hmem

/-- Their providers can be relied on. -/
theorem lawful_promptSurroundings : promptSurroundings.Lawful :=
  ⟨lawful_accepting_mined, fun signer request _ _ => lawful_accepting_mined signer request⟩

/-- A bus in its written form. -/
def busText : String :=
  "0x000000000000000000000000000000000000000a"

/-- The least that has to be set, and the bus. -/
def busEnvironment : Environment :=
  Config.sampleEnvironment.set "MESSAGE_BUS_ADDRESS" busText

/-- Arguments that name one transaction. -/
def oneHash : List String :=
  ["0x1111111111111111111111111111111111111111111111111111111111111111"]

/-- With these, there is a client, and the receipt of one transaction is looked up. -/
theorem exists_setup_prompt :
    ∃ s tx client,
      (setup promptSurroundings (fun _ => .absent) busEnvironment oneHash).ending = .value s ∧
      s.line.triggerTo = none ∧ s.line.transactions = [tx] ∧
      s.config.source.messageBus = none ∧ sourceClient s = .ok client := by
  have hsetup :
      (match (setup promptSurroundings (fun _ => .absent) busEnvironment oneHash).ending with
        | .value s =>
          s.line.triggerTo.isNone && s.line.transactions.length == 1 &&
            s.config.source.messageBus.isNone && (sourceClient s).toOption.isSome
        | .error _ | .death | .never => false) = true := by
    decide +kernel
  split at hsetup
  next s hs =>
    simp only [Bool.and_eq_true, beq_iff_eq, Option.isNone_iff_eq_none] at hsetup
    obtain ⟨⟨⟨htrigger, htransactions⟩, hemitter⟩, hclient⟩ := hsetup
    obtain ⟨tx, htx⟩ := List.length_eq_one_iff.mp htransactions
    obtain ⟨client, hclient⟩ := Option.isSome_iff_exists.mp hclient
    exact ⟨s, tx, client, hs, htrigger, htx, hemitter, except_eq_ok_of_toOption hclient⟩
  next => cases hsetup
  next => cases hsetup
  next => cases hsetup

/-- The sample message as a batch. -/
def sampleBatch : Batch :=
  ⟨[.sample 1], by decide⟩

/-- No stage fails in such surroundings. -/
theorem exists_succeeds_prompt :
    ∃ s rs t, Succeeds promptSurroundings (fun _ => .absent) busEnvironment oneHash s rs
      sampleBatch t := by
  obtain ⟨s, tx, client, hsetup, htrigger, htx, hemitter, hclient⟩ := exists_setup_prompt
  obtain ⟨hline, hconfig, hbus, hdestination⟩ := setup_eq_value_iff.mp hsetup
  obtain ⟨hi, hd⟩ := (valid_of_setup hsetup).schedule
  have hreceipts : (receipts promptSurroundings s).ending =
      .value [⟨tx, successStatus, [Published.encode (.sample 1)]⟩] := by
    rw [receipts, htrigger]
    dsimp only
    rw [hclient, htx]
    rfl
  have hselects : (pipeline promptSurroundings s).extractor.Selects
      (Published.encode (.sample 1)) := by
    refine ⟨rfl, fun a ha => ?_⟩
    rw [pipeline, hemitter] at ha
    cases ha
  have hread : Published.decode (pipeline promptSurroundings s).extractor.explain
      (Published.encode (.sample 1)) = .ok (.sample 1) :=
    Published.decode_encode (by decide)
  have hbatch : Batch.ofReceipts (pipeline promptSurroundings s).extractor
      [⟨tx, successStatus, [Published.encode (.sample 1)]⟩] = .ok sampleBatch := by
    refine except_bind_eq_ok_iff.mpr ⟨[.sample 1], Extractor.extractAll_eq_ok_iff.mpr ⟨?_, ?_⟩,
      Batch.ofMessages_eq_ok_iff.mpr ⟨rfl, by decide⟩⟩
    · intro r hr
      rw [List.mem_singleton.mp hr]
    · simp [Extractor.selected, hselects, hread]
  obtain ⟨t, htrace, hrunning, hreports⟩ : ∃ t,
      Run.trace s.config.runConfig (s.client.ledger promptSurroundings.destination) sampleBatch =
        some t ∧ t.state.halted = none ∧ t.reports = [⟨(Message.sample 1).key, .relayed _⟩] :=
    Run.trace_one rfl ⟨0, rfl, rfl⟩ hi hd rfl
  refine ⟨s, _, t, hline, hconfig, hbus, hdestination, hreceipts, hbatch, htrace, hrunning,
    fun r hr => ?_⟩
  rw [hreports] at hr
  rw [List.mem_singleton.mp hr]
  rfl

end Program

end MessageRelay
