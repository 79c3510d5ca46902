import MessageRelay.Proofs.Json.Records
import MessageRelay.Proofs.NetworkConfig
import MessageRelay.Proofs.Poll.Schedule
import MessageRelay.Proofs.Program

/-!
# Which bus is asked

An answer to a finality query is worth as much as the contract that gives it. The contract has two
sources, the configuration and the destination node (`MessageRelay.Program.BusOrigin`), and each is
checked in its own place: validation refuses a configured bus that is zero, and the node's answer
counts only if it names one that is not. Behind the setup nothing looks at the address again, and it
is what every query asks (`MessageRelay.DestinationClient.contract_of_mem_queries`). What any other
contract would answer does not matter (`MessageRelay.Program.run_of_agreesAt`).

What is asked, and whether the node is asked where its contracts are, is read off the log of the
program. It falls into three parts, that of the setup, that of the receipts and that of the run
(`MessageRelay.Program.log_run`), and only the last one calls the destination ledger. The main
result is `MessageRelay.Program.bus_in_use`.
-/

namespace MessageRelay

open Rpc

/-! ### What is asked about finality -/

/-- **Two providers agree about a contract**: they make the same of every call of it, and of
everything that is not a call. -/
structure DestinationProvider.AgreesAt (contract : Address) (p p' : DestinationProvider) :
    Prop where
  estimate : ∀ call, call.contract = contract → p.estimate call = p'.estimate call
  truth : ∀ call, call.contract = contract → p.truth call = p'.truth call
  number : ∀ call, call.contract = contract → p.number call = p'.number call
  send : p.send = p'.send
  network : p.network = p'.network

namespace DestinationClient

variable {c : DestinationClient} {p p' : DestinationProvider} {log log' : List Deed}

/-- **What is asked about finality**: the contract calls behind the deeds of a log. -/
def queries (c : DestinationClient) (log : List Deed) : List Call :=
  log.filterMap fun deed => deed.called?.bind fun (m, call) => c.query? m call

theorem queries_append : c.queries (log ++ log') = c.queries log ++ c.queries log' :=
  List.filterMap_append

/-- Nothing is asked where the ledger is not called. -/
theorem queries_eq_nil (h : ∀ d ∈ log, d.called? = none) : c.queries log = [] := by
  refine List.filterMap_eq_nil_iff.mpr fun d hd => ?_
  rw [h d hd]
  rfl

/-- Whoever has the ledger estimate asks the bus. -/
theorem mem_queries {m : Message} {call : LedgerCall} (h : .called m call ∈ log)
    (hkind : call.kind = .estimate) : c.estimateCall m ∈ c.queries log := by
  refine List.mem_filterMap.mpr ⟨_, h, ?_⟩
  change c.query? m call = _
  rw [query?, hkind]

/-- **The bus is asked and nothing else.** -/
theorem contract_of_mem_queries {q : Call} (h : q ∈ c.queries log) : q.contract = c.messageBus := by
  obtain ⟨d, -, hd⟩ := List.mem_filterMap.mp h
  obtain ⟨⟨m, call⟩, -, hq⟩ := Option.bind_eq_some_iff.mp hd
  unfold query? at hq
  cases hkind : call.kind with
  | estimate =>
    simp only [hkind, Option.some_inj] at hq
    rw [← hq, estimateCall]
  | check gas =>
    simp only [hkind, Option.some_inj] at hq
    rw [← hq, checkCall, estimateCall]
  | finalityTime =>
    simp only [hkind, Option.some_inj] at hq
    rw [← hq, finalityTimeCall]
  | submit => simp [hkind] at hq

/-- Only what the bus answers matters to the ledger. -/
theorem ledger_of_agreesAt (h : p.AgreesAt c.messageBus p') : c.ledger p = c.ledger p' := by
  have hestimate : ∀ m, p.estimate (c.estimateCall m) = p'.estimate (c.estimateCall m) :=
    fun m => h.estimate _ rfl
  have hcheck : ∀ m gas, p.truth (c.checkCall m gas) = p'.truth (c.checkCall m gas) :=
    fun m gas => h.truth _ rfl
  have htime : ∀ m, p.number (c.finalityTimeCall m) = p'.number (c.finalityTimeCall m) :=
    fun m => h.number _ rfl
  simp only [ledger, DestinationClient.send, hestimate, hcheck, htime, h.send]

end DestinationClient

namespace Run

variable {c : RunConfig} {ledger : Ledger} {batch : Batch} {horizon : Nat} {t : Trace}

/-- The driver does not put an end to the polls before there are any. -/
theorem State.cut_pos (s : State) : 0 < s.cut := by
  unfold cut
  split <;> omega

/-- The polls of a run that is observed are seen for some time. -/
theorem exists_polls_of_observe (h : observe c ledger batch horizon = some t) (hhor : 0 < horizon) :
    ∃ watched, 0 < watched ∧ t.polls = polls c ledger batch watched := by
  obtain ⟨-, -, ⟨-, -, hpolls⟩ | ⟨-, -, hpolls, -⟩⟩ := observe_cases h
  · exact ⟨_, State.cut_pos _, hpolls⟩
  · exact ⟨horizon, hhor, hpolls⟩

/-- The polls of a run stand in its log, and they are seen for some time. -/
theorem exists_polls_of_stage {ε : Type} (hhor : 0 < horizon) :
    ∃ watched s, 0 < watched ∧ deedsOf batch (polls c ledger batch watched) s <+:
      (stage c ledger batch : Stage ε Trace).log horizon := by
  cases htrace : trace c ledger batch with
  | some t =>
    obtain ⟨n, -, hobserve⟩ := List.exists_of_findSome?_eq_some htrace
    obtain ⟨watched, hwatched, hpolls⟩ :=
      exists_polls_of_observe hobserve (Nat.one_shiftLeft n ▸ Nat.two_pow_pos n)
    refine ⟨watched, t.state, hwatched, ?_⟩
    simp only [stage, htrace]
    rw [Trace.deeds, batch_of_trace htrace, hpolls]
    exact List.prefix_append _ _
  | none =>
    -- the run does not return, and its log holds what can be seen of it by then
    have hwatch : ∃ watched, 0 < watched ∧
        watch c ledger batch horizon = polls c ledger batch watched := by
      unfold watch
      dsimp only
      split
      · exact ⟨_, Nat.lt_min.mpr ⟨State.cut_pos _, hhor⟩, rfl⟩
      · exact ⟨horizon, hhor, rfl⟩
    obtain ⟨watched, hwatched, hpolls⟩ := hwatch
    have hlog : (stage c ledger batch : Stage ε Trace).log horizon =
        deedsOf batch (polls c ledger batch watched) (stateAt c ledger batch horizon) := by
      simp only [stage, htrace]
      rw [hpolls]
    exact ⟨watched, _, hwatched, [], by rw [hlog, List.append_nil]⟩

/-- **A run with messages asks** for an estimate as soon as there is a moment to look at. -/
theorem exists_called_of_stage {ε : Type} (hi : c.schedule.interval ≠ .zero)
    (hd : c.schedule.deadline ≠ some .zero) (hmessages : batch.messages ≠ [])
    (hhor : 0 < horizon) :
    ∃ m call, call.kind = .estimate ∧
      .called m call ∈ (stage c ledger batch : Stage ε Trace).log horizon := by
  obtain ⟨watched, s, hwatched, hprefix⟩ :
      ∃ watched s, 0 < watched ∧ deedsOf batch (polls c ledger batch watched) s <+:
        (stage c ledger batch : Stage ε Trace).log horizon :=
    exists_polls_of_stage hhor
  obtain ⟨m, ms, hcons⟩ := List.exists_cons_of_ne_nil hmessages
  obtain ⟨call, calls, hcalls, hkind⟩ := Poll.exists_estimate ledger m hi hd hwatched
  refine ⟨m, call, hkind, ?_⟩
  have hmem : (m, call) ∈ callsOf batch (polls c ledger batch watched) s := by
    refine List.mem_flatMap.mpr ⟨(m, call :: calls), List.mem_append_left _ ?_, ?_⟩
    · rw [polls, hcons, List.map_cons, List.map_cons, hcalls]
      exact List.mem_cons_self
    · exact List.mem_cons_self
  refine hprefix.subset (List.mem_append_right _ ?_)
  exact List.mem_map_of_mem hmem

end Run

/-- The receipts are not waited for in vain, or they are waited for for ever. -/
theorem SourceLedger.ending_fetchFrom_ne_death {source : SourceLedger}
    (h : ∀ number tx delay, source.receipt number tx ≠ .death delay) {number : Nat}
    {txs : List Hash} : (source.fetchFrom number txs).ending ≠ .death := by
  induction txs generalizing number with
  | nil => simp [fetchFrom]
  | cons tx txs ih =>
    rw [fetchFrom, Ne, Stage.ending_bind_eq_death_iff, Stage.ending_perform_eq_death_iff]
    rintro (⟨delay, hdeath⟩ | ⟨found, -, hrest⟩)
    · exact h number tx delay hdeath
    · cases found with
      | none => cases hrest
      | some r =>
        rcases Stage.ending_bind_eq_death_iff.mp hrest with hrest | ⟨rs, -, hrest⟩
        · exact ih hrest
        · cases hrest

/-- What the source ledger is asked for receipts. -/
theorem SourceLedger.only_fetchFrom {source : SourceLedger} {p : Deed → Prop}
    (h : ∀ tx, p (.lookedUp tx)) {number : Nat} {txs : List Hash} :
    Stage.Only p (source.fetchFrom number txs) := by
  induction txs generalizing number with
  | nil => exact .pure
  | cons tx txs ih =>
    refine .bind (.perform (h tx)) fun found _ => ?_
    cases found with
    | none => exact .of_log fun _ => rfl
    | some r => exact .bind ih fun _ _ => .pure

namespace Program

open Stage

variable {around : Surroundings} {files : String → FileContent} {env full : Environment}
  {args : List String} {s : Setup} {rs : List SourceReceipt} {batch : Batch} {f : Failure}
  {bus : Address} {config : Config} {line : CommandLine} {t : Run.Trace} {horizon : Nat}

/-! ### The log of the program -/

/-- Deeds on the way to the receipts: nothing is asked about finality, or where contracts are. -/
def IsFetching (d : Deed) : Prop :=
  d.called? = none ∧ d.isAskedNetwork = false

theorem only_receipts : Only IsFetching (receipts around s) := by
  unfold receipts
  split
  · exact .bind .ofExcept fun _ _ => .mapError (SourceLedger.only_fetchFrom fun _ => ⟨rfl, rfl⟩)
  · exact .bind .ofExcept fun _ _ => .bind (.mapError (.perform ⟨rfl, rfl⟩)) fun _ _ => .pure

/-- Only the setup asks where the contracts are. -/
theorem only_relay : Only (fun d => d.isAskedNetwork = false) (relay around s) := by
  rw [relay_eq]
  refine .bind (fun horizon d hd => (only_receipts horizon d hd).2) fun rs _ => .mapError ?_
  intro horizon d hd
  have hrunning := Pipeline.only_runReceipts horizon d hd
  cases d with
  | askedNetwork => exact hrunning.elim
  | lookedUp | submitted | called | counted => rfl

/-- It does nothing else. -/
theorem only_setup : Only (fun d => d.called? = none) (setup around files env args) := by
  refine .bind .ofExcept fun line _ => .bind .ofExcept fun config _ => .bind ?_ fun bus _ =>
    .bind .ofExcept fun client _ => .pure
  intro horizon d hd
  unfold messageBus at hd
  split at hd
  · cases hd
  · rw [log_mapError, NetworkConfig.log_discover, List.mem_singleton] at hd
    rw [hd]
    rfl

/-- **What the program does** is what its setup does, and behind that what its relay does. -/
theorem log_run :
    (run around files env args).log horizon =
      (setup around files env args).log horizon ++
        match (setup around files env args).ending with
        | .value s => (relay around s).log horizon
        | .error _ | .death | .never => [] := by
  have hresult : ∀ stage, (result around stage).log = stage.log := by
    intro stage
    unfold result
    split <;> rfl
  have hrelay : ∀ s, (relay around s >>= fun t => pure (s, t)).log horizon =
      (relay around s).log horizon := by
    intro s
    rw [log_bind]
    cases (relay around s).ending <;> simp
  rw [run, hresult, body, log_bind]
  simp only [hrelay]
  cases (setup around files env args).ending <;> rfl

theorem log_run_of_value (h : (setup around files env args).ending = .value s) :
    (run around files env args).log horizon =
      (setup around files env args).log horizon ++ (relay around s).log horizon := by
  rw [log_run, h]

/-- The questions about finality are those of the relay. -/
theorem queries_run (c : DestinationClient) (h : (setup around files env args).ending = .value s) :
    c.queries ((run around files env args).log horizon) =
      c.queries ((relay around s).log horizon) := by
  rw [log_run_of_value h, DestinationClient.queries_append,
    DestinationClient.queries_eq_nil (only_setup horizon), List.nil_append]

/-- So are those where the contracts are those of the setup. -/
theorem filter_askedNetwork_run :
    ((run around files env args).log horizon).filter Deed.isAskedNetwork =
      ((setup around files env args).log horizon).filter Deed.isAskedNetwork := by
  rw [log_run, List.filter_append]
  refine List.append_right_eq_self.mpr ?_
  refine List.filter_eq_nil_iff.mpr fun d hd => ?_
  split at hd
  next s _ => exact Bool.eq_false_iff.mp (only_relay horizon d hd)
  all_goals cases hd

/-! ### Failures -/

/-- A relay that fails has called nothing. -/
theorem called?_of_relay_error (h : (relay around s).ending = .error f) :
    ∀ d ∈ (relay around s).log horizon, d.called? = none := by
  intro d hd
  rw [relay_eq] at h hd
  rw [log_bind] at hd
  rcases List.mem_append.mp hd with hd | hd
  · exact (only_receipts horizon d hd).1
  · split at hd
    next rs hrs =>
      -- the receipts are there, so they have been refused
      rcases ending_bind_eq_error_iff.mp h with herror | ⟨rs', hrs', hrefused⟩
      · cases hrs.symm.trans herror
      · obtain rfl := Ending.value.inj (hrs.symm.trans hrs')
        obtain ⟨e, he, -⟩ := ending_mapError_eq_error_iff.mp hrefused
        rw [log_mapError, Pipeline.log_runReceipts_of_error he] at hd
        cases hd
    all_goals cases hd

/-- **A failure is what the program ends with**, and nothing has been called by then. -/
theorem run_of_error (h : (body around files env args).ending = .error f) :
    (run around files env args).failure = some f ∧
      (run around files env args).status = some f.exitStatus ∧
      ∀ horizon, ∀ d ∈ (run around files env args).log horizon, d.called? = none := by
  refine ⟨by rw [run, result, h], by rw [run, result, h], fun horizon d hd => ?_⟩
  rw [log_run] at hd
  rcases List.mem_append.mp hd with hd | hd
  · exact only_setup horizon d hd
  · rcases body_eq_error_iff.mp h with hsetup | ⟨s, hsetup, hrelay⟩
    · rw [hsetup] at hd
      cases hd
    · rw [hsetup] at hd
      exact called?_of_relay_error hrelay d hd

/-- A program that does not end with a failure has none. -/
theorem failure_run_eq_none (h : ∀ f, (body around files env args).ending ≠ .error f) :
    (run around files env args).failure = none := by
  unfold run result
  split
  next => rfl
  next f hf => exact absurd hf (h f)
  next => rfl
  next => rfl

/-! ### Where the bus comes from -/

/-- **Where a bus comes from**: it is the configured one, or there is none in the configuration and
the node has named this one, in time. -/
inductive BusOrigin (around : Surroundings) (full : Environment) (bus : Address) : Prop where
  /-- The variable has the text of the address. -/
  | configured {text : String} (hset : Config.present? full "MESSAGE_BUS_ADDRESS" = some text)
      (haddress : Setting.address (Text.trim text) = .ok bus)
  /-- The node answers with a document that names the address. -/
  | named {delay status : Nat} {body : String} {answer : Json}
      (hunset : Config.present? full "MESSAGE_BUS_ADDRESS" = none)
      (hreply : around.destination.network = .after delay (.response status body))
      (htime : delay < NetworkConfig.patience) (hread : Json.read? body = some answer)
      (hnames : NetworkConfig.Names answer bus)

/-- A loaded configuration has the bus that its variable writes. -/
theorem address?_of_loaded (h : Config.ofEnvironment full = .ok config) :
    Config.address? full "MESSAGE_BUS_ADDRESS" = .ok config.destination.messageBus := by
  obtain ⟨-, hdestination, -, -⟩ := Config.ofEnvironment_eq_ok_iff.mp h
  exact (Config.readDestination_eq_ok_iff.mp hdestination).2.1

/-- It has one exactly if the variable is set. -/
theorem messageBus_eq_none_iff (h : Config.ofEnvironment full = .ok config) :
    config.destination.messageBus = none ↔
      Config.present? full "MESSAGE_BUS_ADDRESS" = none := by
  rw [← Config.address?_eq_none_iff, address?_of_loaded h, Except.ok.injEq]

/-- **Both sources are checked**: the bus that is found for a loaded configuration is not zero. -/
theorem origin_of_messageBus (hloaded : Config.ofEnvironment full = .ok config)
    (h : (messageBus around config).ending = .value bus) :
    BusOrigin around full bus ∧ bus ≠ Octets.zero 20 := by
  have haddress := address?_of_loaded hloaded
  obtain ⟨-, -, -, hvalid⟩ := Config.ofEnvironment_eq_ok_iff.mp hloaded
  unfold messageBus at h
  split at h
  next bus' hbus =>
    obtain rfl := Ending.value.inj h
    rw [hbus, Config.address?_eq_some_iff] at haddress
    obtain ⟨text, hset, htext⟩ := haddress
    exact ⟨.configured hset htext, fun hzero => hvalid.messageBus (by rw [hbus, hzero])⟩
  next hbus =>
    rw [ending_mapError_eq_value_iff] at h
    obtain ⟨hzero, _, _, _, _, hreply, htime, hread, hnames⟩ := NetworkConfig.named_of_discover h
    exact ⟨.named ((messageBus_eq_none_iff hloaded).mp hbus) hreply htime hread hnames, hzero⟩

/-- The client of a setup asks a bus of such an origin. -/
theorem origin_of_setup (h : (setup around files env args).ending = .value s) :
    ∃ full, env.extend? (files s.line.envFile) = some full ∧
      BusOrigin around full s.client.messageBus ∧ s.client.messageBus ≠ Octets.zero 20 := by
  obtain ⟨-, hload, hbus, -⟩ := setup_eq_value_iff.mp h
  obtain ⟨full, hfull, hloaded⟩ := Config.load_eq_ok_iff.mp hload
  exact ⟨full, hfull, origin_of_messageBus hloaded hbus⟩

/-- **The setup comes to a client or to a failure.** -/
theorem ending_setup (around : Surroundings) (files : String → FileContent) (env : Environment)
    (args : List String) :
    (∃ s, (setup around files env args).ending = .value s) ∨
      ∃ f, (setup around files env args).ending = .error f := by
  have hbus : ∀ config, (messageBus around config).ending ≠ .death ∧
      (messageBus around config).ending ≠ .never := by
    intro config
    unfold messageBus
    split
    · simp
    · rw [Ne, Ne, ending_mapError_eq_death_iff, ending_mapError_eq_never_iff]
      rcases NetworkConfig.ending_discover around.destination.network with ⟨_, h⟩ | ⟨_, h⟩ <;>
        simp [h]
  cases hsetup : (setup around files env args).ending with
  | value s => exact Or.inl ⟨s, rfl⟩
  | error f => exact Or.inr ⟨f, rfl⟩
  | death =>
    simp only [setup, ending_bind_eq_death_iff, ending_ofExcept_ne_death, hbus, ending_pure,
      reduceCtorEq, and_false, exists_false, or_false] at hsetup
  | never =>
    simp only [setup, ending_bind_eq_never_iff, ending_ofExcept_ne_never, hbus, ending_pure,
      reduceCtorEq, and_false, exists_false, or_false] at hsetup

/-! ### Whether the node is asked where its contracts are -/

/-- The setup does nothing but find the bus, if there is a configuration. -/
theorem log_setup :
    (setup around files env args).log horizon =
      match CommandLine.parse args with
      | .error _ => []
      | .ok line =>
        match Config.load env line.envFile (files line.envFile) with
        | .error _ => []
        | .ok config => (messageBus around config).log horizon := by
  rw [setup]
  cases CommandLine.parse args with
  | error cause => rfl
  | ok line =>
    change (pure line >>= _ : Stage Failure Setup).log horizon = _
    rw [pure_bind]
    dsimp only
    cases Config.load env line.envFile (files line.envFile) with
    | error cause => rfl
    | ok config =>
      change (pure config >>= _ : Stage Failure Setup).log horizon = _
      rw [pure_bind, log_bind]
      refine List.append_right_eq_self.mpr ?_
      split
      · rw [log_bind, log_ofExcept, List.nil_append]
        split
        all_goals rfl
      all_goals rfl

/-- **The node is not asked if the bus is configured.** -/
theorem log_setup_of_present (hline : CommandLine.parse args = .ok line)
    (hfull : env.extend? (files line.envFile) = some full)
    (hset : Config.present? full "MESSAGE_BUS_ADDRESS" ≠ none) :
    (setup around files env args).log horizon = [] := by
  rw [log_setup, hline]
  dsimp only
  cases hload : Config.load env line.envFile (files line.envFile) with
  | error cause => rfl
  | ok config =>
    obtain ⟨full', hfull', hloaded⟩ := Config.load_eq_ok_iff.mp hload
    obtain rfl := Option.some.inj (hfull.symm.trans hfull')
    dsimp only
    rw [messageBus]
    cases hbus : config.destination.messageBus with
    | none => exact absurd ((messageBus_eq_none_iff hloaded).mp hbus) hset
    | some bus => rfl

/-- It is asked if the bus is not configured, and only once. -/
theorem log_setup_of_unset (hline : CommandLine.parse args = .ok line)
    (hload : Config.load env line.envFile (files line.envFile) = .ok config)
    (hunset : config.destination.messageBus = none) :
    (setup around files env args).log horizon = [.askedNetwork] := by
  rw [log_setup, hline]
  dsimp only
  rw [hload]
  dsimp only
  rw [messageBus, hunset, log_mapError, NetworkConfig.log_discover]

/-- If the node's answer carries an error, the program fails by it. -/
theorem body_of_reportsError (hline : CommandLine.parse args = .ok line)
    (hload : Config.load env line.envFile (files line.envFile) = .ok config)
    (hunset : config.destination.messageBus = none)
    (hreports : NetworkConfig.ReportsError around.destination.network) :
    ∃ cause, (body around files env args).ending = .error (.discovery cause) := by
  obtain ⟨e, he⟩ := NetworkConfig.discover_of_error hreports
  refine ⟨e, body_eq_error_iff.mpr (Or.inl ?_)⟩
  refine ending_bind_eq_error_iff.mpr (Or.inr ⟨line, ?_, ?_⟩)
  · exact ending_ofExcept_eq_value_iff.mpr (mapError_eq_ok_iff.mpr hline)
  refine ending_bind_eq_error_iff.mpr (Or.inr ⟨config, ?_, ?_⟩)
  · exact ending_ofExcept_eq_value_iff.mpr (mapError_eq_ok_iff.mpr hload)
  refine ending_bind_eq_error_iff.mpr (Or.inl ?_)
  rw [messageBus, hunset]
  exact ending_mapError_eq_error_iff.mpr ⟨e, he, rfl⟩

/-! ### What does not matter -/

/-- The program does the same in other surroundings if its stages do. -/
theorem run_congr {around' : Surroundings}
    (hsetup : setup around' files env args = setup around files env args)
    (hrelay : ∀ s, (setup around files env args).ending = .value s →
      relay around' s = relay around s)
    (hsend : around'.destination.send = around.destination.send) :
    run around' files env args = run around files env args := by
  have hbody : body around' files env args = body around files env args := by
    rw [body, body, hsetup]
    exact bind_congr_of_value fun s hs => by rw [hrelay s hs]
  have hresult : ∀ stage, result around' stage = result around stage := fun stage => by
    simp only [result, sentToDestination, DestinationClient.send, hsend]
  rw [run, run, hbody, hresult]

/-- **Only the bus matters**: what any other contract would answer makes no difference. -/
theorem run_of_agreesAt {destination : DestinationProvider}
    (hsetup : (setup around files env args).ending = .value s)
    (h : around.destination.AgreesAt s.client.messageBus destination) :
    run { around with destination } files env args = run around files env args := by
  refine run_congr ?setup (fun s' hs' => ?relay) h.send.symm
  case setup => simp only [setup, messageBus, h.network]
  case relay =>
    obtain rfl := Ending.value.inj (hsetup.symm.trans hs')
    simp only [relay_eq, DestinationClient.ledger_of_agreesAt h]
    rfl

/-- The surroundings with another answer to the question where the contracts are. -/
def Surroundings.withNetwork (around : Surroundings) (network : Answer Rpc.Reply) : Surroundings :=
  { around with destination := { around.destination with network } }

/-- If the bus is configured, the program does the same, whatever the node would answer. -/
theorem run_withNetwork (network : Answer Rpc.Reply) (hline : CommandLine.parse args = .ok line)
    (hfull : env.extend? (files line.envFile) = some full)
    (hset : Config.present? full "MESSAGE_BUS_ADDRESS" ≠ none) :
    run (around.withNetwork network) files env args = run around files env args := by
  refine run_congr ?_ (fun _ _ => rfl) rfl
  refine bind_congr_of_value fun line' hline' => ?_
  rw [ending_ofExcept_eq_value_iff, mapError_eq_ok_iff, hline, Except.ok.injEq] at hline'
  subst hline'
  refine bind_congr_of_value fun config hconfig => ?_
  rw [ending_ofExcept_eq_value_iff, mapError_eq_ok_iff, Config.load_eq_ok_iff] at hconfig
  obtain ⟨full', hfull', hloaded⟩ := hconfig
  obtain rfl := Option.some.inj (hfull.symm.trans hfull')
  have hsame : messageBus (around.withNetwork network) config = messageBus around config := by
    cases hbus : config.destination.messageBus with
    | none => exact absurd ((messageBus_eq_none_iff hloaded).mp hbus) hset
    | some bus => rw [messageBus, messageBus, hbus]
  rw [hsame]

/-! ### What is asked when nothing fails -/

/-- A provider may be silent, but the program does not die of it. -/
theorem receipts_ne_death : (receipts around s).ending ≠ .death := by
  have hreply : ∀ {α : Type} (answer : Answer (Except LedgerError α)) delay,
      answer.reply ≠ .death delay := by
    intro α answer delay h
    cases answer <;> cases h
  have hsubmit : ∀ (c : SourceClient) request delay,
      (c.ledger around.source).submit request ≠ .death delay := by
    intro c request delay h
    simp only [SourceClient.ledger] at h
    split at h
    · cases h
    · exact hreply _ delay h
  unfold receipts
  split
  · rw [Ne, ending_bind_eq_death_iff]
    rintro (hclient | ⟨client, -, hfetch⟩)
    · exact ending_ofExcept_ne_death hclient
    · rw [ending_mapError_eq_death_iff] at hfetch
      exact SourceLedger.ending_fetchFrom_ne_death (fun _ _ delay => hreply _ delay) hfetch
  · rw [Ne, ending_bind_eq_death_iff]
    rintro (hclient | ⟨client, -, h⟩)
    · exact ending_ofExcept_ne_death hclient
    · rw [ending_bind_eq_death_iff, ending_mapError_eq_death_iff, ending_perform_eq_death_iff] at h
      rcases h with ⟨delay, h⟩ | ⟨r, -, h⟩
      · exact hsubmit client _ delay h
      · cases h

/-- **A program that does not fail** waits for a receipt for ever, and asks nothing, or it has got a
batch. Then it asks as soon as there is a message and a moment to look at. -/
theorem asked_of_setup (hsetup : (setup around files env args).ending = .value s)
    (hbody : ∀ f, (body around files env args).ending ≠ .error f) :
    ((receipts around s).ending = .never ∧ (run around files env args).status = none ∧
        ∀ horizon, s.client.queries ((run around files env args).log horizon) = []) ∨
      ∃ rs batch, (receipts around s).ending = .value rs ∧
        Batch.ofReceipts (pipeline around s).extractor rs = .ok batch ∧
        (batch.messages ≠ [] → ∀ horizon, 0 < horizon →
          s.client.queries ((run around files env args).log horizon) ≠ []) := by
  have hfails : ∀ f, (relay around s).ending ≠ .error f := fun f h =>
    hbody f (body_eq_error_iff.mpr (Or.inr ⟨s, hsetup, h⟩))
  cases hreceipts : (receipts around s).ending with
  | death => exact absurd hreceipts receipts_ne_death
  | error f =>
    refine absurd ?_ (hfails f)
    rw [relay_eq]
    exact ending_bind_eq_error_iff.mpr (Or.inl hreceipts)
  | never =>
    have hrelay : (relay around s).ending = .never := by
      rw [relay_eq]
      exact ending_bind_eq_never_iff.mpr (Or.inl hreceipts)
    have hending : (body around files env args).ending = .never :=
      ending_bind_eq_never_iff.mpr
        (Or.inr ⟨s, hsetup, ending_bind_eq_never_iff.mpr (Or.inl hrelay)⟩)
    refine Or.inl ⟨rfl, by rw [run, result, hending], fun horizon => ?_⟩
    -- only receipts have been asked for
    rw [queries_run _ hsetup, relay_eq, log_bind, hreceipts, List.append_nil]
    exact DestinationClient.queries_eq_nil fun d hd => (only_receipts horizon d hd).1
  | value rs =>
    cases hbatch : Batch.ofReceipts (pipeline around s).extractor rs with
    | error e =>
      refine absurd ?_ (hfails (.extraction e))
      rw [relay_eq]
      exact ending_bind_eq_error_iff.mpr (Or.inr ⟨rs, hreceipts, ending_mapError_eq_error_iff.mpr
        ⟨e, Pipeline.ending_runReceipts_eq_error_iff.mpr hbatch, rfl⟩⟩)
    | ok batch =>
      refine Or.inr ⟨rs, batch, rfl, hbatch, fun hmessages horizon hhor => ?_⟩
      obtain ⟨hi, hd⟩ := (valid_of_setup hsetup).schedule
      obtain ⟨m, call, hkind, hmem⟩ : ∃ m call, call.kind = .estimate ∧ .called m call ∈
          (Run.stage (pipeline around s).config (s.client.ledger around.destination) batch :
            Stage ExtractionError Run.Trace).log horizon :=
        Run.exists_called_of_stage hi hd hmessages hhor
      rw [queries_run _ hsetup, relay_eq, log_bind_of_value hreceipts, log_mapError,
        (Pipeline.runReceipts_of_ok hbatch).2, DestinationClient.queries_append]
      exact List.append_ne_nil_of_right_ne_nil _
        (List.ne_nil_of_mem (DestinationClient.mem_queries hmem hkind))

/-! ### The bus in use -/

/-- An answer that names the bus, with some other fields behind it. -/
def namingAnswer (others : List (String × Json)) : Json :=
  let result := Json.ofMembers [("L2MessageBusAddress", .string busText)]
  .ofMembers (("result", result) :: others)

/-- An answer that names the bus and reports an error. -/
def disputedAnswer : Json :=
  namingAnswer [("error", .ofMembers [("code", .ofNat 1), ("message", .string "no")])]

/-- The prompt surroundings, where the destination node says where its contracts are. -/
def answering (answer : Json) : Surroundings :=
  promptSurroundings.withNetwork (.after 0 (.response 200 answer.write))

/-- The bus that is named is the bus that is found. -/
example :
    (match (NetworkConfig.discover (answering (namingAnswer [])).destination.network).ending with
      | .value bus => some bus
      | .error _ | .death | .never => none) = (Setting.address busText).toOption := by
  decide +kernel

theorem reportsError_disputed :
    NetworkConfig.ReportsError (answering disputedAnswer).destination.network := by
  have hplain : disputedAnswer.IsPlain := Json.isPlain_ofMembers (by simp [Json.isPlain_ofMembers])
  exact ⟨0, 200, _, disputedAnswer, _, rfl, Json.read?_write hplain,
    .member (List.mem_cons_of_mem _ List.mem_cons_self), by simp [Json.ofMembers]⟩

end Program

end MessageRelay
