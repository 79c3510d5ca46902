import MessageRelay.Proofs.Config.Values
import MessageRelay.Proofs.Poll.Bounds
import MessageRelay.Proofs.Poll.Results
import MessageRelay.Proofs.Run.Reports

/-!
# Configurations written to an environment and read back

An environment describes a configuration if every field is written to its own variable
(`MessageRelay.Config.Describes`): numbers, truth values, addresses and the policy in one of their
forms and with any white space around, URLs and keys as they stand. A field that may be absent is
left out if it is, and one that has a default may be left out if it holds that. Left out means not
set, or blank (`MessageRelay.Environment.LeavesOut`).

The variables are read one by one, so it is enough to know for one variable what is read if it is
written (`MessageRelay.Config.value?_of_writes`) and what if it is left out
(`MessageRelay.Config.value?_of_leavesOut`). A valid configuration is then what an environment that
describes it gives back (`MessageRelay.Config.ofEnvironment_of_describes`), and there is such an
environment for every configuration (`MessageRelay.Config.describes_written`).

What was read is valid in turn, so a run that goes by it has time between two queries and before its
deadline (`MessageRelay.Config.Valid.schedule`).
-/

namespace MessageRelay

/-! ### Variables that are set, and variables that are left out -/

namespace Environment

variable {env : Environment} {name text : String}

/-- A variable is set to a text. -/
def Holds (env : Environment) (name text : String) : Prop :=
  env.lookup name = some (Bytes.ofText text)

/-- A variable is not set, or there is nothing but white space in it. -/
def LeavesOut (env : Environment) (name : String) : Prop :=
  env.lookup name = none ∨ ∃ text, Text.isAllBlank text = true ∧ env.Holds name text

theorem Holds.text? (h : env.Holds name text) : env.text? name = some text := by
  have hlookup : env.lookup name = some (Bytes.ofText text) := h
  rw [Environment.text?, hlookup, Option.bind_some, Bytes.text?_ofText]

end Environment

namespace Config

open Setting (Form Reads)

variable {env : Environment} {name text : String} {α : Type} {form : Form α}
  {read : String → Except ValueError α} {a standard : α}

theorem required_of_holds (h : env.Holds name text) : required env name = .ok text := by
  rw [required, h.text?]

theorem present?_of_holds (h : env.Holds name text) (hblank : Text.isAllBlank text = false) :
    present? env name = some text := by
  rw [present?, h.text?, Option.filter_some, hblank]
  rfl

theorem present?_of_leavesOut (h : env.LeavesOut name) : present? env name = none := by
  rcases h with hunset | ⟨text, hblank, h⟩
  · rw [present?, Environment.text?, hunset]
    rfl
  · rw [present?, h.text?, Option.filter_some, hblank]
    rfl

/-- A variable is set to a value in one of its forms, with any white space around. -/
def Writes (env : Environment) (name : String) (form : Form α) (a : α) : Prop :=
  ∃ core text, form a core ∧ Text.Padded core text ∧ env.Holds name text

/-- A value that may be absent is written, or left out if it is absent. -/
def WritesOptional (env : Environment) (name : String) (form : Form α) : Option α → Prop
  | none => env.LeavesOut name
  | some a => Writes env name form a

/-- A value that has a default is written, or left out if it is the default. -/
def WritesDefault (env : Environment) (name : String) (form : Form α) (standard a : α) : Prop :=
  Writes env name form a ∨ a = standard ∧ env.LeavesOut name

/-- A written value is there and can be read, whatever the white space around it. -/
theorem Writes.exists_text (h : Writes env name form a) (hreads : Reads form read) :
    ∃ text, env.Holds name text ∧ present? env name = some text ∧
      read (Text.trim text) = .ok a := by
  obtain ⟨core, text, hform, hpadded, hholds⟩ := h
  refine ⟨text, hholds, present?_of_holds hholds (hpadded.isAllBlank (hreads.solid hform)), ?_⟩
  rw [hpadded.trim (hreads.solid hform), hreads.read hform]

/-! ### One variable at a time -/

/-- **A written value is read back.** -/
theorem value?_of_writes (hreads : Reads form read) (h : Writes env name form a) :
    value? env name read = .ok (some a) := by
  obtain ⟨text, -, hpresent, hread⟩ := h.exists_text hreads
  simp only [value?, hpresent, hread]

/-- **A value that is left out is absent.** -/
theorem value?_of_leavesOut (h : env.LeavesOut name) :
    value? env name read = .ok none := by
  simp only [value?, present?_of_leavesOut h]

theorem value?_of_writesOptional (hreads : Reads form read) {o : Option α}
    (h : WritesOptional env name form o) : value? env name read = .ok o := by
  cases o with
  | none => exact value?_of_leavesOut h
  | some a => exact value?_of_writes hreads h

theorem value?_of_writesDefault (hreads : Reads form read)
    (h : WritesDefault env name form standard a) :
    ∃ o, value? env name read = .ok o ∧ o.getD standard = a := by
  rcases h with h | ⟨rfl, h⟩
  · exact ⟨some a, value?_of_writes hreads h, rfl⟩
  · exact ⟨none, value?_of_leavesOut h, rfl⟩

theorem addressOf_of_writes {a : Address} (h : Writes env name Setting.hexadecimal a) :
    ∃ text, required env name = .ok text ∧ addressOf name text = .ok a := by
  obtain ⟨text, hholds, -, hread⟩ := h.exists_text Setting.reads_address
  refine ⟨text, required_of_holds hholds, ?_⟩
  rw [addressOf, hread]
  rfl

theorem address?_of_writesOptional {o : Option Address}
    (h : WritesOptional env name Setting.hexadecimal o) : address? env name = .ok o := by
  cases o with
  | none => simp only [address?, present?_of_leavesOut h]
  | some a =>
    obtain ⟨text, -, hpresent, hread⟩ := Writes.exists_text h Setting.reads_address
    exact address?_eq_some_iff.mpr ⟨text, hpresent, hread⟩

/-! ### All variables -/

/-- A key that may be absent stands as it is, or is left out if it is absent. -/
def HoldsKey (env : Environment) (name : String) : Option (Redacted String) → Prop
  | none => env.LeavesOut name
  | some key => env.Holds name key.secret

/-- **An environment describes a configuration**: each field is written to its own variable. -/
structure Describes (env : Environment) (c : Config) : Prop where
  sourceUrl : env.Holds "SOURCE_RPC_URL" c.source.rpcUrl
  sourceBus : WritesOptional env "SOURCE_MESSAGE_BUS_ADDRESS" Setting.hexadecimal
    c.source.messageBus
  sourceKey : HoldsKey env "SOURCE_PRIVATE_KEY" c.source.privateKey
  destinationUrl : env.Holds "DEST_RPC_URL" c.destination.rpcUrl
  messageBus : WritesOptional env "MESSAGE_BUS_ADDRESS" Setting.hexadecimal
    c.destination.messageBus
  messenger : Writes env "MESSENGER_ADDRESS" Setting.hexadecimal c.destination.messenger
  relayerKey : env.Holds "RELAYER_PRIVATE_KEY" c.destination.privateKey.secret
  gasLimit : WritesDefault env "RELAY_GAS_LIMIT" (fun n : UInt64 => Setting.decimal n.toNat)
    5000000 c.destination.gasLimit
  maxFee : WritesDefault env "RELAY_MAX_FEE_PER_GAS"
    (fun n : BitVec 128 => Setting.decimal n.toNat) 1000000001 c.destination.maxFeePerGas
  pollInterval : WritesDefault env "RELAY_POLL_INTERVAL_MS"
    (fun n : UInt64 => Setting.decimal n.toNat) 1000 c.relay.pollInterval
  finalityTimeout : WritesDefault env "RELAY_FINALITY_TIMEOUT_MS"
    (fun n : UInt64 => Setting.decimal n.toNat) 30000 c.relay.finalityTimeout
  runTimeout : WritesOptional env "RELAY_PIPELINE_TIMEOUT_MS"
    (fun n : UInt64 => Setting.decimal n.toNat) c.relay.runTimeout
  policy : WritesDefault env "RELAY_FAILURE_POLICY" Setting.policyName .abortRemaining
    c.relay.policy
  cancelOnAbort : WritesDefault env "RELAY_CANCEL_POLLS_ON_ABORT" Setting.truthWord false
    c.relay.cancelOnAbort
  retries : WritesDefault env "RELAY_SUBMIT_RETRIES"
    (fun n : UInt32 => Setting.decimal n.toNat) 2 c.relay.retries

variable {c : Config}

/-- What is looked at: the length in bytes and the marker. -/
theorem hasKeyForm_iff {key : String} :
    hasKeyForm key = true ↔
      (Bytes.ofText key).length = 66 ∧ ∃ rest, key.toList = '0' :: 'x' :: rest := by
  rw [hasKeyForm, Bool.and_eq_true, beq_iff_eq, List.isPrefixOf_iff_prefix]
  refine and_congr_right fun _ => ?_
  constructor
  · rintro ⟨rest, hrest⟩
    exact ⟨rest, hrest.symm⟩
  · rintro ⟨rest, hrest⟩
    exact ⟨rest, hrest.symm⟩

/-- A text that has the form of a key is not blank. -/
theorem isAllBlank_of_hasKeyForm {key : String} (h : hasKeyForm key = true) :
    Text.isAllBlank key = false := by
  obtain ⟨-, rest, hrest⟩ := hasKeyForm_iff.mp h
  refine List.all_eq_false.mpr ⟨'0', ?_, by decide⟩
  rw [hrest]
  exact List.mem_cons_self

theorem present?_of_holdsKey {key : Option (Redacted String)} (h : HoldsKey env name key)
    (hform : key.all (hasKeyForm ·.secret) = true) :
    (present? env name).map Redacted.mk = key := by
  cases key with
  | none => rw [present?_of_leavesOut h, Option.map_none]
  | some key =>
    rw [present?_of_holds h (isAllBlank_of_hasKeyForm hform), Option.map_some]

/-- **A valid configuration is read back** from every environment that describes it. -/
theorem ofEnvironment_of_describes (hvalid : Valid c) (h : Describes env c) :
    ofEnvironment env = .ok c := by
  refine ofEnvironment_eq_ok_iff.mpr ⟨?source, ?destination, ?relay, hvalid⟩
  case source =>
    refine readSource_eq_ok_iff.mpr ⟨required_of_holds h.sourceUrl, ?_, ?_⟩
    · exact address?_of_writesOptional h.sourceBus
    · exact present?_of_holdsKey h.sourceKey hvalid.sourceKey
  case destination =>
    refine readDestination_eq_ok_iff.mpr ⟨required_of_holds h.destinationUrl, ?_,
      addressOf_of_writes h.messenger, required_of_holds h.relayerKey, ?_, ?_⟩
    · exact address?_of_writesOptional h.messageBus
    · exact value?_of_writesDefault Setting.reads_word64 h.gasLimit
    · exact value?_of_writesDefault Setting.reads_word128 h.maxFee
  case relay =>
    refine readRelay_eq_ok_iff.mpr ⟨?_, ?_, ?_, ?_, ?_, ?_⟩
    · exact value?_of_writesDefault Setting.reads_word64 h.pollInterval
    · exact value?_of_writesDefault Setting.reads_word64 h.finalityTimeout
    · exact value?_of_writesOptional Setting.reads_word64 h.runTimeout
    · exact value?_of_writesDefault Setting.reads_policy h.policy
    · exact value?_of_writesDefault Setting.reads_flag h.cancelOnAbort
    · exact value?_of_writesDefault Setting.reads_word32 h.retries

/-! ### The plain way to write a configuration -/

/-- The text of a value that may be absent; nothing if it is. -/
def orNothing (write : α → String) (o : Option α) : String :=
  (o.map write).getD ""

/-- A configuration with nothing left out: what is absent is written as nothing. -/
def written (c : Config) : Environment :=
  [("SOURCE_RPC_URL", c.source.rpcUrl),
   ("SOURCE_MESSAGE_BUS_ADDRESS", orNothing Octets.toHex c.source.messageBus),
   ("SOURCE_PRIVATE_KEY", orNothing Redacted.secret c.source.privateKey),
   ("DEST_RPC_URL", c.destination.rpcUrl),
   ("MESSAGE_BUS_ADDRESS", orNothing Octets.toHex c.destination.messageBus),
   ("MESSENGER_ADDRESS", c.destination.messenger.toHex),
   ("RELAYER_PRIVATE_KEY", c.destination.privateKey.secret),
   ("RELAY_GAS_LIMIT", toString c.destination.gasLimit.toNat),
   ("RELAY_MAX_FEE_PER_GAS", toString c.destination.maxFeePerGas.toNat),
   ("RELAY_POLL_INTERVAL_MS", toString c.relay.pollInterval.toNat),
   ("RELAY_FINALITY_TIMEOUT_MS", toString c.relay.finalityTimeout.toNat),
   ("RELAY_PIPELINE_TIMEOUT_MS", orNothing (fun n => toString n.toNat) c.relay.runTimeout),
   ("RELAY_FAILURE_POLICY", c.relay.policy.text),
   ("RELAY_CANCEL_POLLS_ON_ABORT", toString c.relay.cancelOnAbort),
   ("RELAY_SUBMIT_RETRIES", toString c.relay.retries.toNat)].map fun entry =>
    (entry.1, Bytes.ofText entry.2)

theorem Writes.of_holds {core : String} (hform : form a core) (h : env.Holds name core) :
    Writes env name form a :=
  ⟨core, core, hform, .refl core, h⟩

theorem WritesOptional.of_holds {write : α → String} (hform : ∀ a, form a (write a)) {o : Option α}
    (h : env.Holds name (orNothing write o)) : WritesOptional env name form o := by
  cases o with
  | none => exact Or.inr ⟨"", rfl, h⟩
  | some a => exact Writes.of_holds (hform a) h

theorem HoldsKey.of_holds {key : Option (Redacted String)}
    (h : env.Holds name (orNothing Redacted.secret key)) : HoldsKey env name key := by
  cases key with
  | none => exact Or.inr ⟨"", rfl, h⟩
  | some key => exact h

theorem hexadecimal_toHex (a : Address) : Setting.hexadecimal a a.toHex :=
  ⟨a.bytes.hexDigits, String.toList_ofList, Bytes.map_toLower_hexDigits a.bytes⟩

theorem policyName_text (p : FailurePolicy) : Setting.policyName p p.text := by
  cases p <;> rfl

/-- **Every configuration is described by the environment that is written so.** -/
theorem describes_written (c : Config) : Describes c.written c where
  sourceUrl := rfl
  sourceBus := .of_holds hexadecimal_toHex rfl
  sourceKey := .of_holds rfl
  destinationUrl := rfl
  messageBus := .of_holds hexadecimal_toHex rfl
  messenger := .of_holds (hexadecimal_toHex _) rfl
  relayerKey := rfl
  gasLimit := Or.inl (.of_holds rfl rfl)
  maxFee := Or.inl (.of_holds rfl rfl)
  pollInterval := Or.inl (.of_holds rfl rfl)
  finalityTimeout := Or.inl (.of_holds rfl rfl)
  runTimeout := by
    have hform : ∀ n : UInt64, Setting.decimal n.toNat (toString n.toNat) := fun _ => rfl
    exact .of_holds hform rfl
  policy := Or.inl (.of_holds (policyName_text _) rfl)
  cancelOnAbort := Or.inl (.of_holds rfl rfl)
  retries := Or.inl (.of_holds rfl rfl)

end Config

/-! ### Runs of a loaded configuration -/

/-- A duration behind the start is as long as the instant says. -/
theorem Clock.eq_of_instant? {d instant : Duration} (h : Clock.instant? d = some instant) :
    instant = d := by
  rw [instant?] at h
  split at h
  · exact (Option.some.inj h).symm
  · contradiction

namespace Config

variable {env : Environment} {c : Config}

/-- **A valid configuration leaves time** between two queries and before the deadline. -/
theorem Valid.schedule (h : Valid c) :
    c.runConfig.schedule.interval ≠ .zero ∧ c.runConfig.schedule.deadline ≠ some .zero := by
  have hne : ∀ {n : UInt64}, n ≠ 0 → Duration.ofMillis n.toNat ≠ .zero := fun hn hzero =>
    hn (UInt64.toNat_inj.mp (Duration.ofMillis_eq_zero_iff.mp hzero))
  refine ⟨hne h.pollInterval, ?_⟩
  have hfinality := Duration.nanos_pos (hne h.finalityTimeout)
  have hdeadline : 0 < c.runConfig.pollDeadline.nanos := by
    rw [RunConfig.pollDeadline]
    split
    next instant hrun =>
      -- the deadline of the run is not zero where there is one
      obtain ⟨d, hd, hinstant⟩ := Option.bind_eq_some_iff.mp hrun
      obtain ⟨timeout, htimeout, rfl⟩ := Option.map_eq_some_iff.mp hd
      obtain rfl := Clock.eq_of_instant? hinstant
      have htime : timeout ≠ 0 := by
        rintro rfl
        exact h.runTimeout htimeout
      rw [Duration.nanos_min]
      exact Nat.lt_min.mpr ⟨hfinality, Duration.nanos_pos (hne htime)⟩
    next => exact hfinality
  intro hzero
  rw [← Clock.eq_of_instant? hzero, Duration.nanos_zero] at hdeadline
  exact Nat.lt_irrefl 0 hdeadline

/-- **A poll of a valid configuration has time**: it does not refuse for want of time between two
queries, and it does not run out of time but at a deadline that is not zero. -/
theorem Valid.result_of_observe (h : Valid c) {ledger : Ledger} {m : Message} {horizon t : Nat}
    {r : PollResult}
    (hending : (Poll.observe ledger m c.runConfig.schedule horizon).ending =
      some (t, .result r)) :
    r ≠ .failed .zeroInterval ∧ ∀ n elapsed, r = .timedOut n elapsed →
      ∃ deadline, c.runConfig.schedule.deadline = some deadline ∧ deadline ≠ .zero ∧
        deadline ≤ .ofMillis elapsed := by
  obtain ⟨hinterval, hdeadline⟩ := h.schedule
  have hadmits := Poll.admits_of_observe hinterval hending
  cases r with
  | finalized f => exact ⟨by simp, by simp⟩
  | failed e => exact ⟨fun heq => hadmits (PollResult.failed.inj heq), by simp⟩
  | timedOut attempts elapsed =>
    obtain ⟨deadline, hd, hle⟩ := hadmits
    have hne : deadline ≠ .zero := fun hzero => hdeadline (hzero ▸ hd)
    refine ⟨by simp, ?_⟩
    rintro n elapsed' ⟨⟩
    exact ⟨deadline, hd, hne, hle⟩

/-- **No message of a run that goes by a valid configuration is reported as if its poll had
refused** for want of time. -/
theorem Valid.outcome_ne (h : Valid c) {ledger : Ledger} {batch : Batch}
    {done : List Completion} {s : Run.State}
    (hfinished : Run.Finished c.runConfig ledger batch done s) (hhalted : s.halted = none) :
    ∀ r ∈ s.reports batch.keys, r.outcome ≠ .pollFailed PollError.zeroInterval.message := by
  intro r hr hout
  rcases hfinished.pollFailed_cases hhalted hr hout with
    hlost | ⟨m, horizon, t, e, hending, hmessage⟩
  · exact absurd hlost (by decide)
  · exact PollError.message_ne (Poll.admits_of_observe h.schedule.1 hending) hmessage.symm

/-- **Configurations make the round trip.** A valid configuration is what every environment gives
back that describes it, and there is one for every configuration. The run that goes by it has the
same intervals, deadlines, policy and number of retries. What any environment gives is valid. So
whatever the ledger does, no poll of a run that goes by it refuses for want of time between two
queries, and none runs out of time but at a deadline that is not zero; and no message is reported as
if one had refused. -/
theorem round_trip (c : Config) :
    (∀ env, c.validate = .ok () → Describes env c → ofEnvironment env = .ok c) ∧
    Describes c.written c ∧
    c.runConfig.interval = .ofMillis c.relay.pollInterval.toNat ∧
    c.runConfig.finalityDeadline = .ofMillis c.relay.finalityTimeout.toNat ∧
    c.runConfig.runDeadline = c.relay.runTimeout.map (fun ms => .ofMillis ms.toNat) ∧
    c.runConfig.policy = c.relay.policy ∧
    c.runConfig.cancelOnAbort = c.relay.cancelOnAbort ∧
    c.runConfig.retry.maxRetries = c.relay.retries ∧
    ∀ env, ofEnvironment env = .ok c →
      c.validate = .ok () ∧
      (∀ ledger m horizon t r,
        (Poll.observe ledger m c.runConfig.schedule horizon).ending = some (t, .result r) →
        r ≠ .failed .zeroInterval ∧ ∀ n elapsed, r = .timedOut n elapsed →
          ∃ deadline, c.runConfig.schedule.deadline = some deadline ∧ deadline ≠ .zero ∧
            deadline ≤ .ofMillis elapsed) ∧
      ∀ ledger batch done s, Run.Finished c.runConfig ledger batch done s → s.halted = none →
        ∀ r ∈ s.reports batch.keys, r.outcome ≠ .pollFailed PollError.zeroInterval.message := by
  refine ⟨fun env hvalid h => ofEnvironment_of_describes (validate_eq_ok_iff.mp hvalid) h,
    describes_written c, rfl, rfl, rfl, rfl, rfl, rfl, fun env hloaded => ?_⟩
  obtain ⟨-, -, -, hvalid⟩ := ofEnvironment_eq_ok_iff.mp hloaded
  exact ⟨validate_eq_ok_iff.mpr hvalid,
    fun _ _ _ _ _ hending => hvalid.result_of_observe hending,
    fun _ _ _ _ hfinished hhalted => hvalid.outcome_ne hfinished hhalted⟩

/-- A configuration in which some values are those that are taken when nothing is said. -/
def sampleConfig : Config where
  source := { rpcUrl := "http://[::1]:8545", messageBus := none, privateKey := none }
  destination :=
    { rpcUrl := "http://[::1]:9545"
      messageBus := none
      messenger := Octets.ofNat 20 0xabcdef
      privateKey := ⟨"0x0000000000000000000000000000000000000000000000000000000000000001"⟩
      gasLimit := 7
      maxFeePerGas := 1000000001 }
  relay :=
    { pollInterval := 1000
      finalityTimeout := 1
      runTimeout := some 18446744073709551615
      policy := .skipAndContinue
      cancelOnAbort := true
      retries := 2 }

/-- The same in other spellings, with white space around and with values left out. -/
def spelledEnvironment : Environment :=
  [("SOURCE_RPC_URL", Bytes.ofText "http://[::1]:8545"),
   ("DEST_RPC_URL", Bytes.ofText "http://[::1]:9545"),
   ("MESSAGE_BUS_ADDRESS", Bytes.ofText " \t"),
   ("MESSENGER_ADDRESS", Bytes.ofText " 0x0000000000000000000000000000000000AbCdEf\n"),
   ("RELAYER_PRIVATE_KEY",
     Bytes.ofText "0x0000000000000000000000000000000000000000000000000000000000000001"),
   ("RELAY_GAS_LIMIT", Bytes.ofText "7 "),
   ("RELAY_FINALITY_TIMEOUT_MS", Bytes.ofText "\u00a01"),
   ("RELAY_PIPELINE_TIMEOUT_MS", Bytes.ofText "18446744073709551615"),
   ("RELAY_FAILURE_POLICY", Bytes.ofText "\nSkIp"),
   ("RELAY_CANCEL_POLLS_ON_ABORT", Bytes.ofText "true"),
   ("RELAY_SUBMIT_RETRIES", Bytes.ofText "2")]

theorem describes_spelled : Describes spelledEnvironment sampleConfig where
  sourceUrl := rfl
  sourceBus := Or.inl rfl
  sourceKey := Or.inl rfl
  destinationUrl := rfl
  messageBus := Or.inr ⟨" \t", rfl, rfl⟩
  messenger := by
    refine ⟨"0x0000000000000000000000000000000000AbCdEf", _,
      ⟨"0000000000000000000000000000000000AbCdEf".toList, by decide, by decide⟩,
      .of_all [' '] ['\n'] (by decide) rfl rfl, rfl⟩
  relayerKey := rfl
  gasLimit := Or.inl ⟨"7", "7 ", rfl, .of_all [] [' '] rfl rfl rfl, rfl⟩
  maxFee := Or.inr ⟨rfl, Or.inl rfl⟩
  pollInterval := Or.inr ⟨rfl, Or.inl rfl⟩
  finalityTimeout := Or.inl ⟨"1", "\u00a01", rfl, .of_all ['\u00a0'] [] rfl rfl rfl, rfl⟩
  runTimeout := Writes.of_holds rfl rfl
  policy := Or.inl ⟨"SkIp", "\nSkIp", rfl, .of_all ['\n'] [] rfl rfl rfl, rfl⟩
  cancelOnAbort := Or.inl (.of_holds rfl rfl)
  retries := Or.inl (.of_holds rfl rfl)

/-- That configuration is read back from those spellings. A poll that goes by it can run out of time
after a millisecond, and a run of three messages comes to its end with it. -/
theorem round_trip_spelled :
    let c := sampleConfig.runConfig
    let ledger := Ledger.prompt fun _ => successStatus
    let s := Run.finish c Run.Batch.three.keys (Run.relayOn c ledger) Run.threeArrivals
    (sampleConfig.validate = .ok () ∧ Describes spelledEnvironment sampleConfig ∧
      ofEnvironment spelledEnvironment = .ok sampleConfig) ∧
    ((Poll.observe Poll.neverFinal default c.schedule 100).ending =
      some (1, .result (.timedOut 1 1)) ∧ ∃ deadline, c.schedule.deadline = some deadline ∧
        deadline ≠ .zero ∧ deadline ≤ .ofMillis 1) ∧
    s.halted = none ∧
      ∀ r ∈ s.reports Run.Batch.three.keys,
        r.outcome ≠ .pollFailed PollError.zeroInterval.message := by
  intro c ledger s
  have hvalid : sampleConfig.validate = .ok () := except_eq_ok_of_toOption (by decide +kernel)
  obtain ⟨hread, -, -, -, -, -, -, -, hruns⟩ := round_trip sampleConfig
  have hloaded := hread spelledEnvironment hvalid describes_spelled
  obtain ⟨-, hpolls, hreports⟩ := hruns spelledEnvironment hloaded
  have hending : (Poll.observe Poll.neverFinal default c.schedule 100).ending =
      some (1, .result (.timedOut 1 1)) := by decide +kernel
  obtain ⟨-, hdeadline⟩ := hpolls Poll.neverFinal default 100 1 _ hending
  obtain ⟨hinterval, htime⟩ := (validate_eq_ok_iff.mp hvalid).schedule
  have hfinished : Run.Finished c ledger Run.Batch.three Run.threeArrivals s :=
    { arrivals := Run.arrivals_three _ hinterval htime
      complete := Or.inr (by decide)
      state := rfl }
  have hhalted : s.halted = none := by decide +kernel
  exact ⟨⟨hvalid, describes_spelled, hloaded⟩, ⟨hending, hdeadline 1 1 rfl⟩, hhalted,
    hreports ledger Run.Batch.three Run.threeArrivals s hfinished hhalted⟩

end Config

end MessageRelay
