import Mathlib.Data.List.TakeWhile
import MessageRelay.Config.Reading

/-!
# What a loaded configuration is

A configuration is loaded if each of its parts can be read and nothing is wrong with the whole.
`MessageRelay.Config.Valid` says what has to hold of the whole, check by check
(`MessageRelay.Config.validate_eq_ok_iff`), and `MessageRelay.Config.ofEnvironment_eq_ok_iff` says
what a loaded configuration is, part by part. What a part is depends on the texts of its own
variables alone, so a configuration follows when one variable is set to another text
(`MessageRelay.Environment.text?_set`).

The whole point here is what becomes of zero addresses. Three variables name contracts. Two of them
are refused when they are zero; the one that names the contract whose messages are relayed is not,
and the configuration loads with it (`MessageRelay.Config.zero_address_survives`).
-/

namespace MessageRelay

/-! ### Results peeled apart -/

theorem except_bind_eq_ok_iff {ε α β : Type} {x : Except ε α} {f : α → Except ε β} {b : β} :
    x >>= f = .ok b ↔ ∃ a, x = .ok a ∧ f a = .ok b := by
  cases x with
  | error e => exact iff_of_false nofun fun ⟨a, h, _⟩ => nomatch h
  | ok a => exact ⟨fun h => ⟨a, rfl, h⟩, fun ⟨a', h, hf⟩ => Except.ok.inj h ▸ hf⟩

theorem except_seq_eq_ok_iff {ε β : Type} {x : Except ε Unit} {y : Except ε β} {b : β} :
    (x >>= fun _ => y) = .ok b ↔ x = .ok () ∧ y = .ok b := by
  rw [except_bind_eq_ok_iff]
  exact ⟨fun ⟨_, hx, hy⟩ => ⟨hx, hy⟩, fun ⟨hx, hy⟩ => ⟨(), hx, hy⟩⟩

theorem except_ok_seq {ε β : Type} (y : Except ε β) : (Except.ok () >>= fun _ => y) = y := rfl

theorem except_pure_eq_ok_iff {ε α : Type} {a b : α} :
    (pure a : Except ε α) = .ok b ↔ a = b :=
  ⟨Except.ok.inj, congrArg Except.ok⟩

theorem except_map_eq_ok_iff {ε α β : Type} {x : Except ε α} {f : α → β} {b : β} :
    x.map f = .ok b ↔ ∃ a, x = .ok a ∧ f a = b := by
  cases x with
  | error e => exact iff_of_false nofun fun ⟨_, h, _⟩ => nomatch h
  | ok a => simp [Except.map]

theorem mapError_eq_ok_iff {ε ε' α : Type} {x : Except ε α} {f : ε → ε'} {a : α} :
    x.mapError f = .ok a ↔ x = .ok a := by
  cases x with
  | error e => exact iff_of_false nofun nofun
  | ok a' => exact ⟨fun h => congrArg Except.ok (Except.ok.inj h), fun h => h ▸ rfl⟩

theorem mapError_eq_error_iff {ε ε' α : Type} {x : Except ε α} {f : ε → ε'} {e' : ε'} :
    x.mapError f = .error e' ↔ ∃ e, x = .error e ∧ f e = e' := by
  cases x with
  | error e => simp [Except.mapError]
  | ok a => exact iff_of_false nofun fun ⟨_, h, _⟩ => nomatch h

theorem except_eq_ok_of_toOption {ε α : Type} {x : Except ε α} {a : α} (h : x.toOption = some a) :
    x = .ok a := by
  cases x with
  | error e => exact nomatch h
  | ok a' => exact congrArg Except.ok (Option.some.inj h)

/-! ### Setting a variable -/

theorem Bytes.text?_ofText (s : String) : Bytes.text? (Bytes.ofText s) = some s := by
  have hvalid : (ByteArray.mk s.toUTF8.data.toList.toArray).IsValidUTF8 := s.isValidUTF8
  exact dif_pos hvalid

/-- Setting a variable changes that variable and no other one. -/
theorem Environment.text?_set (env : Environment) (name value other : String) :
    (env.set name value).text? other = if other = name then some value else env.text? other := by
  by_cases h : other = name
  · rw [if_pos h, text?, set, List.lookup_cons, h, beq_self_eq_true]
    exact Bytes.text?_ofText value
  · rw [if_neg h, text?, set, List.lookup_cons, beq_false_of_ne h]
    rfl

namespace Config

variable {env : Environment} {c config : Config}

/-! ### Validity -/

/-- Nothing is wrong with a configuration. -/
structure Valid (c : Config) : Prop where
  sourceUrl : Url.validate c.source.rpcUrl "SOURCE_RPC_URL" = .ok ()
  destinationUrl : Url.validate c.destination.rpcUrl "DEST_RPC_URL" = .ok ()
  relayerKey : hasKeyForm c.destination.privateKey.secret = true
  sourceKey : c.source.privateKey.all (hasKeyForm ·.secret) = true
  messageBus : c.destination.messageBus ≠ some (Octets.zero 20)
  messenger : c.destination.messenger ≠ Octets.zero 20
  gasLimit : c.destination.gasLimit ≠ 0
  pollInterval : c.relay.pollInterval ≠ 0
  finalityTimeout : c.relay.finalityTimeout ≠ 0
  runTimeout : c.relay.runTimeout ≠ some 0

theorem require_true (e : ConfigError) : require true e = .ok () := rfl

theorem require_eq_ok_iff {holds : Bool} {e : ConfigError} :
    require holds e = .ok () ↔ holds = true := by
  cases holds with
  | false => exact iff_of_false nofun nofun
  | true => exact iff_of_true rfl rfl

/-- **Validation accepts exactly the valid configurations.** -/
theorem validate_eq_ok_iff : c.validate = .ok () ↔ Valid c := by
  simp only [validate, except_seq_eq_ok_iff, require_eq_ok_iff, bne_iff_ne]
  constructor
  · rintro ⟨h₁, h₂, h₃, h₄, h₅, h₆, h₇, h₈, h₉, h₁₀⟩
    exact ⟨h₁, h₂, h₃, h₄, h₅, h₆, h₇, h₈, h₉, h₁₀⟩
  · rintro ⟨h₁, h₂, h₃, h₄, h₅, h₆, h₇, h₈, h₉, h₁₀⟩
    exact ⟨h₁, h₂, h₃, h₄, h₅, h₆, h₇, h₈, h₉, h₁₀⟩

/-! ### Reading -/

/-- **The part about the source ledger**, variable by variable. -/
theorem readSource_eq_ok_iff {s : SourceConfig} :
    readSource env = .ok s ↔
      required env "SOURCE_RPC_URL" = .ok s.rpcUrl ∧
      address? env "SOURCE_MESSAGE_BUS_ADDRESS" = .ok s.messageBus ∧
      (present? env "SOURCE_PRIVATE_KEY").map Redacted.mk = s.privateKey := by
  simp only [readSource, except_bind_eq_ok_iff, except_pure_eq_ok_iff]
  constructor
  · rintro ⟨url, hurl, bus, hbus, rfl⟩
    exact ⟨hurl, hbus, rfl⟩
  · rintro ⟨hurl, hbus, hkey⟩
    exact ⟨_, hurl, _, hbus, by rw [hkey]⟩

/-- **The part about the destination ledger**, variable by variable. -/
theorem readDestination_eq_ok_iff {d : DestinationConfig} :
    readDestination env = .ok d ↔
      required env "DEST_RPC_URL" = .ok d.rpcUrl ∧
      address? env "MESSAGE_BUS_ADDRESS" = .ok d.messageBus ∧
      (∃ text, required env "MESSENGER_ADDRESS" = .ok text ∧
        addressOf "MESSENGER_ADDRESS" text = .ok d.messenger) ∧
      required env "RELAYER_PRIVATE_KEY" = .ok d.privateKey.secret ∧
      (∃ limit, value? env "RELAY_GAS_LIMIT" word64 = .ok limit ∧
        limit.getD 5000000 = d.gasLimit) ∧
      ∃ fee, value? env "RELAY_MAX_FEE_PER_GAS" word128 = .ok fee ∧
        fee.getD 1000000001 = d.maxFeePerGas := by
  simp only [readDestination, except_bind_eq_ok_iff, except_pure_eq_ok_iff]
  constructor
  · rintro ⟨url, hurl, bus, hbus, text, htext, messenger, hmessenger, key, hkey, limit, hlimit,
      fee, hfee, rfl⟩
    exact ⟨hurl, hbus, ⟨text, htext, hmessenger⟩, hkey, ⟨limit, hlimit, rfl⟩, fee, hfee, rfl⟩
  · rintro ⟨hurl, hbus, ⟨text, htext, hmessenger⟩, hkey, ⟨limit, hlimit, hgas⟩, fee, hfee, hmax⟩
    exact ⟨_, hurl, _, hbus, text, htext, _, hmessenger, _, hkey, limit, hlimit, fee, hfee, by
      rw [hgas, hmax]⟩

/-- **The part about the work**, variable by variable. -/
theorem readRelay_eq_ok_iff {r : RelayConfig} :
    readRelay env = .ok r ↔
      (∃ interval, value? env "RELAY_POLL_INTERVAL_MS" word64 = .ok interval ∧
        interval.getD 1000 = r.pollInterval) ∧
      (∃ timeout, value? env "RELAY_FINALITY_TIMEOUT_MS" word64 = .ok timeout ∧
        timeout.getD 30000 = r.finalityTimeout) ∧
      value? env "RELAY_PIPELINE_TIMEOUT_MS" word64 = .ok r.runTimeout ∧
      (∃ policy, value? env "RELAY_FAILURE_POLICY" Setting.policy = .ok policy ∧
        policy.getD .abortRemaining = r.policy) ∧
      (∃ cancel, value? env "RELAY_CANCEL_POLLS_ON_ABORT" Setting.flag = .ok cancel ∧
        cancel.getD false = r.cancelOnAbort) ∧
      ∃ retries, value? env "RELAY_SUBMIT_RETRIES" word32 = .ok retries ∧
        retries.getD 2 = r.retries := by
  simp only [readRelay, except_bind_eq_ok_iff, except_pure_eq_ok_iff]
  constructor
  · rintro ⟨interval, hinterval, timeout, htimeout, run, hrun, policy, hpolicy, cancel, hcancel,
      retries, hretries, rfl⟩
    exact ⟨⟨interval, hinterval, rfl⟩, ⟨timeout, htimeout, rfl⟩, hrun, ⟨policy, hpolicy, rfl⟩,
      ⟨cancel, hcancel, rfl⟩, retries, hretries, rfl⟩
  · rintro ⟨⟨interval, hinterval, hpoll⟩, ⟨timeout, htimeout, hfinality⟩, hrun,
      ⟨policy, hpolicy, hbehind⟩, ⟨cancel, hcancel, hpolls⟩, retries, hretries, hsubmit⟩
    exact ⟨_, hinterval, _, htimeout, _, hrun, _, hpolicy, _, hcancel, _, hretries, by
      rw [hpoll, hfinality, hbehind, hpolls, hsubmit]⟩

/-- What the environment describes, valid or not. -/
theorem ofEnvironment_of_read (hs : readSource env = .ok c.source)
    (hd : readDestination env = .ok c.destination) (hr : readRelay env = .ok c.relay) :
    ofEnvironment env = c.validate.map fun _ => c := by
  have hread : ofEnvironment env = c.validate >>= fun _ => pure c := by
    simp only [ofEnvironment, hs, hd, hr, bind, Except.bind]
  rw [hread]
  generalize c.validate = verdict
  cases verdict <;> rfl

/-- **A configuration is loaded** if its parts can be read and it is valid. -/
theorem ofEnvironment_eq_ok_iff :
    ofEnvironment env = .ok c ↔
      readSource env = .ok c.source ∧ readDestination env = .ok c.destination ∧
      readRelay env = .ok c.relay ∧ Valid c := by
  simp only [ofEnvironment, except_bind_eq_ok_iff, except_pure_eq_ok_iff]
  constructor
  · rintro ⟨source, hs, destination, hd, relay, hr, u, hvalid, rfl⟩
    exact ⟨hs, hd, hr, validate_eq_ok_iff.mp hvalid⟩
  · rintro ⟨hs, hd, hr, hvalid⟩
    exact ⟨_, hs, _, hd, _, hr, (), validate_eq_ok_iff.mpr hvalid, rfl⟩

/-- An environment in which only the part about the source ledger reads differently. -/
theorem ofEnvironment_of_source {env' : Environment} {source : SourceConfig}
    (h : ofEnvironment env = .ok c) (hs : readSource env' = .ok source)
    (hd : readDestination env' = readDestination env) (hr : readRelay env' = readRelay env) :
    ofEnvironment env' = ({ c with source } : Config).validate.map fun _ => { c with source } := by
  obtain ⟨-, hdestination, hrelay, -⟩ := ofEnvironment_eq_ok_iff.mp h
  exact ofEnvironment_of_read hs (hd.trans hdestination) (hr.trans hrelay)

/-- An environment in which only the part about the destination ledger reads differently. -/
theorem ofEnvironment_of_destination {env' : Environment} {destination : DestinationConfig}
    (h : ofEnvironment env = .ok c) (hs : readSource env' = readSource env)
    (hd : readDestination env' = .ok destination) (hr : readRelay env' = readRelay env) :
    ofEnvironment env' =
      ({ c with destination } : Config).validate.map fun _ => { c with destination } := by
  obtain ⟨hsource, -, hrelay, -⟩ := ofEnvironment_eq_ok_iff.mp h
  exact ofEnvironment_of_read (hs.trans hsource) hd (hr.trans hrelay)

theorem load_eq_ok_iff {path : String} {content : FileContent} :
    load env path content = .ok c ↔
      ∃ full, env.extend? content = some full ∧ ofEnvironment full = .ok c := by
  unfold load
  cases env.extend? content with
  | none => exact iff_of_false nofun fun ⟨_, h, _⟩ => nomatch h
  | some full => exact ⟨fun h => ⟨full, rfl, h⟩, fun ⟨_, hfull, h⟩ => Option.some.inj hfull ▸ h⟩

/-! ### Another text for one variable -/

section

variable {name other text : String}

theorem required_set_self : required (env.set name text) name = .ok text := by
  rw [required, Environment.text?_set, if_pos rfl]

theorem required_set_of_ne (h : name ≠ other) :
    required (env.set name text) other = required env other := by
  rw [required, required, Environment.text?_set, if_neg h.symm]

theorem present?_set_of_ne (h : name ≠ other) :
    present? (env.set name text) other = present? env other := by
  rw [present?, present?, Environment.text?_set, if_neg h.symm]

theorem address?_set_of_ne (h : name ≠ other) :
    address? (env.set name text) other = address? env other := by
  rw [address?, address?, present?_set_of_ne h]

theorem value?_set_of_ne {α : Type} {read : String → Except ValueError α} (h : name ≠ other) :
    value? (env.set name text) other read = value? env other read := by
  rw [value?, value?, present?_set_of_ne h]

/-- A blank text is no address. -/
theorem isAllBlank_of_address {a : Address} (h : Setting.address (Text.trim text) = .ok a) :
    Text.isAllBlank text = false := by
  rw [← Bool.not_eq_true]
  intro hblank
  have hnothing : text.toList.dropWhile Text.isBlank = [] :=
    List.dropWhile_eq_nil_iff.mpr (List.all_eq_true.mp hblank)
  have htrim : Text.trim text = "" := by
    rw [Text.trim, Text.trimChars, hnothing]
    rfl
  have hempty : Setting.address "" = .error .wrongLength := rfl
  rw [htrim, hempty] at h
  cases h

/-- A variable that is set to the text of an address has that address. -/
theorem address?_set_self {a : Address} (h : Setting.address (Text.trim text) = .ok a) :
    address? (env.set name text) name = .ok (some a) := by
  have hpresent : present? (env.set name text) name = some text := by
    rw [present?, Environment.text?_set, if_pos rfl, Option.filter_some,
      isAllBlank_of_address h]
    rfl
  rw [address?, hpresent]
  simp only [addressOf, h]
  rfl

theorem readRelay_set (h : name ∉ ["RELAY_POLL_INTERVAL_MS", "RELAY_FINALITY_TIMEOUT_MS",
    "RELAY_PIPELINE_TIMEOUT_MS", "RELAY_FAILURE_POLICY", "RELAY_CANCEL_POLLS_ON_ABORT",
    "RELAY_SUBMIT_RETRIES"]) :
    readRelay (env.set name text) = readRelay env := by
  simp only [List.mem_cons, List.not_mem_nil, or_false, not_or] at h
  obtain ⟨h₁, h₂, h₃, h₄, h₅, h₆⟩ := h
  simp only [readRelay, value?_set_of_ne h₁, value?_set_of_ne h₂, value?_set_of_ne h₃,
    value?_set_of_ne h₄, value?_set_of_ne h₅, value?_set_of_ne h₆]

theorem readSource_set (h : name ∉ ["SOURCE_RPC_URL", "SOURCE_MESSAGE_BUS_ADDRESS",
    "SOURCE_PRIVATE_KEY"]) :
    readSource (env.set name text) = readSource env := by
  simp only [List.mem_cons, List.not_mem_nil, or_false, not_or] at h
  obtain ⟨h₁, h₂, h₃⟩ := h
  simp only [readSource, required_set_of_ne h₁, address?_set_of_ne h₂, present?_set_of_ne h₃]

theorem readDestination_set (h : name ∉ ["DEST_RPC_URL", "MESSAGE_BUS_ADDRESS",
    "MESSENGER_ADDRESS", "RELAYER_PRIVATE_KEY", "RELAY_GAS_LIMIT", "RELAY_MAX_FEE_PER_GAS"]) :
    readDestination (env.set name text) = readDestination env := by
  simp only [List.mem_cons, List.not_mem_nil, or_false, not_or] at h
  obtain ⟨h₁, h₂, h₃, h₄, h₅, h₆⟩ := h
  simp only [readDestination, required_set_of_ne h₁, address?_set_of_ne h₂, required_set_of_ne h₃,
    required_set_of_ne h₄, value?_set_of_ne h₅, value?_set_of_ne h₆]

end

/-! ### Zero addresses -/

/-- The addresses of a configuration. -/
def addresses (c : Config) : List Address :=
  c.source.messageBus.toList ++ c.destination.messageBus.toList ++ [c.destination.messenger]

/-- The configuration with another contract whose messages are relayed. -/
def withSourceBus (c : Config) (a : Address) : Config :=
  { c with source := { c.source with messageBus := some a } }

/-- The configuration with another contract that is asked about finality. -/
def withBus (c : Config) (a : Address) : Config :=
  { c with destination := { c.destination with messageBus := some a } }

/-- The configuration with another contract that messages are delivered to. -/
def withMessenger (c : Config) (a : Address) : Config :=
  { c with destination := { c.destination with messenger := a } }

variable {text : String} {a : Address}

/-- Whatever the contract whose messages are relayed, nothing is wrong with it. -/
theorem Valid.withSourceBus (h : Valid c) (a : Address) : Valid (c.withSourceBus a) :=
  ⟨h.sourceUrl, h.destinationUrl, h.relayerKey, h.sourceKey, h.messageBus, h.messenger, h.gasLimit,
    h.pollInterval, h.finalityTimeout, h.runTimeout⟩

/-- A zero contract that would be asked about finality is refused, and nothing else is. -/
theorem Valid.validate_withBus (h : Valid c) (a : Address) :
    (c.withBus a).validate =
      if a = Octets.zero 20 then .error (.zeroAddress "MESSAGE_BUS_ADDRESS") else .ok () := by
  by_cases ha : a = Octets.zero 20
  · have hzero : ((c.withBus a).destination.messageBus != some (Octets.zero 20)) = false := by
      rw [ha]
      exact bne_self_eq_false _
    rw [if_pos ha, validate, hzero]
    simp only [withBus, h.sourceUrl, h.destinationUrl, h.relayerKey, h.sourceKey, require_true,
      except_ok_seq]
    rfl
  · rw [if_neg ha]
    refine validate_eq_ok_iff.mpr ⟨h.sourceUrl, h.destinationUrl, h.relayerKey, h.sourceKey, ?_,
      h.messenger, h.gasLimit, h.pollInterval, h.finalityTimeout, h.runTimeout⟩
    exact fun heq => ha (Option.some.inj heq)

/-- A zero contract that messages would be delivered to is refused, and nothing else is. -/
theorem Valid.validate_withMessenger (h : Valid c) (a : Address) :
    (c.withMessenger a).validate =
      if a = Octets.zero 20 then .error (.zeroAddress "MESSENGER_ADDRESS") else .ok () := by
  by_cases ha : a = Octets.zero 20
  · have hzero : ((c.withMessenger a).destination.messenger != Octets.zero 20) = false := by
      rw [ha]
      exact bne_self_eq_false _
    have hbus : (c.destination.messageBus != some (Octets.zero 20)) = true :=
      bne_iff_ne.mpr h.messageBus
    rw [if_pos ha, validate, hzero]
    simp only [withMessenger, h.sourceUrl, h.destinationUrl, h.relayerKey, h.sourceKey, hbus,
      require_true, except_ok_seq]
    rfl
  · rw [if_neg ha]
    exact validate_eq_ok_iff.mpr ⟨h.sourceUrl, h.destinationUrl, h.relayerKey, h.sourceKey,
      h.messageBus, ha, h.gasLimit, h.pollInterval, h.finalityTimeout, h.runTimeout⟩

theorem ofEnvironment_set_sourceBus (h : ofEnvironment env = .ok c)
    (ha : Setting.address (Text.trim text) = .ok a) :
    ofEnvironment (env.set "SOURCE_MESSAGE_BUS_ADDRESS" text) = .ok (c.withSourceBus a) := by
  obtain ⟨hs, hd, hr, hvalid⟩ := ofEnvironment_eq_ok_iff.mp h
  obtain ⟨hurl, -, hkey⟩ := readSource_eq_ok_iff.mp hs
  refine ofEnvironment_eq_ok_iff.mpr ⟨readSource_eq_ok_iff.mpr ⟨?url, ?bus, ?key⟩, ?destination,
    ?relay, hvalid.withSourceBus a⟩
  case url => rw [required_set_of_ne (by decide), hurl]; rfl
  case bus => exact address?_set_self ha
  case key => rw [present?_set_of_ne (by decide), hkey]; rfl
  case destination => rw [readDestination_set (by decide), hd]; rfl
  case relay => rw [readRelay_set (by decide), hr]; rfl

theorem ofEnvironment_set_bus (h : ofEnvironment env = .ok c)
    (ha : Setting.address (Text.trim text) = .ok a) :
    ofEnvironment (env.set "MESSAGE_BUS_ADDRESS" text) =
      if a = Octets.zero 20 then .error (.zeroAddress "MESSAGE_BUS_ADDRESS")
      else .ok (c.withBus a) := by
  obtain ⟨-, hd, -, hvalid⟩ := ofEnvironment_eq_ok_iff.mp h
  obtain ⟨hurl, -, ⟨at', hat, hmessenger⟩, hkey, ⟨limit, hlimit, hgas⟩, fee, hfee, hmax⟩ :=
    readDestination_eq_ok_iff.mp hd
  have hdestination : readDestination (env.set "MESSAGE_BUS_ADDRESS" text) =
      .ok (c.withBus a).destination := by
    refine readDestination_eq_ok_iff.mpr ⟨?_, address?_set_self ha, ⟨at', ?_, hmessenger⟩, ?_,
      ⟨limit, ?_, hgas⟩, fee, ?_, hmax⟩
    · rw [required_set_of_ne (by decide), hurl]; rfl
    · rw [required_set_of_ne (by decide), hat]
    · rw [required_set_of_ne (by decide), hkey]; rfl
    · rw [value?_set_of_ne (by decide), hlimit]
    · rw [value?_set_of_ne (by decide), hfee]
  have hset : ofEnvironment (env.set "MESSAGE_BUS_ADDRESS" text) =
      (c.withBus a).validate.map fun _ => c.withBus a :=
    ofEnvironment_of_destination h (readSource_set (by decide)) hdestination
      (readRelay_set (by decide))
  rw [hset, hvalid.validate_withBus]
  split <;> rfl

theorem ofEnvironment_set_messenger (h : ofEnvironment env = .ok c)
    (ha : Setting.address (Text.trim text) = .ok a) :
    ofEnvironment (env.set "MESSENGER_ADDRESS" text) =
      if a = Octets.zero 20 then .error (.zeroAddress "MESSENGER_ADDRESS")
      else .ok (c.withMessenger a) := by
  obtain ⟨-, hd, -, hvalid⟩ := ofEnvironment_eq_ok_iff.mp h
  obtain ⟨hurl, hbus, -, hkey, ⟨limit, hlimit, hgas⟩, fee, hfee, hmax⟩ :=
    readDestination_eq_ok_iff.mp hd
  have hmessenger : addressOf "MESSENGER_ADDRESS" text = .ok a := by
    rw [addressOf, ha]; rfl
  have hdestination : readDestination (env.set "MESSENGER_ADDRESS" text) =
      .ok (c.withMessenger a).destination := by
    refine readDestination_eq_ok_iff.mpr ⟨?_, ?_, ⟨text, required_set_self, hmessenger⟩, ?_,
      ⟨limit, ?_, hgas⟩, fee, ?_, hmax⟩
    · rw [required_set_of_ne (by decide), hurl]; rfl
    · rw [address?_set_of_ne (by decide), hbus]; rfl
    · rw [required_set_of_ne (by decide), hkey]; rfl
    · rw [value?_set_of_ne (by decide), hlimit]
    · rw [value?_set_of_ne (by decide), hfee]
  have hset : ofEnvironment (env.set "MESSENGER_ADDRESS" text) =
      (c.withMessenger a).validate.map fun _ => c.withMessenger a :=
    ofEnvironment_of_destination h (readSource_set (by decide)) hdestination
      (readRelay_set (by decide))
  rw [hset, hvalid.validate_withMessenger]
  split <;> rfl

/-- Only the contract whose messages are relayed can be zero. -/
theorem Valid.zero_mem_addresses_iff (h : Valid c) :
    Octets.zero 20 ∈ c.addresses ↔ c.source.messageBus = some (Octets.zero 20) := by
  simp only [addresses, List.mem_append, Option.mem_toList, List.mem_singleton]
  constructor
  · rintro ((hsource | hbus) | hmessenger)
    · exact hsource
    · exact absurd hbus h.messageBus
    · exact absurd hmessenger.symm h.messenger
  · exact fun hsource => Or.inl (Or.inl hsource)

/-- A variable has the address that its text writes. -/
theorem address?_eq_some_iff {name : String} :
    address? env name = .ok (some a) ↔
      ∃ text, present? env name = some text ∧ Setting.address (Text.trim text) = .ok a := by
  unfold address? addressOf
  cases present? env name with
  | none => exact iff_of_false nofun fun ⟨_, h, _⟩ => nomatch h
  | some text =>
    constructor
    · intro h
      refine ⟨text, rfl, ?_⟩
      cases hread : Setting.address (Text.trim text) with
      | error cause =>
        simp only [hread] at h
        cases h
      | ok a' =>
        simp only [hread] at h
        exact congrArg Except.ok (Option.some.inj (Except.ok.inj h))
    · rintro ⟨text', htext, hread⟩
      obtain rfl := Option.some.inj htext
      simp only [hread]
      rfl

/-- A variable has no address if it has no text, or a blank one. -/
theorem address?_eq_none_iff {name : String} :
    address? env name = .ok none ↔ present? env name = none := by
  unfold address?
  cases present? env name with
  | none => exact iff_of_true rfl rfl
  | some text =>
    refine iff_of_false (fun h => ?_) nofun
    obtain ⟨_, -, h⟩ := except_map_eq_ok_iff.mp h
    cases h

/-- **Which zero addresses are loaded.** Let a configuration be loaded from an environment and a
file, and let `full` be the environment with what the file adds. The contract that is asked about
finality and the one that messages are delivered to are not zero. So a zero address in the
configuration is the contract whose messages are relayed, and there is one if and only if the text
of its variable writes it, in whatever way. Nothing stands in its way: when the text of one variable
is replaced by that of another address, the configuration loads with that address, where the two
others are refused if it is zero. -/
theorem loaded_addresses {path : String} {content : FileContent}
    (h : load env path content = .ok c) :
    c.destination.messageBus ≠ some (Octets.zero 20) ∧
    c.destination.messenger ≠ Octets.zero 20 ∧
    ∃ full, env.extend? content = some full ∧
      (Octets.zero 20 ∈ c.addresses ↔
        ∃ text, present? full "SOURCE_MESSAGE_BUS_ADDRESS" = some text ∧
          Setting.address (Text.trim text) = .ok (Octets.zero 20)) ∧
      ∀ text a, Setting.address (Text.trim text) = .ok a →
        ofEnvironment (full.set "SOURCE_MESSAGE_BUS_ADDRESS" text) = .ok (c.withSourceBus a) ∧
        (ofEnvironment (full.set "MESSAGE_BUS_ADDRESS" text) =
          if a = Octets.zero 20 then .error (.zeroAddress "MESSAGE_BUS_ADDRESS")
          else .ok (c.withBus a)) ∧
        ofEnvironment (full.set "MESSENGER_ADDRESS" text) =
          if a = Octets.zero 20 then .error (.zeroAddress "MESSENGER_ADDRESS")
          else .ok (c.withMessenger a) := by
  obtain ⟨full, hfull, hloaded⟩ := load_eq_ok_iff.mp h
  obtain ⟨hs, -, -, hvalid⟩ := ofEnvironment_eq_ok_iff.mp hloaded
  obtain ⟨-, hbus, -⟩ := readSource_eq_ok_iff.mp hs
  refine ⟨hvalid.messageBus, hvalid.messenger, full, hfull, ?_, fun text a ha => ?_⟩
  · rw [hvalid.zero_mem_addresses_iff, ← address?_eq_some_iff, hbus]
    exact ⟨congrArg Except.ok, Except.ok.inj⟩
  · exact ⟨ofEnvironment_set_sourceBus hloaded ha, ofEnvironment_set_bus hloaded ha,
      ofEnvironment_set_messenger hloaded ha⟩

/-- The least that has to be set. -/
def sampleEnvironment : Environment :=
  [("SOURCE_RPC_URL", Bytes.ofText "http://[::1]:8545"),
   ("DEST_RPC_URL", Bytes.ofText "http://[::1]:9545"),
   ("MESSENGER_ADDRESS", Bytes.ofText "0x0000000000000000000000000000000000000002"),
   ("RELAYER_PRIVATE_KEY",
     Bytes.ofText "0x0000000000000000000000000000000000000000000000000000000000000001")]

theorem exists_sample : ∃ config, ofEnvironment sampleEnvironment = .ok config := by
  have hloads : (ofEnvironment sampleEnvironment).toOption.isSome = true := by decide
  obtain ⟨config, h⟩ := Option.isSome_iff_exists.mp hloads
  exact ⟨config, except_eq_ok_of_toOption h⟩

/-- The zero address in its common written form. -/
def zeroText : String :=
  "0x0000000000000000000000000000000000000000"

theorem address_zeroText : Setting.address (Text.trim zeroText) = .ok (Octets.zero 20) := by
  have hread : (Setting.address (Text.trim zeroText)).toOption = some (Octets.zero 20) := by
    decide
  exact except_eq_ok_of_toOption hread

/-- With that text in one of the three variables, the least environment is loaded or refused. -/
theorem loaded_addresses_sample :
    ∃ config, load sampleEnvironment ".env" .absent = .ok config ∧
      ofEnvironment (sampleEnvironment.set "SOURCE_MESSAGE_BUS_ADDRESS" zeroText) =
        .ok (config.withSourceBus (Octets.zero 20)) ∧
      ofEnvironment (sampleEnvironment.set "MESSENGER_ADDRESS" zeroText) =
        .error (.zeroAddress "MESSENGER_ADDRESS") := by
  obtain ⟨config, hloaded⟩ := exists_sample
  have hload : load sampleEnvironment ".env" .absent = .ok config := hloaded
  obtain ⟨-, -, full, hfull, -, hset⟩ := loaded_addresses hload
  obtain rfl : sampleEnvironment = full := Option.some.inj hfull
  obtain ⟨hsource, -, hmessenger⟩ := hset zeroText (Octets.zero 20) address_zeroText
  exact ⟨config, hload, hsource, hmessenger⟩

/-- **A zero address can be loaded**: the contract whose messages are relayed may be zero. -/
theorem zero_address_survives :
    ¬ ∀ env path content config, load env path content = .ok config →
      Octets.zero 20 ∉ config.addresses := by
  intro hnone
  obtain ⟨config, hloaded⟩ := exists_sample
  have hload := ofEnvironment_set_sourceBus hloaded address_zeroText
  refine hnone _ ".env" .absent (config.withSourceBus (Octets.zero 20)) hload ?_
  exact List.mem_append_left _ (List.mem_append_left _ (Option.mem_toList.mpr rfl))

end Config

end MessageRelay
