import MessageRelay.Proofs.Config.RoundTrip

/-!
# Settings that need not be made

Eleven of the variables may be left out. Each of them is read in one of four ways, and
`MessageRelay.Config.OptionalSetting` puts them under one head: what a text is read as, what the
setting is if nothing is said, and which field of the configuration it is kept in. A setting is
*taken* if its field is what the text of its variable is read as, or the standard if there is no
such text (`MessageRelay.Config.OptionalSetting.Taken`), and in a loaded configuration all of them
are (`MessageRelay.Config.taken_of_loaded`).

So a text that is not blank is never ignored. But the value of a variable is a byte string, and one
that is no text is: the environment gives what it gives without the variable
(`MessageRelay.Config.optional_settings`). A variable that must be set is not treated so, for there
it is an error.
-/

namespace MessageRelay

/-! ### Environments without a variable -/

namespace Environment

/-- The environment without a variable. -/
def unset (env : Environment) (name : String) : Environment :=
  env.filter (·.1 != name)

theorem lookup_unset (env : Environment) (name other : String) :
    (env.unset name).lookup other = if other = name then none else env.lookup other := by
  induction env with
  | nil => exact (ite_self _).symm
  | cons entry env ih =>
    obtain ⟨at', value⟩ := entry
    by_cases hname : at' = name
    · have hdrop : unset ((at', value) :: env) name = unset env name :=
        List.filter_cons_of_neg (by simp [hname])
      rw [hdrop, ih]
      split
      · rfl
      · next hother =>
        have hne : (other == at') = false := beq_false_of_ne fun h => hother (h.trans hname)
        rw [List.lookup_cons, hne]
    · have hkeep : unset ((at', value) :: env) name = (at', value) :: unset env name :=
        List.filter_cons_of_pos (by simp [hname])
      rw [hkeep, List.lookup_cons, List.lookup_cons, ih]
      by_cases hother : other = at'
      · have hne : other ≠ name := fun h => hname (hother.symm.trans h)
        simp only [beq_iff_eq.mpr hother, if_neg hne]
      · rw [beq_false_of_ne hother]

/-- A variable that holds no text might as well not be set. -/
theorem text?_unset {env : Environment} {name : String} (h : env.text? name = none)
    (other : String) : (env.unset name).text? other = env.text? other := by
  rw [text?, lookup_unset]
  split
  · next hother => rw [hother, h]; rfl
  · rfl

end Environment

namespace Config

variable {env env' : Environment} {c : Config} {α : Type}

/-- **Only the texts of the variables count.** -/
theorem ofEnvironment_congr (h : ∀ name, env.text? name = env'.text? name) :
    ofEnvironment env = ofEnvironment env' := by
  have hrequired : ∀ name, required env name = required env' name := fun name => by
    rw [required, required, h]
  have hpresent : ∀ name, present? env name = present? env' name := fun name => by
    rw [present?, present?, h]
  have haddress : ∀ name, address? env name = address? env' name := fun name => by
    rw [address?, address?, hpresent]
  have hvalue : ∀ {α : Type} name (read : String → Except ValueError α),
      value? env name read = value? env' name read := fun name read => by
    rw [value?, value?, hpresent]
  simp only [ofEnvironment, readSource, readDestination, readRelay, hrequired, hpresent, haddress,
    hvalue]

/-! ### Settings -/

/-- A setting that need not be made. -/
structure OptionalSetting where
  /-- What its values are. -/
  Value : Type
  /-- The variable that it is read from. -/
  name : String
  /-- What a text is read as. -/
  read : String → Except ConfigError Value
  /-- What it is if nothing is said. -/
  standard : Value
  /-- Where it is kept. -/
  field : Config → Value

namespace OptionalSetting

/-- An address, or none. -/
def ofAddress (name : String) (field : Config → Option Address) : OptionalSetting where
  Value := Option Address
  name := name
  read text := (addressOf name text).map some
  standard := none
  field := field

/-- A key as it stands, or none. -/
def ofKey (name : String) (field : Config → Option (Redacted String)) : OptionalSetting where
  Value := Option (Redacted String)
  name := name
  read text := .ok (some ⟨text⟩)
  standard := none
  field := field

/-- A value, or a standard one. -/
def ofValue (name : String) (read : String → Except ValueError α) (standard : α)
    (field : Config → α) : OptionalSetting where
  Value := α
  name := name
  read text := (read (Text.trim text)).mapError (.invalidValue name text)
  standard := standard
  field := field

/-- A value, or none. -/
def ofValue? (name : String) (read : String → Except ValueError α) (field : Config → Option α) :
    OptionalSetting where
  Value := Option α
  name := name
  read text := ((read (Text.trim text)).mapError (.invalidValue name text)).map some
  standard := none
  field := field

/-- **A setting is taken**: its field is what the text of its variable is read as, or the standard
if the variable is not set, or to a blank text, or to no text. -/
inductive Taken (s : OptionalSetting) (env : Environment) (c : Config) : Prop where
  | read {text : String} (hpresent : present? env s.name = some text)
      (hread : s.read text = .ok (s.field c))
  | standard (habsent : present? env s.name = none) (hstandard : s.field c = s.standard)

theorem Taken.read_eq {s : OptionalSetting} {text : String} (h : s.Taken env c)
    (hpresent : present? env s.name = some text) : s.read text = .ok (s.field c) := by
  cases h with
  | read hpresent' hread => rwa [Option.some.inj (hpresent.symm.trans hpresent')]
  | standard habsent => rw [habsent] at hpresent; cases hpresent

theorem Taken.field_eq {s : OptionalSetting} (h : s.Taken env c)
    (habsent : present? env s.name = none) : s.field c = s.standard := by
  cases h with
  | read hpresent => rw [hpresent] at habsent; cases habsent
  | standard _ hstandard => exact hstandard

variable {name : String} {read : String → Except ValueError α} {standard : α} {o : Option α}

theorem taken_ofAddress {field : Config → Option Address}
    (h : address? env name = .ok (field c)) : (ofAddress name field).Taken env c := by
  rw [address?] at h
  cases hpresent : present? env name with
  | none =>
    rw [hpresent] at h
    exact .standard hpresent (Except.ok.inj h).symm
  | some text =>
    rw [hpresent] at h
    refine .read hpresent ?_
    dsimp only [ofAddress]
    exact h

theorem taken_ofKey {field : Config → Option (Redacted String)}
    (h : (present? env name).map Redacted.mk = field c) : (ofKey name field).Taken env c := by
  cases hpresent : present? env name with
  | none =>
    rw [hpresent, Option.map_none] at h
    exact .standard hpresent h.symm
  | some text =>
    rw [hpresent, Option.map_some] at h
    exact .read hpresent (congrArg Except.ok h)

/-- What is read from a variable that may be absent comes from its text. -/
theorem value?_cases (h : value? env name read = .ok o) :
    present? env name = none ∧ o = none ∨
      ∃ text a, present? env name = some text ∧ read (Text.trim text) = .ok a ∧ o = some a := by
  rw [value?] at h
  split at h
  · next habsent => exact Or.inl ⟨habsent, (Except.ok.inj h).symm⟩
  · next text hpresent =>
    split at h
    · next a hread => exact Or.inr ⟨text, a, hpresent, hread, (Except.ok.inj h).symm⟩
    · cases h

theorem taken_ofValue {field : Config → α} (h : value? env name read = .ok o)
    (hfield : o.getD standard = field c) : (ofValue name read standard field).Taken env c := by
  rcases value?_cases h with ⟨habsent, rfl⟩ | ⟨text, a, hpresent, hread, rfl⟩
  · exact .standard habsent hfield.symm
  · refine .read hpresent ?_
    dsimp only [ofValue]
    rw [hread, ← hfield]
    rfl

theorem taken_ofValue? {field : Config → Option α} (h : value? env name read = .ok (field c)) :
    (ofValue? name read field).Taken env c := by
  rcases value?_cases h with ⟨habsent, hnone⟩ | ⟨text, a, hpresent, hread, hsome⟩
  · exact .standard habsent hnone
  · refine .read hpresent ?_
    dsimp only [ofValue?]
    rw [hread, hsome]
    rfl

end OptionalSetting

open OptionalSetting

/-- The settings that need not be made. -/
def optionalSettings : List OptionalSetting :=
  [ofAddress "SOURCE_MESSAGE_BUS_ADDRESS" (·.source.messageBus),
   ofKey "SOURCE_PRIVATE_KEY" (·.source.privateKey),
   ofAddress "MESSAGE_BUS_ADDRESS" (·.destination.messageBus),
   ofValue "RELAY_GAS_LIMIT" word64 5000000 (·.destination.gasLimit),
   ofValue "RELAY_MAX_FEE_PER_GAS" word128 1000000001 (·.destination.maxFeePerGas),
   ofValue "RELAY_POLL_INTERVAL_MS" word64 1000 (·.relay.pollInterval),
   ofValue "RELAY_FINALITY_TIMEOUT_MS" word64 30000 (·.relay.finalityTimeout),
   ofValue? "RELAY_PIPELINE_TIMEOUT_MS" word64 (·.relay.runTimeout),
   ofValue "RELAY_FAILURE_POLICY" Setting.policy .abortRemaining (·.relay.policy),
   ofValue "RELAY_CANCEL_POLLS_ON_ABORT" Setting.flag false (·.relay.cancelOnAbort),
   ofValue "RELAY_SUBMIT_RETRIES" word32 2 (·.relay.retries)]

/-- **In a loaded configuration all settings are taken.** -/
theorem taken_of_loaded (h : ofEnvironment env = .ok c) :
    ∀ s ∈ optionalSettings, s.Taken env c := by
  obtain ⟨hsource, hdestination, hrelay, -⟩ := ofEnvironment_eq_ok_iff.mp h
  obtain ⟨-, hsourceBus, hsourceKey⟩ := readSource_eq_ok_iff.mp hsource
  obtain ⟨-, hbus, -, -, ⟨_, hlimit, hgas⟩, _, hfee, hmax⟩ :=
    readDestination_eq_ok_iff.mp hdestination
  obtain ⟨⟨_, hinterval, hpoll⟩, ⟨_, htimeout, hfinality⟩, hrun, ⟨_, hpolicy, hbehind⟩,
    ⟨_, hcancel, hpolls⟩, _, hretries, hsubmit⟩ := readRelay_eq_ok_iff.mp hrelay
  simp only [optionalSettings, List.forall_mem_cons]
  refine ⟨taken_ofAddress hsourceBus, taken_ofKey hsourceKey, taken_ofAddress hbus,
    taken_ofValue hlimit hgas, taken_ofValue hfee hmax, taken_ofValue hinterval hpoll,
    taken_ofValue htimeout hfinality, taken_ofValue? hrun, taken_ofValue hpolicy hbehind,
    taken_ofValue hcancel hpolls, taken_ofValue hretries hsubmit, ?_⟩
  exact fun s hs => absurd hs List.not_mem_nil

/-- **Which settings are ignored.** Take a setting that need not be made, and let its variable be
set to a byte string. If that is a text, then whatever configuration is loaded has the standard in
the setting's field if the text is blank, and what the text is read as if it is not. If it is no
text, then the environment gives what it gives without the variable, so the standard. -/
theorem optional_settings (env : Environment) :
    ∀ s ∈ optionalSettings, ∀ bytes, env.lookup s.name = some bytes →
      (∀ text, bytes.text? = some text → ∀ c, ofEnvironment env = .ok c →
        if Text.isAllBlank text then s.field c = s.standard else s.read text = .ok (s.field c)) ∧
      (bytes.text? = none → ofEnvironment env = ofEnvironment (env.unset s.name) ∧
        ∀ c, ofEnvironment env = .ok c → s.field c = s.standard) := by
  intro s hs bytes hbytes
  have hvariable : env.text? s.name = bytes.text? := by
    rw [Environment.text?, hbytes, Option.bind_some]
  refine ⟨fun text htext c hloaded => ?_, fun hnotext => ?_⟩
  · have htaken := taken_of_loaded hloaded s hs
    have hpresent : present? env s.name = (some text).filter (!Text.isAllBlank ·) := by
      rw [present?, hvariable, htext]
    split
    · next hblank =>
      refine htaken.field_eq ?_
      rw [hpresent, Option.filter_some, hblank]
      rfl
    · next hblank =>
      refine htaken.read_eq ?_
      rw [hpresent, Option.filter_some, Bool.eq_false_iff.mpr hblank]
      rfl
  · have hunset : env.text? s.name = none := hvariable.trans hnotext
    refine ⟨ofEnvironment_congr fun name => (Environment.text?_unset hunset name).symm, ?_⟩
    intro c hloaded
    refine (taken_of_loaded hloaded s hs).field_eq ?_
    rw [present?, hunset]
    rfl

/-- The least that has to be set, and a time for the run in bytes that are no text. -/
def spoiledEnvironment : Environment :=
  ("RELAY_PIPELINE_TIMEOUT_MS", [0xff]) :: sampleEnvironment

theorem text?_spoiled : Bytes.text? [0xff] = none := by decide

/-- The least environment with a limit is loaded with that limit, and with those bytes it is loaded
as it stands. -/
theorem optional_settings_sample :
    (∃ config, ofEnvironment (sampleEnvironment.set "RELAY_GAS_LIMIT" " 7") = .ok config ∧
      config.destination.gasLimit = 7) ∧
    ∃ config, ofEnvironment spoiledEnvironment = .ok config ∧ config.relay.runTimeout = none := by
  constructor
  · have hloads : (ofEnvironment (sampleEnvironment.set "RELAY_GAS_LIMIT" " 7")).toOption.isSome =
        true := by decide +kernel
    obtain ⟨config, hconfig⟩ := Option.isSome_iff_exists.mp hloads
    have hloaded := except_eq_ok_of_toOption hconfig
    obtain ⟨hread, -⟩ := optional_settings (sampleEnvironment.set "RELAY_GAS_LIMIT" " 7") _
      (List.mem_of_getElem? (show optionalSettings[3]? = some _ from rfl)) _ rfl
    have hlimit := hread " 7" (Bytes.text?_ofText " 7") config hloaded
    rw [if_neg (by decide)] at hlimit
    exact ⟨config, hloaded, (Except.ok.inj hlimit).symm⟩
  · obtain ⟨-, hignored⟩ := optional_settings spoiledEnvironment _
      (List.mem_of_getElem? (show optionalSettings[7]? = some _ from rfl)) _ rfl
    obtain ⟨hunset, hstandard⟩ := hignored text?_spoiled
    obtain ⟨config, hloaded⟩ := exists_sample
    have hspoiled : ofEnvironment spoiledEnvironment = .ok config := hunset.trans hloaded
    exact ⟨config, hspoiled, hstandard config hspoiled⟩

/-- **A setting can be ignored**: bytes that are no text are neither read nor refused. -/
theorem setting_ignored :
    ¬ ∀ env, ∀ s ∈ optionalSettings, ∀ bytes, env.lookup s.name = some bytes →
      (∀ text, bytes.text? = some text → Text.isAllBlank text = false) →
      ∀ c, ofEnvironment env = .ok c →
        ∃ text, bytes.text? = some text ∧ s.read text = .ok (s.field c) := by
  intro hnever
  have hunset : spoiledEnvironment.text? "RELAY_PIPELINE_TIMEOUT_MS" = none := text?_spoiled
  have hsame : ofEnvironment spoiledEnvironment = ofEnvironment sampleEnvironment :=
    ofEnvironment_congr fun name => (Environment.text?_unset hunset name).symm
  obtain ⟨config, hloaded⟩ := exists_sample
  have hnone : ∀ text, Bytes.text? [0xff] ≠ some text := by
    intro text
    rw [text?_spoiled]
    exact (Option.some_ne_none text).symm
  obtain ⟨text, htext, -⟩ := hnever spoiledEnvironment _
    (List.mem_of_getElem? (show optionalSettings[7]? = some _ from rfl)) [0xff] rfl
    (fun text htext => absurd htext (hnone text)) config (hsame.trans hloaded)
  exact hnone text htext

end Config

end MessageRelay
