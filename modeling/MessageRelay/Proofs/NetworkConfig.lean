import MessageRelay.NetworkConfig
import MessageRelay.Proofs.Config
import MessageRelay.Proofs.Json.Fields
import MessageRelay.Proofs.Stage

/-!
# The bus that a node names

A node is asked once where the contracts of its network are, and its answer is a document in which
almost anything may stand. `MessageRelay.NetworkConfig.Names` says of the document alone when it
names a bus: it holds no error, and it holds a result that holds the address under the name of the
bus on the node's own ledger. The fields beside it do not count, and a name that occurs twice names
nothing.

Only such an answer leads to a bus, only if it comes in time, and the bus is not zero
(`MessageRelay.NetworkConfig.named_of_discover`). An answer that holds an error leads to none,
whatever the result beside it (`MessageRelay.NetworkConfig.discover_of_error`).
-/

namespace MessageRelay

open Rpc

namespace NetworkConfig

variable {heard : Answer Rpc.Reply} {said : Rpc.Reply} {j answer report : Json}
  {fields : List (Option Json)} {c : NetworkConfig} {bus : Address}

/-! ### What an answer names -/

/-- The fields of an answer. -/
def answerFields : List String := ["result", "error"]

/-- The fields of a configuration. -/
def configFields : List String :=
  ["ManagementContractAddress", "MessageBusAddress", "L2MessageBusAddress"]

/-- **An answer names a bus**: it carries no error, and a result in which the bus on the node's own
ledger has this address. -/
structure Names (answer : Json) (bus : Address) : Prop where
  /-- If anything is said about an error, then that there is none. -/
  noError : ∀ report, Json.Holds answerFields "error" report answer → report = .null
  /-- There is one result, and it holds the address. -/
  result : ∃ result, Json.HoldsOnly answerFields "result" result answer ∧ result ≠ .null ∧
    ∃ named, Json.HoldsOnly configFields "L2MessageBusAddress" named result ∧
      Json.octets? 20 named = some bus

/-! ### Reading an answer -/

/-- The configuration of some fields, whether they were members or elements. -/
def ofFields? (fields : List (Option Json)) : Option NetworkConfig := do
  let address := fun i => Json.optional? (Json.octets? 20) (fields[i]?.join)
  some
    { managementContract := ← address 0, messageBus := ← address 1, l2MessageBus := ← address 2 }

/-- A configuration is read from the fields that the document holds. -/
theorem exists_fields_of_ofJson? (h : ofJson? j = some c) :
    ∃ fields : List (Option Json), ofFields? fields = some c ∧
      ∀ (i : Nat) {name : String}, configFields[i]? = some name → ∀ v,
        Json.Holds configFields name v j ↔ fields[i]? = some (some v) := by
  have hnodup : configFields.Nodup := by decide
  unfold ofJson? at h
  split at h
  next members =>
    obtain ⟨fields, hfields, hread⟩ := Option.bind_eq_some_iff.mp h
    exact ⟨fields, hread, fun _ _ hi _ => Json.holds_iff_of_fields? hnodup hfields hi⟩
  next elements =>
    -- elements are fields in the order of the declaration, and none is left out
    split at h
    next => exact ⟨elements.map some, h, fun _ _ hi _ => Json.holds_array_iff hnodup hi⟩
    next => cases h
  next => cases h

theorem optional?_of_ofFields? (h : ofFields? fields = some c) :
    Json.optional? (Json.octets? 20) (fields[2]?.join) = some c.l2MessageBus := by
  obtain ⟨_, -, h⟩ := Option.bind_eq_some_iff.mp h
  obtain ⟨_, -, h⟩ := Option.bind_eq_some_iff.mp h
  obtain ⟨own, hown, h⟩ := Option.bind_eq_some_iff.mp h
  obtain rfl := Option.some.inj h
  exact hown

/-- A configuration that is read with a bus holds its address. -/
theorem holds_of_ofJson? (h : ofJson? j = some c) (hbus : c.l2MessageBus = some bus) :
    ∃ named, Json.HoldsOnly configFields "L2MessageBusAddress" named j ∧
      Json.octets? 20 named = some bus := by
  obtain ⟨fields, hread, hholds⟩ := exists_fields_of_ofJson? h
  have hown := optional?_of_ofFields? hread
  rw [hbus, Json.optional?_eq_some_some_iff] at hown
  obtain ⟨named, hnamed, -, haddress⟩ := hown
  rw [Option.join_eq_some_iff] at hnamed
  refine ⟨named, fun v => ?_, haddress⟩
  rw [hholds 2 rfl v, hnamed, Option.some_inj, Option.some_inj]
  exact eq_comm

/-- What is read of an answer is read of the fields that it holds. -/
theorem readAnswer?_eq_some_iff {o : Option String × Option NetworkConfig} :
    readAnswer? answer = some o ↔
      ∃ result report, Json.fields? answerFields answer = some [result, report] ∧
        Json.optional? reportText? report = some o.1 ∧
        Json.optional? ofJson? result = some o.2 := by
  constructor
  · intro h
    obtain ⟨values, hvalues, h⟩ := Option.bind_eq_some_iff.mp h
    split at h
    next result report =>
      obtain ⟨error, herror, h⟩ := Option.bind_eq_some_iff.mp h
      obtain ⟨config, hconfig, h⟩ := Option.bind_eq_some_iff.mp h
      obtain rfl := Option.some.inj h
      exact ⟨result, report, hvalues, herror, hconfig⟩
    next => cases h
  · rintro ⟨result, report, hvalues, herror, hconfig⟩
    refine Option.bind_eq_some_iff.mpr ⟨[result, report], hvalues, ?_⟩
    simp [herror, hconfig]

theorem ofReply_eq_ok_iff :
    ofReply said = .ok c ↔ ∃ status body answer, said = .response status body ∧
      Json.read? body = some answer ∧ readAnswer? answer = some (none, some c) := by
  unfold ofReply
  split
  next => exact iff_of_false nofun nofun
  next status body =>
    constructor
    · intro h
      split at h
      next => cases h
      next => cases h
      next hread =>
        obtain ⟨answer, hanswer, hread⟩ := Option.bind_eq_some_iff.mp hread
        obtain rfl := Except.ok.inj h
        exact ⟨status, body, answer, rfl, hanswer, hread⟩
      next => cases h
    · rintro ⟨_, _, answer, ⟨⟩, hanswer, hread⟩
      simp [hanswer, hread]

/-- The values of an answer are what it holds. -/
theorem holds_of_fields? {o o' : Option Json}
    (h : Json.fields? answerFields answer = some [o, o']) (v : Json) :
    (Json.Holds answerFields "result" v answer ↔ o = some v) ∧
      (Json.Holds answerFields "error" v answer ↔ o' = some v) := by
  have hnodup : answerFields.Nodup := by decide
  constructor
  · rw [Json.holds_iff_of_fields? hnodup h (i := 0) rfl]
    exact Option.some_inj
  · rw [Json.holds_iff_of_fields? hnodup h (i := 1) rfl]
    exact Option.some_inj

/-- An answer that is read as one without an error carries none. -/
theorem eq_null_of_readAnswer? {o : Option NetworkConfig}
    (h : readAnswer? answer = some (none, o))
    (hreport : Json.Holds answerFields "error" report answer) : report = .null := by
  obtain ⟨_, _, hfields, herror, -⟩ := readAnswer?_eq_some_iff.mp h
  have hreport := (holds_of_fields? hfields report).2.mp hreport
  exact Json.optional?_eq_some_none_iff.mp herror report hreport

/-- **An answer that leads to a bus names it.** -/
theorem names_of_readAnswer? (h : readAnswer? answer = some (none, some c))
    (hbus : c.l2MessageBus = some bus) : Names answer bus := by
  obtain ⟨_, _, hfields, -, hresult⟩ := readAnswer?_eq_some_iff.mp h
  obtain ⟨result, rfl, hnull, hread⟩ := Json.optional?_eq_some_some_iff.mp hresult
  refine ⟨fun _ => eq_null_of_readAnswer? h, result, fun v => ?_, hnull,
    holds_of_ofJson? hread hbus⟩
  rw [(holds_of_fields? hfields v).1, Option.some_inj]
  exact eq_comm

/-- **An answer that carries an error is refused**, whatever the result beside it. -/
theorem ofReply_of_error {status : Nat} {body : String} (hanswer : Json.read? body = some answer)
    (hreport : Json.Holds answerFields "error" report answer) (hnull : report ≠ .null) :
    ofReply (.response status body) ≠ .ok c := by
  intro h
  obtain ⟨_, _, answer', ⟨⟩, hanswer', hread⟩ := ofReply_eq_ok_iff.mp h
  obtain rfl := Option.some.inj (hanswer.symm.trans hanswer')
  exact hnull (eq_null_of_readAnswer? hread hreport)

theorem ownBus_eq_ok_iff :
    c.ownBus = .ok bus ↔ c.l2MessageBus = some bus ∧ bus ≠ Octets.zero 20 := by
  have hnonzero : c.l2MessageBus.filter (· != Octets.zero 20) = some bus ↔
      c.l2MessageBus = some bus ∧ bus ≠ Octets.zero 20 := by
    rw [Option.filter_eq_some_iff, bne_iff_ne]
  rw [← hnonzero, ownBus]
  cases c.l2MessageBus.filter (· != Octets.zero 20) with
  | none => exact iff_of_false nofun nofun
  | some a => rw [Except.ok.injEq, Option.some_inj]

/-! ### Asking a node -/

/-- One waits for the answer, but not for ever. -/
theorem exists_reply (heard : Answer Rpc.Reply) :
    ∃ time result, reply heard = .answer time result := by
  unfold reply
  split
  · split
    · exact ⟨_, _, rfl⟩
    · exact ⟨_, _, rfl⟩
  · exact ⟨_, _, rfl⟩

/-- A reply is read if it comes in time. -/
theorem reply_eq_ok_iff :
    (∃ time, reply heard = .answer time (.ok c)) ↔
      ∃ delay said, heard = .after delay said ∧ delay < patience ∧ ofReply said = .ok c := by
  unfold reply
  cases heard with
  | never => simp
  | after delay said =>
    by_cases hdelay : delay < patience <;> simp [hdelay]

/-- The node is asked once. -/
theorem log_discover (heard : Answer Rpc.Reply) (horizon : Nat) :
    (discover heard).log horizon = [.askedNetwork] := by
  rw [discover, Stage.log_bind, fetch, Stage.log_perform]
  split <;> simp

/-- **A node leads to a bus or to an error.** -/
theorem ending_discover (heard : Answer Rpc.Reply) :
    (∃ bus, (discover heard).ending = .value bus) ∨ ∃ e, (discover heard).ending = .error e := by
  obtain ⟨time, result, hreply⟩ := exists_reply heard
  rw [discover, Stage.ending_bind, fetch, hreply]
  cases result with
  | error e => exact Or.inr ⟨e, rfl⟩
  | ok c =>
    change (∃ bus, (Stage.ofExcept c.ownBus).ending = .value bus) ∨
      ∃ e, (Stage.ofExcept c.ownBus).ending = .error e
    cases c.ownBus with
    | ok bus => exact Or.inl ⟨bus, rfl⟩
    | error e => exact Or.inr ⟨e, rfl⟩

/-- **A node leads to a bus** exactly if it replies in time, and what it replies does. -/
theorem discover_eq_value_iff :
    (discover heard).ending = .value bus ↔ ∃ delay said c, heard = .after delay said ∧
      delay < patience ∧ ofReply said = .ok c ∧ c.ownBus = .ok bus := by
  simp only [discover, fetch, Stage.ending_bind_eq_value_iff, Stage.ending_perform_eq_value_iff,
    Stage.ending_ofExcept_eq_value_iff, reply_eq_ok_iff]
  constructor
  · rintro ⟨c, ⟨delay, said, hheard, hdelay, hread⟩, hown⟩
    exact ⟨delay, said, c, hheard, hdelay, hread, hown⟩
  · rintro ⟨delay, said, c, hheard, hdelay, hread, hown⟩
    exact ⟨c, ⟨delay, said, hheard, hdelay, hread⟩, hown⟩

/-- **The bus that asking leads to was named** by an answer that came in time, and it is not
zero. -/
theorem named_of_discover (h : (discover heard).ending = .value bus) :
    bus ≠ Octets.zero 20 ∧ ∃ delay status body answer,
      heard = .after delay (.response status body) ∧ delay < patience ∧
        Json.read? body = some answer ∧ Names answer bus := by
  obtain ⟨delay, said, c, rfl, hlt, hread, hown⟩ := discover_eq_value_iff.mp h
  obtain ⟨hown, hzero⟩ := ownBus_eq_ok_iff.mp hown
  obtain ⟨status, body, answer, rfl, hanswer, hread⟩ := ofReply_eq_ok_iff.mp hread
  have hnames := names_of_readAnswer? hread hown
  exact ⟨hzero, delay, status, body, answer, rfl, hlt, hanswer, hnames⟩

/-- **A node reports an error**: what it answers carries one, whatever stands beside it. -/
def ReportsError (heard : Answer Rpc.Reply) : Prop :=
  ∃ delay status body answer report, heard = .after delay (.response status body) ∧
    Json.read? body = some answer ∧ Json.Holds answerFields "error" report answer ∧ report ≠ .null

/-- Asking leads to no bus if the node reports an error. -/
theorem discover_of_error (h : ReportsError heard) : ∃ e, (discover heard).ending = .error e := by
  obtain ⟨delay, status, body, answer, report, rfl, hanswer, hreport, hnull⟩ := h
  rcases ending_discover (.after delay (.response status body)) with ⟨bus, hbus⟩ | herror
  · obtain ⟨_, _, c, heq, -, hread, -⟩ := discover_eq_value_iff.mp hbus
    obtain ⟨-, rfl⟩ := Answer.after.inj heq
    exact absurd hread (ofReply_of_error hanswer hreport hnull)
  · exact herror

end NetworkConfig

end MessageRelay
