import MessageRelay.Published
import MessageRelay.Outcome

/-!
# From receipts to a batch

Extraction reads the published messages out of source receipts, in receipt order and then in log
order. A log entry is *selected* when its first topic is that of the event and, where an emitter
is given, the emitter wrote it (`MessageRelay.Extractor.selects`); every other entry is passed
over, whatever it holds. One selected entry that cannot be read, or one receipt whose transaction
failed, makes the whole extraction fail (`MessageRelay.Extractor.extractAll`).

A batch (`MessageRelay.Batch`) is a list of messages in which no key occurs twice. It is what a
run relays.
-/

namespace MessageRelay

/-- Why receipts do not give a batch. -/
inductive ExtractionError where
  /-- The selected log entry at a position of a receipt cannot be read. -/
  | decode (transaction : Hash) (position : Nat) (source : Published.DecodeError)
  /-- The source transaction did not succeed. -/
  | sourceReverted (transaction : Hash) (status : UInt64)
  /-- Two messages have one key. -/
  | duplicateMessage (key : MessageKey)
deriving DecidableEq

/-- The cause in words. -/
def ExtractionError.message : ExtractionError → String
  | decode tx position source =>
    "failed to decode log " ++ toString position ++ " of transaction " ++ tx.toHex ++ ": "
      ++ source.message
  | sourceReverted tx status =>
    "source transaction " ++ tx.toHex ++ " failed with status " ++ toString status.toNat
  | duplicateMessage key => "message " ++ key.text ++ " appears more than once"

/-! ### Extraction -/

/-- Which log entries count as published messages, and how they are read. -/
structure Extractor where
  /-- The only contract to listen to; any contract when absent. -/
  emitter : Option Address := none
  /-- What the codec says of data that it cannot read. -/
  explain : Bytes → String := fun _ => ""
deriving Inhabited

namespace Extractor

/-- Whether an entry is one of the event, from a contract to listen to. -/
def selects (e : Extractor) (log : Log) : Bool :=
  log.topics.head? == some Published.eventTopic && e.emitter.all (· == log.address)

/-- The messages of the selected entries, the first of which stands at `position`. -/
def scan (e : Extractor) (transaction : Hash) :
    (position : Nat) → List Log → Except ExtractionError (List Message)
  | _, [] => .ok []
  | position, log :: logs =>
    if e.selects log then
      match Published.decode e.explain log with
      | .error source => .error (.decode transaction position source)
      | .ok m => (scan e transaction (position + 1) logs).map (m :: ·)
    else scan e transaction (position + 1) logs

/-- The messages of one receipt, in log order. The receipt's status is not looked at. -/
def extract (e : Extractor) (r : SourceReceipt) : Except ExtractionError (List Message) :=
  e.scan r.transaction 0 r.logs

/-- The messages of several receipts, in receipt order. A receipt's status comes before its
logs. -/
def extractAll (e : Extractor) : List SourceReceipt → Except ExtractionError (List Message)
  | [] => .ok []
  | r :: rs =>
    if r.succeeded then
      match e.extract r with
      | .error err => .error err
      | .ok ms => (e.extractAll rs).map (ms ++ ·)
    else .error (.sourceReverted r.transaction r.status)

end Extractor

/-! ### Batches -/

/-- The first key of a list that occurs before in it. -/
def firstRepeated? : (seen rest : List MessageKey) → Option MessageKey
  | _, [] => none
  | seen, k :: rest => if seen.contains k then some k else firstRepeated? (k :: seen) rest

theorem firstRepeated?_eq_none_iff {seen rest : List MessageKey} :
    firstRepeated? seen rest = none ↔ (∀ k ∈ rest, k ∉ seen) ∧ rest.Nodup := by
  induction rest generalizing seen with
  | nil => simp [firstRepeated?]
  | cons k rest ih =>
    by_cases hk : k ∈ seen
    · simp [firstRepeated?, hk]
    · simp only [firstRepeated?, List.contains_iff_mem, hk, if_false, ih, List.mem_cons, not_or,
        List.nodup_cons, forall_eq_or_imp]
      constructor
      · exact fun ⟨h, hn⟩ => ⟨⟨not_false, fun a ha => (h a ha).2⟩, fun hm => (h k hm).1 rfl, hn⟩
      · exact fun ⟨⟨_, h⟩, hm, hn⟩ => ⟨fun a ha => ⟨fun e => hm (e ▸ ha), h a ha⟩, hn⟩

/-- The messages that one run relays, in the order in which it relays them. -/
structure Batch where
  /-- The messages. -/
  messages : List Message
  /-- No key occurs twice. -/
  nodup_keys : (messages.map Message.key).Nodup

namespace Batch

instance : Inhabited Batch := ⟨⟨[], List.nodup_nil⟩⟩

/-- A list of messages as a batch, unless a key occurs twice. -/
def ofMessages (ms : List Message) : Except ExtractionError Batch :=
  match h : firstRepeated? [] (ms.map Message.key) with
  | some k => .error (.duplicateMessage k)
  | none => .ok ⟨ms, (firstRepeated?_eq_none_iff.1 h).2⟩

/-- The batch that receipts publish. -/
def ofReceipts (e : Extractor) (rs : List SourceReceipt) : Except ExtractionError Batch :=
  (e.extractAll rs).bind ofMessages

/-- How many messages there are. -/
def size (b : Batch) : Nat :=
  b.messages.length

/-- The keys, in order. -/
def keys (b : Batch) : List MessageKey :=
  b.messages.map Message.key

end Batch

end MessageRelay
