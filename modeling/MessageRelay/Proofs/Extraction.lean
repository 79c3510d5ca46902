import MessageRelay.Extraction
import MessageRelay.Proofs.Published
import Mathlib.Data.List.Nodup

/-!
# What extraction takes out of receipts

Extraction goes through the receipts in their order and through the entries of each in theirs, and
at each place one of three things happens: an entry is passed over, its message is taken, or the
whole extraction ends there. So there are two things to say. If it goes through, its result are the
decoded entries that are selected, no more and no fewer and in their order
(`MessageRelay.Extractor.extractAll_eq_ok_iff`). If it does not, its error tells the first place at
which something is wrong (`MessageRelay.Extractor.EarliestFault`), where everything in front of that
place is in order (`MessageRelay.Extractor.extractAll_eq_error_iff`).

Both come from what happens at one place, by induction over the entries and then over the receipts.
What is not selected appears in neither, except that it is counted in the position of a fault.
-/

namespace MessageRelay

-- the digest of the event's signature is a constant below, and takes long to compute
attribute [local irreducible] Published.eventTopic

namespace Extractor

variable {e : Extractor} {log : Log} {logs front rest : List Log} {r : SourceReceipt}
  {rs before after : List SourceReceipt} {tx : Hash} {position : Nat} {ms : List Message}
  {err : ExtractionError}

/-! ### Entries that are selected -/

/-- An entry is selected: its first topic is that of the event and, where an emitter is given, the
emitter wrote it. -/
def Selects (e : Extractor) (log : Log) : Prop :=
  log.topics.head? = some Published.eventTopic ∧ ∀ a, e.emitter = some a → log.address = a

theorem selects_iff : e.selects log = true ↔ e.Selects log := by
  rw [selects, Bool.and_eq_true, beq_iff_eq]
  refine and_congr_right fun _ => ?_
  cases e.emitter with
  | none => simp
  | some a =>
    simp only [Option.all_some, beq_iff_eq, Option.some.injEq, forall_eq']
    exact eq_comm

instance : Decidable (e.Selects log) :=
  decidable_of_iff _ selects_iff

/-- The entries of a receipt that are selected, in log order. -/
def selected (e : Extractor) (r : SourceReceipt) : List Log :=
  r.logs.filter fun log => e.Selects log

theorem mem_selected : log ∈ e.selected r ↔ log ∈ r.logs ∧ e.Selects log := by
  simp [selected]

/-- Entries can all be read exactly if they decode to some messages, one by one. -/
theorem exists_decoded_iff :
    (∃ ms : List Message, logs.map (Published.decode e.explain) = ms.map .ok) ↔
      ∀ log ∈ logs, ∃ m, Published.decode e.explain log = .ok m := by
  constructor
  · rintro ⟨ms, hms⟩ log hlog
    have hmem : Published.decode e.explain log ∈ ms.map .ok := hms ▸ List.mem_map_of_mem hlog
    obtain ⟨m, -, hm⟩ := List.mem_map.mp hmem
    exact ⟨m, hm.symm⟩
  · intro h
    induction logs with
    | nil => exact ⟨[], rfl⟩
    | cons log logs ih =>
      obtain ⟨m, hm⟩ := h log List.mem_cons_self
      obtain ⟨ms, hms⟩ := ih fun l hl => h l (List.mem_cons_of_mem _ hl)
      exact ⟨m :: ms, by rw [List.map_cons, List.map_cons, hm, hms]⟩

/-- Decoded entries stand at the places of their messages. -/
theorem getElem?_decoded_iff (h : logs.map (Published.decode e.explain) = ms.map .ok) {i : Nat}
    {m : Message} :
    ms[i]? = some m ↔ ∃ log, logs[i]? = some log ∧ Published.decode e.explain log = .ok m := by
  have hi : logs[i]?.map (Published.decode e.explain) = ms[i]?.map .ok := by
    rw [← List.getElem?_map, ← List.getElem?_map, h]
  constructor
  · intro hm
    rw [hm] at hi
    obtain ⟨log, hlog, hdecode⟩ := Option.map_eq_some_iff.mp hi
    exact ⟨log, hlog, hdecode⟩
  · rintro ⟨log, hlog, hdecode⟩
    rw [hlog, Option.map_some, hdecode] at hi
    obtain ⟨m', hm', heq⟩ := Option.map_eq_some_iff.mp hi.symm
    rw [hm', Except.ok.inj heq]

/-! ### One entry -/

/-- An entry is no fault: it is passed over, or it can be read. -/
def Reads (e : Extractor) (log : Log) : Prop :=
  e.Selects log → ∃ m, Published.decode e.explain log = .ok m

/-- A selected entry that cannot be read is a fault. -/
theorem not_reads_iff :
    ¬ e.Reads log ↔ e.Selects log ∧ ∃ source, Published.decode e.explain log = .error source := by
  cases hdecode : Published.decode e.explain log with
  | error source => simp [Reads, hdecode]
  | ok m => simp [Reads, hdecode]

/-- An entry that is not selected is passed over. -/
theorem scan_of_passed (h : ¬ e.Selects log) :
    e.scan tx position (log :: logs) = e.scan tx (position + 1) logs := by
  rw [scan, if_neg (mt selects_iff.mp h)]

/-- The message of a selected entry is taken. -/
theorem scan_of_read {m : Message} (h : e.Selects log)
    (hm : Published.decode e.explain log = .ok m) :
    e.scan tx position (log :: logs) = (e.scan tx (position + 1) logs).map (m :: ·) := by
  rw [scan, if_pos (selects_iff.mpr h), hm]

/-- A selected entry that cannot be read ends the extraction. -/
theorem scan_of_fault {source : Published.DecodeError} (h : e.Selects log)
    (hfault : Published.decode e.explain log = .error source) :
    e.scan tx position (log :: logs) = .error (.decode tx position source) := by
  rw [scan, if_pos (selects_iff.mpr h), hfault]

/-! ### The entries of one receipt -/

/-- If the entries of a receipt can be extracted, the result are the decoded entries among them that
are selected. -/
theorem scan_eq_ok_iff :
    e.scan tx position logs = .ok ms ↔
      (logs.filter fun log => e.Selects log).map (Published.decode e.explain) = ms.map .ok := by
  induction logs generalizing position ms with
  | nil => cases ms <;> simp [scan]
  | cons log logs ih =>
    by_cases hsel : e.Selects log
    · rw [List.filter_cons_of_pos (by simpa using hsel), List.map_cons]
      cases hdecode : Published.decode e.explain log with
      | error source =>
        rw [scan_of_fault hsel hdecode]
        cases ms <;> simp
      | ok m =>
        rw [scan_of_read hsel hdecode]
        cases ms with
        | nil => cases e.scan tx (position + 1) logs <;> simp [Except.map]
        | cons m' ms =>
          rw [List.map_cons, List.cons.injEq, ← ih]
          cases e.scan tx (position + 1) logs <;> simp [Except.map]
    · rw [List.filter_cons_of_neg (by simpa using hsel), scan_of_passed hsel, ih]

/-- An entry that is no fault only moves the position on. -/
theorem scan_cons_eq_error_iff (h : e.Reads log) :
    e.scan tx position (log :: logs) = .error err ↔
      e.scan tx (position + 1) logs = .error err := by
  by_cases hsel : e.Selects log
  · obtain ⟨m, hm⟩ := h hsel
    rw [scan_of_read hsel hm]
    cases e.scan tx (position + 1) logs <;> simp [Except.map]
  · rw [scan_of_passed hsel]

theorem scan_append_eq_error_iff (hfront : ∀ l ∈ front, e.Reads l) :
    e.scan tx position (front ++ rest) = .error err ↔
      e.scan tx (position + front.length) rest = .error err := by
  induction front generalizing position with
  | nil => rfl
  | cons l front ih =>
    obtain ⟨hl, hfront⟩ := List.forall_mem_cons.mp hfront
    rw [List.cons_append, scan_cons_eq_error_iff hl, ih hfront, List.length_cons,
      Nat.add_comm front.length, Nat.add_assoc]

/-- **Where the entries of a receipt cannot be extracted**, there is a first one that is at
fault. -/
theorem scan_eq_error_iff :
    e.scan tx position logs = .error err ↔
      ∃ front log rest source, logs = front ++ log :: rest ∧ (∀ l ∈ front, e.Reads l) ∧
        e.Selects log ∧ Published.decode e.explain log = .error source ∧
        err = .decode tx (position + front.length) source := by
  constructor
  · intro h
    induction logs generalizing position with
    | nil => exact nomatch h
    | cons log logs ih =>
      by_cases hreads : e.Reads log
      · have hrest : e.scan tx (position + 1) logs = .error err :=
          (scan_cons_eq_error_iff hreads).mp h
        obtain ⟨front, log', rest, source, rfl, hfront, hsel, hfault, rfl⟩ := ih hrest
        refine ⟨log :: front, log', rest, source, rfl, ?_, hsel, hfault, ?_⟩
        · simpa using ⟨hreads, hfront⟩
        · rw [List.length_cons, Nat.add_right_comm, Nat.add_assoc]
      · obtain ⟨hsel, source, hfault⟩ := not_reads_iff.mp hreads
        rw [scan_of_fault hsel hfault] at h
        exact ⟨[], log, logs, source, rfl, nofun, hsel, hfault, (Except.error.inj h).symm⟩
  · rintro ⟨front, log, rest, source, rfl, hfront, hsel, hfault, rfl⟩
    rw [scan_append_eq_error_iff hfront, scan_of_fault hsel hfault]

/-! ### Several receipts -/

/-- Nothing in a receipt is at fault, neither its status nor an entry. -/
def Clean (e : Extractor) (r : SourceReceipt) : Prop :=
  r.status = successStatus ∧ ∀ log ∈ r.logs, e.Reads log

/-- **The earliest fault of receipts**, in the order in which they are read: everything in front of
it is in order. -/
inductive EarliestFault (e : Extractor) : List SourceReceipt → ExtractionError → Prop where
  /-- The status of a receipt, which is looked at before its entries. -/
  | status {before after : List SourceReceipt} {r : SourceReceipt} :
      (∀ r' ∈ before, e.Clean r') → r.status ≠ successStatus →
      EarliestFault e (before ++ r :: after) (.sourceReverted r.transaction r.status)
  /-- A selected entry that cannot be read. Its position is the number of all entries in front of it
  in its receipt. -/
  | entry {before after : List SourceReceipt} {r : SourceReceipt} {front rest : List Log}
      {log : Log} {source : Published.DecodeError} :
      (∀ r' ∈ before, e.Clean r') → r.status = successStatus → r.logs = front ++ log :: rest →
      (∀ l ∈ front, e.Reads l) → e.Selects log → Published.decode e.explain log = .error source →
      EarliestFault e (before ++ r :: after) (.decode r.transaction front.length source)

theorem succeeded_iff : r.succeeded = true ↔ r.status = successStatus :=
  beq_iff_eq

/-- A receipt of a failed transaction ends the extraction. -/
theorem extractAll_of_reverted (h : r.status ≠ successStatus) :
    e.extractAll (r :: rs) = .error (.sourceReverted r.transaction r.status) := by
  rw [extractAll, if_neg (mt succeeded_iff.mp h)]

/-- Another receipt adds its messages in front, or ends the extraction. -/
theorem extractAll_of_succeeded (h : r.status = successStatus) :
    e.extractAll (r :: rs) =
      (e.extract r).bind fun ms => (e.extractAll rs).map (ms ++ ·) := by
  rw [extractAll, if_pos (succeeded_iff.mpr h)]
  cases e.extract r <;> rfl

theorem extract_eq_ok_iff :
    e.extract r = .ok ms ↔ (e.selected r).map (Published.decode e.explain) = ms.map .ok :=
  scan_eq_ok_iff

theorem exists_extract_iff : (∃ ms, e.extract r = .ok ms) ↔ ∀ log ∈ r.logs, e.Reads log := by
  simp only [extract_eq_ok_iff, exists_decoded_iff, mem_selected, Reads, and_imp]

/-- **Extraction loses, invents and reorders nothing**: it goes through exactly if all transactions
succeeded and the selected entries decode to the result, one by one. -/
theorem extractAll_eq_ok_iff :
    e.extractAll rs = .ok ms ↔
      (∀ r ∈ rs, r.status = successStatus) ∧
        (rs.flatMap e.selected).map (Published.decode e.explain) = ms.map .ok := by
  induction rs generalizing ms with
  | nil => cases ms <;> simp [extractAll]
  | cons r rs ih =>
    by_cases hstatus : r.status = successStatus
    · rw [extractAll_of_succeeded hstatus, List.flatMap_cons, List.map_append, List.forall_mem_cons]
      constructor
      · intro h
        cases hext : e.extract r with
        | error err =>
          rw [hext] at h
          exact nomatch h
        | ok ms₁ =>
          cases hall : e.extractAll rs with
          | error err =>
            rw [hext, hall] at h
            exact nomatch h
          | ok ms₂ =>
            rw [hext, hall] at h
            obtain rfl : ms₁ ++ ms₂ = ms := Except.ok.inj h
            obtain ⟨hsucceed, hmap⟩ := ih.mp hall
            rw [extract_eq_ok_iff.mp hext, hmap, List.map_append]
            exact ⟨⟨hstatus, hsucceed⟩, rfl⟩
      · rintro ⟨⟨-, hsucceed⟩, hmap⟩
        obtain ⟨ms₁, ms₂, rfl, h₁, h₂⟩ := List.append_eq_map_iff.mp hmap
        rw [extract_eq_ok_iff.mpr h₁.symm, ih.mpr ⟨hsucceed, h₂.symm⟩]
        rfl
    · rw [extractAll_of_reverted hstatus]
      simp [hstatus]

/-- A receipt in which nothing is at fault does not end the extraction. -/
theorem extractAll_cons_eq_error_iff (h : e.Clean r) :
    e.extractAll (r :: rs) = .error err ↔ e.extractAll rs = .error err := by
  obtain ⟨ms, hms⟩ := exists_extract_iff.mpr h.2
  rw [extractAll_of_succeeded h.1, hms]
  cases e.extractAll rs <;> simp [Except.map, Except.bind]

theorem extractAll_append_eq_error_iff (hbefore : ∀ r ∈ before, e.Clean r) :
    e.extractAll (before ++ after) = .error err ↔ e.extractAll after = .error err := by
  induction before with
  | nil => rfl
  | cons r before ih =>
    obtain ⟨hr, hbefore⟩ := List.forall_mem_cons.mp hbefore
    rw [List.cons_append, extractAll_cons_eq_error_iff hr, ih hbefore]

/-- A receipt in which nothing is at fault may stand in front. -/
theorem EarliestFault.cons (hr : e.Clean r) (h : e.EarliestFault rs err) :
    e.EarliestFault (r :: rs) err := by
  cases h with
  | status hbefore hfault =>
    rw [← List.cons_append]
    exact .status (List.forall_mem_cons.mpr ⟨hr, hbefore⟩) hfault
  | entry hbefore hstatus hlogs hfront hsel hfault =>
    rw [← List.cons_append]
    exact .entry (List.forall_mem_cons.mpr ⟨hr, hbefore⟩) hstatus hlogs hfront hsel hfault

/-- **Extraction fails with the earliest fault.** -/
theorem extractAll_eq_error_iff : e.extractAll rs = .error err ↔ e.EarliestFault rs err := by
  constructor
  · intro h
    induction rs with
    | nil => exact nomatch h
    | cons r rs ih =>
      rw [← List.nil_append (r :: rs)]
      by_cases hstatus : r.status = successStatus
      · cases hext : e.extract r with
        | error err' =>
          rw [extractAll_of_succeeded hstatus, hext] at h
          obtain rfl : err' = err := Except.error.inj h
          obtain ⟨front, log, rest, source, hlogs, hfront, hsel, hfault, rfl⟩ :=
            scan_eq_error_iff.mp hext
          rw [Nat.zero_add]
          exact .entry nofun hstatus hlogs hfront hsel hfault
        | ok ms =>
          have hclean : e.Clean r := ⟨hstatus, exists_extract_iff.mp ⟨ms, hext⟩⟩
          exact .cons hclean (ih ((extractAll_cons_eq_error_iff hclean).mp h))
      · rw [extractAll_of_reverted hstatus] at h
        obtain rfl := Except.error.inj h
        exact .status nofun hstatus
  · intro h
    cases h with
    | status hbefore hfault =>
      rw [extractAll_append_eq_error_iff hbefore, extractAll_of_reverted hfault]
    | entry hbefore hok hlogs hfront hsel hfault =>
      rw [extractAll_append_eq_error_iff hbefore, extractAll_of_succeeded hok, extract,
        scan_eq_error_iff.mpr ⟨_, _, _, _, hlogs, hfront, hsel, hfault, rfl⟩, Nat.zero_add]
      rfl

/-! ### What is not selected -/

/-- All that extraction looks at in a receipt, as long as nothing is at fault: the status and the
selected entries. -/
def view (e : Extractor) (r : SourceReceipt) : UInt64 × List Log :=
  (r.status, e.selected r)

/-- **What is not selected makes no difference**: receipts of which extraction sees the same give
the same messages. -/
theorem extractAll_congr {rs' : List SourceReceipt} (h : rs.map e.view = rs'.map e.view) :
    e.extractAll rs = .ok ms ↔ e.extractAll rs' = .ok ms := by
  have hview : ∀ rs : List SourceReceipt, e.extractAll rs = .ok ms ↔
      (∀ v ∈ rs.map e.view, v.1 = successStatus) ∧
        ((rs.map e.view).flatMap Prod.snd).map (Published.decode e.explain) = ms.map .ok := by
    intro rs
    rw [extractAll_eq_ok_iff, List.forall_mem_map, List.flatMap_map]
    rfl
  rw [hview, hview, h]

/-- **Extraction is exact.** It goes through exactly if all transactions succeeded and every
selected entry can be read. Its result are then the selected entries decoded, in receipt order and
within a receipt in log order. Otherwise its error is the earliest fault. And if entries that are
not selected are put in, left out or altered, the messages stay the same, and so does whether there
are any. -/
theorem extractAll_exact (e : Extractor) (rs : List SourceReceipt) :
    ((∃ ms, e.extractAll rs = .ok ms) ↔
      ∀ r ∈ rs, r.status = successStatus ∧
        ∀ log ∈ r.logs, e.Selects log → ∃ m, Published.decode e.explain log = .ok m) ∧
    (∀ ms, e.extractAll rs = .ok ms →
      (rs.flatMap e.selected).map (Published.decode e.explain) = ms.map .ok) ∧
    (∀ err, e.extractAll rs = .error err ↔ e.EarliestFault rs err) ∧
    ∀ rs', rs.map e.view = rs'.map e.view →
      ∀ ms, e.extractAll rs = .ok ms ↔ e.extractAll rs' = .ok ms := by
  refine ⟨?success, fun ms h => (extractAll_eq_ok_iff.mp h).2, fun err => extractAll_eq_error_iff,
    fun rs' h ms => extractAll_congr h⟩
  case success =>
    simp only [extractAll_eq_ok_iff, exists_and_left, exists_decoded_iff, List.mem_flatMap,
      mem_selected]
    constructor
    · rintro ⟨hstatus, hread⟩ r hr
      exact ⟨hstatus r hr, fun log hlog hsel => hread log ⟨r, hr, hlog, hsel⟩⟩
    · intro h
      refine ⟨fun r hr => (h r hr).1, ?_⟩
      rintro log ⟨r, hr, hlog, hsel⟩
      exact (h r hr).2 log hlog hsel

/-- The entry of a message, as another contract would write it and without its data. -/
def foreignEntry (m : Message) : Log :=
  { Published.encode m with address := Octets.replicate 20 1, data := [] }

/-- A malformed entry of another contract is passed over, but it counts in the position of the
malformed entry behind it. -/
theorem extractAll_exact_foreign :
    let e : Extractor := { emitter := some (Octets.zero 20) }
    let m := Message.sample 1
    let broken : Log := { Published.encode m with data := [] }
    let sound : SourceReceipt := ⟨default, 1, [foreignEntry m, Published.encode m]⟩
    let faulty : SourceReceipt := ⟨default, 1, [foreignEntry m, broken]⟩
    e.extractAll [sound] = .ok [m] ∧
      e.extractAll [sound, faulty] = .error (.decode default 1 (.malformedData "")) := by
  intro e m broken sound faulty
  have hforeign : ¬ e.Selects (foreignEntry m) := fun h => absurd (h.2 _ rfl) (by decide)
  have hours : e.Selects (Published.encode m) := ⟨rfl, fun a ha => Option.some.inj ha⟩
  have hbroken : e.Selects broken := ⟨rfl, fun a ha => Option.some.inj ha⟩
  have hread : Published.decode e.explain (Published.encode m) = .ok m :=
    Published.decode_encode (by decide)
  have hfault : Published.decode e.explain broken = .error (.malformedData "") :=
    Published.decode_of_malformed rfl rfl
  have hpass : ∀ log ∈ [foreignEntry m], e.Reads log :=
    List.forall_mem_singleton.mpr fun hsel => absurd hsel hforeign
  have hclean : ∀ r ∈ [sound], e.Clean r := by
    simpa [Clean, Reads, sound, successStatus] using
      ⟨fun hsel => absurd hsel hforeign, fun _ => ⟨m, hread⟩⟩
  constructor
  · obtain ⟨hsuccess, hresult, -⟩ := extractAll_exact e [sound]
    obtain ⟨ms, hms⟩ := hsuccess.mpr hclean
    have hmap : ([.ok m] : List (Except Published.DecodeError Message)) = ms.map .ok := by
      simpa [selected, sound, hforeign, hours, hread] using hresult ms hms
    obtain ⟨m', rfl, hm'⟩ := List.map_eq_singleton_iff.mp hmap.symm
    rw [hms, Except.ok.inj hm']
  · obtain ⟨-, -, herror, -⟩ := extractAll_exact e [sound, faulty]
    exact (herror _).mpr
      (@EarliestFault.entry e [sound] [] faulty [foreignEntry m] [] broken _ hclean rfl rfl hpass
        hbroken hfault)

end Extractor

/-! ### Batches -/

/-- A batch holds the messages that it was made of, and no key occurs twice among them. -/
theorem Batch.ofMessages_eq_ok_iff {ms : List Message} {b : Batch} :
    ofMessages ms = .ok b ↔ b.messages = ms ∧ (ms.map Message.key).Nodup := by
  unfold ofMessages
  split
  next k hk =>
    refine iff_of_false nofun fun ⟨_, hnodup⟩ => ?_
    have hnone : firstRepeated? [] (ms.map Message.key) = none :=
      firstRepeated?_eq_none_iff.mpr ⟨fun _ _ => List.not_mem_nil, hnodup⟩
    exact nomatch hk.symm.trans hnone
  next hk =>
    have hnodup := (firstRepeated?_eq_none_iff.mp hk).2
    obtain ⟨messages, hkeys⟩ := b
    simp only [Except.ok.injEq, mk.injEq]
    exact ⟨fun h => ⟨h.symm, hnodup⟩, fun h => h.1.symm⟩

/-- Messages make a batch unless a key occurs twice. -/
theorem Batch.exists_ofMessages_iff {ms : List Message} :
    (∃ b, ofMessages ms = .ok b) ↔ (ms.map Message.key).Nodup := by
  constructor
  · rintro ⟨b, h⟩
    exact (ofMessages_eq_ok_iff.mp h).2
  · exact fun hnodup => ⟨⟨ms, hnodup⟩, ofMessages_eq_ok_iff.mpr ⟨rfl, hnodup⟩⟩

theorem Batch.exists_ofMessages_error_iff {ms : List Message} :
    (∃ err, ofMessages ms = .error err) ↔ ¬ (ms.map Message.key).Nodup := by
  rw [← exists_ofMessages_iff]
  cases ofMessages ms with
  | ok b => exact iff_of_false nofun (not_not_intro ⟨b, rfl⟩)
  | error err => exact iff_of_true ⟨err, rfl⟩ nofun

/-- **Why receipts do not give a batch.** -/
inductive Extractor.Refuses (e : Extractor) (rs : List SourceReceipt) : Prop where
  /-- A transaction did not succeed. -/
  | reverted {r : SourceReceipt} : r ∈ rs → r.status ≠ successStatus → Refuses e rs
  /-- A selected entry cannot be read. -/
  | unreadable {r : SourceReceipt} {log : Log} {source : Published.DecodeError} :
      r ∈ rs → log ∈ r.logs → e.Selects log → Published.decode e.explain log = .error source →
        Refuses e rs
  /-- Two selected entries, maybe of different receipts, carry messages with one key. -/
  | repeated {i j : Nat} {log log' : Log} {m m' : Message} : i < j →
      (rs.flatMap e.selected)[i]? = some log → Published.decode e.explain log = .ok m →
      (rs.flatMap e.selected)[j]? = some log' → Published.decode e.explain log' = .ok m' →
      m.key = m'.key → Refuses e rs

namespace Batch

variable {e : Extractor} {rs : List SourceReceipt}

/-- **Receipts give no batch exactly if something in them is wrong**, wherever it stands. -/
theorem exists_ofReceipts_error_iff :
    (∃ err, ofReceipts e rs = .error err) ↔ e.Refuses rs := by
  constructor
  · rintro ⟨err, h⟩
    cases hall : e.extractAll rs with
    | error err' =>
      cases Extractor.extractAll_eq_error_iff.mp hall with
      | status _ hstatus =>
        exact .reverted (List.mem_append_right _ List.mem_cons_self) hstatus
      | entry _ _ hlogs _ hsel hfault =>
        exact .unreadable (List.mem_append_right _ List.mem_cons_self)
          (hlogs ▸ List.mem_append_right _ List.mem_cons_self) hsel hfault
    | ok ms =>
      rw [ofReceipts, hall] at h
      have hdecoded := (Extractor.extractAll_eq_ok_iff.mp hall).2
      have hrepeated : ¬ (ms.map Message.key).Nodup := exists_ofMessages_error_iff.mp ⟨err, h⟩
      rw [List.nodup_iff_getElem?_ne_getElem?] at hrepeated
      push Not at hrepeated
      obtain ⟨i, j, hlt, hj, hkey⟩ := hrepeated
      rw [List.length_map] at hj
      have hi := Nat.lt_trans hlt hj
      rw [List.getElem?_map, List.getElem?_map, List.getElem?_eq_getElem hi,
        List.getElem?_eq_getElem hj] at hkey
      obtain ⟨log, hlog, hm⟩ :=
        (Extractor.getElem?_decoded_iff hdecoded).mp (List.getElem?_eq_getElem hi)
      obtain ⟨log', hlog', hm'⟩ :=
        (Extractor.getElem?_decoded_iff hdecoded).mp (List.getElem?_eq_getElem hj)
      exact .repeated hlt hlog hm hlog' hm' (Option.some.inj hkey)
  · intro h
    cases hall : e.extractAll rs with
    | error err => exact ⟨err, by rw [ofReceipts, hall]; rfl⟩
    | ok ms =>
      obtain ⟨hstatus, hdecoded⟩ := Extractor.extractAll_eq_ok_iff.mp hall
      rw [ofReceipts, hall]
      refine exists_ofMessages_error_iff.mpr fun hnodup => ?_
      cases h with
      | reverted hr hfault => exact hfault (hstatus _ hr)
      | unreadable hr hlog hsel hfault =>
        obtain ⟨m, hm⟩ := Extractor.exists_decoded_iff.mp ⟨ms, hdecoded⟩ _
          (List.mem_flatMap.mpr ⟨_, hr, Extractor.mem_selected.mpr ⟨hlog, hsel⟩⟩)
        exact nomatch hfault.symm.trans hm
      | repeated hlt hi hm hj hm' hkey =>
        have hi' := (Extractor.getElem?_decoded_iff hdecoded).mpr ⟨_, hi, hm⟩
        have hj' := (Extractor.getElem?_decoded_iff hdecoded).mpr ⟨_, hj, hm'⟩
        obtain ⟨hlt', -⟩ := List.getElem?_eq_some_iff.mp hj'
        refine List.nodup_iff_getElem?_ne_getElem?.mp hnodup _ _ hlt ?_ ?_
        · rw [List.length_map]
          exact hlt'
        · rw [List.getElem?_map, List.getElem?_map, hi', hj', Option.map_some, Option.map_some,
            hkey]

end Batch

end MessageRelay
