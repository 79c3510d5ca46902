import Mathlib.Data.List.Basic
import MessageRelay.Program
import MessageRelay.Proofs.Bytes
import MessageRelay.Proofs.Poll.Schedule
import MessageRelay.Proofs.Run.Reasons

/-!
# The lines of the output

The output of the program, if neither JSON nor the metrics are asked for, is the reports' lines,
each one ended by a line feed. A report's line is the key, a tab and the outcome in words, and there
is no line feed in any of that, except perhaps in the reason of the outcome
(`MessageRelay.Report.feeds_line`). Reasons are printed as they are, so the output has one more line
for each line feed in them, and exactly one line for each report if there are none
(`MessageRelay.Program.output_lines`).

The program adds no line feeds of its own to a reason, but an error of the ledger is passed on with
all that is in it. So a node can add lines to the output as it likes
(`MessageRelay.Program.mem_lines_forging`), among them one that reads like the report of another
message (`MessageRelay.Program.forged_line`).
-/

namespace MessageRelay

namespace Text

/-! ### Lines of a text -/

/-- How many line feeds a text has. -/
def feeds (s : String) : Nat :=
  s.toList.count '\n'

/-- What stands between the line feeds of a text. -/
def parts (s : String) : List String :=
  (s.toList.splitOn '\n').map String.ofList

/-- **The lines of a text**: what its line feeds end. What stands behind the last one is no line. -/
def lines (s : String) : List String :=
  (parts s).dropLast

@[simp] theorem feeds_append (s t : String) : feeds (s ++ t) = feeds s + feeds t := by
  rw [feeds, String.toList_append, List.count_append]
  rfl

/-- A text without line feeds may stand in front. -/
theorem feeds_front {front : String} (h : feeds front = 0) (back : String) :
    feeds (front ++ back) = feeds back := by
  rw [feeds_append, h, Nat.zero_add]

/-- The line feeds are counted by what they separate. -/
theorem length_parts (s : String) : (parts s).length = feeds s + 1 := by
  rw [parts, List.length_map, List.splitOn, feeds]
  induction s.toList with
  | nil => rfl
  | cons c cs ih =>
    rw [List.splitOnP_cons_eq_if_modifyHead, List.count_cons]
    split
    · rw [List.length_cons, ih]
    · rw [List.length_modifyHead, ih]

/-- A text without line feeds is not divided. -/
theorem parts_eq_singleton {s : String} (h : feeds s = 0) : parts s = [s] := by
  have hnone : ∀ c ∈ s.toList, (c == '\n') = false := by
    intro c hc
    rw [beq_eq_false_iff_ne]
    rintro rfl
    exact List.count_eq_zero.mp h hc
  rw [parts, List.splitOn, List.splitOnP_eq_singleton hnone, List.map_singleton,
    String.ofList_toList]

/-- A line feed divides a text. -/
theorem parts_append_feed (s t : String) : parts (s ++ "\n" ++ t) = parts s ++ parts t := by
  have hlist : (s ++ "\n" ++ t).toList = s.toList ++ '\n' :: t.toList := by simp
  rw [parts, hlist, List.splitOn, List.splitOnP_append_cons _ _ (by rfl), List.map_append]
  rfl

/-- **Texts that are each ended by a line feed** have the lines that their parts make. -/
theorem lines_join (ts : List String) :
    lines (String.join (ts.map (· ++ "\n"))) = ts.flatMap parts := by
  induction ts with
  | nil => rfl
  | cons t ts ih =>
    have hne : parts (String.join (ts.map (· ++ "\n"))) ≠ [] := by
      rw [← List.length_pos_iff, length_parts]
      exact Nat.succ_pos _
    rw [List.map_cons, String.join_cons, lines, parts_append_feed,
      List.dropLast_append_of_ne_nil hne, ← lines, ih, List.flatMap_cons]

/-- Every line feed makes one part more. -/
theorem length_flatMap_parts (ts : List String) :
    (ts.flatMap parts).length = ts.length + (ts.map feeds).sum := by
  induction ts with
  | nil => rfl
  | cons t ts ih =>
    rw [List.flatMap_cons, List.length_append, length_parts, ih, List.length_cons, List.map_cons,
      List.sum_cons]
    omega

/-- There is one part for each text exactly if there are no line feeds in them. -/
theorem flatMap_parts_eq_iff (ts : List String) :
    ts.flatMap parts = ts ↔ ∀ t ∈ ts, feeds t = 0 := by
  constructor
  · intro h t ht
    have hlength := length_flatMap_parts ts
    rw [h] at hlength
    have hsum : (ts.map feeds).sum = 0 := by omega
    exact List.sum_eq_zero_iff_forall_eq_nat.mp hsum _ (List.mem_map_of_mem ht)
  · intro h
    induction ts with
    | nil => rfl
    | cons t ts ih =>
      obtain ⟨ht, hts⟩ := List.forall_mem_cons.mp h
      rw [List.flatMap_cons, parts_eq_singleton ht, ih hts, List.singleton_append]

/-! ### Texts without line feeds -/

theorem feeds_ofList {cs : List Char} (h : ∀ c ∈ cs, c ≠ '\n') : feeds (String.ofList cs) = 0 := by
  rw [feeds, String.toList_ofList, List.count_eq_zero]
  exact fun hmem => h '\n' hmem rfl

@[simp] theorem feeds_toString (n : Nat) : feeds (toString n) = 0 := by
  rw [Nat.toString_eq_ofList_toDigits]
  refine feeds_ofList fun c hc => ?_
  have hdigit : c.isDigit = true := Nat.isDigit_of_mem_toDigits (by decide) (by decide) hc
  rintro rfl
  exact absurd hdigit (by decide)

@[simp] theorem feeds_toHex (bs : Bytes) : feeds bs.toHex = 0 := by
  have hdigit : ∀ n < 16, Nat.digitChar n ≠ '\n' := by decide
  refine feeds_ofList fun c hc => ?_
  rcases List.mem_cons.mp hc with rfl | hc
  · decide
  rcases List.mem_cons.mp hc with rfl | hc
  · decide
  obtain ⟨n, hn, rfl⟩ := Bytes.exists_digit_of_mem hc
  exact hdigit n hn

end Text

open Text (feeds lines parts)

/-- An address is written without line feeds, whatever the checksum makes of its digits. -/
theorem Address.feeds_checksummed (a : Address) : feeds a.checksummed = 0 := by
  have hdigit : ∀ n < 16, Nat.digitChar n ≠ '\n' ∧ (Nat.digitChar n).toUpper ≠ '\n' := by decide
  refine Text.feeds_ofList fun c hc => ?_
  rcases List.mem_cons.mp hc with rfl | hc
  · decide
  rcases List.mem_cons.mp hc with rfl | hc
  · decide
  rw [← List.map_uncurry_zip_eq_zipWith] at hc
  obtain ⟨⟨d, h⟩, hmem, rfl⟩ := List.mem_map.mp hc
  obtain ⟨n, hn, rfl⟩ := Bytes.exists_digit_of_mem (List.of_mem_zip hmem).1
  show (if '8' ≤ h then (Nat.digitChar n).toUpper else Nat.digitChar n) ≠ '\n'
  split
  · exact (hdigit n hn).2
  · exact (hdigit n hn).1

theorem MessageKey.feeds_text (k : MessageKey) : feeds k.text = 0 := by
  have hslash : feeds "/" = 0 := by decide
  rw [text, Text.feeds_append, Text.feeds_append, Address.feeds_checksummed, hslash,
    Text.feeds_toString]

namespace Outcome

/-- The reason that an outcome gives; it is empty if there is none. -/
def reason : Outcome → String
  | pollFailed reason | relayFailed reason => reason
  | _ => ""

/-- **All line feeds of an outcome in words are in its reason.** -/
theorem feeds_text (o : Outcome) : feeds o.text = feeds o.reason := by
  cases o with
  | relayed tx =>
    exact (Text.feeds_front (by decide) tx.toHex).trans (Text.feeds_toHex tx.bytes)
  | finalityTimeout => decide
  | pollFailed reason | relayFailed reason => exact Text.feeds_front (by decide) reason
  | aborted blockedBy =>
    exact (Text.feeds_front (by decide) blockedBy.text).trans blockedBy.feeds_text

end Outcome

/-- So are those of a report's line. -/
theorem Report.feeds_line (r : Report) : feeds r.line = feeds r.outcome.reason := by
  have hfront : feeds (r.key.text ++ "\t") = 0 := by
    rw [Text.feeds_append, MessageKey.feeds_text]
    decide
  rw [line, Text.feeds_front hfront, Outcome.feeds_text]

/-! ### Reasons and the ledger's errors -/

/-- None of the errors that the ledger answers with has a line feed in its text. -/
structure Ledger.KeepsToLines (ledger : Ledger) : Prop where
  /-- When asked what a query costs. -/
  estimate : ∀ {m start t e}, (ledger.estimate m start).Arrives start t (.error e) →
    feeds e.message = 0
  /-- When queried. -/
  check : ∀ {m gas k start t e}, (ledger.check m gas k start).Arrives start t (.error e) →
    feeds e.message = 0
  /-- When a message is submitted. -/
  submit : ∀ {m k start t e}, (ledger.submit m k start).Arrives start t (.error e) →
    feeds e.message = 0

/-- **The program adds no line feeds to a reason.** Those that are in it are the ledger's. -/
theorem Outcome.Explained.feeds_reason {ledger : Ledger} {o : Outcome} (h : o.Explained ledger)
    (hledger : ledger.KeepsToLines) : feeds o.reason = 0 := by
  cases h with
  | relayed | finalityTimeout | aborted => rfl
  | lost | refused => decide
  | estimate harrives =>
    exact (Text.feeds_front (by decide) _).trans (hledger.estimate harrives)
  | @query _ _ k _ _ _ harrives =>
    refine (Text.feeds_front ?_ _).trans (hledger.check harrives)
    rw [Text.feeds_append, Text.feeds_append, Text.feeds_toString]
    decide
  | reverted tx status =>
    show feeds ("relay transaction " ++ tx.toHex ++ " finished with status " ++ toString _) = 0
    rw [Text.feeds_append, Text.feeds_append, Text.feeds_append, Octets.toHex, Text.feeds_toHex,
      Text.feeds_toString]
    decide
  | submission attempts harrives =>
    refine (Text.feeds_front ?_ _).trans (hledger.submit harrives)
    rw [Text.feeds_append, Text.feeds_append, Text.feeds_toString]
    decide

namespace Program

/-! ### The text output -/

section Output

variable {line : CommandLine} (hjson : line.json = false) (hmetrics : line.printMetrics = false)

include hjson hmetrics

/-- **The output is the lines of the reports**, each one with all its parts. -/
theorem lines_output (t : Run.Trace) :
    lines (output line t) = (t.reports.map Report.line).flatMap parts := by
  have houtput : output line t =
      String.join ((t.reports.map Report.line).map (· ++ "\n")) := by
    rw [output, hjson, hmetrics, List.map_map]
    exact String.append_empty
  rw [houtput, Text.lines_join]

/-- There is a line for each report and one more for each line feed in a reason. -/
theorem length_lines_output (t : Run.Trace) :
    (lines (output line t)).length =
      t.reports.length + (t.reports.map fun r => feeds r.outcome.reason).sum := by
  rw [lines_output hjson hmetrics, Text.length_flatMap_parts, List.length_map, List.map_map]
  simp only [Function.comp_def, Report.feeds_line]

/-- Each report is one line exactly if there is no line feed in any reason. -/
theorem lines_output_eq_iff (t : Run.Trace) :
    lines (output line t) = t.reports.map Report.line ↔
      ∀ r ∈ t.reports, feeds r.outcome.reason = 0 := by
  rw [lines_output hjson hmetrics, Text.flatMap_parts_eq_iff, List.forall_mem_map]
  simp only [Report.feeds_line]

/-- **One line for each report, and one more for each line feed in a reason.** The lines of the
output are those of the reports, in order and with all their parts. So each report is one line
exactly if there is no line feed in any reason; and that is so whenever the ledger puts none into
its errors, for the program adds none. -/
theorem output_lines :
    (∀ t : Run.Trace,
      lines (output line t) = (t.reports.map Report.line).flatMap parts ∧
      (lines (output line t)).length =
        t.reports.length + (t.reports.map fun r => feeds r.outcome.reason).sum ∧
      (lines (output line t) = t.reports.map Report.line ↔
        ∀ r ∈ t.reports, feeds r.outcome.reason = 0)) ∧
    ∀ (c : RunConfig) (ledger : Ledger) (batch : Batch) (done : List Completion) (s : Run.State)
      (polls : List PollTrace), Run.Finished c ledger batch done s → s.halted = none →
      ledger.KeepsToLines →
      lines (output line (.of batch polls s)) = (s.reports batch.keys).map Report.line := by
  refine ⟨fun t => ⟨lines_output hjson hmetrics t, length_lines_output hjson hmetrics t,
    lines_output_eq_iff hjson hmetrics t⟩, ?_⟩
  intro c ledger batch done s polls hfinished hhalted hledger
  refine (lines_output_eq_iff hjson hmetrics _).mpr fun r hr => ?_
  exact (hfinished.explained hhalted r hr).feeds_reason hledger

end Output

/-- Three messages make three lines on a ledger that gives no errors at all. -/
theorem output_lines_three :
    let c : RunConfig := { retry := .disabled }
    let ledger := Ledger.prompt fun _ => successStatus
    let s := Run.finish c Run.Batch.three.keys (Run.relayOn c ledger) Run.threeArrivals
    Run.Finished c ledger Run.Batch.three Run.threeArrivals s ∧ s.halted = none ∧
      ledger.KeepsToLines ∧
      lines (output {} (.of Run.Batch.three [] s)) =
        (s.reports Run.Batch.three.keys).map Report.line := by
  intro c ledger s
  have hfinished : Run.Finished c ledger Run.Batch.three Run.threeArrivals s :=
    Run.finished_three .abortRemaining fun _ => successStatus
  have hhalted : s.halted = none := Option.isNone_iff_eq_none.mp Run.outcomes_three.1
  have hledger : ledger.KeepsToLines := by
    refine ⟨?_, ?_, ?_⟩
    · rintro m start t e ⟨delay, ⟨⟩, -⟩
    · rintro m gas k start t e ⟨delay, ⟨⟩, -⟩
    · rintro m k start t e ⟨delay, ⟨⟩, -⟩
  exact ⟨hfinished, hhalted, hledger,
    (output_lines rfl rfl).2 c ledger Run.Batch.three _ s [] hfinished hhalted hledger⟩

end Program

/-! ### A line of the node's own -/

/-- The answer of a ledger that adds a line to its error. -/
def LedgerError.forging (text : String) : LedgerError :=
  .rpc ("boom" ++ "\n" ++ text)

/-- A ledger that is prompt but for the first message: when it is asked about that one, it answers
with an error of two lines, the second of which is a text of its choice. -/
def Ledger.forging (text : String) : Ledger :=
  { Ledger.prompt fun _ => successStatus with
    estimate := fun m _ =>
      if m = .sample 1 then .answer 0 (.error (.forging text)) else .answer 0 (.ok 0) }

namespace Run

/-- A run that is over with the first failure. -/
def shortRun : RunConfig :=
  { cancelOnAbort := true, retry := .disabled }

variable (text : String)

/-- The end of the first poll on such a ledger. -/
def forgingArrivals : List Completion :=
  [⟨0, 0, some (.failed (.pollFailed (PollError.estimate (.forging text)).message))⟩]

theorem arrivals_forging :
    Arrivals shortRun (.forging text) Batch.three (forgingArrivals text) where
  nodup := List.nodup_singleton 0
  lt d hd := by
    have hsize : 0 < Batch.three.size := by decide
    rw [List.mem_singleton.mp hd]
    exact hsize
  result d hd polled hpolled := by
    obtain rfl := List.mem_singleton.mp hd
    obtain rfl := Option.some.inj hpolled
    refine ⟨.sample 1, 1, .failed (.estimate (.forging text)), rfl, ?_, rfl⟩
    have harrives : ((Ledger.forging text).estimate (.sample 1) 0).Arrives 0 0
        (.error (.forging text)) := ⟨0, by simp [Ledger.forging], rfl⟩
    have hin : shortRun.schedule.InTime 0 := fun _ _ => Nat.zero_le _
    rw [Poll.observe_of_refusal (by decide) (by decide) harrives hin (by decide)]
    rfl

/-- The error is reported as it is, and its message blocks the other two. -/
theorem reports_forging (relay : FinalizedMessage → Nat → RelayTrace) (k₁ k₂ k₃ : MessageKey) :
    let s := drive shortRun [k₁, k₂, k₃] relay (forgingArrivals text)
    s.isOver shortRun = true ∧ s.halted = none ∧ s.reports [k₁, k₂, k₃] =
      [⟨k₁, .pollFailed (PollError.estimate (.forging text)).message⟩, ⟨k₂, .aborted k₁⟩,
        ⟨k₃, .aborted k₁⟩] :=
  ⟨rfl, rfl, rfl⟩

end Run

namespace Program

/-- The text of the ledger's choice stands behind a line feed of its own. -/
theorem exists_front_forging (k : MessageKey) (text : String) :
    ∃ front, Report.line ⟨k, .pollFailed (PollError.estimate (.forging text)).message⟩ =
      front ++ "\n" ++ text := by
  refine ⟨k.text ++ "\t" ++ ("poll failed: " ++ ("finality check estimate failed: " ++
    ("rpc error: " ++ "boom"))), ?_⟩
  show k.text ++ "\t" ++ ("poll failed: " ++ ("finality check estimate failed: " ++
    ("rpc error: " ++ ("boom" ++ "\n" ++ text)))) = _
  simp only [String.append_assoc, -String.reduceAppend]

/-- It is one line feed more than those of that text. -/
theorem feeds_forging (text : String) :
    feeds (PollError.estimate (.forging text)).message = feeds text + 1 := by
  have hown : feeds ("boom" ++ "\n") = 1 := by decide
  show feeds ("finality check estimate failed: " ++ ("rpc error: " ++ ("boom" ++ "\n" ++ text))) = _
  rw [Text.feeds_front (by decide), Text.feeds_front (by decide +kernel),
    Text.feeds_append, hown, Nat.add_comm]

/-- A text without line feeds is a line of the output of such a run, whatever it says. -/
theorem mem_lines_forging {text : String} (htext : feeds text = 0) {line : CommandLine}
    (hjson : line.json = false) (hmetrics : line.printMetrics = false) {t : Run.Trace}
    {k : MessageKey}
    (hreport : ⟨k, .pollFailed (PollError.estimate (.forging text)).message⟩ ∈ t.reports) :
    text ∈ lines (output line t) := by
  obtain ⟨front, hfront⟩ := exists_front_forging k text
  rw [lines_output hjson hmetrics, List.mem_flatMap]
  refine ⟨_, List.mem_map_of_mem hreport, ?_⟩
  rw [hfront, Text.parts_append_feed, Text.parts_eq_singleton htext]
  exact List.mem_append_right _ List.mem_cons_self

/-- **A node can add a line that reads like the report of a message.** Here the first one of three
messages fails in its poll, and the other two are aborted. The output has four lines, and one of
them says that the second message was relayed. -/
theorem forged_line :
    let forged : Report := ⟨(Message.sample 2).key, .relayed (Octets.replicate 32 7)⟩
    let ledger := Ledger.forging forged.line
    let done := Run.forgingArrivals forged.line
    let s := Run.drive Run.shortRun Run.Batch.three.keys (Run.relayOn Run.shortRun ledger) done
    let t := Run.Trace.of Run.Batch.three [] s
    Run.Finished Run.shortRun ledger Run.Batch.three done s ∧ s.halted = none ∧
      t.reports[1]? = some ⟨forged.key, .aborted (Message.sample 1).key⟩ ∧
      forged.line ∈ lines (output {} t) ∧
      (lines (output {} t)).length = 4 ∧ t.reports.length = 3 ∧
      lines (output {} t) ≠ t.reports.map Report.line := by
  intro forged ledger done s t
  obtain ⟨hover, hhalted, hreports⟩ := Run.reports_forging forged.line
    (Run.relayOn Run.shortRun ledger) (Message.sample 1).key forged.key (Message.sample 3).key
  have hover : s.isOver Run.shortRun = true := hover
  have hreports : t.reports = _ := hreports
  have hfinished : Run.Finished Run.shortRun ledger Run.Batch.three done s :=
    ⟨Run.arrivals_forging forged.line, Or.inl hover, by rw [Run.finish, if_pos hover]⟩
  have hfeeds : feeds forged.line = 0 := forged.feeds_line
  have hempty : feeds "" = 0 := rfl
  have hmem : forged.line ∈ lines (output {} t) :=
    mem_lines_forging hfeeds rfl rfl (by rw [hreports]; exact List.mem_cons_self)
  have hlength : (lines (output {} t)).length = 4 := by
    rw [length_lines_output rfl rfl, hreports]
    simp [Outcome.reason, feeds_forging, hfeeds, hempty]
  have hthree : t.reports.length = 3 := by
    rw [hreports]
    rfl
  refine ⟨hfinished, hhalted, by rw [hreports]; rfl, hmem, hlength, hthree, fun heq => ?_⟩
  have hcontra := congrArg List.length heq
  rw [hlength, List.length_map, hthree] at hcontra
  cases hcontra

end Program

end MessageRelay
