import MessageRelay.Decimal.Shortest
import MessageRelay.Outcome

/-!
# Metrics

While a run goes on it records events (`MessageRelay.Metrics.Event`). A registry
(`MessageRelay.Metrics.Registry`) sums them up in five metrics: three counters, one of them broken
down by outcome, and two histograms of times in seconds. A metric exists from its first event on.

`MessageRelay.Metrics.Registry.render` writes the registry as text lines: metrics in the order of
their names, each with a line of help and a line of type, the buckets of a histogram cumulative.
-/

namespace MessageRelay

namespace Metrics

/-- Something that is counted. -/
inductive Event where
  /-- A batch of this many messages was extracted. -/
  | extracted (count : Nat)
  /-- A message ended with an outcome. -/
  | outcome (outcome : Outcome)
  /-- A finality query was issued. -/
  | pollAttempt
  /-- Finality was observed after this many seconds. -/
  | finalityWait (seconds : Float)
  /-- A relay transaction got its receipt after this many seconds. -/
  | relayLatency (seconds : Float)
deriving Inhabited

/-- Everything counted so far. -/
structure Registry where
  /-- Messages extracted, rounded to 53 bits with every addition. -/
  extracted : Option Nat := none
  /-- The labels of all outcomes, latest first. -/
  outcomes : List String := []
  /-- Finality queries issued. -/
  pollAttempts : Nat := 0
  /-- All times until finality, latest first. -/
  finalityWaits : List Float := []
  /-- All times until a receipt, latest first. -/
  relayLatencies : List Float := []
deriving Inhabited

namespace Registry

/-- Takes one event in. -/
def record (r : Registry) : Event → Registry
  | .extracted n =>
    { r with extracted := some (Decimal.round53 (r.extracted.getD 0 + Decimal.round53 n)) }
  | .outcome o => { r with outcomes := o.label :: r.outcomes }
  | .pollAttempt => { r with pollAttempts := r.pollAttempts + 1 }
  | .finalityWait s => { r with finalityWaits := s :: r.finalityWaits }
  | .relayLatency s => { r with relayLatencies := s :: r.relayLatencies }

/-- The registry after some events. -/
def ofEvents (events : List Event) : Registry :=
  events.foldl record {}

end Registry

/-! ### Samples -/

/-- One value of a metric. -/
structure Sample where
  /-- The metric's name, its ending and its label. -/
  name : String
  /-- The value, as it is written. -/
  value : String
deriving DecidableEq, Inhabited

/-- A metric: what it is called, what it tells, of which type it is, and its values. -/
structure Family where
  /-- The name. -/
  name : String
  /-- What the metric tells. -/
  help : String
  /-- Either `counter` or `histogram`. -/
  type : String
  /-- The values, in order. -/
  samples : List Sample
deriving DecidableEq, Inhabited

/-- A name with one label. -/
def labelled (name label value : String) : String :=
  name ++ "\x7b" ++ label ++ "=\"" ++ value ++ "\"\x7d"

/-- The samples of a histogram: for each bound how many observations do not exceed it, and then the
sum and the number of all. -/
def histogramSamples (name : String) (bounds : List Float) (latestFirst : List Float) :
    List Sample :=
  let bucket := fun (bound : String) (count : Nat) =>
    (⟨labelled (name ++ "_bucket") "le" bound, Decimal.ofCount count⟩ : Sample)
  bounds.map (fun b => bucket (Decimal.ofFloat b) (latestFirst.countP (· ≤ b)))
    ++ [bucket "+Inf" latestFirst.length,
        ⟨name ++ "_sum", Decimal.ofFloat (latestFirst.foldr (fun s sum => sum + s) 0)⟩,
        ⟨name ++ "_count", Decimal.ofCount latestFirst.length⟩]

/-- The bounds of the time until finality. -/
def finalityWaitBounds : List Float := [0.5, 1, 2, 5, 10, 30, 60, 120]

/-- The bounds of the time until a receipt. -/
def relayLatencyBounds : List Float := [0.1, 0.5, 1, 2, 5, 10, 30]

/-- The labels of outcomes, in the order in which they are written. -/
def outcomeLabels : List String :=
  ["aborted", "finality_timeout", "poll_failed", "relay_failed", "relayed"]

namespace Registry

/-- The metrics that exist, in the order of their names. -/
def families (r : Registry) : List Family :=
  let wait := "xchain_relay_finality_wait_seconds"
  let extracted := "xchain_relay_messages_extracted_total"
  let outcomes := "xchain_relay_outcomes_total"
  let attempts := "xchain_relay_poll_attempts_total"
  let latency := "xchain_relay_relay_latency_seconds"
  let all : List Family :=
    [⟨wait, "Time from the first finality query until finality was observed", "histogram",
      if r.finalityWaits.isEmpty then []
      else histogramSamples wait finalityWaitBounds r.finalityWaits⟩,
     ⟨extracted, "Total number of cross-chain messages extracted from source receipts", "counter",
      (r.extracted.map fun n => ⟨extracted, Decimal.ofCount n⟩).toList⟩,
     ⟨outcomes, "Terminal outcomes per message", "counter",
      (outcomeLabels.filter r.outcomes.contains).map fun label =>
        ⟨labelled outcomes "outcome" label, Decimal.ofCount (r.outcomes.count label)⟩⟩,
     ⟨attempts, "Total number of finality queries issued", "counter",
      if r.pollAttempts = 0 then [] else [⟨attempts, Decimal.ofCount r.pollAttempts⟩]⟩,
     ⟨latency, "Time to submit a relay transaction and obtain its receipt", "histogram",
      if r.relayLatencies.isEmpty then []
      else histogramSamples latency relayLatencyBounds r.relayLatencies⟩]
  all.filter fun f => !f.samples.isEmpty

/-- The registry as lines of text. -/
def render (r : Registry) : List String :=
  r.families.flatMap fun f =>
    ("# HELP " ++ f.name ++ " " ++ f.help) :: ("# TYPE " ++ f.name ++ " " ++ f.type)
      :: f.samples.map fun s => s.name ++ " " ++ s.value

end Registry

end Metrics

end MessageRelay
