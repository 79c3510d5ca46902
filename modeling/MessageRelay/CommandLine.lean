import MessageRelay.Config.Value

/-!
# The command line

The arguments of the program: the hashes of source transactions, or a contract to send a triggering
transaction to, and options (`MessageRelay.CommandLine`).

Arguments are read from left to right (`MessageRelay.CommandLine.Reader.read`). An option with a
value takes it from behind an equality sign or from the next argument, which must not look like an
option itself. What an option or a row of hashes says is settled only when the next option comes or
the arguments end, so an unknown option is reported before a faulty value in front of it. When all
arguments have been read, it is checked that they go together
(`MessageRelay.CommandLine.Given.check`).
-/

namespace MessageRelay

/-- What the program is asked to do. -/
structure CommandLine where
  /-- The environment file to be read. -/
  envFile : String := ".env"
  /-- Whether the metrics are printed behind the run. -/
  printMetrics : Bool := false
  /-- The source transactions whose messages are relayed, in order. -/
  transactions : List Hash := []
  /-- The contract that a triggering transaction is sent to. -/
  triggerTo : Option Address := none
  /-- What the triggering transaction calls it with. -/
  triggerData : Option Bytes := none
  /-- Whether the log is written as JSON. -/
  jsonLogs : Bool := false
  /-- Whether the reports are printed as JSON. -/
  json : Bool := false
deriving DecidableEq, Inhabited

namespace CommandLine

/-- Why there is nothing to do. -/
inductive Refusal where
  /-- Two arguments exclude each other, or one is given twice. -/
  | conflict
  /-- A switch is given a value. -/
  | tooManyValues
  /-- An option is given no value. -/
  | missingValue
  /-- A value has a fault. -/
  | invalidValue
  /-- There is no such option. -/
  | unknown
  /-- An argument is missing. -/
  | missingArgument
  /-- The usage is asked for. -/
  | help
  /-- The version is asked for. -/
  | version
deriving DecidableEq, Inhabited

/-- The exit status for a refusal: an explanation that was asked for is a success. -/
def Refusal.exitStatus : Refusal → Nat
  | help | version => 0
  | _ => 2

/-! ### Options -/

/-- An option without a value. -/
inductive Switch where
  | printMetrics
  | jsonLogs
  | json
  | help
  | version
deriving DecidableEq

/-- An option with a value. -/
inductive Setting where
  | envFile
  | triggerTo
  | triggerData
deriving DecidableEq

/-- The switch of a name. -/
def Switch.ofName? (name : String) : Option Switch :=
  [("print-metrics", printMetrics), ("json-logs", jsonLogs), ("json", json), ("help", help),
   ("version", version)].lookup name

/-- The switch of a letter. -/
def Switch.ofLetter? : Char → Option Switch
  | 'h' => some help
  | 'V' => some version
  | _ => none

/-- The option with a value of a name. -/
def Setting.ofName? (name : String) : Option Setting :=
  [("env-file", envFile), ("trigger-to", triggerTo), ("trigger-data", triggerData)].lookup name

/-! ### What is given -/

/-- What has been settled so far. -/
structure Given where
  switches : List Switch := []
  envFile : Option String := none
  triggerTo : Option Address := none
  triggerData : Option Bytes := none
  transactions : List Hash := []
deriving Inhabited

namespace Given

/-- Settles a switch. -/
def switch (g : Given) : Switch → Except Refusal Given
  | .help => .error .help
  | .version => .error .version
  | s => if s ∈ g.switches then .error .conflict else .ok { g with switches := s :: g.switches }

/-- Settles an option with its value. The data of a transaction are the bytes of the text. -/
def setting (g : Given) (s : Setting) (value : String) : Except Refusal Given :=
  match s with
  | .envFile =>
    if g.envFile.isSome then .error .conflict
    else if value.isEmpty then .error .missingValue
    else .ok { g with envFile := some value }
  | .triggerTo =>
    if g.triggerTo.isSome then .error .conflict
    else
      match Octets.ofHex? 20 value with
      | some a => .ok { g with triggerTo := some a }
      | none => .error .invalidValue
  | .triggerData =>
    if g.triggerData.isSome then .error .conflict
    else .ok { g with triggerData := some (Bytes.ofText value) }

/-- Settles a row of hashes. -/
def hashes (g : Given) (values : List String) : Except Refusal Given :=
  match values.mapM (Octets.ofHex? 32) with
  | some hs => .ok { g with transactions := g.transactions ++ hs }
  | none => .error .invalidValue

/-- Checks that all belongs together: there are transactions or there is a contract to trigger, but
not both, and data are for a contract. When transactions are given, which exclude a contract, data
for it are passed over. -/
def check (g : Given) : Except Refusal CommandLine :=
  if !g.transactions.isEmpty ∧ g.triggerTo.isSome then .error .conflict
  else if g.transactions.isEmpty ∧ g.triggerTo.isNone then .error .missingArgument
  else .ok
    { envFile := g.envFile.getD ".env"
      printMetrics := g.switches.contains .printMetrics
      transactions := g.transactions
      triggerTo := g.triggerTo
      triggerData := g.triggerData
      jsonLogs := g.switches.contains .jsonLogs
      json := g.switches.contains .json }

end Given

/-! ### Reading -/

/-- What has been read but is not settled yet. -/
inductive Pending where
  | nothing
  /-- An option, with its value if that has been read. -/
  | setting (s : Setting) (value : Option String)
  /-- A row of hashes. -/
  | hashes (values : List String)

/-- What has been read. -/
structure Reader where
  given : Given := {}
  pending : Pending := .nothing

namespace Reader

/-- Settles what is pending. -/
def settle (r : Reader) : Except Refusal Given :=
  match r.pending with
  | .nothing => .ok r.given
  | .setting _ none => .error .missingValue
  | .setting s (some value) => r.given.setting s value
  | .hashes values => r.given.hashes values

/-- Reads a switch. -/
def switch (r : Reader) (s : Switch) : Except Refusal Reader := do
  pure { given := ← (← r.settle).switch s }

/-- Reads an option by its name, with the value that stands behind its equality sign. -/
def long (r : Reader) (name : String) (value : Option String) : Except Refusal Reader := do
  match Switch.ofName? name, Setting.ofName? name, value with
  | some _, _, some _ => .error .tooManyValues
  | some s, _, none => r.switch s
  | none, some s, some v => pure { given := ← (← r.settle).setting s v }
  | none, some s, none => pure { given := ← r.settle, pending := .setting s none }
  | none, none, _ => .error .unknown

/-- Reads switches by their letters. -/
def short (r : Reader) : List Char → Except Refusal Reader
  | [] => .ok r
  | c :: cs =>
    match Switch.ofLetter? c with
    | none => .error .unknown
    | some s => (r.switch s).bind (short · cs)

/-- Reads a hash. -/
def hash (r : Reader) (value : String) : Except Refusal Reader :=
  match r.pending with
  | .hashes values => .ok { r with pending := .hashes (values ++ [value]) }
  | _ => do pure { given := ← r.settle, pending := .hashes [value] }

/-- Reads an argument that does not look like an option. -/
def plain (r : Reader) (value : String) : Except Refusal Reader :=
  match r.pending with
  | .setting s none => .ok { r with pending := .setting s (some value) }
  | _ => r.hash value

/-- Reads arguments; behind `--` all of them are hashes. -/
def read (r : Reader) : List String → Except Refusal Reader
  | [] => .ok r
  | arg :: args =>
    match arg.toList with
    | ['-', '-'] => args.foldlM hash r
    | '-' :: '-' :: option =>
      match option.span (· != '=') with
      | (name, []) => (r.long (String.ofList name) none).bind (read · args)
      | (name, _ :: value) =>
        (r.long (String.ofList name) (some (String.ofList value))).bind (read · args)
    | '-' :: c :: letters => (r.short (c :: letters)).bind (read · args)
    | _ => (r.plain arg).bind (read · args)

end Reader

/-- What a list of arguments asks for. -/
def parse (args : List String) : Except Refusal CommandLine := do
  (← (← Reader.read {} args).settle).check

end CommandLine

end MessageRelay
