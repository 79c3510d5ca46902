import MessageRelay.Text.Blank
import MessageRelay.Text.Lowercase

/-!
# Failure policies

What becomes of the later messages of a run when one fails.
-/

namespace MessageRelay

/-- What happens behind a failure. -/
inductive FailurePolicy where
  /-- Later messages are not submitted any more. -/
  | abortRemaining
  /-- Later messages are relayed all the same. -/
  | skipAndContinue
deriving DecidableEq, Inhabited

namespace FailurePolicy

/-- The policy's short name. -/
def text : FailurePolicy → String
  | abortRemaining => "abort"
  | skipAndContinue => "skip"

/-- The policy's full name. -/
def title : FailurePolicy → String
  | abortRemaining => "AbortRemaining"
  | skipAndContinue => "SkipAndContinue"

/-- All names of the policy. -/
def names : FailurePolicy → List String
  | abortRemaining => ["abort", "abort-remaining"]
  | skipAndContinue => ["skip", "skip-and-continue"]

/-- Reads a policy from one of its names, in any letter case and with white space around it. The
error is the text that was looked up. -/
def read (s : String) : Except String FailurePolicy :=
  let name := Text.lowercase (Text.trim s)
  if name ∈ names abortRemaining then .ok abortRemaining
  else if name ∈ names skipAndContinue then .ok skipAndContinue
  else .error name

/-- What is wrong with a text that names no policy. -/
def unknownMessage (name : String) : String :=
  "unknown failure policy '" ++ name ++ "', expected 'abort' or 'skip'"

end FailurePolicy

end MessageRelay
