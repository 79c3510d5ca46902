import MessageRelay.Json

/-!
# Secrets

A value that is shown nowhere (`MessageRelay.Redacted`): whatever it is, its written forms are one
and the same placeholder.
-/

namespace MessageRelay

/-- A value that is kept out of all output. -/
structure Redacted (α : Type) where
  /-- The value itself. -/
  secret : α
deriving DecidableEq, Inhabited, BEq

namespace Redacted

variable {α : Type}

/-- What stands for every secret. -/
def placeholder : String := "<redacted>"

/-- A secret as text. -/
def text (_ : Redacted α) : String :=
  placeholder

/-- A secret as JSON. -/
def toJson (_ : Redacted α) : Json :=
  .string placeholder

end Redacted

end MessageRelay
