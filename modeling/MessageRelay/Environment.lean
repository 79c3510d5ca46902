import MessageRelay.Bytes

/-!
# Environments

The variables that a process is given (`MessageRelay.Environment`). The value of a variable is a
byte string; one that is no text cannot be read (`MessageRelay.Environment.text?`).
-/

namespace MessageRelay

/-- Names and values of variables. Of two variables with one name the first one counts. -/
abbrev Environment := List (String × Bytes)

namespace Environment

/-- The value of a variable, if it is set to a text. -/
def text? (env : Environment) (name : String) : Option String :=
  (env.lookup name).bind Bytes.text?

/-- The environment with a variable set to a text. -/
def set (env : Environment) (name value : String) : Environment :=
  (name, Bytes.ofText value) :: env

/-- The environment with a variable set to a text unless it has one already. -/
def setNew (env : Environment) (name value : String) : Environment :=
  if (env.text? name).isSome then env else env.set name value

end Environment

end MessageRelay
