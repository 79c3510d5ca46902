import MessageRelay.Environment
import MessageRelay.Text.Alphanumeric
import MessageRelay.Text.Blank

/-!
# Environment files

A file of assignments `NAME=value` that adds to an environment what it does not have yet
(`MessageRelay.Environment.extend?`).

The file is first cut into entries, because a quoted value may go on over several lines
(`MessageRelay.EnvironmentFile.entries?`), and then each entry is read
(`MessageRelay.EnvironmentFile.Entry.read?`). Both look at quotes and backslashes, and not quite in
the same way: a backslash in single quotes takes part in the cutting but not in the reading.

In a value, text in single quotes stands as it is. Elsewhere a backslash makes the next character
stand for itself, and `$NAME` and `${NAME}` stand for the value of a variable. A blank outside
quotes ends the value, and only a comment may follow.
-/

namespace MessageRelay

namespace EnvironmentFile

/-! ### Entries -/

/-- Where one is in an entry, as far as its end is concerned. -/
inductive Place where
  /-- In bare text. -/
  | bare
  /-- Behind a blank in bare text. -/
  | blank
  /-- Behind a backslash in bare text. -/
  | escape
  /-- In double quotes, behind a backslash or not. -/
  | double (escaped : Bool)
  /-- In single quotes, behind a backslash or not. -/
  | single (escaped : Bool)
deriving DecidableEq

/-- The place behind a character of bare text. -/
def Place.behind (c : Char) : Place :=
  if c = '\\' then .escape
  else if c = '"' then .double false
  else if c = '\'' then .single false
  else .bare

/-- The place behind a character, or nothing if a comment starts with it. -/
def Place.next? (c : Char) : Place → Option Place
  | bare => some (if Text.isBlank c && c != '\n' && c != '\r' then blank else behind c)
  | blank => if c = '#' then none else some (behind c)
  | escape => some bare
  | double true => some (double false)
  | double false => some (if c = '\\' then double true else if c = '"' then bare else double false)
  | single true => some (single false)
  | single false => some (if c = '\\' then single true else if c = '\'' then bare else single false)

/-- The characters of a line in front of a comment, and the place behind the line, which is absent
if a comment ends it. -/
def scan (place : Place) : List Char → List Char × Option Place
  | [] => ([], some place)
  | c :: cs =>
    match place.next? c with
    | none => ([], none)
    | some place =>
      let (front, place) := scan place cs
      (c :: front, place)

/-- The lines of a text, each with the line end that it has. -/
def lines (cs : List Char) : List (List Char) :=
  cs.foldr (fun c ls =>
    if c = '\n' then ['\n'] :: ls
    else match ls with
      | l :: ls => (c :: l) :: ls
      | [] => [[c]]) []

/-- A line without the line end that it has. -/
def dropLineEnd (line : List Char) : List Char :=
  match line.reverse with
  | '\n' :: '\r' :: front | '\n' :: front => front.reverse
  | _ => line

/-- The entries of the lines, the first of which continues what is open at a place. Lines that are
comments are no entries. An entry that does not end is an error. -/
def entriesFrom? (start : List Char) (place : Place) : List (List Char) → Option (List (List Char))
  | [] => if place = .bare then some [] else none
  | line :: rest =>
    if ((start ++ line).dropWhile Text.isBlank).head? = some '#' then entriesFrom? [] .bare rest
    else
      match scan place line with
      | (front, none) => (entriesFrom? [] .bare rest).map ((start ++ front) :: ·)
      | (_, some .bare) =>
        (entriesFrom? [] .bare rest).map (dropLineEnd (start ++ line) :: ·)
      | (_, some place) => entriesFrom? (start ++ line) place rest

/-- The entries of a file. A byte order mark in front of them is passed over. -/
def entries? (file : String) : Option (List (List Char)) :=
  match file.toList with
  | '\ufeff' :: cs => entriesFrom? [] .bare (lines cs)
  | cs => entriesFrom? [] .bare (lines cs)

/-! ### Values -/

/-- Where one is in a value. -/
inductive ValuePlace where
  /-- In bare text, or in double quotes. -/
  | text (quoted : Bool)
  /-- In single quotes. -/
  | single
  /-- Behind a backslash. -/
  | escape (quoted : Bool)
  /-- In the name of a variable, which has been read so far, last character first. -/
  | name (quoted : Bool) (name : List Char)
  /-- In a name in braces. -/
  | braced (quoted : Bool) (name : List Char)
  /-- Behind the value. -/
  | behind
deriving DecidableEq

/-- Reads the rest of a value from a place on, when the variables have the values that `get` gives.
The value so far is given last character first. -/
def readValue? (get : List Char → List Char) (value : List Char) :
    ValuePlace → List Char → Option (List Char)
  | .text false, [] | .escape false, [] | .behind, [] => some value.reverse
  | .name false name, [] => some (value.reverse ++ get name.reverse)
  | _, [] => none
  | .behind, c :: cs =>
    if c = ' ' ∨ c = '\t' then readValue? get value .behind cs
    else if c = '#' then some value.reverse
    else none
  | .escape quoted, c :: cs =>
    if c ∈ ['\\', '\'', '"', '$', ' '] then readValue? get (c :: value) (.text quoted) cs
    else if c = 'n' then readValue? get ('\n' :: value) (.text quoted) cs
    else none
  | .single, c :: cs =>
    if c = '\'' then readValue? get value (.text false) cs
    else readValue? get (c :: value) .single cs
  | .name quoted name, c :: cs =>
    if Text.isAlphanumeric c then readValue? get value (.name quoted (c :: name)) cs
    else if c = '\x7b' ∧ name = [] then readValue? get value (.braced quoted []) cs
    else
      let value := (get name.reverse).reverse ++ value
      if c = '$' then readValue? get value (.name quoted []) cs
      else readValue? get (c :: value) (.text quoted) cs
  | .braced quoted name, c :: cs =>
    if c = '\x7d' then readValue? get ((get name.reverse).reverse ++ value) (.text quoted) cs
    else readValue? get value (.braced quoted (c :: name)) cs
  | .text true, c :: cs =>
    if c = '$' then readValue? get value (.name true []) cs
    else if c = '"' then readValue? get value (.text false) cs
    else if c = '\\' then readValue? get value (.escape true) cs
    else readValue? get (c :: value) (.text true) cs
  | .text false, c :: cs =>
    if c = '$' then readValue? get value (.name false []) cs
    else if c = '\'' then readValue? get value .single cs
    else if c = '"' then readValue? get value (.text true) cs
    else if c = '\\' then readValue? get value (.escape false) cs
    else if c = ' ' ∨ c = '\t' then readValue? get value .behind cs
    else readValue? get (c :: value) (.text false) cs

/-! ### Assignments -/

/-- The name at the front of an entry, and what stands behind it. -/
def splitName? (cs : List Char) : Option (List Char × List Char) :=
  if cs.head?.any fun c => c.isAlpha || c == '_' then
    some (cs.span fun c => c.isAlphanum || c == '_' || c == '.')
  else none

/-- The name of an assignment, and what stands behind its equality sign. The word `export` may stand
in front of the name; it may also be the name. -/
def splitAssignment? (cs : List Char) : Option (List Char × List Char) := do
  let (name, rest) ← splitName? cs
  match rest.dropWhile Text.isBlank with
  | '=' :: rest => some (name, rest)
  | rest =>
    if name = "export".toList then
      let (name, rest) ← splitName? rest
      match rest.dropWhile Text.isBlank with
      | '=' :: rest => some (name, rest)
      | _ => none
    else none

/-- What an entry does to an environment: nothing if it is empty, else it sets a variable. -/
def perform? (env : Environment) (entry : List Char) : Option Environment :=
  match Text.trimChars entry with
  | [] => some env
  | '#' :: _ => some env
  | cs => do
    let (name, rest) ← splitAssignment? cs
    let get := fun name => ((env.text? (String.ofList name)).getD "").toList
    let value ←
      match rest.dropWhile Text.isBlank with
      | [] | '#' :: _ => some []
      | cs => readValue? get [] (.text false) cs
    some (env.setNew (String.ofList name) (String.ofList value))

end EnvironmentFile

/-- What stands at the path of a file. -/
inductive FileContent where
  /-- Nothing. -/
  | absent
  /-- Something that is no file, or one that may not be read. -/
  | unreadable
  /-- A file. -/
  | bytes (content : Bytes)
deriving Inhabited

/-- The environment with what a file adds to it, if the file can be read. -/
def Environment.extend? (env : Environment) : FileContent → Option Environment
  | .absent => some env
  | .unreadable => none
  | .bytes content => do
    let text ← Bytes.text? content
    (← EnvironmentFile.entries? text).foldlM EnvironmentFile.perform? env

end MessageRelay
