import MessageRelay.Text.Blank
import MessageRelay.Url.Host

/-!
# URLs

Of a URL (`MessageRelay.Url`) this library needs its scheme, its host and its port. They are read as
the URL Standard says (`MessageRelay.Url.parse`): control characters and spaces at the ends are
dropped, tabs and line ends everywhere; the scheme ends at the first colon; the authority ends at
the first slash, question mark or number sign; what stands in front of its last `@` are credentials;
and a port that is the scheme's own is no port.

A URL is shown as scheme, host and port (`MessageRelay.Url.redact`), because credentials, path and
query may hold secrets.
-/

namespace MessageRelay

/-- The parts of a URL that say where it leads. -/
structure Url where
  /-- The scheme, in lower case. -/
  scheme : List Char
  /-- The host, if there is one. -/
  host : Option Url.Host
  /-- The port, unless it is the scheme's own. -/
  port : Option Nat
deriving DecidableEq, Inhabited

namespace Url

/-! ### Schemes -/

/-- How a scheme's URLs are read. -/
inductive SchemeKind where
  /-- A scheme of the web, with a host and a port of its own. -/
  | web (port : Nat)
  /-- Files, with or without a host. -/
  | file
  /-- Any other scheme. -/
  | other
deriving DecidableEq

/-- The kind of a scheme. -/
def SchemeKind.of (scheme : List Char) : SchemeKind :=
  let known : List (String × SchemeKind) :=
    [("http", .web 80), ("https", .web 443), ("ws", .web 80), ("wss", .web 443), ("ftp", .web 21),
     ("file", .file)]
  (known.lookup (String.ofList scheme)).getD .other

/-- The characters that URLs are read from: without tabs and line ends, and without control
characters and spaces at the ends. -/
def clean (cs : List Char) : List Char :=
  let trimmed := ((cs.dropWhile (· ≤ ' ')).reverse.dropWhile (· ≤ ' ')).reverse
  trimmed.filter fun c => !(c == '\t' || c == '\n' || c == '\r')

/-- Whether a character may stand in a scheme. -/
def isSchemeChar (c : Char) : Bool :=
  c.isAlphanum || c == '+' || c == '-' || c == '.'

/-- The scheme, in lower case, and what stands behind its colon. -/
def splitScheme (cs : List Char) : Option (List Char × List Char) :=
  match cs.span isSchemeChar with
  | (scheme, ':' :: rest) =>
    if scheme.head?.any Char.isAlpha then some (scheme.map Char.toLower, rest) else none
  | _ => none

/-! ### Authorities -/

/-- Whether a character ends the authority; a backslash does in the web's own schemes. -/
def endsAuthority (isWeb : Bool) (c : Char) : Bool :=
  c == '/' || c == '?' || c == '#' || (isWeb && c == '\\')

/-- The credentials in front of the last `@`, if there is one, and what stands behind it. -/
def splitCredentials (authority : List Char) : Option (List Char) × List Char :=
  match authority.reverse.span (· != '@') with
  | (behind, _ :: front) => (some front.reverse, behind.reverse)
  | (_, []) => (none, authority)

/-- The host, and from the first colon outside brackets on the port. -/
def splitPort (inBrackets : Bool) : List Char → List Char × List Char
  | [] => ([], [])
  | c :: cs =>
    if c = ':' ∧ !inBrackets then ([], c :: cs)
    else
      let inside := if c = '[' then true else if c = ']' then false else inBrackets
      let (host, port) := splitPort inside cs
      (c :: host, port)

/-- Reads a port behind its colon. There may be no digits. Outside the web's own schemes a backslash
may follow. -/
def readPort (cs : List Char) : Except UrlError (Option Nat) :=
  let (digits, rest) := cs.span Char.isDigit
  let port := digits.foldl (fun n c => 10 * n + (c.toNat - 48)) 0
  if 65535 < port then .error .invalidPort
  else
    match rest with
    | [] | '\\' :: _ => .ok (if digits.isEmpty then none else some port)
    | _ => .error .invalidPort

/-- Reads host and port of a web scheme. -/
def readWeb (scheme : List Char) (ownPort : Nat) (cs : List Char) : Except UrlError Url := do
  let authority := cs.takeWhile (!endsAuthority true ·)
  let (host, port) := splitPort false (splitCredentials authority).2
  if host.isEmpty then .error .emptyHost
  let host ← Host.read host
  let port ← readPort (port.drop 1)
  pure { scheme, host := some host, port := port.filter (· != ownPort) }

/-- Reads host and port of a scheme that is none of the web's own. Credentials need a host, and so
does a port. -/
def readOther (scheme : List Char) (cs : List Char) : Except UrlError Url := do
  let authority := cs.takeWhile (!endsAuthority false ·)
  let (credentials, rest) := splitCredentials authority
  let (name, port) := splitPort false rest
  let host ← Host.readOpaque name
  if name.isEmpty then
    let bare := authority = ['@'] ∧ authority.length < cs.length
    if !port.isEmpty ∨ bare ∨ credentials.any (fun c => !c.isEmpty ∧ c ≠ [':']) then
      .error .emptyHost
    else pure { scheme, host := none, port := none }
  else
    let port ← readPort (port.drop 1)
    pure { scheme, host := some host, port }

/-! ### Files -/

/-- Whether a text is the letter of a drive. -/
def isDriveLetter : List Char → Bool
  | [c, d] => c.isAlpha && (d == ':' || d == '|')
  | _ => false

/-- A segment of a path in which points are written as such. -/
def plainPoints : List Char → List Char
  | '%' :: '2' :: 'e' :: cs | '%' :: '2' :: 'E' :: cs => '.' :: plainPoints cs
  | c :: cs => c :: plainPoints cs
  | [] => []

/-- Whether the first segment of a path, dots resolved, is a drive's letter. `depth` segments stand
in front of those given. -/
def startsWithDrive (depth : Nat) : List (List Char) → Bool
  | [] => false
  | segment :: rest =>
    let points := plainPoints segment
    if points = ['.'] then startsWithDrive depth rest
    else if points = ['.', '.'] then startsWithDrive (depth - 1) rest
    else (depth == 0 && isDriveLetter segment) || startsWithDrive (depth + 1) rest

/-- Whether a character is a slash of either kind. -/
def isSlash (c : Char) : Bool :=
  c == '/' || c == '\\'

/-- Reads the host of a file. The local host is no host, and a path that starts with the letter of a
drive has none. -/
def readFile (scheme : List Char) (cs : List Char) : Except UrlError Url := do
  let (name, rest) := cs.span (!endsAuthority true ·)
  let nowhere : Url := { scheme, host := none, port := none }
  if name.isEmpty || isDriveLetter name then pure nowhere
  else
    let host ← Host.read name
    let path := (rest.drop 1).takeWhile fun c => !(c == '?' || c == '#')
    let segments := if rest.head?.any isSlash then Text.splitAt isSlash path else []
    if host = .domain "localhost".toList || startsWithDrive 0 segments then pure nowhere
    else pure { scheme, host := some host, port := none }

/-! ### URLs -/

/-- Reads a URL. -/
def parse (s : String) : Except UrlError Url :=
  match splitScheme (clean s.toList) with
  | none => .error .relative
  | some (scheme, rest) =>
    match SchemeKind.of scheme with
    | .web ownPort => readWeb scheme ownPort (rest.dropWhile isSlash)
    | .file =>
      match rest with
      | a :: b :: rest =>
        if isSlash a && isSlash b then readFile scheme rest
        else .ok { scheme, host := none, port := none }
      | _ => .ok { scheme, host := none, port := none }
    | .other =>
      match rest with
      | '/' :: '/' :: rest => readOther scheme rest
      | _ => .ok { scheme, host := none, port := none }

/-- The scheme, the host and the port of a URL. -/
def origin (u : Url) : List Char :=
  u.scheme ++ "://".toList ++
    match u.host with
    | none => "<no host>".toList
    | some host => host.chars ++ (u.port.elim [] fun n => ':' :: Nat.toDigits 10 n)

/-- What is shown of a text that should be a URL. -/
def redact (s : String) : String :=
  match parse (Text.trim s) with
  | .ok u => String.ofList u.origin
  | .error _ => "<invalid url>"

end Url

end MessageRelay
