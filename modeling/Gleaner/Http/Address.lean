import Gleaner.Http.HostName
import Gleaner.Number.Numeral
import Gleaner.Pattern.Match
import Gleaner.Pattern.Parse
import Gleaner.Url.Basic
import Gleaner.Url.Query

/-! # Addresses of requests

The address a request is sent to: scheme and host in small letters, the host in ASCII, no port where
the scheme implies it, no dot segments in the path, and everything that may not stand bare behind
percent signs. -/

namespace Gleaner.Http

/-- An address. -/
structure Address where
  scheme : List Char
  user : List Char
  host : List Char
  port : Option Int
  path : List Char
  query : Option (List Char)
  fragment : Option (List Char)
  deriving DecidableEq, Repr

/-- What makes a text no address. -/
inductive AddressFault where
  | tooLong
  | control (c : Char) (position : Nat)
  | badIpv4 (host : String)
  | badIpv6 (host : String)
  | badName (host : String)
  | badPort (port : String)
  | pathWithoutSlash
  | pathOfSlashes
  | pathOfColon
  deriving DecidableEq, Repr

/-- The wording of a fault. -/
def AddressFault.message : AddressFault → String
  | tooLong => "URL too long"
  | control c position =>
    s!"Invalid non-printable ASCII character in URL, {Text.quoted c.toString} at position {position}."
  | badIpv4 host => s!"Invalid IPv4 address: {Text.quoted host}"
  | badIpv6 host => s!"Invalid IPv6 address: {Text.quoted host}"
  | badName host => s!"Invalid IDNA hostname: {Text.quoted host}"
  | badPort port => s!"Invalid port: {Text.quoted port}"
  | pathWithoutSlash => "For absolute URLs, path must be empty or begin with '/'"
  | pathOfSlashes => "Relative URLs cannot have a path starting with '//'"
  | pathOfColon => "Relative URLs cannot have a path starting with ':'"

namespace Address

/-! ## Characters behind percent signs -/

/-- Signs that stand bare in no part of an address. -/
def neverBare : List Char := [' ', '"', '<', '>']

/-- Whether a character is printable in ASCII and not among some signs. -/
def isBare (signs : List Char) (c : Char) : Bool :=
  0x20 ≤ c.toNat && c.toNat < 0x7f && !(neverBare ++ signs).contains c

/-- Characters that stand bare in a path. -/
def isPathChar : Char → Bool := isBare ['#', '?', '\x60', '\x7b', '\x7d']

/-- Characters that stand bare in a query. -/
def isQueryChar : Char → Bool := isBare ['#']

/-- Characters that stand bare in a fragment. -/
def isFragmentChar : Char → Bool := isBare ['\x60']

/-- Characters that stand bare before the host. -/
def isUserChar : Char → Bool :=
  isBare ['#', '?', '\x60', '\x7b', '\x7d', '/', ';', '=', '@', '[', '\\', ']', '^', '|']

/-- Characters that stand bare in the name of a host. -/
def isHostChar (c : Char) : Bool :=
  c.isAlphanum || ("-._~!$&'()*+,;=".toList ++ ['"', '\x60', '\x7b', '\x7d', '%', '|', '\\']).contains c

/-- A text with all characters that may not stand bare behind percent signs. What is behind one
already stays. -/
def encode (isBareHere : Char → Bool) : List Char → List Char
  | '%' :: a :: b :: r =>
    if (Text.hexValue? a).isSome && (Text.hexValue? b).isSome then
      '%' :: a :: b :: encode isBareHere r
    else (if isBareHere '%' then ['%'] else Url.percent 0x25) ++ encode isBareHere (a :: b :: r)
  | c :: r =>
    (if isBareHere c then [c] else (Url.utf8 c).flatMap Url.percent) ++ encode isBareHere r
  | [] => []

/-! ## Parts -/

/-- The form of four numbers between single characters. -/
def fourNumbers : Except Pattern.Fault Pattern.Compiled :=
  Pattern.parse "^[0-9]+.[0-9]+.[0-9]+.[0-9]+$"

/-- Whether a host has the form of an address of four numbers. -/
def looksLikeIpv4 (host : List Char) : Bool :=
  match fourNumbers with
  | .ok p => (Pattern.search p.node host).isSome
  | .error _ => false

/-- The host as it is sent. -/
def readHost (names : NameRules) (host : List Char) : Except AddressFault (List Char) :=
  if host = [] then .ok []
  else if looksLikeIpv4 host then
    if Url.isIpv4 host then .ok host else .error (.badIpv4 (.ofList host))
  else if host.head? = some '[' ∧ host.getLast? = some ']' then
    let inner := host.tail.dropLast
    if Url.isIpv6 inner then .ok inner else .error (.badIpv6 (.ofList host))
  else if host.all (·.val < 128) then .ok (encode isHostChar (host.map Char.toLower))
  else match names.toAscii (Text.lower host) with
    | some sent => .ok sent
    | none => .error (.badName (.ofList host))

/-- The port that a scheme implies. -/
def impliedPort : String → Option Int
  | "ftp" => some 21
  | "http" | "ws" => some 80
  | "https" | "wss" => some 443
  | _ => none

/-- The port, unless the scheme implies it. -/
def readPort (scheme : String) (port : List Char) : Except AddressFault (Option Int) :=
  if port = [] then .ok none
  else match Numeral.readInt port with
    | .ok n => .ok (if impliedPort scheme = some n then none else some n)
    | .error _ => .error (.badPort (.ofList port))

/-- A path without dot segments. -/
def plainPath (path : List Char) : List Char :=
  let segments := Text.splitOn '/' path
  if segments.any Url.isDot then
    let kept := segments.foldl (fun kept s =>
      if s = ['.'] then kept
      else if s = ['.', '.'] then if kept = [[]] then kept else kept.tail
      else s :: kept) []
    Text.join ['/'] kept.reverse
  else path

/-- The scheme in front of an address, if it has the form of one, and what follows it. -/
def takeScheme (s : List Char) : List Char × List Char :=
  let before := s.takeWhile Url.isSchemeChar
  match s.drop before.length with
  | ':' :: rest =>
    if before = [] || before.head?.any Char.isAlpha then (before, rest) else ([], s)
  | _ => ([], s)

/-- The parts of an authority: what stands before the host, the host, and the port. -/
def splitAuthority (s : List Char) : List Char × List Char × List Char :=
  let (user, rest) := (Text.cutAtLast? '@' s).getD ([], s)
  let host :=
    if rest.head? = some '[' ∧ rest.contains ']' then
      match Text.cutAtLast? ']' rest with
      | some (inside, _) => inside ++ [']']
      | none => []
    else rest.takeWhile fun c => c ≠ ':' ∧ c ≠ '@'
  match rest.drop host.length with
  | ':' :: port => (user, host, port)
  | port => (user, host, port)

/-- Checks a path against what stands before it. -/
def checkPath (path : List Char) (hasScheme hasAuthority : Bool) : Except AddressFault Unit :=
  if hasAuthority ∧ path ≠ [] ∧ path.head? ≠ some '/' then .error .pathWithoutSlash
  else if !hasScheme && !hasAuthority then
    if ['/', '/'].isPrefixOf path then .error .pathOfSlashes
    else if path.head? = some ':' then .error .pathOfColon
    else .ok ()
  else .ok ()

/-- The length up to which an address, or a part that is put into one, is read. -/
def longest : Nat := 65536

/-- Checks that a text holds no control characters of ASCII. -/
def checkControls (s : List Char) : Except AddressFault Unit :=
  match s.findIdx? fun c => c.toNat < 0x20 || c.toNat = 0x7f with
  | some i => .error (.control (s.getD i ' ') i)
  | none => .ok ()

/-- Checks a text that an address or a part of one is read from. -/
def checkPart (s : List Char) : Except AddressFault Unit := do
  if s.length > longest then throw .tooLong
  checkControls s

/-- Reads an address. -/
def read (names : NameRules) (text : String) : Except AddressFault Address := do
  let s := text.toList
  checkPart s
  let (scheme, s) := takeScheme s
  let (authority, s) := match s with
    | '/' :: '/' :: r => (r.takeWhile (!Url.endsNetloc ·), r.dropWhile (!Url.endsNetloc ·))
    | s => ([], s)
  let (s, fragment) := Text.cutAt '#' s
  let (path, query) := Text.cutAt '?' s
  let (user, host, port) := splitAuthority authority
  let user := encode isUserChar user
  let host ← readHost names host
  let port ← readPort (.ofList scheme) port
  let hasScheme := scheme ≠ []
  let hasAuthority := user ≠ [] || host ≠ [] || port.isSome
  checkPath path hasScheme hasAuthority
  let path := if hasScheme || hasAuthority then plainPath path else path
  return {
    scheme := scheme.map Char.toLower, user, host, port
    path := encode isPathChar path
    query := query.map (encode isQueryChar)
    fragment := fragment.map (encode isFragmentChar) }

/-- A host as it is written: numbers with colons between them stand in brackets. -/
def writtenHost (host : List Char) : List Char :=
  if host.contains ':' then '[' :: host ++ [']'] else host

/-- The host and port as they are written. -/
def location (a : Address) : List Char :=
  match a.port with
  | some n => writtenHost a.host ++ ':' :: (toString n).toList
  | none => writtenHost a.host

/-- What stands before the host, the host and the port as they are written. -/
def authority (a : Address) : List Char :=
  (if a.user = [] then [] else a.user ++ ['@']) ++ a.location

/-- The written form of an address. -/
def render (a : Address) : String :=
  let authority := a.authority
  let after := fun mark part => match part with
    | some s => mark :: s
    | none => ([] : List Char)
  .ofList ((if a.scheme = [] then [] else a.scheme ++ [':']) ++
    (if authority = [] then [] else '/' :: '/' :: authority) ++ a.path ++ after '?' a.query ++
    after '#' a.fragment)

/-- Whether an address says by itself where to go. -/
def isComplete (a : Address) : Bool := a.scheme ≠ [] && a.host ≠ []

/-- The host in its own letters. -/
def shownHost (names : NameRules) (a : Address) : Except String (List Char) :=
  if NameRules.mark.isPrefixOf a.host then names.ofAscii a.host else .ok a.host

/-! ## Changes

A part can be put into an address that was read. That takes the parts anew, so they must not have
grown too long behind percent signs. -/

/-- Checks how long the parts of an address are. -/
def checkLengths (a : Address) : Except AddressFault Unit :=
  let parts := [a.scheme, a.authority, a.path, a.query.getD [], a.fragment.getD []]
  if parts.any (·.length > longest) then .error .tooLong else .ok ()

/-- The address at another host. -/
def atHost (names : NameRules) (a : Address) (host : List Char) : Except AddressFault Address := do
  a.checkLengths
  checkPart host
  let host ← readHost names (writtenHost host)
  checkPath a.path (a.scheme ≠ []) (a.user ≠ [] || host ≠ [] || a.port.isSome)
  return { a with host }

/-- The address with another fragment, in plain characters. -/
def withFragment (names : NameRules) (a : Address) (fragment : List Char) :
    Except AddressFault Address := do
  checkLengths { a with fragment := some fragment }
  checkControls fragment
  let host ← readHost names (writtenHost a.host)
  return { a with host, fragment := some (encode isFragmentChar fragment) }

/-- The address that a request for an address goes to. If it does not say where to go, that is a path
from nowhere. -/
def requested (a : Address) : Except AddressFault Address := do
  if a.isComplete then return a
  let a : Address := {
    scheme := [], user := [], host := [], port := none
    path := '/' :: a.path.dropWhile (· = '/')
    query := a.query, fragment := none }
  a.checkLengths
  return a

/-- The address that a request for a text goes to. -/
def ofText (names : NameRules) (text : String) : Except AddressFault Address := do
  (← read names text).requested

/-! ## Credentials

What stands before the host, a name and a password with a colon between them, is sent in Base64. -/

/-- The sign of Base64 for six bits. -/
def sextetSign (n : Nat) : Char :=
  if n < 26 then Char.ofNat (65 + n)
  else if n < 52 then Char.ofNat (71 + n)
  else if n < 62 then Char.ofNat (n - 4)
  else if n = 62 then '+'
  else '/'

/-- Bytes in Base64: four signs for three bytes, with `=` for the signs that the last bytes lack. -/
def base64 : List Nat → List Char
  | a :: b :: c :: rest =>
    sextetSign (a / 4) :: sextetSign (a % 4 * 16 + b / 16) :: sextetSign (b % 16 * 4 + c / 64) ::
      sextetSign (c % 64) :: base64 rest
  | [a, b] =>
    [sextetSign (a / 4), sextetSign (a % 4 * 16 + b / 16), sextetSign (b % 16 * 4), '=']
  | [a] => [sextetSign (a / 4), sextetSign (a % 4 * 16), '=', '=']
  | [] => []

/-- The credentials of an address as a request shows them, if there is a name or a password. -/
def credentials? (a : Address) : Option String :=
  let (name, password) := Text.cutAt ':' a.user
  let name := Url.unescape name
  let password := Url.unescape (password.getD [])
  if name = [] ∧ password = [] then none
  else
    let signs := base64 ((name ++ ':' :: password).flatMap Url.utf8)
    some ("Basic " ++ .ofList signs)

end Address

end Gleaner.Http
