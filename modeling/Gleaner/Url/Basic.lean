import Gleaner.Text.Basic

/-! # URLs

A URL is taken apart into scheme, network location, path, parameters of the last path segment,
query and fragment, and put together again. Only a malformed bracketed host or a host with
characters that stand for separators is refused. -/

namespace Gleaner.Url

/-- The parts of a URL. -/
structure Parts where
  scheme : List Char := []
  netloc : List Char := []
  path : List Char := []
  params : List Char := []
  query : List Char := []
  fragment : List Char := []
  deriving DecidableEq, Repr

/-- What is wrong with a network location. -/
inductive HostFault where
  | unbalanced
  | badFuture
  | bracketedIpv4
  | noAddress (host : String)
  | hiddenSeparator (netloc : String)
  deriving DecidableEq, Repr

/-- Schemes whose relative references can be resolved. -/
def relativeSchemes : List String :=
  ["", "ftp", "http", "gopher", "nntp", "imap", "wais", "file", "https", "shttp", "mms",
   "prospero", "rtsp", "rtsps", "rtspu", "sftp", "svn", "svn+ssh", "ws", "wss"]

/-- Schemes whose URLs have a network location. -/
def netlocSchemes : List String :=
  ["", "ftp", "http", "gopher", "nntp", "telnet", "imap", "wais", "file", "mms", "https", "shttp",
   "snews", "prospero", "rtsp", "rtsps", "rtspu", "rsync", "svn", "svn+ssh", "sftp", "nfs", "git",
   "git+ssh", "ws", "wss"]

/-- Schemes whose last path segment may have parameters. -/
def paramSchemes : List String :=
  ["", "ftp", "hdl", "prospero", "http", "imap", "https", "shttp", "rtsp", "rtsps", "rtspu", "sip",
   "sips", "mms", "sftp", "tel"]

/-- Whether a scheme is in a list. -/
def isOneOf (schemes : List String) (scheme : List Char) : Bool :=
  schemes.contains (String.ofList scheme)

/-- A character of a scheme. -/
def isSchemeChar (c : Char) : Bool := c.isAlphanum || c = '+' || c = '-' || c = '.'

/-- The text without leading spaces and controls, and without tabs and line ends anywhere. -/
def clean (s : List Char) : List Char :=
  (s.dropWhile (·.toNat ≤ 32)).filter fun c => c ≠ '\t' && c ≠ '\r' && c ≠ '\n'

/-- The scheme in front of a URL, in lower case, and what follows its colon. -/
def takeScheme? (s : List Char) : Option (List Char × List Char) :=
  match Text.cutAt ':' s with
  | (c :: r, some after) =>
    if c.isAlpha && (c :: r).all isSchemeChar then some ((c :: r).map Char.toLower, after) else none
  | _ => none

/-- A character that ends the network location. -/
def endsNetloc (c : Char) : Bool := c = '/' || c = '?' || c = '#'

/-- Network location and rest of what follows the scheme. -/
def takeNetloc : List Char → List Char × List Char
  | '/' :: '/' :: r => (r.takeWhile (!endsNetloc ·), r.dropWhile (!endsNetloc ·))
  | s => ([], s)

/-- The number of a decimal octet, written without leading zeros. -/
def isOctet (s : List Char) : Bool :=
  s ≠ [] && s.all Char.isDigit && s.length ≤ 3 && (s = ['0'] || s.head? ≠ some '0') &&
    s.foldl (fun n c => 10 * n + (c.toNat - 48)) 0 ≤ 255

/-- Four octets between points. -/
def isIpv4 (s : List Char) : Bool :=
  let parts := Text.splitOn '.' s
  parts.length = 4 && parts.all isOctet

/-- Up to four hexadecimal digits. -/
def isHextet (s : List Char) : Bool :=
  s ≠ [] && s.length ≤ 4 && s.all fun c => (Text.hexValue? c).isSome

/-- The parts of an address of eight groups; a last part in IPv4 form counts as two groups. -/
def hextets? (s : List Char) : Option (List (List Char)) :=
  let parts := Text.splitOn ':' s
  if parts.length < 3 then none
  else match parts.getLast? with
    | some last =>
      if last.contains '.' then
        if isIpv4 last then some (parts.dropLast ++ [['0'], ['0']]) else none
      else some parts
    | none => none

/-- The groups on one side of the gap. An empty one may stand only alone, at the end of the
address. -/
def besideGap? (outer : Option (List Char)) (groups : List (List Char)) :
    Option (List (List Char)) :=
  if outer = some [] then if groups.length = 1 then some [] else none else some groups

/-- Whether a zone after an address is well formed. -/
def isZone : Option (List Char) → Bool
  | none => true
  | some z => z ≠ [] && !z.contains '%'

/-- Eight groups of hexadecimal digits, or fewer around one gap. -/
def isIpv6 (s : List Char) : Bool :=
  let (address, zone) := Text.cutAt '%' s
  isZone zone && match hextets? address with
    | none => false
    | some parts =>
      let inner := parts.tail.dropLast
      if parts.length > 9 ∨ (inner.filter (· = [])).length > 1 then false
      else match inner.findIdx? (· = []) with
        | none => parts.length = 8 && parts.all isHextet
        | some i =>
          let before := parts.take (i + 1)
          let after := parts.drop (i + 2)
          match besideGap? before.head? before, besideGap? after.getLast? after with
          | some hi, some lo => hi.length + lo.length < 8 && (hi ++ lo).all isHextet
          | _, _ => false

/-- An address of a later version: `v`, hexadecimal digits, a point and something more. -/
def isFutureAddress (s : List Char) : Bool :=
  match s with
  | 'v' :: r =>
    let digits := r.takeWhile fun c => (Text.hexValue? c).isSome
    match r.dropWhile fun c => (Text.hexValue? c).isSome with
    | '.' :: more => digits ≠ [] && more ≠ [] && !more.contains '\n'
    | _ => false
  | _ => false

/-- Checks the brackets of a network location and the address inside them. -/
def checkBrackets (netloc : List Char) : Except HostFault Unit :=
  if netloc.contains '[' != netloc.contains ']' then .error .unbalanced
  else if netloc.contains '[' then
    let host := (Text.cutAt ']' ((Text.cutAt '[' netloc).2.getD [])).1
    if host.head? = some 'v' then
      if isFutureAddress host then .ok () else .error .badFuture
    else if isIpv4 host then .error .bracketedIpv4
    else if isIpv6 host then .ok ()
    else .error (.noAddress (.ofList host))
  else .ok ()

/-- Characters that are read as text with a separator in it once compatibility forms are put
aside. -/
def hiddenSeparators : List Nat :=
  [0x2047, 0x2048, 0x2049, 0x2100, 0x2101, 0x2105, 0x2106, 0x2a74, 0xfe13, 0xfe16, 0xfe55, 0xfe56,
   0xfe5f, 0xfe6b, 0xff03, 0xff0f, 0xff1a, 0xff1f, 0xff20]

/-- Checks a network location for hidden separators. -/
def checkSeparators (netloc : List Char) : Except HostFault Unit :=
  if netloc.any fun c => hiddenSeparators.contains c.toNat then
    .error (.hiddenSeparator (.ofList netloc))
  else .ok ()

/-- Path and parameters: the parameters follow the first semicolon of the last segment. -/
def takeParams (path : List Char) : List Char × List Char :=
  match Text.cutAtLast? '/' path with
  | some (dir, last) =>
    match Text.cutAt ';' last with
    | (_, none) => (path, [])
    | (name, some params) => (dir ++ '/' :: name, params)
  | none =>
    match Text.cutAt ';' path with
    | (_, none) => (path, [])
    | (name, some params) => (name, params)

/-- Takes a URL apart. `scheme` is used when it has none of its own. -/
def split (url : List Char) (scheme : List Char := []) : Except HostFault Parts := do
  let (scheme, rest) := (takeScheme? (clean url)).getD (scheme, clean url)
  let (netloc, rest) := takeNetloc rest
  checkBrackets netloc
  let (rest, fragment) := Text.cutAt '#' rest
  let (path, query) := Text.cutAt '?' rest
  checkSeparators netloc
  let (path, params) := if isOneOf paramSchemes scheme then takeParams path else (path, [])
  return { scheme, netloc, path, params, query := query.getD [], fragment := fragment.getD [] }

/-- A mark and a text, unless the text is empty. -/
def marked (mark : List Char) (s : List Char) : List Char := if s = [] then [] else mark ++ s

/-- Puts a URL together. -/
def Parts.render (p : Parts) : List Char :=
  let path := p.path ++ marked [';'] p.params
  let location :=
    if p.netloc ≠ [] ∨ (p.scheme ≠ [] ∧ isOneOf netlocSchemes p.scheme) ∨
        ['/', '/'].isPrefixOf path then
      '/' :: '/' :: (p.netloc ++ if path ≠ [] ∧ path.head? ≠ some '/' then '/' :: path else path)
    else path
  (if p.scheme = [] then [] else p.scheme ++ [':']) ++ location ++ marked ['?'] p.query ++
    marked ['#'] p.fragment

/-- Whether a URL names a page on the web: scheme `http` or `https`, and a network location. -/
def isAbsolute (url : String) : Except HostFault Bool := do
  let p ← split url.toList
  return (p.scheme = "http".toList || p.scheme = "https".toList) && p.netloc ≠ []

/-! ## Relative references

Resolves a reference against the URL it was found at: missing parts are taken from that URL, and
the dot segments of the path are carried out. -/

/-- Carries out dot segments, given the segments already kept, last first. -/
def walk : List (List Char) → List (List Char) → List (List Char)
  | kept, [] => kept.reverse
  | kept, seg :: segs =>
    if seg = ['.', '.'] then walk kept.tail segs
    else if seg = ['.'] then walk kept segs
    else walk (seg :: kept) segs

/-- A dot segment. -/
def isDot (seg : List Char) : Bool := seg = ['.'] || seg = ['.', '.']

/-- Carries out dot segments; a last dot segment leaves a path that ends in a slash. -/
def resolveSegments (segs : List (List Char)) : List (List Char) :=
  walk [] segs ++ if segs.getLast?.any isDot then [[]] else []

/-- The segments without the empty ones strictly inside. -/
def dropInnerEmpty : List (List Char) → List (List Char)
  | [] => []
  | [a] => [a]
  | a :: r => a :: (r.dropLast.filter (· ≠ []) ++ r.getLast?.toList)

/-- The segments a path has in the directory of a base path. -/
def mergeSegments (base path : List Char) : List (List Char) :=
  if path.head? = some '/' then Text.splitOn '/' path
  else
    let parts := Text.splitOn '/' base
    let dir := if parts.getLast? = some [] then parts else parts.dropLast
    dropInnerEmpty (dir ++ Text.splitOn '/' path)

/-- The path of a reference resolved against a base path. -/
def mergePaths (base path : List Char) : List Char :=
  match Text.join ['/'] (resolveSegments (mergeSegments base path)) with
  | [] => ['/']
  | s => s

/-- The URL that a reference means at a base URL. -/
def join (base ref : List Char) : Except HostFault (List Char) := do
  if base = [] then return ref
  if ref = [] then return base
  let b ← split base
  let r ← split ref b.scheme
  if r.scheme ≠ b.scheme ∨ !isOneOf relativeSchemes r.scheme then return ref
  if isOneOf netlocSchemes r.scheme ∧ r.netloc ≠ [] then return r.render
  let netloc := if isOneOf netlocSchemes r.scheme then b.netloc else r.netloc
  if r.path = [] ∧ r.params = [] then
    let query := if r.query = [] then b.query else r.query
    return { r with netloc, path := b.path, params := b.params, query }.render
  return { r with netloc, path := mergePaths b.path r.path }.render

/-- A link made absolute against the URL of its page: an absolute link stays, and without a page
URL every link stays. -/
def absolute (link : String) (base : Option String) : Except HostFault String := do
  if ← isAbsolute link then return link
  match base with
  | none => return link
  | some b =>
    if b = "" then return link
    return .ofList (← join b.toList link.toList)

end Gleaner.Url
