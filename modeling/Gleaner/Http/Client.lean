import Gleaner.Error
import Gleaner.Http.Address
import Gleaner.Http.Site
import Gleaner.Settings.Basic

/-! # Clients

A client sends requests with its headers and follows redirects, if it may, up to a limit. It goes by
rules for names of hosts: to put them into ASCII, and to read them again where two of them are compared
or one is put in place of another.

What a client does about time, certificates and proxies is no part of this, and cookies that a site
sets are not sent back. -/

namespace Gleaner.Http

/-- Refuses a text that is not in ASCII. -/
def checkAscii (text : String) : Except Error Unit :=
  let rest := text.toList.dropWhile (·.val < 128)
  if rest = [] then .ok ()
  else .error (.notAscii (rest.takeWhile (128 ≤ ·.val)) (text.toList.length - rest.length))

/-- Refuses header lines that are not in ASCII. -/
def Headers.check : Headers → Except Error Unit
  | [] => .ok ()
  | (name, value) :: rest => do
    checkAscii name
    checkAscii value
    check rest

/-- How requests are made. -/
structure Client where
  headers : Headers := []
  followRedirects : Bool
  names : NameRules := .standard

/-- What a caller may choose about fetching, and the rules for names that there are. -/
structure Options where
  headers : Headers := []
  followRedirects : Option Bool := none
  /-- A client that the caller provides, with the choices of its own. -/
  sharedClient : Bool := false
  names : NameRules := .standard

namespace Client

/-- The headers of every request, unless they are replaced. -/
def standardHeaders : Headers :=
  [("Accept", "*/*"), ("Accept-Encoding", "gzip, deflate"), ("Connection", "keep-alive"),
   ("User-Agent", "python-httpx/0.28.1")]

/-- Headers put behind each other; one of exactly the same name takes the place of the first. -/
def override (headers more : Headers) : Headers :=
  more.foldl (fun hs (k, v) =>
    if hs.any (·.1 = k) then hs.map fun (k', v') => if k' = k then (k, v) else (k', v')
    else hs ++ [(k, v)]) headers

end Client

/-- The headers of a fetcher that is made under some settings: what the caller chose, behind the name
that the settings give. -/
def Options.headersUnder (options : Options) (settings : Settings) : Headers :=
  Client.override [("User-Agent", settings.userAgent)] options.headers

/-- The client of a fetcher that is made under some settings, if its headers can be sent. -/
def Client.ofOptions (settings : Settings) (options : Options) : Except Error Client :=
  if options.sharedClient then .ok ⟨standardHeaders, false, options.names⟩
  else do
    let headers := options.headersUnder settings
    headers.check
    return {
      headers := standardHeaders.merge headers
      followRedirects := options.followRedirects.getD settings.followRedirects
      names := options.names }

/-- How a fetch through a client ends without a response. -/
inductive Breakdown where
  | timedOut
  | failed (message : String)
  /-- What stands for a response without success is there, but no response. -/
  | refused
  /-- Something that is no failure of the connection. -/
  | other (e : Error)

/-- The failures of a connection that ran out of time. -/
def timeouts : List String :=
  ["TimeoutException", "ConnectTimeout", "ReadTimeout", "WriteTimeout", "PoolTimeout"]

/-- The other failures of a connection. -/
def connectionFailures : List String :=
  ["HTTPError", "RequestError", "TransportError", "NetworkError", "ConnectError", "ReadError",
   "WriteError", "CloseError", "ProtocolError", "LocalProtocolError", "RemoteProtocolError",
   "ProxyError", "UnsupportedProtocol", "DecodingError", "TooManyRedirects"]

/-- The failure that stands for a response without success. -/
def statusFailure : String := "HTTPStatusError"

/-- What a named failure amounts to. -/
def Breakdown.ofKind (kind message : String) : Breakdown :=
  if kind = statusFailure then .refused
  else if timeouts.contains kind then .timedOut
  else if connectionFailures.contains kind then .failed message
  else .other (.transport kind)

/-- An error that is no failure of the connection. -/
def outside {α : Type} (x : Except Error α) : Except Breakdown α := x.mapError .other

/-- The statuses that send a request elsewhere. -/
def redirectStatuses : List Nat := [301, 302, 303, 307, 308]

/-- Whether a status means success. -/
def isSuccess (status : Nat) : Bool := 200 ≤ status && status < 300

/-- Where a response wants the request to go instead. -/
def Response.location? (r : Response) : Option String :=
  if redirectStatuses.contains r.status then r.headers.get? "Location" else none

/-- The host of an address in its own letters. -/
def shownHost (names : NameRules) (a : Address) : Except Error (List Char) :=
  (a.shownHost names).mapError .badHostName

/-! ## Requests -/

/-- A request before it is sent. -/
structure Outgoing where
  headers : Headers
  address : Address

/-- The request as it reaches a site. -/
def Outgoing.request (o : Outgoing) : Request := ⟨o.address.render, o.headers⟩

namespace Client

/-- The headers of a client with the host of an address, if it has one and the client names no
other. -/
def headersAt (client : Client) (a : Address) : Except Error Headers := do
  if client.headers.has "Host" then return client.headers
  let host ← shownHost client.names a
  return if host = [] then client.headers else ("Host", .ofList a.location) :: client.headers

/-- The headers of a request that nothing has led to. The credentials of its address stand in place of
any others. -/
def headersFor (client : Client) (a : Address) : Except Error Headers := do
  let headers ← client.headersAt a
  return match a.credentials? with
    | some credentials => headers.set "Authorization" credentials
    | none => headers

/-- The request for what is at an address. -/
def prepare (client : Client) (url : String) : Except Error Outgoing :=
  match Address.ofText client.names url with
  | .error _ => .error .badRequestUrl
  | .ok address => do return { headers := ← client.headersFor address, address }

end Client

/-! ## Redirects

A location is an address of which parts may be missing. They come from the address that was asked
for. -/

/-- The address that a location names. -/
def readLocation (names : NameRules) (location : String) : Except Breakdown Address :=
  match Address.read names location with
  | .ok a => .ok a
  | .error fault => .error (.failed s!"Invalid URL in location header: {fault.message}.")

/-- An address that was put together, if it is one that requests can be sent to. -/
def ofParts (a : Except AddressFault Address) : Except Breakdown Address :=
  match a with
  | .ok a => .ok a
  | .error _ => .error (.other .badRequestUrl)

/-- A location with a scheme and no host means the host that was asked. -/
def withHostOf (names : NameRules) (from_ target : Address) : Except Breakdown Address := do
  if target.scheme = [] then return target
  let host ← outside (shownHost names target)
  if host ≠ [] then return target
  let host ← outside (shownHost names from_)
  ofParts (target.atHost names host)

/-- A location that does not say by itself where to go is a reference. -/
def resolveAt (names : NameRules) (from_ target : Address) : Except Breakdown Address :=
  if target.isComplete then .ok target
  else match Url.join from_.render.toList target.render.toList with
    | .error fault => .error (.other (.badHost fault))
    | .ok joined => ofParts (Address.read names (.ofList joined))

/-- A location without a fragment keeps the one that was asked for. -/
def withFragmentOf (names : NameRules) (from_ target : Address) : Except Breakdown Address :=
  let fragment := from_.fragment.getD []
  if fragment ≠ [] ∧ target.fragment.getD [] = [] then
    ofParts (target.withFragment names (Url.unescape fragment))
  else .ok target

/-- Where a redirect leads from an address. -/
def redirectTarget (names : NameRules) (from_ : Address) (location : String) :
    Except Breakdown Address := do
  let target ← readLocation names location
  let target ← withHostOf names from_ target
  let target ← resolveAt names from_ target
  withFragmentOf names from_ target

/-- The hosts of two addresses in their own letters. The second one is read first if the schemes are
the same. -/
def shownHosts (names : NameRules) (from_ target : Address) :
    Except Error (List Char × List Char) := do
  if from_.scheme = target.scheme then
    let there ← shownHost names target
    return (← shownHost names from_, there)
  else
    let here ← shownHost names from_
    return (here, ← shownHost names target)

/-- Where an address leads: scheme, host and port. -/
def origin (a : Address) (host : List Char) : List Char × List Char × Option Int :=
  (a.scheme, host, a.port <|> Address.impliedPort (.ofList a.scheme))

/-- The headers of the request that a redirect leads to. Another host gets its own name, and no
credentials, unless only the scheme turns to the secure one. -/
def redirectHeaders (names : NameRules) (headers : Headers) (from_ target : Address) :
    Except Error Headers := do
  let headers := headers.without "Cookie"
  let (here, there) ← shownHosts names from_ target
  if origin from_ here = origin target there then return headers
  let isUpgrade := here = there ∧ origin from_ here = ("http".toList, here, some 80) ∧
    origin target there = ("https".toList, there, some 443)
  let headers := if isUpgrade then headers else headers.without "Authorization"
  return ("Host", .ofList target.location) :: headers.without "Host"

/-- The request that a redirect leads to. -/
def redirect (names : NameRules) (o : Outgoing) (location : String) :
    Except Breakdown Outgoing := do
  let target ← redirectTarget names o.address location
  let headers ← outside (redirectHeaders names o.headers o.address target)
  return { headers, address := target }

/-- How many redirects are followed. -/
def redirectLimit : Nat := 20

/-- What comes back for a request that has reached a site. Its address is looked at again for a
response, and cannot do without a scheme then. -/
def Outgoing.answer (o : Outgoing) (site : Site) (traffic : Traffic) :
    Except Breakdown Response :=
  match site.reply traffic o.address.render with
  | .failure kind message => .error (.ofKind kind message)
  | .response r =>
    if o.address.scheme = [] then .error (.other (.noScheme o.address.render)) else .ok r

/-- What a client makes of the answer to a request: it has a result, or goes on to another request. -/
def Client.turn (client : Client) (site : Site) (traffic : Traffic) (o : Outgoing) :
    Except Breakdown Response ⊕ Outgoing :=
  match o.answer site traffic with
  | .error b => .inl (.error b)
  | .ok r =>
    match r.location? with
    | none => .inl (.ok r)
    | some location =>
      match redirect client.names o location with
      | .error b => .inl (.error b)
      | .ok next => if client.followRedirects then .inr next else .inl (.ok r)

/-- Sends a request, and those that it is redirected to, at most `more` of them. Gives the last
response. -/
def Client.send (client : Client) (site : Site) :
    Nat → Traffic → Outgoing → Traffic × Except Breakdown Response
  | more, traffic, o =>
    let traffic := traffic ++ [o.request]
    match client.turn site traffic o, more with
    | .inl result, _ => (traffic, result)
    | .inr _, 0 => (traffic, .error (.failed "Exceeded maximum allowed redirects."))
    | .inr next, more + 1 => client.send site more traffic next

end Gleaner.Http
