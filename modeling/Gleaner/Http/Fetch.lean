import Gleaner.Http.Client
import Gleaner.Log.Event

/-! # Fetching pages

A fetcher turns an address into the text of a page. One that goes through a client reports every
fetch and fails for everything but success. -/

namespace Gleaner

/-- A way to fetch pages, in a state of its own. -/
abbrev Fetcher (σ : Type) := σ → String → σ × Traced Log.Entry String

namespace Http

/-- Reports a fetch, and then ends. -/
def conclude (floor : Log.Floor) (url : String) (status : Option Nat)
    (result : Except Error String) : Traced Log.Entry String := do
  let shown : Value := match status with
    | some n => .int n
    | none => .none
  let success := match result with
    | .ok _ => true
    | .error _ => false
  Log.PageFetch.report floor { url := .str url, status := shown, success := .bool success }
  .ofExcept result

/-- The failure to fetch a page. -/
def failure (url reason : String) (status : Option Nat := none) : Error :=
  .fetch { url, reason, status }

/-- Goes on with a fetch if its address is absolute. -/
@[macro_inline]
def ifAbsolute (traffic : Traffic) (url : String) (fetched : Traffic × Traced Log.Entry String) :
    Traffic × Traced Log.Entry String :=
  match Url.isAbsolute url with
  | .error fault => (traffic, .fail (.badHost fault))
  | .ok false => (traffic, .fail (failure url "Cannot fetch non-absolute URL"))
  | .ok true => fetched

/-- Fetches the page at an address from a site. -/
def Client.fetch (client : Client) (site : Site) (floor : Log.Floor) : Fetcher Traffic :=
  fun traffic url => ifAbsolute traffic url <|
    match client.prepare url with
    | .error e => (traffic, .fail e)
    | .ok o =>
      let (traffic, outcome) := client.send site redirectLimit traffic o
      (traffic, match outcome with
        | .ok r =>
          conclude floor url (some r.status)
            (if isSuccess r.status then .ok r.body
            else .error (failure url s!"HTTP {r.status}" (some r.status)))
        | .error .refused => conclude floor url none (.error (failure url "HTTP None"))
        | .error .timedOut =>
          conclude floor url none (.error (failure url "Request timed out"))
        | .error (.failed message) =>
          conclude floor url none (.error (failure url s!"Request failed: {message}"))
        | .error (.other e) => .fail e)

/-- Fetches nothing, because there is no client to send a request. -/
def fetchWithoutClient (e : Error) : Fetcher Traffic :=
  fun traffic url => ifAbsolute traffic url (traffic, .fail e)

/-- Fetches the page at exactly the given address from a site, without any protocol between. -/
def directFetch (site : Site) : Fetcher Traffic :=
  fun traffic url =>
    let traffic := traffic ++ [⟨url, []⟩]
    (traffic, match site.reply traffic url with
      | .response r =>
        if r.status = 200 then pure r.body
        else .fail (failure url s!"HTTP {r.status}" (some r.status))
      | .failure kind _ => .fail (.transport kind))

/-- How pages are fetched: straight from the site, or through clients with some options. -/
inductive Access where
  | direct
  | client (options : Options)

/-- A new fetcher for a site, made under some settings. -/
def Access.fetcher (access : Access) (site : Site) (settings : Settings) (floor : Log.Floor) :
    Fetcher Traffic :=
  match access with
  | .direct => directFetch site
  | .client options =>
    match Client.ofOptions settings options with
    | .ok made => made.fetch site floor
    | .error e => fetchWithoutClient e

end Http

end Gleaner
