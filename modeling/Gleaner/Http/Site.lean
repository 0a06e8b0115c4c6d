/-! # Sites

What requests and responses are, and sites, which answer the ones with the others. A site sees all the
requests that have reached it. -/

namespace Gleaner.Http

/-- Header lines: names, which are the same in capitals and small letters, with their values. -/
abbrev Headers := List (String × String)

namespace Headers

/-- Whether two names mean the same header. -/
def isSame (a b : String) : Bool :=
  a.toList.map Char.toLower = b.toList.map Char.toLower

/-- The values of a header, one for each of its lines. -/
def values (headers : Headers) (name : String) : List String :=
  (headers.filter (isSame ·.1 name)).map (·.2)

/-- The values of a header, all of its lines joined by commas. -/
def get? (headers : Headers) (name : String) : Option String :=
  match headers.values name with
  | [] => none
  | found => some (", ".intercalate found)

/-- Whether a header is there. -/
def has (headers : Headers) (name : String) : Bool := headers.any fun (k, _) => isSame k name

/-- The lines of all other headers. -/
def without (headers : Headers) (name : String) : Headers :=
  headers.filter fun (k, _) => !isSame k name

/-- The lines with a new value for a header. It stands in place of the first line of that header, and
the others go. -/
def set (name value : String) : Headers → Headers
  | [] => [(name, value)]
  | (k, v) :: rest =>
    if isSame k name then (name, value) :: without rest name else (k, v) :: set name value rest

/-- The lines of two sets of headers; those of the second replace what the first calls the same. -/
def merge (headers more : Headers) : Headers :=
  (headers.filter fun (k, _) => !more.has k) ++ more

end Headers

/-- A request that reached a site. -/
structure Request where
  url : String
  headers : Headers := []
  deriving Repr

/-- What comes back for a request. -/
structure Response where
  status : Nat
  body : String
  headers : Headers := []

/-- What a site does on a request for a page. -/
inductive Reply where
  | response (r : Response)
  /-- The connection fails, in a way that has a name. -/
  | failure (kind message : String)

/-- A response with a body and nothing else. -/
def Reply.page (body : String) : Reply := .response ⟨200, body, []⟩

/-- The requests that have reached a site, in order. -/
abbrev Traffic := List Request

/-- A site replies to the latest of the requests that have reached it, by any rule. The page that is
asked for is named besides. -/
structure Site where
  reply : Traffic → String → Reply := fun _ _ => .response ⟨404, "", []⟩

/-- The site with pages at some addresses, which lets so many requests through. -/
def Site.ofPages (pages : List (String × Reply)) (limit : Nat := 30) : Site where
  reply traffic url :=
    if traffic.length > limit then .response ⟨503, "", []⟩
    else (pages.lookup url).getD (.response ⟨404, "", []⟩)

end Gleaner.Http
