import Gleaner.Document
import Gleaner.Error
import Gleaner.Extract.Scan
import Gleaner.Http.Fetch

/-! # Tasks of crawls

What a crawl is asked for, and how many pages it may scan for that. -/

namespace Gleaner

/-! ## Page budgets

How many pages a crawl may scan. A budget is given as a value; minus one means as many as there
are. -/

/-- A page budget: the number of pages, unless there is no limit, and the budget as it was given. -/
structure Budget where
  limit : Option Nat
  text : String
  deriving DecidableEq, Repr

namespace Budget

/-- The least whole number that is not below `mantissa · 2 ^ exponent`. -/
def roundUp (mantissa : Nat) (exponent : Int) : Nat :=
  let (n, d) := Double.ratio mantissa exponent
  (n + d - 1) / d

/-- Whether a double is minus one. -/
def isMinusOne (d : Double) : Bool :=
  match d with
  | .finite true m e => Double.truncate false m e = 1 && roundUp m e = 1
  | _ => false

/-- The limit that a value sets: at least one page, or none at all. -/
def limitOf : Value → Except Error (Option Nat)
  | .int i =>
    if i = -1 then .ok none
    else if i < 1 then .error (.badBudget (toString i))
    else .ok (some i.toNat)
  | .bool b => if b then .ok (some 1) else .error (.badBudget "False")
  | .float d =>
    if isMinusOne d then .ok none
    else match d with
      | .nan | .infinite false => .ok none
      | .infinite true => .error (.badBudget d.text)
      | .finite negative m e =>
        if negative || Double.truncate false m e < 1 then .error (.badBudget d.text)
        else .ok (some (roundUp m e))
  | v => .error (.badOperands "'<'" v.kindName "int")

/-- The budget that a value stands for. -/
def ofValue (v : Value) : Except Error Budget := do
  return ⟨← limitOf v, v.display⟩

/-- Whether a crawl that has scanned some pages has spent its budget. -/
def isSpent (b : Budget) (pages : Nat) : Bool :=
  match b.limit with
  | some n => n ≤ pages
  | none => false

end Budget

open Markup (Cursor)

/-! ## Crawls and what they are asked for

A crawler knows how pages are scanned, read and fetched. It is asked to start at a source, to read
records by a scope and a field map, and to follow a link for so many pages. -/

/-- Where a crawl or a search starts: at markup, at a document, or at a place that may be missing. -/
inductive Source where
  | markup (text : String)
  | document (d : Document)
  | place (c : Option Cursor)

/-- The address of a source, if it is a document with one. -/
def Source.url : Source → Option String
  | .document d => d.url
  | _ => none

/-- A way to crawl, over pages that are fetched in a state of type `σ`. -/
structure Crawler (σ : Type) where
  scanner : Scanner
  /-- The name of the rules by which pages are read. -/
  parser : String
  /-- Whether the next link is looked up on the page just scanned, and not on the first one. -/
  follow : Bool
  fetch : Fetcher σ
  floor : Log.Floor := 0

namespace Crawl

/-- What happens in a crawl. -/
inductive Event where
  | logged (e : Log.Entry)
  /-- A page is asked for. -/
  | requested (url : String)
  /-- The yield of a page is shown to the caller. -/
  | observed (page : Nat) (found : Value)

/-- The log entry in an event. -/
def Event.entry? : Event → Option Log.Entry
  | logged e => some e
  | _ => none

/-- A page: the place its records are below, and the address that it is known by. -/
structure Page where
  place : Option Cursor
  url : Option String

/-- What a caller asks for. -/
structure Plan where
  /-- The selector of the link to the next page. -/
  link : String
  scope : Option String
  fields : Option FieldMap
  budget : Value := .int (-1)
  /-- The address of the first page. -/
  url : Option String := none

/-- A plan that was checked, and the page it starts at. -/
structure Task where
  link : Directive
  scope : Option String
  fields : Option FieldMap
  budget : Budget
  first : Page

end Crawl

namespace Crawler

open Crawl

variable {σ : Type}

/-- Reads the page at an address. -/
def read (c : Crawler σ) (markup : String) (url : Option String) : Except Error Page := do
  return ⟨some (← Document.parse c.parser markup url).root, url⟩

/-- The first page of a crawl. -/
def firstPage (c : Crawler σ) (source : Source) (url : Option String) : Except Error Page :=
  match source with
  | .markup text => c.read text url
  | .document d => .ok ⟨some d.root, url⟩
  | .place p => .ok ⟨p, url⟩

/-- Checks a plan: first its budget, then its link, and last the source. -/
def check (c : Crawler σ) (source : Source) (p : Plan) : Except Error Task := do
  let budget ← Budget.ofValue p.budget
  let link ← c.scanner.extractor.compile p.link
  let first ← c.firstPage source p.url
  return { link, scope := p.scope, fields := p.fields, budget, first }

end Crawler

end Gleaner
