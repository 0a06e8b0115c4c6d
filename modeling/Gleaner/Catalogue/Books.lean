import Gleaner.Filter.Builtin
import Gleaner.Log.Sink
import Gleaner.Scraper.Basic
import Gleaner.Text.Basic
import Gleaner.Text.Case

/-! # A catalogue of books

A program that gathers books from a catalogue, page after page, and reports what it found: the
number of books and the first of them with stars, title and price. -/

namespace Gleaner.Catalogue

/-! ## Star ratings

A book's rating stands in the class attribute of an element as an English numeral. -/

/-- The numerals of the ratings. -/
def ratingWords : List (String × Int) :=
  [("one", 1), ("two", 2), ("three", 3), ("four", 4), ("five", 5)]

/-- The rating that a class attribute names: its first numeral, or zero. -/
def ratingOf (classes : String) : Int :=
  let words := (Text.words (Text.lower classes.toList)).map String.ofList
  (words.findSome? fun w => ratingWords.lookup w).getD 0

/-- The rating as a filter. What counts as false rates zero. -/
def rating : Filter := .plain "rating" "extract_rating" fun v =>
  if !v.isTruthy then .ok (.int 0)
  else match v with
    | .str s => .ok (.int (ratingOf s))
    | v => .error (.noAttribute v.kindName "lower")

/-! ## The program -/

/-- Where the catalogue starts. -/
def startUrl : String := "https://books.toscrape.com/catalogue/page-1.html"

/-- What is read off every book. -/
def bookFields : FieldMap :=
  [("title", "h3 a@title"),
   ("price", "p.price_color|price:GBP"),
   ("availability", "p.availability|squish"),
   ("rating", "p.star-rating@class|rating"),
   ("image", "div.image_container img@src|url:https://books.toscrape.com/catalogue/"),
   ("link", "h3 a@href|url:https://books.toscrape.com/catalogue/")]

/-- The plan of the crawl. -/
def bookPlan : Crawl.Plan where
  link := "li.next a@href"
  scope := some "article.product_pod"
  fields := some bookFields
  budget := .int 5

/-- How many books the report shows. -/
def shownBooks : Nat := 5

/-- A line of the report. -/
def line (message : String) : Log.Entry := ⟨.info, message, []⟩

/-- The line around the report. -/
def rule : Log.Entry := line (.ofList (List.replicate 60 '='))

/-- What a book says about a field. -/
def fieldOf (book : Record) (name : String) : Value := (book.lookup name).getD .none

/-- A rating as stars, up to five places of which are always filled. -/
def stars : Value → Except Error String
  | .int n => .ok (.ofList (List.replicate n.toNat '*' ++ List.replicate (5 - n).toNat '.'))
  | v => .error (.badRepeat v.kindName)

/-- A price with two places. -/
def priceText (v : Value) : Except Error String :=
  if v.isNone then .ok "n/a"
  else match Template.write v ".2f".toList with
    | .ok shown => .ok (String.ofList shown ++ " GBP")
    | .error fault => .error (.template fault)

/-- The beginning of a title. -/
def titleText : Value → Except Error String
  | .str s => .ok (.ofList (s.toList.take 40))
  | v => .error (.notSubscriptable v.kindName)

/-- The line about a book. -/
def bookLine (book : Record) : Except Error Log.Entry := do
  let shownStars ← stars (fieldOf book "rating")
  let shownPrice ← priceText (fieldOf book "price")
  let shownTitle ← titleText (fieldOf book "title")
  return line s!"  [{shownStars}] {shownTitle} - {shownPrice}"

/-- The fields of a record that a crawl gathered. -/
def recordOf : Value → Record
  | .dict fields => fields
  | _ => []

/-- Reports the books of a crawl. -/
def report (books : List Value) : Traced Log.Entry Unit := do
  .tell [rule, line s!"Scraped {books.length} books"]
  (books.take shownBooks).forM fun book => do .tell [← .ofExcept (bookLine (recordOf book))]
  .tell [rule]

/-- The books of a crawl. One that a failed fetch has broken off keeps those gathered before. -/
def salvage (t : Traced Log.Entry (List Value)) : Traced Log.Entry (List Value) :=
  match t.result with
  | .error (.fetch f) =>
    ⟨t.events ++ [⟨.error, s!"Crawl failed: {f.message}", []⟩], .ok f.records⟩
  | _ => t

/-- The log entries of a crawl. -/
def logged (t : Traced Crawl.Event (List Value)) : Traced Log.Entry (List Value) :=
  ⟨t.events.filterMap Crawl.Event.entry?, t.result⟩

/-- Gathers the books of a catalogue and reports them, to a reader of the log that wants entries from
a severity on. A crawl of five pages has three stages for each of them. -/
def gather {σ : Type} (a : Ambient) (fetch : Fetcher σ) (floor : Log.Floor) (outside : σ) :
    σ × Traced Log.Entry (List Value) :=
  let made := Scraper.build a { filters := [("rating", .filter rating)], follow := true } fetch
  match made.result with
  | .error e => (outside, ⟨made.events, .error e⟩)
  | .ok scraper =>
    let (outside, crawled) := scraper.crawlUrl a floor 15 outside startUrl bookPlan
    (outside, do
      .tell made.events
      let books ← salvage (logged crawled)
      report books
      return books)

/-- The whole program: sets the log up by the settings and gathers the books. Of the log it gives
what the console shows. -/
def run {σ : Type} (a : Ambient) (fetcher : Log.Floor → Fetcher σ) (outside : σ) :
    σ × Traced Log.Entry (List Value) :=
  let setup : Log.Setup := ⟨.str a.settings.logLevel, .bool a.settings.logToFile⟩
  match setup.sinks with
  | .error e => (outside, .fail e)
  | .ok sinks =>
    let floor := Log.floorOf sinks
    let (outside, t) := gather a (fetcher floor) floor outside
    (outside, ⟨Log.onConsole sinks (setup.initialized :: t.events), t.result⟩)

end Gleaner.Catalogue
