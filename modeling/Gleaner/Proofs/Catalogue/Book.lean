import Gleaner.Catalogue.Books
import Gleaner.Proofs.Crawl.Outcome
import Gleaner.Proofs.Extract.Records
import Mathlib.Data.Set.List

/-! # The books of a page

Whatever stands on a page of the catalogue, its records are books: each field is a text or a number
of its kind, or nothing (`recordsOf_cases`). Only a link with a malformed host keeps a page from being
read. -/

namespace Gleaner.Catalogue

open Crawl
open Markup (Cursor)

/-- A book as a page shows it. Any of its fields may be missing. -/
structure Book where
  title : Option String
  price : Option Double
  availability : Option String
  rating : Option Int
  image : Option String
  link : Option String

/-- An amount, or nothing. -/
def amountValue : Option Double → Value
  | some d => .float d
  | none => .none

/-- A whole number, or nothing. -/
def wholeValue : Option Int → Value
  | some i => .int i
  | none => .none

/-- The record of a book. -/
def Book.record (b : Book) : Record :=
  [("title", .ofText? b.title), ("price", amountValue b.price),
    ("availability", .ofText? b.availability), ("rating", wholeValue b.rating),
    ("image", .ofText? b.image), ("link", .ofText? b.link)]

def Book.value (b : Book) : Value := .dict b.record

theorem ofText?_injective : Function.Injective Value.ofText? := by
  rintro (_ | s) (_ | s') h <;> cases h <;> rfl

theorem amountValue_injective : Function.Injective amountValue := by
  rintro (_ | d) (_ | d') h <;> cases h <;> rfl

theorem wholeValue_injective : Function.Injective wholeValue := by
  rintro (_ | i) (_ | i') h <;> cases h <;> rfl

/-- A record is that of one book only. -/
theorem Book.value_injective : Function.Injective Book.value := by
  rintro ⟨title, price, availability, rating, image, link⟩ ⟨_, _, _, _, _, _⟩ h
  simp only [value, record, Value.dict.injEq, List.cons.injEq, Prod.mk.injEq, true_and, and_true]
    at h
  obtain ⟨htitle, hprice, havailability, hrating, himage, hlink⟩ := h
  cases ofText?_injective htitle
  cases amountValue_injective hprice
  cases ofText?_injective havailability
  cases wholeValue_injective hrating
  cases ofText?_injective himage
  cases ofText?_injective hlink
  rfl

/-- How the program reads fields. -/
def bookExtractor (strict : Bool) : Extractor where
  chain := ⟨⟨"instance", [("rating", .filter rating)]⟩, .shared⟩
  strict := strict

/-! ## Fields -/

/-- What is read is of a form, unless a link has a malformed host. -/
def Reads {α β : Type} (form : α → β) (r : Except Error β) : Prop :=
  (∃ x, r = .ok (form x)) ∨ ∃ fault, r = .error (.badHost fault)

theorem Reads.bind {α β γ δ : Type} {form : α → β} {form' : γ → δ} {r : Except Error β}
    {go : β → Except Error δ} (h : Reads form r) (hgo : ∀ x, Reads form' (go (form x))) :
    Reads form' (r >>= go) := by
  rcases h with ⟨x, rfl⟩ | ⟨fault, rfl⟩
  · exact hgo x
  · exact .inr ⟨fault, rfl⟩

theorem Reads.mapM {α β γ : Type} {form : α → β} {f : γ → Except Error β}
    (h : ∀ x, Reads form (f x)) (xs : List γ) : Reads (List.map form) (xs.mapM f) := by
  induction xs with
  | nil => exact .inl ⟨[], rfl⟩
  | cons x xs ih =>
    rw [List.mapM_cons]
    exact (h x).bind fun y => ih.bind fun ys => .inl ⟨y :: ys, rfl⟩

section Fields

variable {x : Extractor} {strict : Bool} {selector : String} {d : Directive}

theorem exists_of_isOk {ε α : Type} {r : Except ε α} (h : r.isOk = true) : ∃ a, r = .ok a := by
  cases r with
  | ok a => exact ⟨a, rfl⟩
  | error e => cases h

theorem exists_read (c : Cursor) (mode : String) :
    ∃ text : Option String, Extractor.read c mode = .ofText? text := by
  unfold Extractor.read
  split
  · exact ⟨some c.text, rfl⟩
  split
  · exact ⟨some c.markup, rfl⟩
  · exact ⟨c.attr? mode, rfl⟩

/-- What a directive reads is nothing, or what becomes of a text or of nothing that is read off an
element. -/
theorem extract_cases (hself : d.isSelfReference = false)
    (hcss : (Css.parse d.subSelector).isOk = true) (c : Cursor) :
    x.extract (some c) d = pure .none ∨ ∃ text : Option String,
      x.extract (some c) d = match d.filter with
        | some f => x.applyFilter (.ofText? text) f
        | none => pure (.ofText? text) := by
  obtain ⟨s, hs⟩ := exists_of_isOk hcss
  have htarget : Extractor.target (some c) d = .ok (s.select c).head? := by
    unfold Extractor.target
    rw [if_neg (Bool.eq_false_iff.mp hself)]
    dsimp only
    rw [selectFirst, select, hs]
    rfl
  rw [Extractor.extract, htarget]
  cases (s.select c).head? with
  | none => exact .inl rfl
  | some e =>
    obtain ⟨text, htext⟩ := exists_read e d.mode
    refine .inr ⟨text, ?_⟩
    cases d.filter with
    | none => exact congrArg pure htext
    | some f => exact congrArg (x.applyFilter · f) htext

/-- A directive without a filter reads a text or nothing. -/
theorem reads_text (hself : d.isSelfReference = false)
    (hcss : (Css.parse d.subSelector).isOk = true) (hfilter : d.filter = none) (c : Cursor) :
    Reads Value.ofText? (x.extract (some c) d).result := by
  rcases extract_cases (x := x) hself hcss c with h | ⟨text, h⟩
  · exact .inl ⟨none, by rw [h]; rfl⟩
  · rw [hfilter] at h
    exact .inl ⟨text, by rw [h]; rfl⟩

/-- A directive with a filter reads what the filter makes of a text or of nothing, or it reads
nothing. -/
theorem reads_filtered {α : Type} {form : Option α → Value} {f : Invocation}
    (hself : d.isSelfReference = false) (hcss : (Css.parse d.subSelector).isOk = true)
    (hfilter : d.filter = some f) (hmissing : form none = .none)
    (hf : ∀ text, Reads form (x.applyFilter (.ofText? text) f).result) (c : Cursor) :
    Reads form (x.extract (some c) d).result := by
  rcases extract_cases (x := x) hself hcss c with h | ⟨text, h⟩
  · exact .inl ⟨none, by rw [h, hmissing]; rfl⟩
  · rw [hfilter] at h
    rw [h]
    exact hf text

theorem applyFilter_price (v : Value) :
    (bookExtractor strict).applyFilter v ⟨"price", ["GBP"]⟩ =
      Normalize.PriceRule.normalize { currency := some "GBP" } v := by
  have hresolve : (bookExtractor strict).applyFilter v ⟨"price", ["GBP"]⟩ =
      Filter.price.run v ["GBP"] := by rfl
  rw [hresolve, Filter.price, Filter.define]
  dsimp only
  rfl

theorem reads_price (text : Option String) : Reads amountValue
    ((bookExtractor strict).applyFilter (.ofText? text) ⟨"price", ["GBP"]⟩).result := by
  rw [applyFilter_price]
  unfold Normalize.PriceRule.normalize
  split
  · exact .inl ⟨none, rfl⟩
  dsimp only
  split
  · exact .inl ⟨none, rfl⟩
  split
  · exact .inl ⟨none, rfl⟩
  next amount _ => exact .inl ⟨some amount, rfl⟩

theorem reads_squish (text : Option String) : Reads Value.ofText?
    ((bookExtractor strict).applyFilter (.ofText? text) ⟨"squish", []⟩).result := by
  cases text with
  | none => exact .inl ⟨none, rfl⟩
  | some s => exact .inl ⟨some _, rfl⟩

theorem reads_rating (text : Option String) : Reads wholeValue
    ((bookExtractor strict).applyFilter (.ofText? text) ⟨"rating", []⟩).result := by
  cases text with
  | none => exact .inl ⟨some 0, rfl⟩
  | some s =>
    have hrun : ((bookExtractor strict).applyFilter (.str s) ⟨"rating", []⟩).result =
        if !(Value.str s).isTruthy then .ok (.int 0) else .ok (.int (ratingOf s)) := rfl
    change Reads wholeValue ((bookExtractor strict).applyFilter (.str s) ⟨"rating", []⟩).result
    rw [hrun]
    split
    · exact .inl ⟨some 0, rfl⟩
    · exact .inl ⟨some _, rfl⟩

theorem reads_url (base : String) (text : Option String) : Reads Value.ofText?
    ((bookExtractor strict).applyFilter (.ofText? text) ⟨"url", [base]⟩).result := by
  change Reads Value.ofText? (Normalize.LinkRule.normalize { base := some base } (.ofText? text))
  unfold Normalize.LinkRule.normalize
  split
  · exact .inl ⟨none, rfl⟩
  dsimp only
  split
  · exact .inl ⟨none, rfl⟩
  split
  next u _ => exact .inl ⟨some (.ofList u), rfl⟩
  next fault _ => exact .inr ⟨fault, rfl⟩

end Fields

/-! ## Records -/

section Records

/-- How the fields of a book are read. -/
def bookDirectives : List (String × Directive) :=
  [("title", .of "h3 a" "title"),
    ("price", .of "p.price_color" "text" (some ⟨"price", ["GBP"]⟩)),
    ("availability", .of "p.availability" "text" (some ⟨"squish", []⟩)),
    ("rating", .of "p.star-rating" "class" (some ⟨"rating", []⟩)),
    ("image", .of "div.image_container img" "src"
      (some ⟨"url", ["https://books.toscrape.com/catalogue/"]⟩)),
    ("link", .of "h3 a" "href" (some ⟨"url", ["https://books.toscrape.com/catalogue/"]⟩))]

theorem compileFields_bookFields (strict dropEmpty : Bool) :
    (⟨bookExtractor strict, dropEmpty⟩ : Scanner).compileFields bookFields = .ok bookDirectives := by
  cases strict <;> rfl

/-- What is read off an element of a page is a book. -/
theorem record_cases (strict dropEmpty : Bool) (c : Cursor) :
    Reads Book.record
      ((⟨bookExtractor strict, dropEmpty⟩ : Scanner).record bookDirectives c).result := by
  have hok {α β : Type} (a : α) (go : α → Except Error β) : (Except.ok a >>= go) = go a := rfl
  simp only [Scanner.record, bookDirectives, List.mapM_cons, List.mapM_nil, Traced.result_bind,
    Traced.result_pure, bind_assoc, hok]
  refine Reads.bind (reads_text rfl (by decide +kernel) rfl c) fun title => ?_
  refine Reads.bind (reads_filtered rfl (by decide +kernel) rfl rfl reads_price c) fun price => ?_
  refine Reads.bind (reads_filtered rfl (by decide +kernel) rfl rfl reads_squish c)
    fun availability => ?_
  refine Reads.bind (reads_filtered rfl (by decide +kernel) rfl rfl reads_rating c) fun rating => ?_
  refine Reads.bind (reads_filtered rfl (by decide +kernel) rfl rfl (reads_url _) c) fun image => ?_
  refine Reads.bind (reads_filtered rfl (by decide +kernel) rfl rfl (reads_url _) c) fun link => ?_
  exact .inl ⟨⟨title, price, availability, rating, image, link⟩, rfl⟩

/-- The records of a page are those of books. -/
theorem scanRecords_cases (strict dropEmpty : Bool) (c : Cursor) :
    Reads (List.map Book.record) ((⟨bookExtractor strict, dropEmpty⟩ : Scanner).scanRecords (some c)
      bookPlan.scope bookFields).result := by
  obtain ⟨s, hs⟩ := exists_of_isOk
    (show (Css.parse "article.product_pod").isOk = true by decide +kernel)
  have hfound : Scanner.elements (some c) bookPlan.scope = .ok (s.select c) := by
    rw [bookPlan, Scanner.elements_of_css c (by decide), select, hs]
  have hrecords : Reads (List.map Book.record) ((s.select c).mapM
      ((⟨bookExtractor strict, dropEmpty⟩ : Scanner).record bookDirectives)).result := by
    rw [Traced.result_mapM]
    exact .mapM (record_cases strict dropEmpty) (s.select c)
  rw [Scanner.scanRecords, compileFields_bookFields, hfound]
  change Reads _ ((s.select c).mapM _ >>= fun records => Traced.tell [_] >>= fun _ => pure _).result
  rw [Traced.result_bind]
  refine hrecords.bind fun books => .inl ?_
  simp only [Traced.result_bind, Traced.result_tell, Traced.result_pure, Scanner.kept]
  split
  · exact ⟨books.filter fun b => !b.record.isEmpty, congrArg Except.ok List.filter_map⟩
  · exact ⟨books, rfl⟩

end Records

/-! ## Walks -/

/-- A crawler goes through a catalogue: it reads books off the pages, by rules that there are, and
follows the links to the next page. -/
structure ReadsBooks {σ : Type} (c : Crawler σ) (t : Task) : Prop where
  extractor : ∃ strict, c.scanner.extractor = bookExtractor strict
  rules : ∃ rules, MarkupRules.ofName? c.parser = some rules
  link : t.link = .of "li.next a" "href"
  scope : t.scope = bookPlan.scope
  fields : t.fields = some bookFields

section Walks

variable {σ : Type} {c : Crawler σ} {t : Task} {p : Page} {cursor : Cursor}

theorem ReadsBooks.read_eq (h : ReadsBooks c t) (markup : String) (url : Option String) :
    ∃ cursor, c.read markup url = .ok ⟨some cursor, url⟩ := by
  obtain ⟨rules, hrules⟩ := h.rules
  refine ⟨.document (rules.parse markup), ?_⟩
  rw [Crawler.read, Document.parse, hrules]
  rfl

/-- **The records of a page are those of books**, unless a link has a malformed host. -/
theorem ReadsBooks.recordsOf_cases (h : ReadsBooks c t) (hp : p.place = some cursor) :
    Reads (List.map Book.value) (c.recordsOf t p) := by
  obtain ⟨strict, hextractor⟩ := h.extractor
  have hscanner : c.scanner = ⟨bookExtractor strict, c.scanner.dropEmpty⟩ := by rw [← hextractor]
  rw [Crawler.recordsOf, h.scope, h.fields, hp, hscanner, Scanner.scan, Traced.result_bind]
  rw [bind_assoc]
  refine (scanRecords_cases strict c.scanner.dropEmpty cursor).bind fun books => .inl ⟨books, ?_⟩
  change items (.list ((books.map Book.record).map .dict)) = _
  rw [List.map_map]
  rfl

theorem reads_resolve (p : Page) (link : Value) : Reads id (Crawler.resolve p link) := by
  unfold Crawler.resolve
  generalize (if link.isNone then "" else Text.trimmed link.display) = text
  dsimp only
  split
  · exact .inl ⟨none, rfl⟩
  split
  · exact .inl ⟨_, rfl⟩
  · exact .inr ⟨_, rfl⟩

theorem ReadsBooks.linkOn_cases (h : ReadsBooks c t) (hp : p.place = some cursor) :
    Reads id (c.linkOn t p) := by
  have hlink : Reads Value.ofText? (c.scanner.extractor.extract (some cursor)
      (.of "li.next a" "href")).result := reads_text rfl (by decide +kernel) rfl cursor
  rw [Crawler.linkOn, hp, h.link]
  exact hlink.bind fun text => reads_resolve p _

theorem ReadsBooks.turn_last (h : ReadsBooks c t) (hp : p.place = some cursor) {number : Nat}
    {outside after : σ} {found : List Value} {reqs : List String} {ending : Ending}
    (hturn : c.turn t (c.linkOn t) p number outside = .last found reqs ending after) :
    (∃ books : List Book, found = books.map Book.value) ∧
      ∀ e, ending = .broken e → ∃ fault, e = .badHost fault := by
  unfold Crawler.turn at hturn
  rcases h.recordsOf_cases hp with ⟨books, hr⟩ | ⟨fault, hr⟩
  · rw [hr] at hturn
    have hfound (hending : ∀ e, ending ≠ .broken e) (heq : books.map Book.value = found) :
        (∃ books : List Book, found = books.map Book.value) ∧
          ∀ e, ending = .broken e → ∃ fault, e = .badHost fault :=
      ⟨⟨books, heq.symm⟩, fun e he => absurd he (hending e)⟩
    rcases h.linkOn_cases hp with ⟨next, hl⟩ | ⟨fault, hl⟩
    · rw [hl] at hturn
      cases next with
      | none =>
        cases hturn
        exact hfound nofun rfl
      | some url =>
        dsimp only [id] at hturn
        split at hturn
        · cases hturn
          exact hfound nofun rfl
        split at hturn
        · cases hturn
          exact hfound nofun rfl
        next markup hm =>
        obtain ⟨cursor', hread⟩ := h.read_eq markup (some url)
        rw [hread] at hturn
        cases hturn
    · rw [hl] at hturn
      cases hturn
      exact ⟨⟨books, rfl⟩, fun e he => ⟨fault, (Ending.broken.inj he).symm⟩⟩
  · rw [hr] at hturn
    cases hturn
    exact ⟨⟨[], rfl⟩, fun e he => ⟨fault, (Ending.broken.inj he).symm⟩⟩

/-- A walk gathers the records of books, and nothing breaks it but a malformed host in a link. -/
theorem ReadsBooks.walk (h : ReadsBooks c t) {number : Nat} {outside : σ} {x : Course σ}
    (hx : c.Walk t (c.linkOn t) p number outside x) (hp : p.place = some cursor) :
    (∃ books : List Book, x.records = books.map Book.value) ∧
      ∀ e, x.ending = .broken e → ∃ fault, e = .badHost fault := by
  induction hx generalizing cursor with
  | last hturn => exact h.turn_last hp hturn
  | @onward p page number outside after found url x hturn hrest ih =>
    obtain ⟨hr, -, -, markup, -, hpage, -⟩ := Crawler.turn_eq_onward_iff.mp hturn
    obtain ⟨cursor', hread⟩ := h.read_eq markup (some url)
    rw [hpage] at hread
    obtain ⟨⟨more, hmore⟩, hbroken⟩ := ih (congrArg Page.place (Except.ok.inj hread))
    refine ⟨?_, hbroken⟩
    rcases h.recordsOf_cases hp with ⟨books, hbooks⟩ | ⟨fault, hfault⟩
    · rw [hr] at hbooks
      cases hbooks
      exact ⟨books ++ more, by rw [Course.cons, hmore, List.map_append]⟩
    · rw [hr] at hfault
      cases hfault

end Walks

end Gleaner.Catalogue
