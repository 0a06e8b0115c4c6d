import Gleaner.Proofs.Catalogue.Book
import Gleaner.Proofs.Crawl.Onward

/-! # What the catalogue comes to

The program keeps the books of all pages that it could scan, whether or not a later page can be
fetched, and then reports the first of them (`run_keeps_books`). The report shows the rating and the
title of a book without a look at whether it has them: a book without either ends the program, whatever
was gathered. -/

namespace Gleaner.Catalogue

open Crawl Http

/-! ## The report -/

/-- What the report of a book fails over: there is no rating to show as stars, or no title to cut. -/
def Book.fault? (b : Book) : Option Error :=
  match b.rating, b.title with
  | none, _ => some (.badRepeat "NoneType")
  | some _, none => some (.notSubscriptable "NoneType")
  | some _, some _ => none

/-- What the program makes of the books that it has gathered. -/
def tally (books : List Book) : Except Error (List Value) :=
  match (books.take shownBooks).findSome? Book.fault? with
  | none => .ok (books.map Book.value)
  | some e => .error e

theorem Book.fault?_eq_none_iff {b : Book} :
    b.fault? = none ↔ b.rating.isSome = true ∧ b.title.isSome = true := by
  unfold fault?
  cases b.rating <;> cases b.title <;> simp

theorem tally_eq_ok_iff {books : List Book} {kept : List Value} : tally books = .ok kept ↔
    kept = books.map Book.value ∧
      ∀ b ∈ books.take shownBooks, b.rating.isSome = true ∧ b.title.isSome = true := by
  simp only [← Book.fault?_eq_none_iff, ← List.findSome?_eq_none_iff]
  unfold tally
  cases (books.take shownBooks).findSome? Book.fault? with
  | none => simp [eq_comm]
  | some e => simp

theorem exists_priceText (price : Option Double) :
    ∃ shown, priceText (amountValue price) = .ok shown := by
  cases price with
  | none => exact ⟨_, rfl⟩
  | some d =>
    have hlayout : Template.Layout.read "float" none ".2f".toList =
        .ok { precision := some 2, kind := some 'f' } := by rfl
    have hwrite : Template.write (.float d) ".2f".toList =
        .ok (Template.layDouble { precision := some 2, kind := some 'f' } d) := by
      change Template.writeDouble d ".2f".toList = _
      rw [Template.writeDouble, hlayout]
      rfl
    have hnone : ¬ (Value.float d).isNone = true := Bool.false_ne_true
    rw [amountValue, priceText, if_neg hnone, hwrite]
    exact ⟨_, rfl⟩

/-- The line about a book fails just over its fault. -/
theorem bookLine_record (b : Book) :
    match b.fault? with
    | none => ∃ entry, bookLine b.record = .ok entry
    | some e => bookLine b.record = .error e := by
  obtain ⟨shown, hshown⟩ := exists_priceText b.price
  have hprice : priceText (fieldOf b.record "price") = .ok shown := hshown
  have hrating : fieldOf b.record "rating" = wholeValue b.rating := rfl
  have htitle : fieldOf b.record "title" = .ofText? b.title := rfl
  unfold Book.fault? bookLine
  rw [hprice, hrating, htitle]
  cases b.rating with
  | none => rfl
  | some n =>
    cases b.title with
    | none => rfl
    | some title => exact ⟨_, rfl⟩

/-- The lines about some books fail like the first that does. -/
theorem result_forM_lines (books : List Book) :
    ((books.map Book.value).forM fun book => do
        .tell [← .ofExcept (bookLine (recordOf book))] : Traced Log.Entry Unit).result =
      match books.findSome? Book.fault? with
      | none => .ok ()
      | some e => .error e := by
  induction books with
  | nil => rfl
  | cons b books ih =>
    have hline := bookLine_record b
    rw [List.map_cons, List.findSome?_cons]
    change ((Traced.ofExcept (bookLine b.record) >>= fun entry => Traced.tell [entry]) >>= fun _ =>
      (books.map Book.value).forM _).result = _
    rw [Traced.result_bind, Traced.result_bind, Traced.result_ofExcept]
    cases hfault : b.fault? with
    | none =>
      rw [hfault] at hline
      obtain ⟨entry, hentry⟩ := hline
      rw [hentry]
      exact ih
    | some e =>
      rw [hfault] at hline
      rw [hline]
      rfl

theorem result_report (books : List Book) :
    (report (books.map Book.value) >>= fun _ =>
      (pure (books.map Book.value) : Traced Log.Entry (List Value))).result = tally books := by
  simp only [report, Traced.result_bind, Traced.result_tell, ← List.map_take,
    result_forM_lines, Traced.result_pure]
  unfold tally
  cases (books.take shownBooks).findSome? Book.fault? <;> rfl

/-! ## The crawl -/

section Gather

variable {σ : Type} (a : Ambient) (fetch : Fetcher σ) (floor : Log.Floor)

/-- The scraper of the program. -/
def bookScraper : Scraper σ :=
  .ofRegistry ⟨"instance", [("rating", .filter rating)]⟩ a
    { filters := [("rating", .filter rating)], follow := true } fetch

def bookCrawler : Crawler σ := (bookScraper a fetch).crawler a floor

/-- The crawl of the program, from a first page. -/
def bookTask (first : Page) : Task where
  link := .of "li.next a" "href"
  scope := bookPlan.scope
  fields := some bookFields
  budget := ⟨some 5, "5"⟩
  first := first

/-- What the program keeps of a crawl. -/
def keptOf : Except Error (List Value) → Except Error (List Value)
  | .error (.fetch f) => .ok f.records
  | r => r

theorem keptOf_error {e : Error} (h : ∀ f, e ≠ .fetch f) : keptOf (.error e) = .error e := by
  unfold keptOf
  split
  next f heq => exact absurd (Except.error.inj heq) (h f)
  next => rfl

theorem result_salvage (t : Traced Log.Entry (List Value)) :
    (salvage t).result = keptOf t.result := by
  obtain ⟨events, r⟩ := t
  cases r with
  | ok books => rfl
  | error e => cases e <;> rfl

theorem gather_eq (outside : σ) :
    (gather a fetch floor outside).1 =
        ((bookScraper a fetch).crawlUrl a floor 15 outside startUrl bookPlan).1 ∧
      (gather a fetch floor outside).2.result =
        (keptOf ((bookScraper a fetch).crawlUrl a floor 15 outside startUrl bookPlan).2.result >>=
          fun books => (report books >>= fun _ =>
            (pure books : Traced Log.Entry (List Value))).result) := by
  refine ⟨rfl, ?_⟩
  have hresult : (gather a fetch floor outside).2.result = (Traced.tell [_] >>= fun _ =>
      salvage (logged ((bookScraper a fetch).crawlUrl a floor 15 outside startUrl bookPlan).2) >>=
        fun books => report books >>= fun _ =>
          (pure books : Traced Log.Entry (List Value))).result := rfl
  rw [hresult, Traced.result_bind, Traced.result_tell]
  change (salvage _ >>= _).result = _
  rw [Traced.result_bind, result_salvage]
  rfl

variable {a fetch floor} {outside : σ} {rules : MarkupRules}

/-- The first page of the catalogue. -/
def firstPage (rules : MarkupRules) (markup : String) : Page :=
  ⟨some (.document (rules.parse markup)), some startUrl⟩

theorem extractor_bookCrawler (hshared : a.shared = .shared) :
    (bookCrawler a fetch floor).scanner.extractor = bookExtractor a.settings.strictFilters := by
  rw [bookExtractor, ← hshared]
  rfl

theorem readsBooks (hshared : a.shared = .shared)
    (hrules : MarkupRules.ofName? (a.parserName none) = some rules) (first : Page) :
    ReadsBooks (bookCrawler a fetch floor) (bookTask first) where
  extractor := ⟨a.settings.strictFilters, extractor_bookCrawler hshared⟩
  rules := ⟨rules, hrules⟩
  link := rfl
  scope := rfl
  fields := rfl

theorem check_bookPlan (hshared : a.shared = .shared) (d : Document) :
    (bookCrawler a fetch floor).check (.document d) (bookPlan.under a startUrl) =
      .ok (bookTask ⟨some d.root, some startUrl⟩) := by
  have hlink : (bookCrawler a fetch floor).scanner.extractor.compile "li.next a@href" =
      .ok (.of "li.next a" "href") := by
    rw [extractor_bookCrawler hshared]
    cases a.settings.strictFilters <;> rfl
  exact Crawler.check_eq_ok_iff.mpr ⟨rfl, hlink, rfl, rfl, rfl⟩

/-- The walk of the program through a catalogue whose first page was fetched. -/
def Gathers (a : Ambient) (fetch : Fetcher σ) (floor : Log.Floor) (first : Page) (outside : σ)
    (x : Course σ) : Prop :=
  (bookCrawler a fetch floor).Walk (bookTask first)
    ((bookCrawler a fetch floor).linkOn (bookTask first)) first 1 outside x

/-- By its budget the walk scans five pages at most. -/
theorem exists_gathers (a : Ambient) (fetch : Fetcher σ) (floor : Log.Floor) (first : Page)
    (outside : σ) : ∃ x, Gathers a fetch floor first outside x ∧ x.pages.length ≤ 5 := by
  obtain ⟨x, hx, hlength, -⟩ : ∃ x, Gathers a fetch floor first outside x ∧
      1 + x.pages.length ≤ 5 + 1 ∧ 1 + x.requests.length ≤ 5 :=
    Crawler.exists_walk_of_limit rfl (by decide)
  exact ⟨x, hx, by omega⟩

theorem Gathers.length_le {first : Page} {x : Course σ}
    (h : Gathers a fetch floor first outside x) : x.pages.length ≤ 5 := by
  obtain ⟨y, hy, hlength⟩ := exists_gathers a fetch floor first outside
  rwa [Crawler.Walk.unique h hy]

/-- The crawl of the program goes as the walk. -/
theorem Gathers.crawlUrl (hshared : a.shared = .shared)
    (hrules : MarkupRules.ofName? (a.parserName none) = some rules) {markup : String}
    (hfetched : (fetch outside startUrl).2.result = .ok markup) {x : Course σ}
    (hx : Gathers a fetch floor (firstPage rules markup) (fetch outside startUrl).1 x)
    (hplain : ∀ p ∈ x.pages, p.HasPlainUrl) :
    ((bookScraper a fetch).crawlUrl a floor 15 outside startUrl bookPlan).1 = x.outside ∧
      ((bookScraper a fetch).crawlUrl a floor 15 outside startUrl bookPlan).2.result =
        x.result := by
  have hopening : ((bookScraper a fetch).opening a outside startUrl).result =
      .ok ⟨rules.parse markup, a.parserName none, some startUrl⟩ := by
    have hparse : (bookScraper a fetch).parse a markup (some startUrl) =
        .ok ⟨rules.parse markup, a.parserName none, some startUrl⟩ := by
      change Document.parse (a.parserName none) markup (some startUrl) = _
      rw [Document.parse, hrules]
    have hload : ((bookScraper a fetch).fetch outside startUrl).2.result = .ok markup := hfetched
    rw [Scraper.result_opening, hload, ← hparse]
    rfl
  have hfollow : (bookCrawler a fetch floor).follow = true := rfl
  have hwalk := hx
  rw [Gathers, ← Crawler.nextOf_of_follow hfollow] at hwalk
  have hlength := hx.length_le
  have hruns := (Crawler.runs_of_walk
    (s := Crawler.start (bookTask (firstPage rules markup)) (fetch outside startUrl).1)
    hwalk hplain rfl rfl rfl rfl).mono (show 3 * x.pages.length ≤ 15 by omega)
  rw [Scraper.crawlUrl_of_check hopening (check_bookPlan hshared _)]
  exact ⟨hruns.outside, hruns.result⟩

end Gather

/-! ## The program -/

theorem run_eq {σ : Type} {a : Ambient} {sinks : List Log.Sink}
    (hsinks : (⟨.str a.settings.logLevel, .bool a.settings.logToFile⟩ : Log.Setup).sinks = .ok sinks)
    (fetcher : Log.Floor → Fetcher σ) (outside : σ) :
    (run a fetcher outside).1 =
        (gather a (fetcher (Log.floorOf sinks)) (Log.floorOf sinks) outside).1 ∧
      (run a fetcher outside).2.result =
        (gather a (fetcher (Log.floorOf sinks)) (Log.floorOf sinks) outside).2.result := by
  simp only [run, hsinks, and_self]

/-- **What becomes of the books that were gathered.** If the start of the catalogue cannot be fetched,
there are none, and the program returns that. Otherwise it walks over at most five pages, and their
records are books. When the walk is finished, and also when a page cannot be fetched, the program
returns the records of all pages scanned so far, just if each of the books that it shows has a rating
and a title; else it fails over the first that lacks one of them. All other failures pass through: of
a fetch that is no failure to fetch the page, and of a link with a malformed host. -/
theorem run_keeps_books {a : Ambient} {rules : MarkupRules} {sinks : List Log.Sink}
    (hshared : a.shared = .shared)
    (hrules : MarkupRules.ofName? (a.parserName none) = some rules)
    (hsinks : (⟨.str a.settings.logLevel, .bool a.settings.logToFile⟩ : Log.Setup).sinks = .ok sinks)
    (access : Access) (site : Site) (traffic : Traffic) :
    let floor := Log.floorOf sinks
    let fetch := access.fetcher site a.settings floor
    let ran := run a (access.fetcher site a.settings) traffic
    (∀ e, (fetch traffic startUrl).2.result = .error e →
      ran.1 = (fetch traffic startUrl).1 ∧
      ((∃ f, e = .fetch f) → ran.2.result = .ok []) ∧
      ((∀ f, e ≠ .fetch f) → ran.2.result = .error e)) ∧
    ∀ markup, (fetch traffic startUrl).2.result = .ok markup →
      (∃ x, Gathers a fetch floor (firstPage rules markup) (fetch traffic startUrl).1 x) ∧
      ∀ x, Gathers a fetch floor (firstPage rules markup) (fetch traffic startUrl).1 x →
        (∀ p ∈ x.pages, p.HasPlainUrl) →
        x.pages.length ≤ 5 ∧ ran.1 = x.outside ∧
        ∃ books : List Book, x.records = books.map Book.value ∧
          (x.ending = .finished ∨ (∃ f, x.ending = .unfetched (.fetch f)) →
            ran.2.result = tally books ∧
            (ran.2.result = .ok x.records ↔
              ∀ b ∈ books.take shownBooks, b.rating.isSome = true ∧ b.title.isSome = true)) ∧
          (∀ e, x.ending = .unfetched e → (∀ f, e ≠ .fetch f) → ran.2.result = .error e) ∧
          ∀ e, x.ending = .broken e → ran.2.result = .error e ∧ ∃ fault, e = .badHost fault := by
  intro floor fetch ran
  obtain ⟨houtside, hresult⟩ := run_eq hsinks (access.fetcher site a.settings) traffic
  obtain ⟨houtside', hresult'⟩ := gather_eq a fetch floor traffic
  replace houtside : ran.1 = _ := houtside.trans houtside'
  replace hresult : ran.2.result = _ := hresult.trans hresult'
  constructor
  · intro e he
    obtain ⟨events, hcrawl, -⟩ : ∃ events, (bookScraper a fetch).crawlUrl a floor 15 traffic startUrl
        bookPlan = ((fetch traffic startUrl).1, ⟨events, .error e⟩) ∧ requests events = [startUrl] :=
      Scraper.crawlUrl_unfetched he
    rw [hcrawl] at houtside hresult
    refine ⟨houtside, ?_, fun hnot => ?_⟩
    · rintro ⟨f, rfl⟩
      have hrecords : f.records = [] := fetcher_isFresh he f rfl
      have hkept : keptOf (.error (.fetch f)) = .ok [] := congrArg Except.ok hrecords
      rw [hresult, hkept]
      exact result_report []
    · rw [hresult, keptOf_error hnot]
      rfl
  · intro markup hfetched
    obtain ⟨y, hy, -⟩ := exists_gathers a fetch floor (firstPage rules markup)
      (fetch traffic startUrl).1
    refine ⟨⟨y, hy⟩, fun x hx hplain => ?_⟩
    obtain ⟨hcrawlOutside, hcrawl⟩ := hx.crawlUrl hshared hrules hfetched hplain
    rw [hcrawl, Course.result] at hresult
    obtain ⟨⟨books, hbooks⟩, hbroken⟩ := (readsBooks hshared hrules _).walk hx rfl
    have htally (hkept : keptOf (x.ending.result x.records) = .ok x.records) :
        ran.2.result = tally books := by
      rw [hresult, hkept, hbooks]
      exact result_report books
    refine ⟨hx.length_le, houtside.trans hcrawlOutside, books, hbooks, fun hends => ?_,
      fun e he hnot => ?_, fun e he => ⟨?_, hbroken e he⟩⟩
    · have hran : ran.2.result = tally books := by
        rcases hends with hends | ⟨f, hends⟩
        · exact htally (by rw [hends]; rfl)
        · exact htally (by rw [hends]; rfl)
      refine ⟨hran, ?_⟩
      rw [hran, tally_eq_ok_iff, and_iff_right hbooks]
    · have habort : abort x.records e = e := by
        cases e with
        | fetch f => exact absurd rfl (hnot f)
        | _ => rfl
      rw [hresult, he, Ending.result, habort, keptOf_error hnot]
      rfl
    · obtain ⟨fault, rfl⟩ := hbroken e he
      rw [hresult, he]
      rfl

/-- The settings with the rules that read markup as it is. -/
def fragmentAmbient : Ambient where
  settings := { htmlParser := "html.parser" }

def ratedMarkup : String :=
  "<article class=\"product_pod\"><p class=\"star-rating Two\"></p><h3><a title=\"A\"></a></h3>" ++
    "</article><li class=\"next\"><a href=\"page-2.html\"></a></li>"

/-- A catalogue of one page, without the page that it links to. The book on it has a rating. -/
def ratedSite : Site := .ofPages [(startUrl, .page ratedMarkup)]

/-- A catalogue of one page. The book on it has no rating. -/
def unratedSite : Site := .ofPages
  [(startUrl, .page "<article class=\"product_pod\"><h3><a title=\"A\"></a></h3></article>")]

/-- A book with a title and nothing else, except perhaps a rating. -/
def titledBook (rating : Option Int) : Book where
  title := some "A"
  price := none
  availability := none
  rating := rating
  image := none
  link := none

def titledPage (before after : List Markup.Node) : Page where
  place := some (.document (.element "article" [("class", "product_pod")]
    (before ++ [.element "h3" [] [.element "a" [("title", "A")] []]]) :: after))
  url := some startUrl

theorem hasPlainUrl_titledPage (before after : List Markup.Node) :
    (titledPage before after).HasPlainUrl := by
  rintro _ ⟨⟩
  decide

def ratedPage : Page :=
  titledPage [.element "p" [("class", "star-rating Two")] []]
    [.element "li" [("class", "next")] [.element "a" [("href", "page-2.html")] []]]

-- The markup is read character by character.
set_option maxRecDepth 2000 in
theorem firstPage_rated : firstPage .fragment ratedMarkup = ratedPage := by rfl

def ratedCourse : Course Traffic where
  pages := [ratedPage]
  records := [(titledBook (some 2)).value]
  requests := ["https://books.toscrape.com/catalogue/page-2.html"]
  ending := .unfetched (.fetch ⟨"https://books.toscrape.com/catalogue/page-2.html", "HTTP 404",
    some 404, []⟩)
  outside := [⟨startUrl, []⟩, ⟨"https://books.toscrape.com/catalogue/page-2.html", []⟩]

theorem gathers_rated : Gathers fragmentAmbient (directFetch ratedSite) 20 ratedPage
    [⟨startUrl, []⟩] ratedCourse :=
  .last rfl

def unratedCourse : Course Traffic where
  pages := [titledPage [] []]
  records := [(titledBook none).value]
  requests := []
  ending := .finished
  outside := [⟨startUrl, []⟩]

theorem gathers_unrated : Gathers fragmentAmbient (directFetch unratedSite) 20 (titledPage [] [])
    [⟨startUrl, []⟩] unratedCourse :=
  .last rfl

/-- The rated book is returned, although the page behind it is missing. Over the one without a rating
the program fails. -/
theorem run_keeps_books_rated :
    (run fragmentAmbient (Access.direct.fetcher ratedSite fragmentAmbient.settings) []).2.result =
      .ok [(titledBook (some 2)).value] ∧
    (run fragmentAmbient (Access.direct.fetcher unratedSite fragmentAmbient.settings) []).2.result =
      .error (.badRepeat "NoneType") := by
  constructor
  · obtain ⟨-, hfetched⟩ := run_keeps_books (a := fragmentAmbient) rfl rfl rfl .direct
      ratedSite []
    have hx := (hfetched ratedMarkup rfl).2
    rw [firstPage_rated] at hx
    obtain ⟨-, -, books, hbooks, hends, -⟩ := hx _ gathers_rated
      (List.forall_mem_singleton.mpr (hasPlainUrl_titledPage _ _))
    obtain rfl : [titledBook (some 2)] = books := Book.value_injective.list_map hbooks
    exact (hends (.inr ⟨_, rfl⟩)).2.mpr (by decide)
  · obtain ⟨-, hfetched⟩ := run_keeps_books (a := fragmentAmbient) rfl rfl rfl .direct
      unratedSite []
    obtain ⟨-, -, books, hbooks, hends, -⟩ := (hfetched _ rfl).2 _ gathers_unrated
      (List.forall_mem_singleton.mpr (hasPlainUrl_titledPage _ _))
    obtain rfl : [titledBook none] = books := Book.value_injective.list_map hbooks
    exact (hends (.inl rfl)).1

end Gleaner.Catalogue
