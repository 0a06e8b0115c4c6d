import Gleaner.Proofs.Crawl.Quiet
import Gleaner.Proofs.Url.Location

/-! # Crawls and the texts of their links

What the text of a link does to a crawl through a client. A link without a text ends it, and one
that leads to no absolute address breaks it off with all records. But a malformed host, an address
for which no request can be made and a brace that no report can show break it off as well, and then
the records are lost (`Crawler.crawl_link_text`). -/

namespace Gleaner

namespace Crawl

open Http

/-- The text of a link; a link that is nothing has none. -/
def linkText (link : Value) : String := if link.isNone then "" else Text.trimmed link.display

/-- What the text of a link on a page does to a crawl: it ends in some way, or goes on. `base` is
the address of the page, and `spent` tells whether the budget is spent. -/
inductive Fate (c : Crawler Traffic) (client : Client) (site : Site) (base : Option String)
    (text : String) (spent : Bool) (before : Traffic) : Option Ending → Prop where
  /-- There is no link. -/
  | noLink : text = "" → Fate c client site base text spent before (some .finished)
  /-- The link has a malformed host. That counts even if it would not be followed. -/
  | malformed {fault : Url.HostFault} : Url.isAbsolute text = .error fault →
    Fate c client site base text spent before (some (.broken (.badHost fault)))
  /-- The budget is spent. -/
  | spent {url : String} : text ≠ "" → Url.absolute text base = .ok url → spent = true →
    Fate c client site base text spent before (some .finished)
  /-- The page behind the link is not fetched. -/
  | unfetched {url : String} {e : Error} : text ≠ "" → Url.absolute text base = .ok url →
    spent = false → Client.Fetched client site before url (.error e) →
    Fate c client site base text spent before (some (.unfetched e))
  /-- It is fetched, but cannot be read. -/
  | unread {url markup : String} {e : Error} : text ≠ "" → Url.absolute text base = .ok url →
    spent = false → Client.Fetched client site before url (.ok markup) →
    c.read markup url = .error e → Fate c client site base text spent before (some (.broken e))
  /-- It is scanned next. -/
  | onward {url markup : String} {page : Page} : text ≠ "" → Url.absolute text base = .ok url →
    spent = false → Client.Fetched client site before url (.ok markup) →
    c.read markup url = .ok page → Fate c client site base text spent before none

/-- A link that a client can follow without harm: it has no text, or it leads to a plain address for
which there is a request if it is absolute. -/
def Followable (client : Client) (base : Option String) (text : String) : Prop :=
  text = "" ∨ ∃ url, Url.absolute text base = .ok url ∧ Template.Plain url ∧
    (Url.isAbsolute url = .ok true → ∃ o, client.prepare url = .ok o)

theorem abort_of_ne_fetch {e : Error} (h : ∀ f, e ≠ .fetch f) (records : List Value) :
    abort records e = e := by
  cases e with
  | fetch f => exact absurd rfl (h f)
  | _ => rfl

section Fates

variable {c : Crawler Traffic} {client : Client} {site : Site} {base : Option String}
  {text : String} {spent : Bool} {before : Traffic} {fate : Option Ending}

theorem Fate.of_fault (h : Fate c client site base text spent before fate) {fault : Url.HostFault}
    (hf : Url.isAbsolute text = .error fault) : fate = some (.broken (.badHost fault)) := by
  have habsurd {url : String} (h : Url.absolute text base = .ok url) :
      fate = some (.broken (.badHost fault)) := by
    rw [Url.absolute_of_fault hf] at h
    cases h
  cases h with
  | noLink htext =>
    rw [htext] at hf
    cases hf
  | malformed hf' =>
    rw [hf] at hf'
    cases hf'
    rfl
  | spent _ h | unfetched _ h | unread _ h | onward _ h => exact habsurd h

theorem Fate.of_refused (h : Fate c client site base text false before fate) (hne : text ≠ "")
    {url : String} (hurl : Url.absolute text base = .ok url) (habs : Url.isAbsolute url = .ok true)
    {e : Error} (he : client.prepare url = .error e) : fate = some (.unfetched e) := by
  cases h with
  | noLink htext => exact absurd htext hne
  | malformed hf =>
    rw [Url.absolute_of_fault hf] at hurl
    cases hurl
  | unfetched _ hurl' _ hfetched =>
    rw [hurl] at hurl'
    cases hurl'
    cases hfetched with
    | malformed hf => rw [habs] at hf; cases hf
    | relative hn => rw [habs] at hn; cases hn
    | refused _ he' => rw [Except.error.inj (he.symm.trans he')]
    | strange _ ho | failed _ ho | unreported _ ho => rw [he] at ho; cases ho
  | spent _ _ hspent => cases hspent
  | unread _ hurl' _ hfetched | onward _ hurl' _ hfetched =>
    rw [hurl] at hurl'
    cases hurl'
    cases hfetched with
    | received _ ho => rw [he] at ho; cases ho

/-- A link that can be followed without harm ends a crawl only for what the site answers. -/
theorem Fate.of_followable (h : Fate c client site base text spent before fate)
    (hb : Url.IsBase base) (hf : Followable client base text) :
    fate = none ∨ fate = some .finished ∨
      (∃ url reason status, fate = some (.unfetched (failure url reason status))) ∨
      (∃ url o e, client.prepare url = .ok o ∧
        (client.ask site before o).2 = .error (.other e) ∧ fate = some (.unfetched e)) ∨
      ∃ markup url e, c.read markup url = .error e ∧ fate = some (.broken e) := by
  cases h with
  | noLink => exact .inr (.inl rfl)
  | malformed hw =>
    rcases hf with rfl | ⟨url, hurl, -⟩
    · cases hw
    · rw [Url.absolute_of_fault hw] at hurl
      cases hurl
  | spent => exact .inr (.inl rfl)
  | unfetched hne hurl _ hfetched =>
    -- The address is plain and has a request, which leaves the failures that keep the records.
    obtain ⟨url', hurl', hplain, hrequest⟩ := hf.resolve_left hne
    rw [hurl] at hurl'
    cases hurl'
    cases hfetched with
    | malformed hw =>
      obtain ⟨w, hw'⟩ := Url.exists_isAbsolute hb hurl
      rw [hw] at hw'
      cases hw'
    | relative => exact .inr (.inr (.inl ⟨_, _, _, rfl⟩))
    | refused habs he =>
      obtain ⟨o, ho⟩ := hrequest habs
      rw [he] at ho
      cases ho
    | strange _ ho he => exact .inr (.inr (.inr (.inl ⟨_, _, _, ho, he, rfl⟩)))
    | failed => exact .inr (.inr (.inl ⟨_, _, _, rfl⟩))
    | unreported _ _ hn => exact absurd hplain hn
  | unread _ _ _ _ hread => exact .inr (.inr (.inr (.inr ⟨_, _, _, hread, rfl⟩)))
  | onward => exact .inl rfl

/-- A link to a plain absolute address whose response is no success ends a crawl with the failure to
fetch it. -/
theorem Fate.of_unsuccessful (h : Fate c client site base text spent before fate)
    (hspent : spent = false) (hne : text ≠ "") (habs : Url.isAbsolute text = .ok true)
    (hplain : Template.Plain text) {o : Outgoing} {r : Response} (ho : client.prepare text = .ok o)
    (hr : (client.ask site before o).2 = .ok r) (hstatus : isSuccess r.status = false) :
    ∃ reason status, fate = some (.unfetched (failure text reason status)) := by
  have hfetched {url : String} {x : Except Error String} (hurl : Url.absolute text base = .ok url)
      (hx : Client.Fetched client site before url x) :
      ∃ reason status, x = .error (failure text reason status) := by
    rw [Url.absolute_of_isAbsolute habs] at hurl
    cases hurl
    cases hx with
    | malformed hf => rw [habs] at hf; cases hf
    | relative hn => rw [habs] at hn; cases hn
    | refused _ he => rw [ho] at he; cases he
    | strange _ ho' he =>
      cases ho.symm.trans ho'
      rw [hr] at he
      cases he
    | failed => exact ⟨_, _, rfl⟩
    | received _ ho' hr' hsuccess =>
      cases ho.symm.trans ho'
      cases hr.symm.trans hr'
      rw [hstatus] at hsuccess
      cases hsuccess
    | unreported _ _ hn => exact absurd hplain hn
  cases h with
  | noLink htext => exact absurd htext hne
  | malformed hf => rw [habs] at hf; cases hf
  | spent _ _ hspent' => rw [hspent] at hspent'; cases hspent'
  | unfetched _ hurl _ hx =>
    obtain ⟨reason, status, hx⟩ := hfetched hurl hx
    cases hx
    exact ⟨reason, status, rfl⟩
  | unread _ hurl _ hx | onward _ hurl _ hx =>
    obtain ⟨_, _, hx⟩ := hfetched hurl hx
    cases hx

end Fates

end Crawl

namespace Crawler

open Crawl Http

variable {c : Crawler Traffic} {client : Client} {site : Site} {floor : Log.Floor}
  {source : Source} {plan : Plan} {t : Task}

theorem resolve_eq (p : Page) (link : Value) :
    resolve p link = if linkText link = "" then .ok none
      else match Url.absolute (linkText link) p.url with
        | .ok url => .ok (if url = "" then none else some url)
        | .error fault => .error (.badHost fault) := rfl

/-- On the way of a crawl through a client every page has an absolute address, if the first one has
one or has none. -/
theorem Trail.isBase (hc : c.fetch = client.fetch site floor) (hfirst : Url.IsBase t.first.url)
    {outside before : Traffic} {visited : List (Page × List Value)} {urls : List String} {p : Page}
    (h : Trail c t outside visited urls p before) : Url.IsBase p.url := by
  cases h with
  | first => exact hfirst
  | @onward _ _ _ _ before _ _ url _ hturn =>
    obtain ⟨-, -, -, markup, hmarkup, hpage, -⟩ := turn_eq_onward_iff.mp hturn
    have hfetched := client.fetched site floor before url
    rw [← hc, hmarkup] at hfetched
    intro b hbase
    rw [read_url hpage] at hbase
    cases hbase
    cases hfetched with
    | received habs => exact .inr habs

theorem nextOf_of_link {σ : Type} {c : Crawler σ} {p : Page} {link : Value}
    (hlink : (c.scanner.extractor.extract (c.linkPage t p).place t.link).result = .ok link) :
    c.nextOf t p = resolve (c.linkPage t p) link := by
  rw [nextOf, linkOn, hlink]
  rfl

/-- **The text of a link decides how a turn ends.** -/
theorem exists_fate (hc : c.fetch = client.fetch site floor) {p : Page} (number : Nat)
    (before : Traffic) {found : List Value} {link : Value} (hr : c.recordsOf t p = .ok found)
    (hb : Url.IsBase (c.linkPage t p).url)
    (hlink : (c.scanner.extractor.extract (c.linkPage t p).place t.link).result = .ok link) :
    ∃ fate, Fate c client site (c.linkPage t p).url (linkText link) (t.budget.isSpent number) before
        fate ∧
      match fate with
      | some ending => ∃ requests after,
        c.turn t (c.nextOf t) p number before = .last found requests ending after
      | none => ∃ url page after,
        c.turn t (c.nextOf t) p number before = .onward found url page after := by
  unfold turn
  rw [hr, nextOf_of_link hlink, resolve_eq]
  dsimp only
  by_cases htext : linkText link = ""
  · rw [if_pos htext]
    exact ⟨_, .noLink htext, [], before, rfl⟩
  rw [if_neg htext]
  cases hw : Url.isAbsolute (linkText link) with
  | error fault =>
    rw [Url.absolute_of_fault hw]
    exact ⟨_, .malformed hw, [], before, rfl⟩
  | ok w =>
  -- The link is made absolute before the budget is looked at, so only now the two cases part.
  obtain ⟨url, habs, hne⟩ := Url.exists_absolute hb htext hw
  rw [habs]
  dsimp only
  rw [if_neg hne]
  dsimp only
  cases hspent : t.budget.isSpent number with
  | true => exact ⟨_, .spent htext habs rfl, [], before, rfl⟩
  | false =>
  rw [if_neg Bool.false_ne_true]
  have hfetched := client.fetched site floor before url
  rw [← hc] at hfetched
  cases hm : (c.fetch before url).2.result with
  | error e =>
    rw [hm] at hfetched
    exact ⟨_, .unfetched htext habs rfl hfetched, [url], _, rfl⟩
  | ok markup =>
  rw [hm] at hfetched
  cases hpage : c.read markup url with
  | error e =>
    refine ⟨_, .unread htext habs rfl hfetched hpage, [url], (c.fetch before url).1, ?_⟩
    dsimp only
    rw [hpage]
  | ok page =>
    refine ⟨_, .onward htext habs rfl hfetched hpage, url, page, (c.fetch before url).1, ?_⟩
    dsimp only
    rw [hpage]

/-- A crawl through a client has come to a page: the pages before it were scanned, its own records
are read, and its link is extracted. The first page has an absolute address or none. -/
structure Stands (c : Crawler Traffic) (client : Client) (site : Site) (floor : Log.Floor)
    (source : Source) (plan : Plan) (t : Task) (outside before : Traffic)
    (visited : List (Page × List Value)) (urls : List String) (p : Page) (found : List Value)
    (link : Value) : Prop where
  fetch : c.fetch = client.fetch site floor
  check : c.check source plan = .ok t
  isBase : Url.IsBase plan.url
  trail : Trail c t outside visited urls p before
  hasPlainUrl : ∀ q ∈ visited.map (·.1) ++ [p], q.HasPlainUrl
  records : c.recordsOf t p = .ok found
  link : (c.scanner.extractor.extract (c.linkPage t p).place t.link).result = .ok link

variable {outside before : Traffic} {visited : List (Page × List Value)} {urls : List String}
  {p : Page} {found : List Value} {link : Value}

theorem Stands.isBase_linkPage
    (h : Stands c client site floor source plan t outside before visited urls p found link) :
    Url.IsBase (c.linkPage t p).url := by
  have hfirst : Url.IsBase t.first.url := by
    rw [first_url h.check]
    exact h.isBase
  unfold linkPage
  split
  · exact h.trail.isBase h.fetch hfirst
  · exact hfirst

/-- The fate of a crawl is that of the link on the page it has come to. -/
theorem Stands.exists_fate
    (h : Stands c client site floor source plan t outside before visited urls p found link) :
    ∃ fate, Fate c client site (c.linkPage t p).url (linkText link)
        (t.budget.isSpent (visited.length + 1)) before fate ∧
      match fate with
      | some ending => ∀ stages, 3 * (visited.length + 1) ≤ stages →
        (c.crawl stages outside source plan).2.result =
          ending.result (visited.flatMap (·.2) ++ found)
      | none => ∃ url page after,
        Trail c t outside (visited ++ [(p, found)]) (urls ++ [url]) page after := by
  obtain ⟨fate, hfate, hturn⟩ :=
    Crawler.exists_fate h.fetch (visited.length + 1) before h.records h.isBase_linkPage h.link
  refine ⟨fate, hfate, ?_⟩
  cases fate with
  | none =>
    obtain ⟨url, page, after, hturn⟩ := hturn
    exact ⟨url, page, after, .onward h.trail hturn⟩
  | some ending =>
    obtain ⟨requests, after, hturn⟩ := hturn
    intro stages hn
    have hwalk := h.trail.walk (.last hturn)
    have hlength : (visited.map (·.1) ++ [p]).length = visited.length + 1 := by simp
    rw [← hlength] at hn
    obtain ⟨events, hcrawl, -⟩ := (crawl_of_walk h.check hwalk h.hasPlainUrl hn).2
    rw [hcrawl]
    rfl

end Crawler

open Crawl Http

/-- **What the text of a link does to the gathered records.** A link that can be followed without
harm takes the crawl on, or ends it with all records or with a failure that holds all of them,
unless the site answers with something strange or the page cannot be read. A malformed host loses
the records, even if the budget is spent and the link would not be followed. So does an absolute
address for which no request can be made, if the budget is not spent: its parts are not those of an
address, or the name of its host cannot be read. -/
theorem Crawler.crawl_link_text {c : Crawler Traffic} {client : Client} {site : Site}
    {floor : Log.Floor} {source : Source} {plan : Plan} {t : Task} {outside before : Traffic}
    {visited : List (Page × List Value)} {urls : List String} {p : Page} {found : List Value}
    {link : Value}
    (h : Stands c client site floor source plan t outside before visited urls p found link) :
    (∃ fate, Fate c client site (c.linkPage t p).url (linkText link)
        (t.budget.isSpent (visited.length + 1)) before fate ∧
      match fate with
      | some ending => ∀ stages, 3 * (visited.length + 1) ≤ stages →
        (c.crawl stages outside source plan).2.result =
          ending.result (visited.flatMap (·.2) ++ found)
      | none => ∃ url page after,
        Trail c t outside (visited ++ [(p, found)]) (urls ++ [url]) page after) ∧
    (Followable client (c.linkPage t p).url (linkText link) →
      (∃ url page after,
        Trail c t outside (visited ++ [(p, found)]) (urls ++ [url]) page after) ∨
      ∀ stages, 3 * (visited.length + 1) ≤ stages →
        (c.crawl stages outside source plan).2.result = .ok (visited.flatMap (·.2) ++ found) ∨
        (∃ url reason status, (c.crawl stages outside source plan).2.result =
          .error (.fetch ⟨url, reason, status, visited.flatMap (·.2) ++ found⟩)) ∨
        (∃ url o e, client.prepare url = .ok o ∧
          (client.ask site before o).2 = .error (.other e) ∧
          (c.crawl stages outside source plan).2.result =
            .error (abort (visited.flatMap (·.2) ++ found) e)) ∨
        ∃ markup url e, c.read markup url = .error e ∧
          (c.crawl stages outside source plan).2.result = .error e) ∧
    (∀ fault, Url.isAbsolute (linkText link) = .error fault →
      ∀ stages, 3 * (visited.length + 1) ≤ stages →
        (c.crawl stages outside source plan).2.result = .error (.badHost fault)) ∧
    ∀ url e, linkText link ≠ "" →
      Url.absolute (linkText link) (c.linkPage t p).url = .ok url →
      t.budget.isSpent (visited.length + 1) = false → Url.isAbsolute url = .ok true →
      client.prepare url = .error e → (∀ f, e ≠ .fetch f) ∧
        ∀ stages, 3 * (visited.length + 1) ≤ stages →
          (c.crawl stages outside source plan).2.result = .error e := by
  obtain ⟨fate, hfate, hends⟩ := h.exists_fate
  refine ⟨⟨fate, hfate, hends⟩, ?_, ?_, ?_⟩
  · intro hf
    rcases hfate.of_followable h.isBase_linkPage hf with
      rfl | rfl | ⟨url, reason, status, rfl⟩ | ⟨url, o, e, ho, he, rfl⟩ |
        ⟨markup, url, e, hread, rfl⟩
    · exact .inl hends
    · exact .inr fun stages hn => .inl (hends stages hn)
    · exact .inr fun stages hn => .inr (.inl ⟨url, reason, status, hends stages hn⟩)
    · exact .inr fun stages hn => .inr (.inr (.inl ⟨url, o, e, ho, he, hends stages hn⟩))
    · exact .inr fun stages hn => .inr (.inr (.inr ⟨markup, url, e, hread, hends stages hn⟩))
  · intro fault hfault
    obtain rfl := hfate.of_fault hfault
    exact hends
  · intro url e hne hurl hspent habs he
    have hfetch := (Client.prepare_error he).ne_fetch
    rw [hspent] at hfate
    obtain rfl := hfate.of_refused hne hurl habs he
    refine ⟨hfetch, fun stages hn => ?_⟩
    rw [hends stages hn, Ending.result, abort_of_ne_fetch hfetch]

/-- A page without an address that leads to a link. -/
def Crawler.linkedPage (href : String) : Page where
  place := some (.document [.element "p" [] [.text .plain "x"], .element "a" [("href", href)] []])
  url := none

/-- A crawl from that page, for so many pages. -/
def Crawler.linkedPlan (budget : Nat) : Plan :=
  { Crawler.circularPlan with budget := .int budget, url := none }

def Crawler.linkedTask (href : String) (budget : Nat) : Task :=
  { Crawler.circularTask with
    budget := ⟨some budget, toString budget⟩, first := Crawler.linkedPage href }

/-- The crawl of that page through a client, at a site without pages. -/
def Crawler.linked (client : Client) : Crawler Traffic :=
  { Crawler.watched with fetch := client.fetch {} 0 }

theorem Crawler.stands_linked (client : Client) (href : String) (budget : Nat)
    (hcheck : (Crawler.linked client).check (.place (Crawler.linkedPage href).place)
      (Crawler.linkedPlan budget) = .ok (Crawler.linkedTask href budget))
    (hrecords : (Crawler.linked client).recordsOf (Crawler.linkedTask href budget)
      (Crawler.linkedPage href) = .ok [.dict [("text", .str "x")]])
    (hlink : ((Crawler.linked client).scanner.extractor.extract (Crawler.linkedPage href).place
      (Crawler.linkedTask href budget).link).result = .ok (.str href)) :
    Stands (Crawler.linked client) client {} 0 (.place (Crawler.linkedPage href).place)
      (Crawler.linkedPlan budget) (Crawler.linkedTask href budget) [] [] [] []
      (Crawler.linkedPage href) [.dict [("text", .str "x")]] (.str href) where
  fetch := rfl
  check := hcheck
  isBase := nofun
  trail := .first
  hasPlainUrl := by
    rintro q hq url hurl
    rw [List.mem_singleton.mp hq] at hurl
    cases hurl
  records := hrecords
  link := hlink

/-- Rules by which there is one name outside of ASCII. -/
def umlautRules : NameRules where
  toAscii _ := some "xn--mller-kva.de".toList
  ofAscii _ := .ok "müller.de".toList

/-- A client that goes by them. -/
def umlautClient : Client where
  followRedirects := false
  names := umlautRules

/-- The request for the root of the host with that name. -/
def umlautRequest : Outgoing where
  headers := [("Host", "xn--mller-kva.de")]
  address :=
    { scheme := "http".toList, user := [], host := "xn--mller-kva.de".toList, port := none
      path := ['/'], query := none, fragment := none }

theorem prepare_umlaut : umlautClient.prepare "http://müller.de/" = .ok umlautRequest := by
  have htext : Address.ofText umlautRules "http://müller.de/" = .ok umlautRequest.address := by
    decide +kernel
  have hhost : shownHost umlautRules umlautRequest.address = .ok "müller.de".toList := rfl
  have hat : umlautClient.headersAt umlautRequest.address = .ok umlautRequest.headers := by
    change (shownHost umlautRules umlautRequest.address >>= _) = _
    rw [hhost]
    rfl
  refine Client.prepare_eq_ok_iff.mpr ⟨htext, ?_⟩
  rw [Client.headersFor, hat]
  rfl

/-- A page with a record leads to a malformed host: the record is lost, with a budget of one page as
well. It is lost for a control character in the link too, and for the name of a host that cannot be
read. A host outside of ASCII is asked, and that it has no page takes the record along. -/
theorem Crawler.crawl_link_text_malformed :
    ((Crawler.linked { followRedirects := false }).crawl 3 []
      (.place (Crawler.linkedPage "http://[b").place)
      (Crawler.linkedPlan 2)).2.result = .error (.badHost .unbalanced) ∧
    ((Crawler.linked { followRedirects := false }).crawl 3 []
      (.place (Crawler.linkedPage "http://[b").place)
      (Crawler.linkedPlan 1)).2.result = .error (.badHost .unbalanced) ∧
    ((Crawler.linked { followRedirects := false }).crawl 3 []
      (.place (Crawler.linkedPage "http://s/\x01").place)
      (Crawler.linkedPlan 2)).2.result = .error .badRequestUrl ∧
    ((Crawler.linked { followRedirects := false }).crawl 3 []
      (.place (Crawler.linkedPage "http://xn--/").place)
      (Crawler.linkedPlan 2)).2.result = .error (.badHostName "IDNAError") ∧
    ∃ reason status, ((Crawler.linked umlautClient).crawl 3 []
      (.place (Crawler.linkedPage "http://müller.de/").place)
      (Crawler.linkedPlan 2)).2.result =
        .error (.fetch ⟨"http://müller.de/", reason, status, [.dict [("text", .str "x")]]⟩) := by
  have hunnamed : Client.prepare { followRedirects := false } "http://xn--/" =
      .error (.badHostName "IDNAError") :=
    Client.prepare_eq_error_iff.mpr (.inr ⟨_, Client.prepare_unnamed rfl rfl⟩)
  have htext : linkText (.str "http://müller.de/") = "http://müller.de/" := by decide +kernel
  have habs : Url.isAbsolute "http://müller.de/" = .ok true := by decide +kernel
  have hanswer : (umlautClient.ask {} [] umlautRequest).2 = .ok ⟨404, "", []⟩ :=
    congrArg Prod.snd (ask_of_ends (o := umlautRequest) .refl (.answered rfl rfl))
  refine ⟨?_, ?_, ?_, ?_, ?_⟩
  · exact (crawl_link_text (stands_linked _ "http://[b" 2 rfl rfl rfl)).2.2.1 _ rfl 3 (Nat.le_refl 3)
  · exact (crawl_link_text (stands_linked _ "http://[b" 1 rfl rfl rfl)).2.2.1 _ rfl 3 (Nat.le_refl 3)
  · exact ((crawl_link_text (stands_linked _ "http://s/\x01" 2 rfl rfl rfl)).2.2.2 "http://s/\x01" _
      (by decide) rfl rfl rfl rfl).2 3 (Nat.le_refl 3)
  · exact ((crawl_link_text (stands_linked _ "http://xn--/" 2 rfl rfl rfl)).2.2.2 "http://xn--/" _
      (by decide) rfl rfl rfl hunnamed).2 3 (Nat.le_refl 3)
  · obtain ⟨fate, hfate, hends⟩ :=
      (crawl_link_text (stands_linked umlautClient "http://müller.de/" 2 rfl rfl rfl)).1
    rw [htext] at hfate
    obtain ⟨reason, status, rfl⟩ :=
      hfate.of_unsuccessful rfl (by decide) habs (by decide) prepare_umlaut hanswer rfl
    exact ⟨reason, status, hends 3 (Nat.le_refl 3)⟩

end Gleaner
