import Gleaner.Proofs.Crawl.LinkText
import Gleaner.Proofs.Crawl.Stage
import Gleaner.Proofs.Http.Escape
import Gleaner.Proofs.Url.Directory

/-! # Links behind redirects

A page may be found at another address than the one that was asked for. A crawl does not get to know
that address: the links of the page are resolved against the one that was asked for
(`Crawler.crawl_joins_with_asked`). That makes a difference only if the two addresses lie in different
directories. -/

namespace Gleaner

namespace Http

open Relation (ReflTransGen)

/-- A client finds the page for an address where the chain of its redirects ends. -/
structure Client.Finds (client : Client) (site : Site) (traffic : Traffic) (url : String)
    (last : Sending) (body : String) : Prop extends client.Reaches site traffic url last where
  answer : ∃ r, last.answer site = .ok r ∧ isSuccess r.status = true ∧ r.body = body

/-- The page is fetched, unless the report fails, and the last request went to where it was found. -/
theorem Client.Finds.fetch {client : Client} {site : Site} {traffic : Traffic} {url : String}
    {last : Sending} {body : String} (h : client.Finds site traffic url last body)
    (floor : Log.Floor) :
    (client.fetch site floor traffic url).1 = last.arrived ∧
      ((client.fetch site floor traffic url).2.result = .ok body ∨ ¬ Template.Plain url) := by
  obtain ⟨o, ho, hchain⟩ := h.chain
  obtain ⟨r, hanswer, hsuccess, rfl⟩ := h.answer
  have hask : client.ask site traffic o = (last.arrived, .ok r) :=
    ask_of_ends hchain (.answered hanswer (Response.location?_of_isSuccess hsuccess))
  have hattempt := @attempt_of_prepared client site traffic url h.isAbsolute o ho
  rw [hask] at hattempt
  constructor
  · rw [fetch_eq, hattempt]
  · rcases @result_fetch client site traffic url floor with hresult | ⟨hplain, -⟩
    · left
      rw [hresult, hattempt]
      exact if_pos hsuccess
    · exact .inr hplain

end Http

namespace Crawler

open Crawl Http

variable {c : Crawler Traffic} {client : Client} {site : Site} {floor : Log.Floor}
  {source : Source} {plan : Plan} {t : Task} {s : State Traffic} {url : String} {last : Sending}
  {link : Value}

/-- A crawl is about to ask for an address, and the page is found behind redirects. It is read and
scanned, and it has a link for which the budget lasts. -/
structure Redirected (c : Crawler Traffic) (client : Client) (site : Site) (floor : Log.Floor)
    (t : Task) (s : State Traffic) (url : String) (last : Sending) (page : Page) (link : Value) :
    Prop where
  fetch : c.fetch = client.fetch site floor
  stage : s.stage = .resolved
  next : s.next = some url
  isSpent : t.budget.isSpent (s.number + 1) = false
  read : ∃ body, client.Finds site s.outside url last body ∧
    (c.fetch s.outside url).2.result = .ok body ∧ c.read body url = .ok page
  scan : ∃ found, (c.scanPage t (s.number + 1) page).result = .ok found
  link : (c.scanner.extractor.extract page.place t.link).result = .ok link

theorem isSpent_of_succ {b : Budget} {number : Nat} (h : b.isSpent (number + 1) = false) :
    b.isSpent number = false := by
  unfold Budget.isSpent at h ⊢
  split
  next n hn =>
    rw [hn] at h
    simp only [decide_eq_false_iff_not] at h ⊢
    omega
  · rfl

theorem exists_join {link url : String} (hurl : Url.isAbsolute url = .ok true) (hne : link ≠ "")
    (hlink : Url.isAbsolute link = .ok false) :
    ∃ joined, Url.join url.toList link.toList = .ok joined ∧
      Url.absolute link url = .ok (.ofList joined) ∧ String.ofList joined ≠ "" := by
  have hurlne : url ≠ "" := by
    rintro rfl
    cases hurl
  have hbase : Url.IsBase url := by
    rintro _ ⟨⟩
    exact .inr hurl
  obtain ⟨address, habsolute, haddress⟩ := Url.exists_absolute hbase hne hlink
  have hjoin := habsolute
  rw [Url.absolute_eq_join hlink hurlne, map_eq_ok_iff] at hjoin
  obtain ⟨joined, hjoin, rfl⟩ := hjoin
  exact ⟨joined, hjoin, habsolute, haddress⟩

/-- The crawl comes to the page, under the address that it asked for. -/
theorem Redirected.step {page : Page} (h : Redirected c client site floor t s url last page link) :
    (c.step t s).stage = .fetched ∧ (c.step t s).page = page ∧ page.url = some url ∧
      (c.step t s).number = s.number + 1 ∧ (c.step t s).outside = last.arrived ∧
      requests (c.step t s).events = requests s.events ++ [url] := by
  obtain ⟨body, hfinds, hfetched, hread⟩ := h.read
  have hafter : (c.fetch s.outside url).1 = last.arrived := by
    rw [h.fetch]
    exact (hfinds.fetch floor).1
  rw [step_resolved_some h.stage h.next, if_neg (Bool.eq_false_iff.mp (isSpent_of_succ h.isSpent)),
    fetchNext_read hfetched hread]
  refine ⟨rfl, rfl, read_url hread, rfl, hafter, ?_⟩
  dsimp only
  rw [requests_append, requests_fetch]

/-- From there it asks for the link of the page, joined with that address. -/
theorem Redirected.requests_advance {page : Page}
    (h : Redirected c client site floor t s url last page link) (hfollow : c.follow = true)
    {joined : List Char} (hne : linkText link ≠ "")
    (habsolute : Url.absolute (linkText link) url = .ok (.ofList joined))
    (hjoined : String.ofList joined ≠ "") :
    requests (c.advance t 4 s).events = requests s.events ++ [url, .ofList joined] := by
  obtain ⟨hstage, hpage, hurl, hnumber, -, hrequests⟩ := h.step
  obtain ⟨found, hscan⟩ := h.scan
  have hlink : c.nextOf t page = .ok (some (.ofList joined)) := by
    have hplace : c.linkPage t page = page := if_pos hfollow
    rw [nextOf_of_link (by rw [hplace]; exact h.link), hplace, resolve_eq, if_neg hne, hurl,
      habsolute]
    dsimp only
    rw [if_neg hjoined]
  -- One stage comes to the page, two scan it and look up its link, and the last goes for that.
  rw [advance_succ, advance_add 2 1, advance_two_of_scanPage hstage
    (by rw [hpage, hnumber]; exact hscan) (by rw [hpage]; exact hlink), advance_succ,
    step_resolved_some rfl rfl, advance_zero]
  have hspent : t.budget.isSpent (c.resolved t (c.step t s) found (some (.ofList joined))).number =
      false := by
    change t.budget.isSpent (c.step t s).number = false
    rw [hnumber]
    exact h.isSpent
  rw [if_neg (Bool.eq_false_iff.mp hspent), (fetchNext_cases ..).1, requests_resolved, hrequests,
    List.append_assoc]
  rfl

end Crawler

open Crawl Http

/-- **Links are joined with the address that was asked for.** A crawl asks for an address, and the
page is found behind redirects. The crawl then asks for the link of the page joined with the address
it asked for first, and not with the one where the page was found. The two joins are the same if the
addresses lie beside each other and the link has a path. -/
theorem Crawler.crawl_joins_with_asked {c : Crawler Traffic} {client : Client} {site : Site}
    {floor : Log.Floor} {source : Source} {plan : Plan} {t : Task} {outside : Traffic} {n : Nat}
    {url : String} {last : Sending} {page : Page} {link : Value} (hfollow : c.follow = true)
    (hcheck : c.check source plan = .ok t)
    (h : Redirected c client site floor t (c.advance t n (start t outside)) url last page link)
    (hne : linkText link ≠ "") (hlink : Url.isAbsolute (linkText link) = .ok false) :
    (c.advance t (n + 1) (start t outside)).outside = last.arrived ∧
    ∃ joined, Url.join url.toList (linkText link).toList = .ok joined ∧
      (∀ stages, n + 4 ≤ stages →
        requests (c.advance t n (start t outside)).events ++ [url, .ofList joined] <+:
          requests (c.crawl stages outside source plan).2.events) ∧
      (Url.Beside url.toList last.address.render.toList →
        (Url.partsOf (linkText link).toList (Url.schemeOf url.toList [])).path ≠ [] →
        Url.join last.address.render.toList (linkText link).toList = .ok joined) := by
  obtain ⟨body, hfinds, -, -⟩ := h.read
  obtain ⟨joined, hjoin, habsolute, hjoined⟩ := exists_join hfinds.isAbsolute hne hlink
  refine ⟨?_, joined, hjoin, fun stages hstages => ?_, fun hbeside hpath => ?_⟩
  · rw [advance_add, advance_succ, advance_zero]
    exact h.step.2.2.2.2.1
  · obtain ⟨more, rfl⟩ := Nat.exists_eq_add_of_le hstages
    rw [crawl, hcheck, ← h.requests_advance hfollow hne habsolute hjoined, ← advance_add]
    dsimp only [State.summary]
    rw [advance_add (n + 4) more]
    exact (Crawler.grows_advance c t more _).requests
  · obtain ⟨hcheck, -, hlocation⟩ := Url.isAbsolute_eq_true_iff.mp hfinds.isAbsolute
    rw [← hjoin, Url.join_of_beside hbeside hcheck hlocation hpath]

/-- A site that keeps its list in a directory. -/
def Crawler.movedSite : Site := .ofPages
  [("http://s/list", .response ⟨302, "", [("Location", "http://s/items/page")]⟩),
    ("http://s/items/page", .page "<p>y</p><a href=\"two\">")]

def Crawler.mover : Crawler Traffic where
  scanner := Crawler.circular.scanner
  parser := Crawler.circular.parser
  follow := true
  fetch := Client.follower.fetch Crawler.movedSite Log.mute
  floor := Log.mute

def Crawler.movedPage : Page where
  place := some (.document [.element "p" [] [.text .plain "y"], .element "a" [("href", "two")] []])
  url := some "http://s/list"

/-- The request for the page, behind the redirect. -/
def Crawler.movedLast : Sending :=
  ((Client.outgoingTo "/list").opening []).redirected 19 (Client.outgoingTo "/items/page")

theorem Crawler.finds_moved : Client.follower.Finds Crawler.movedSite [] "http://s/list"
    Crawler.movedLast "<p>y</p><a href=\"two\">" := by
  have hlist : Address.read .standard "http://s/list" = .ok (Client.addressOf "/list") := by
    decide +kernel
  have hpage : Address.read .standard "http://s/items/page" =
      .ok (Client.addressOf "/items/page") := by
    decide +kernel
  have htarget : redirectTarget .standard (Client.addressOf "/list") "http://s/items/page" =
      .ok (Client.addressOf "/items/page") := by
    rw [redirectTarget, readLocation, hpage]
    rfl
  have hnext : redirect .standard (Client.outgoingTo "/list") "http://s/items/page" =
      .ok (Client.outgoingTo "/items/page") :=
    bind_eq_ok_iff.mpr ⟨_, htarget, rfl⟩
  exact ⟨⟨rfl, _, Client.prepare_eq_outgoingTo hlist rfl, .single (.redirect rfl rfl rfl hnext)⟩,
    ⟨200, _, []⟩, rfl, rfl, rfl⟩

theorem Crawler.fetched_moved :
    (Crawler.mover.fetch [] "http://s/list").2.result = .ok "<p>y</p><a href=\"two\">" := by
  have hfetch : Crawler.mover.fetch = Client.follower.fetch Crawler.movedSite Log.mute := rfl
  have hplain : Template.Plain "http://s/list" := by decide
  rw [hfetch]
  exact (Crawler.finds_moved.fetch Log.mute).2.resolve_right (not_not.mpr hplain)

theorem Crawler.redirected_moved : Redirected Crawler.mover Client.follower Crawler.movedSite
    Log.mute (Crawler.linkedTask "http://s/list" 3)
    (Crawler.mover.resolved (Crawler.linkedTask "http://s/list" 3)
      (start (Crawler.linkedTask "http://s/list" 3) []) [.dict [("text", .str "x")]] "http://s/list")
    "http://s/list" Crawler.movedLast Crawler.movedPage (.str "two") where
  fetch := rfl
  stage := rfl
  next := rfl
  isSpent := rfl
  read := by
    have houtside : (Crawler.mover.resolved (Crawler.linkedTask "http://s/list" 3)
      (start (Crawler.linkedTask "http://s/list" 3) []) [.dict [("text", .str "x")]]
      "http://s/list").outside = [] := rfl
    rw [houtside]
    exact ⟨_, Crawler.finds_moved, Crawler.fetched_moved, rfl⟩
  scan := ⟨[.dict [("text", .str "y")]], rfl⟩
  link := rfl

/-- The page at `http://s/items/page` links to `two` and is asked for as `http://s/list`: the crawl
goes on to `http://s/two`, and not to `http://s/items/two`. -/
theorem Crawler.crawl_joins_with_asked_moved :
    ["http://s/list", "http://s/two"] <+: requests (Crawler.mover.crawl 6 []
      (.place (Crawler.linkedPage "http://s/list").place) (Crawler.linkedPlan 3)).2.events ∧
    Crawler.movedLast.address.render = "http://s/items/page" ∧
    Url.join "http://s/items/page".toList "two".toList = .ok "http://s/items/two".toList := by
  have hcheck : Crawler.mover.check (.place (Crawler.linkedPage "http://s/list").place)
      (Crawler.linkedPlan 3) = .ok (Crawler.linkedTask "http://s/list" 3) := rfl
  have hscan : (Crawler.mover.scanPage (Crawler.linkedTask "http://s/list" 3) 1
      (Crawler.linkedPage "http://s/list")).result = .ok [.dict [("text", .str "x")]] := rfl
  have hlink : Crawler.mover.nextOf (Crawler.linkedTask "http://s/list" 3)
      (Crawler.linkedPage "http://s/list") = .ok (some "http://s/list") := rfl
  have hadvance := Crawler.advance_two_of_scanPage
    (s := start (Crawler.linkedTask "http://s/list" 3) ([] : Traffic)) rfl hscan hlink
  have hredirected := Crawler.redirected_moved
  rw [← hadvance] at hredirected
  obtain ⟨-, joined, hjoin, hrequests, -⟩ :=
    crawl_joins_with_asked rfl hcheck hredirected (by decide) rfl
  obtain rfl : "http://s/two".toList = joined := Except.ok.inj hjoin
  have hbegins := hrequests 6 (Nat.le_refl 6)
  rw [hadvance, Crawler.requests_resolved] at hbegins
  exact ⟨hbegins, rfl, rfl⟩

end Gleaner
