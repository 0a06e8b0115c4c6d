import Gleaner.Proofs.Http.Attempt
import Gleaner.Proofs.Http.Headers
import Gleaner.Proofs.Http.Redirect

/-! # Failures that leave a fetch

A fetch turns failures of the connection and responses without success into failures to fetch its
page. Nothing is done about what fails outside of the request: a malformed host, an address that no
request can be sent to, and a report that cannot be written. The same goes for what a site fails with
that is no failure of the connection (`Client.fetch_fails_otherwise_iff`). Whatever a fetcher fails
with is made on the spot: the failure to fetch a page holds no records (`fetcher_isFresh`). -/

namespace Gleaner.Http

open Log (Floor PageFetch)
open Relation (ReflTransGen)
open Template (Plain)

/-- A response leads astray: it cannot be kept because the address has no scheme, or a redirect leads to
nothing that requests can be sent to. -/
inductive Sending.IsAstray (names : NameRules) (site : Site) (s : Sending) : Error → Prop where
  | schemeless {r : Response} : s.reply site = .response r → s.address.scheme = [] →
    IsAstray names site s (.noScheme s.address.render)
  | misled {location : String} {e : Error} : s.location? site = some location →
    s.redirect names location = .error (.other e) → IsAstray names site s e

namespace Client

/-- The fetch of an address comes, by its redirects, to a request. -/
structure Reaches (client : Client) (site : Site) (traffic : Traffic) (url : String)
    (last : Sending) : Prop where
  isAbsolute : Url.isAbsolute url = .ok true
  chain : ∃ o, client.prepare url = .ok o ∧
    ReflTransGen (Leads client site) (o.opening traffic) last

/-- The failures that leave the fetch of an address and are none to fetch a page. -/
inductive Escapes (client : Client) (site : Site) (floor : Floor) (traffic : Traffic)
    (url : String) : Error → Prop where
  /-- The host is malformed. -/
  | malformed {fault : Url.HostFault} :
    Url.isAbsolute url = .error fault → Escapes client site floor traffic url (.badHost fault)
  /-- No request can be sent to the address, although it is absolute. -/
  | refused {fault : AddressFault} : Url.isAbsolute url = .ok true →
    Address.ofText client.names url = .error fault →
    Escapes client site floor traffic url .badRequestUrl
  /-- The name of its host cannot be read, for the headers of the request. -/
  | unnamed {a : Address} {e : Error} : Url.isAbsolute url = .ok true →
    Address.ofText client.names url = .ok a → client.headersFor a = .error e →
    Escapes client site floor traffic url e
  /-- The site fails behind some redirects, but it is not the connection. -/
  | strange {last : Sending} {kind message : String} : client.Reaches site traffic url last →
    last.reply site = .failure kind message → kind ≠ statusFailure → kind ∉ timeouts →
    kind ∉ connectionFailures → Escapes client site floor traffic url (.transport kind)
  /-- The response behind some redirects leads astray. -/
  | astray {last : Sending} {e : Error} : client.Reaches site traffic url last →
    last.IsAstray client.names site e → Escapes client site floor traffic url e
  /-- What came of the request cannot be reported. -/
  | unreported {o : Outgoing} {status : Option Nat} {answer : Except Error String}
      {fault : TemplateFault} :
    Url.isAbsolute url = .ok true → client.prepare url = .ok o →
    Attempt.ofAnswer url (client.ask site traffic o).2 = .reported status answer →
    ((PageFetch.ofFetch url status answer.isOk).report floor).result = .error (.template fault) →
    Escapes client site floor traffic url (.template fault)

end Client

section Answers

variable {client : Client} {site : Site} {floor : Floor} {traffic : Traffic} {url : String}
  {status : Option Nat} {answer : Except Error String} {e : Error} {s : Sending} {o : Outgoing}

theorem ofKind_eq_other_iff {kind message : String} :
    Breakdown.ofKind kind message = .other e ↔ kind ≠ statusFailure ∧ kind ∉ timeouts ∧
      kind ∉ connectionFailures ∧ e = .transport kind := by
  unfold Breakdown.ofKind
  simp only [List.contains_iff_mem]
  split
  · simp [*]
  split
  · simp [*]
  split
  · simp [*]
  · simp [*, eq_comm]

/-- What leads astray is neither a page nor the failure to fetch one. -/
theorem Sending.IsAstray.cases {names : NameRules} (h : s.IsAstray names site e) :
    e = .noScheme s.address.render ∨ Unreachable e := by
  cases h with
  | schemeless => exact .inl rfl
  | misled _ hnext =>
    rcases redirect_error hnext with ⟨_, ⟨⟩⟩ | ⟨_, ⟨⟩, hunreachable⟩
    exact .inr hunreachable

theorem Unreachable.ne_fetch (h : Unreachable e) (f : FetchFailure) : e ≠ .fetch f := by
  cases h <;> nofun

theorem Sending.IsAstray.ne_fetch {names : NameRules} (h : s.IsAstray names site e)
    (f : FetchFailure) : e ≠ .fetch f := by
  rcases h.cases with rfl | hunreachable
  · nofun
  · exact hunreachable.ne_fetch f

theorem Sending.IsAstray.ends {names : NameRules} (h : s.IsAstray names site e)
    (hnames : names = client.names) : Ends client site s (.error (.other e)) := by
  subst hnames
  cases h with
  | schemeless hreply hscheme =>
    exact .failed (Sending.answer_eq_error_iff.mpr (.inr ⟨⟨_, hreply⟩, hscheme, rfl⟩))
  | misled hlocation hnext => exact .misled hlocation hnext

/-- A chain ends in a failure of its own if the site fails there and it is not the connection, or if
the response leads astray. -/
theorem Ends.other {result : Except Breakdown Response} (h : Ends client site s result)
    (hresult : result = .error (.other e)) :
    (∃ kind message, s.reply site = .failure kind message ∧ kind ≠ statusFailure ∧
        kind ∉ timeouts ∧ kind ∉ connectionFailures ∧ e = .transport kind) ∨
      s.IsAstray client.names site e := by
  subst hresult
  cases h with
  | failed hanswer =>
    rcases Sending.answer_eq_error_iff.mp hanswer with
      ⟨kind, message, hreply, hkind⟩ | ⟨⟨r, hreply⟩, hscheme, heq⟩
    · exact .inl ⟨kind, message, hreply, ofKind_eq_other_iff.mp hkind.symm⟩
    · cases heq
      exact .inr (.schemeless hreply hscheme)
  | misled hlocation hnext => exact .inr (.misled hlocation hnext)

theorem ask_of_ends {last : Sending} {result : Except Breakdown Response}
    (hchain : ReflTransGen (Leads client site) (o.opening traffic) last)
    (hends : Ends client site last result) : client.ask site traffic o = (last.arrived, result) :=
  (outcome_of_chain hchain).trans hends.outcome

/-- The answer to a request is a failure of its own if the chain of redirects ends in one. -/
theorem ask_eq_other_iff : (client.ask site traffic o).2 = .error (.other e) ↔
    ∃ last, ReflTransGen (Leads client site) (o.opening traffic) last ∧
      ((∃ kind message, last.reply site = .failure kind message ∧ kind ≠ statusFailure ∧
          kind ∉ timeouts ∧ kind ∉ connectionFailures ∧ e = .transport kind) ∨
        last.IsAstray client.names site e) := by
  constructor
  · intro h
    obtain ⟨last, result, hchain, hends⟩ := exists_last client site (o.opening traffic)
    rw [ask_of_ends hchain hends] at h
    exact ⟨last, hchain, hends.other h⟩
  · rintro ⟨last, hchain, ⟨kind, message, hreply, hkind⟩ | hastray⟩
    · rw [ask_of_ends hchain (.failed (Sending.answer_of_failure hreply)),
        ofKind_eq_other_iff.mpr hkind]
    · rw [ask_of_ends hchain (hastray.ends rfl)]

/-- What is reported is the text of a page or the failure to fetch it. -/
theorem reported_cases {x : Except Breakdown Response}
    (h : Attempt.ofAnswer url x = .reported status answer) :
    (∃ body, answer = .ok body) ∨ ∃ reason code, answer = .error (failure url reason code) := by
  match x with
  | .error .timedOut | .error .refused | .error (.failed _) =>
    cases h
    exact .inr ⟨_, _, rfl⟩
  | .error (.other _) => cases h
  | .ok r =>
    cases h
    split
    · exact .inl ⟨_, rfl⟩
    · exact .inr ⟨_, _, rfl⟩

theorem ofAnswer_eq_unreported {x : Except Breakdown Response}
    (h : Attempt.ofAnswer url x = .unreported e) : x = .error (.other e) := by
  match x with
  | .ok _ | .error .timedOut | .error .refused | .error (.failed _) => cases h
  | .error (.other _) =>
    cases h
    rfl

theorem result_conclude :
    (conclude floor url status answer).result =
      ((PageFetch.ofFetch url status answer.isOk).report floor).result >>= fun _ => answer := by
  cases status <;> cases answer <;> exact Traced.result_bind ..

theorem report_error (h : ((PageFetch.ofFetch url status answer.isOk).report floor).result =
    .error e) : ¬ Plain url ∧ ∃ fault, e = .template fault := by
  have hreported := PageFetch.reported floor url status answer.isOk
  rcases hreported.result with hok | ⟨hexpand, fault, hfault⟩
  · rw [h] at hok
    cases hok
  · rw [h] at hfault
    exact ⟨fun hplain => hexpand _ (Template.expand_plain _ hplain), fault, Except.error.inj hfault⟩

end Answers

namespace Client

variable {client : Client} {site : Site} {floor : Floor} {traffic : Traffic} {url : String}
  {e : Error}

theorem result_fetch_of_unreported {e : Error}
    (h : (client.attempt site traffic url).2 = .unreported e) :
    (client.fetch site floor traffic url).2.result = .error e := by
  rw [fetch_eq, h]
  rfl

theorem result_fetch_of_reported {status : Option Nat} {answer : Except Error String}
    (h : (client.attempt site traffic url).2 = .reported status answer) :
    (client.fetch site floor traffic url).2.result =
      ((PageFetch.ofFetch url status answer.isOk).report floor).result >>= fun _ => answer := by
  rw [fetch_eq, h]
  exact result_conclude

theorem Escapes.result (h : Escapes client site floor traffic url e) :
    (client.fetch site floor traffic url).2.result = .error e ∧ ∀ f, e ≠ .fetch f := by
  have hunprepared {e : Error} (habs : Url.isAbsolute url = .ok true)
      (he : client.prepare url = .error e) :
      (client.fetch site floor traffic url).2.result = .error e ∧ ∀ f, e ≠ .fetch f :=
    ⟨result_fetch_of_unreported (by rw [attempt_of_unprepared habs he]),
      (prepare_error he).ne_fetch⟩
  have hother {o : Outgoing} {e : Error} (habs : Url.isAbsolute url = .ok true)
      (ho : client.prepare url = .ok o) (hask : (client.ask site traffic o).2 = .error (.other e)) :
      (client.fetch site floor traffic url).2.result = .error e :=
    result_fetch_of_unreported (by rw [attempt_of_prepared habs ho, hask]; rfl)
  cases h with
  | malformed hfault =>
    exact ⟨result_fetch_of_unreported (by rw [attempt_of_fault hfault]), nofun⟩
  | refused habs hfault =>
    exact hunprepared habs (prepare_eq_error_iff.mpr (.inl ⟨_, hfault, rfl⟩))
  | unnamed habs ha hheaders =>
    exact hunprepared habs (prepare_eq_error_iff.mpr (.inr ⟨_, ha, hheaders⟩))
  | strange hreaches hreply hstatus htime hkind =>
    obtain ⟨o, ho, hchain⟩ := hreaches.chain
    have hask := ask_eq_other_iff.mpr ⟨_, hchain, .inl ⟨_, _, hreply, hstatus, htime, hkind, rfl⟩⟩
    exact ⟨hother hreaches.isAbsolute ho hask, nofun⟩
  | astray hreaches hastray =>
    obtain ⟨o, ho, hchain⟩ := hreaches.chain
    have hask := ask_eq_other_iff.mpr ⟨_, hchain, .inr hastray⟩
    exact ⟨hother hreaches.isAbsolute ho hask, hastray.ne_fetch⟩
  | unreported habs ho hanswer hreport =>
    have hattempt := congrArg Prod.snd (@attempt_of_prepared client site traffic url habs _ ho)
    refine ⟨?_, nofun⟩
    rw [result_fetch_of_reported (hattempt.trans hanswer), hreport]
    rfl

/-- From what is no absolute address nothing escapes. -/
theorem not_escapes_of_relative (habs : Url.isAbsolute url = .ok false) :
    ¬ Escapes client site floor traffic url e := by
  intro h
  cases h with
  | malformed h | refused h | unnamed h | unreported h =>
    rw [habs] at h
    cases h
  | strange h | astray h =>
    have h' := h.isAbsolute
    rw [habs] at h'
    cases h'

/-- **A fetch ends in a page, in the failure to fetch it, or in a failure that escapes.** -/
theorem fetch_cases (client : Client) (site : Site) (floor : Floor) (traffic : Traffic)
    (url : String) :
    (∃ body, (client.fetch site floor traffic url).2.result = .ok body) ∨
      (∃ reason status, (client.fetch site floor traffic url).2.result =
        .error (failure url reason status)) ∨
      ∃ e, Escapes client site floor traffic url e := by
  cases habs : Url.isAbsolute url with
  | error fault => exact .inr (.inr ⟨_, .malformed habs⟩)
  | ok absolute =>
  cases absolute with
  | false =>
    have hattempt := congrArg Prod.snd (@attempt_of_not_absolute client site traffic url habs)
    exact .inr (.inl ⟨_, _, result_fetch_of_unreported hattempt⟩)
  | true =>
  cases ho : client.prepare url with
  | error e =>
    rcases prepare_eq_error_iff.mp ho with ⟨fault, hfault, rfl⟩ | ⟨a, ha, hheaders⟩
    · exact .inr (.inr ⟨_, .refused habs hfault⟩)
    · exact .inr (.inr ⟨_, .unnamed habs ha hheaders⟩)
  | ok o =>
  have hattempt := congrArg Prod.snd (@attempt_of_prepared client site traffic url habs o ho)
  cases hanswer : Attempt.ofAnswer url (client.ask site traffic o).2 with
  | unreported e =>
    obtain ⟨last, hchain, ⟨kind, message, hreply, hstatus, htime, hkind, rfl⟩ | hastray⟩ :=
      ask_eq_other_iff.mp (ofAnswer_eq_unreported hanswer)
    · exact .inr (.inr ⟨_, .strange ⟨habs, o, ho, hchain⟩ hreply hstatus htime hkind⟩)
    · exact .inr (.inr ⟨_, .astray ⟨habs, o, ho, hchain⟩ hastray⟩)
  | reported status answer =>
    have hresult := @result_fetch_of_reported client site floor traffic url _ _
      (hattempt.trans hanswer)
    cases hreport : ((PageFetch.ofFetch url status answer.isOk).report floor).result with
    | error e =>
      obtain ⟨-, fault, rfl⟩ := report_error hreport
      exact .inr (.inr ⟨_, .unreported habs ho hanswer hreport⟩)
    | ok _ =>
      rw [hreport] at hresult
      rcases reported_cases hanswer with ⟨body, rfl⟩ | ⟨reason, code, rfl⟩
      · exact .inl ⟨body, hresult⟩
      · exact .inr (.inl ⟨reason, code, hresult⟩)

/-- **What a fetch fails with.** If nothing escapes, it ends in the text of a page or in the failure
to fetch its address, which holds no records. A failure of another kind is just what escapes: that of
a malformed host, of an address to which no request can be sent or whose host has a name that cannot be
read, of a site in a way that is no failure of the connection, of a response that leads astray, or of
the report, which takes a brace in the address. -/
theorem fetch_fails_otherwise_iff (client : Client) (site : Site) (floor : Floor)
    (traffic : Traffic) (url : String) :
    (∀ e, Escapes client site floor traffic url e ↔
      (client.fetch site floor traffic url).2.result = .error e ∧ ∀ f, e ≠ .fetch f) ∧
    ((∀ e, ¬ Escapes client site floor traffic url e) →
      (∃ body, (client.fetch site floor traffic url).2.result = .ok body) ∨
        ∃ reason status, (client.fetch site floor traffic url).2.result =
          .error (.fetch { url, reason, status, records := [] })) ∧
    ∀ fault, Escapes client site floor traffic url (.template fault) → ¬ Plain url := by
  have hcases := fetch_cases client site floor traffic url
  refine ⟨fun e => ⟨Escapes.result, ?_⟩, fun hnone => ?_, ?_⟩
  · rintro ⟨hresult, hfetch⟩
    rcases hcases with ⟨body, hok⟩ | ⟨reason, status, hfailure⟩ | ⟨e', hescapes⟩
    · rw [hresult] at hok
      cases hok
    · rw [hresult] at hfailure
      exact absurd (Except.error.inj hfailure) (hfetch _)
    · rw [hescapes.result.1] at hresult
      rwa [← Except.error.inj hresult]
  · rcases hcases with hok | hfailure | ⟨e, hescapes⟩
    · exact .inl hok
    · exact .inr hfailure
    · exact absurd hescapes (hnone e)
  · intro fault hescapes
    cases hescapes with
    | unnamed _ _ hheaders =>
      obtain ⟨_, ⟨⟩⟩ := headersFor_error hheaders
    | astray _ hastray =>
      rcases hastray.cases with hscheme | hunreachable
      · cases hscheme
      · cases hunreachable
    | unreported _ _ _ hreport => exact (report_error hreport).1

/-- A client that follows redirects. -/
def follower : Client where
  followRedirects := true

/-- A site with one page, where it is not the connection that fails. -/
def strangeSite : Site := .ofPages [("http://s/a", .failure "InvalidURL" "failed")]

/-- The address of a path at a host. -/
def addressOf (path : String) : Address where
  scheme := "http".toList
  user := []
  host := ['s']
  port := none
  path := path.toList
  query := none
  fragment := none

/-- The request of a client without headers for a path at that host. -/
def outgoingTo (path : String) : Outgoing where
  headers := [("Host", "s")]
  address := addressOf path

theorem prepare_eq_outgoingTo {client : Client} {url path : String}
    (hread : Address.read client.names url = .ok (addressOf path)) (hheaders : client.headers = []) :
    client.prepare url = .ok (outgoingTo path) := by
  have htext : Address.ofText client.names url = .ok (addressOf path) := by
    rw [Address.ofText, hread]
    rfl
  refine prepare_eq_ok_iff.mpr ⟨htext, ?_⟩
  rw [headersFor, headersAt, hheaders]
  rfl

/-- An address at a host that looks like the form of a name and is none. -/
def unnamedAddress : Address := { addressOf "/" with host := "xn--".toList }

theorem prepare_unnamed {client : Client} (hheaders : client.headers = [])
    (hnames : client.names = .standard) :
    Address.ofText client.names "http://xn--/" = .ok unnamedAddress ∧
      client.headersFor unnamedAddress = .error (.badHostName "IDNAError") := by
  have htext : Address.ofText .standard "http://xn--/" = .ok unnamedAddress := by decide +kernel
  have hname : NameRules.standard.ofAscii "xn--".toList = .error "IDNAError" := by
    decide +kernel
  have hhost : shownHost .standard unnamedAddress = .error (.badHostName "IDNAError") := by
    change (NameRules.standard.ofAscii "xn--".toList).mapError Error.badHostName = _
    rw [hname]
    rfl
  have hat : client.headersAt unnamedAddress = .error (.badHostName "IDNAError") := by
    rw [headersAt, hheaders, hnames, hhost]
    rfl
  rw [hnames, headersFor, hat]
  exact ⟨htext, rfl⟩

/-- The report of a missing page shows its address, and the brace there is taken for a field. -/
theorem escapes_braces :
    Escapes follower {} 0 [] "http://s/\x7bx\x7d" (.template (.unknownName "x")) := by
  have hread : Address.read .standard "http://s/\x7bx\x7d" = .ok (addressOf "/%7Bx%7D") := by
    decide +kernel
  have hask : (follower.ask {} [] (outgoingTo "/%7Bx%7D")).2 = .ok ⟨404, "", []⟩ :=
    congrArg Prod.snd (ask_of_ends (o := outgoingTo "/%7Bx%7D") .refl (.answered rfl rfl))
  have hanswer : Attempt.ofAnswer "http://s/\x7bx\x7d" (follower.ask {} []
      (outgoingTo "/%7Bx%7D")).2 =
      .reported (some 404) (.error (failure "http://s/\x7bx\x7d" "HTTP 404" (some 404))) := by
    rw [hask]
    rfl
  have hexpand : Template.expand (PageFetch.data "http://s/\x7bx\x7d" (some 404) false)
      "Fetch | url=http://s/\x7bx\x7d | code=404 | status=FAILED" = .error (.unknownName "x") := by
    rw [Template.expand, Template.expandWithin]
    rfl
  have hevent : (PageFetch.ofFetch "http://s/\x7bx\x7d" (some 404) false).event = .ok
      ⟨.warning, "Fetch | url=http://s/\x7bx\x7d | code=404 | status=FAILED",
        PageFetch.data "http://s/\x7bx\x7d" (some 404) false⟩ := rfl
  have hreport : ((PageFetch.ofFetch "http://s/\x7bx\x7d" (some 404) false).report 0).result =
      .error (.template (.unknownName "x")) := by
    rw [PageFetch.report, hevent]
    change (Log.Event.report 0 _).result = _
    rw [Log.Event.report, Log.Event.entry, hexpand]
    rfl
  exact .unreported rfl (prepare_eq_outgoingTo hread rfl) hanswer hreport

/-- A failure escapes for the host, for the address, for the name of the host, for the site and for the
report. From a relative address nothing escapes. -/
theorem fetch_fails_otherwise_five_ways :
    (follower.fetch {} 0 [] "http://[b").2.result = .error (.badHost .unbalanced) ∧
    (follower.fetch {} 0 [] "http://s/\x01").2.result = .error .badRequestUrl ∧
    (follower.fetch {} 0 [] "http://xn--/").2.result = .error (.badHostName "IDNAError") ∧
    (follower.fetch strangeSite 0 [] "http://s/a").2.result = .error (.transport "InvalidURL") ∧
    ((follower.fetch {} 0 [] "http://s/\x7bx\x7d").2.result =
        .error (.template (.unknownName "x")) ∧ ¬ Plain "http://s/\x7bx\x7d") ∧
    ((∃ body, (follower.fetch {} 0 [] "b").2.result = .ok body) ∨
      ∃ reason status, (follower.fetch {} 0 [] "b").2.result =
        .error (.fetch { url := "b", reason, status, records := [] })) := by
  have hread : Address.read .standard "http://s/a" = .ok (addressOf "/a") := by decide +kernel
  obtain ⟨htext, hheaders⟩ := @prepare_unnamed follower rfl rfl
  have hreaches : follower.Reaches strangeSite [] "http://s/a"
      ((outgoingTo "/a").opening []) :=
    ⟨rfl, _, prepare_eq_outgoingTo hread rfl, .refl⟩
  refine ⟨?_, ?_, ?_, ?_, ⟨?_, ?_⟩, ?_⟩
  · exact (((fetch_fails_otherwise_iff ..).1 _).mp (.malformed rfl)).1
  · exact (((fetch_fails_otherwise_iff ..).1 _).mp (.refused rfl rfl)).1
  · exact (((fetch_fails_otherwise_iff ..).1 _).mp (.unnamed rfl htext hheaders)).1
  · exact (((fetch_fails_otherwise_iff ..).1 _).mp
      (.strange hreaches rfl (by decide) (by decide) (by decide))).1
  · exact (((fetch_fails_otherwise_iff ..).1 _).mp escapes_braces).1
  · exact (fetch_fails_otherwise_iff ..).2.2 _ escapes_braces
  · exact (fetch_fails_otherwise_iff ..).2.1 fun _ => not_escapes_of_relative rfl

end Client

/-! ## Fresh failures -/

/-- A failure that no crawl has taken any records along with. -/
def IsFresh (e : Error) : Prop := ∀ f, e = .fetch f → f.records = []

section Fresh

variable {client : Client} {site : Site} {traffic : Traffic} {url : String} {e e' : Error}

theorem isFresh_failure (url reason : String) (status : Option Nat) :
    IsFresh (failure url reason status) := by
  rintro _ ⟨⟩
  rfl

theorem isFresh_of_ne_fetch (h : ∀ f, e ≠ .fetch f) : IsFresh e := fun f hf => absurd hf (h f)

theorem Client.isFresh_of_fetch {floor : Floor}
    (h : (client.fetch site floor traffic url).2.result = .error e) : IsFresh e := by
  rcases fetch_cases client site floor traffic url with
    ⟨body, hok⟩ | ⟨reason, status, hfailure⟩ | ⟨e', hescapes⟩
  · rw [h] at hok
    cases hok
  · rw [h] at hfailure
    rw [Except.error.inj hfailure]
    exact isFresh_failure _ _ _
  · obtain ⟨hresult, hfetch⟩ := hescapes.result
    rw [h] at hresult
    rw [Except.error.inj hresult]
    exact isFresh_of_ne_fetch hfetch

theorem isFresh_of_fetchWithoutClient (he : IsFresh e)
    (h : (fetchWithoutClient e traffic url).2.result = .error e') : IsFresh e' := by
  unfold fetchWithoutClient ifAbsolute at h
  split at h <;> cases h
  · exact isFresh_of_ne_fetch nofun
  · exact isFresh_failure _ _ _
  · exact he

theorem isFresh_of_directFetch (h : (directFetch site traffic url).2.result = .error e) :
    IsFresh e := by
  unfold directFetch at h
  dsimp only at h
  split at h
  next r _ =>
    split at h
    · cases h
    · cases h
      exact isFresh_failure _ _ _
  next =>
    cases h
    exact isFresh_of_ne_fetch nofun

/-- **The failure of a fetcher of this library holds no records.** -/
theorem fetcher_isFresh {access : Access} {settings : Settings} {floor : Floor}
    (h : (access.fetcher site settings floor traffic url).2.result = .error e) : IsFresh e := by
  cases access with
  | direct => exact isFresh_of_directFetch h
  | client options =>
    cases hclient : Client.ofOptions settings options with
    | error e' =>
      obtain ⟨run, position, rfl⟩ := Client.ofOptions_eq_error hclient
      have hascii : IsFresh (.notAscii run position) := isFresh_of_ne_fetch nofun
      rw [Access.fetcher, hclient] at h
      exact isFresh_of_fetchWithoutClient hascii h
    | ok made =>
      rw [Access.fetcher, hclient] at h
      exact made.isFresh_of_fetch h

end Fresh

end Gleaner.Http
