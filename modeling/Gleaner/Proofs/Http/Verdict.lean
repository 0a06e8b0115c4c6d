import Gleaner.Proofs.Http.Escape

/-! # Verdicts on the last response

The redirects behind an address end at one request, and what comes of that request decides the fetch:
the text or the failure, the status in the failure, and the report (`Client.fetch_verdict`). A
redirect that leads to nothing requests can be sent to is the one end that is no failure to fetch the
page, and nothing is reported of it. -/

namespace Gleaner.Http

open Log (Floor PageFetch Reported)
open Relation (ReflTransGen)
open Template (Plain)

/-- Whatever fails at a site is the connection, or stands for a response without success. -/
def Site.FailsOnConnection (site : Site) : Prop :=
  ∀ traffic url kind message, site.reply traffic url = .failure kind message →
    kind = statusFailure ∨ kind ∈ timeouts ∨ kind ∈ connectionFailures

/-! ## The end of a chain -/

section Ends

variable {client : Client} {site : Site} {s s' last : Sending}

/-- The redirects that start with a request end at another one. -/
structure Client.EndsAt (client : Client) (site : Site) (s last : Sending) : Prop where
  chain : ReflTransGen (Leads client site) s last
  stops : ∀ next, ¬ Leads client site last next

theorem Ends.not_leads {result : Except Breakdown Response}
    (h : Ends client site s result) : ¬ Leads client site s s' := by
  rintro ⟨hfollow, hmore, hlocation, hnext⟩
  cases h with
  | failed hanswer =>
    rw [Sending.location?_of_error hanswer] at hlocation
    cases hlocation
  | misled hlocation' hnext' =>
    obtain rfl := Option.some.inj (hlocation.symm.trans hlocation')
    rw [hnext] at hnext'
    cases hnext'
  | exhausted _ hmore' =>
    rw [hmore] at hmore'
    cases hmore'
  | answered hanswer hlocation' =>
    rw [Sending.location?_of_answer hanswer, hlocation'] at hlocation
    cases hlocation
  | unfollowed hfollow' =>
    rw [hfollow] at hfollow'
    cases hfollow'

theorem Ends.endsAt {result : Except Breakdown Response} (h : Ends client site s result) :
    client.EndsAt site s s := ⟨.refl, fun _ => h.not_leads⟩

theorem Client.exists_endsAt (client : Client) (site : Site) (s : Sending) :
    ∃ last, client.EndsAt site s last := by
  obtain ⟨last, result, hchain, hends⟩ := exists_last client site s
  exact ⟨last, hchain, fun _ => hends.not_leads⟩

theorem Client.EndsAt.exists_ends (h : client.EndsAt site s last) :
    ∃ result, Ends client site last result ∧ client.outcome site s = (last.arrived, result) := by
  rcases exists_ends_or_leads client site last with ⟨result, hends⟩ | ⟨next, hleads, -⟩
  · exact ⟨result, hends, (outcome_of_chain h.chain).trans hends.outcome⟩
  · exact absurd hleads (h.stops next)

/-- With every request that reaches the site, one redirect fewer may be followed. -/
theorem more_add_length (h : ReflTransGen (Leads client site) s last) :
    last.more + last.arrived.length = s.more + s.arrived.length := by
  induction h with
  | refl => rfl
  | tail _ hleads ih =>
    obtain ⟨-, hmore, -, -⟩ := hleads
    rw [← ih, hmore]
    simp only [Sending.redirected, Sending.arrived, List.length_append, List.length_singleton]
    omega

end Ends

/-! ## The report -/

/-- What the report of a fetch from a plain address writes, if anybody wants it. -/
def noted (floor : Floor) (url : String) (status : Option Nat) (success : Bool) :
    List Log.Entry :=
  if (PageFetch.level success).severity < floor then []
  else [⟨PageFetch.level success, "Fetch | url=" ++ url ++ PageFetch.back status success,
    PageFetch.data url status success⟩]

theorem report_of_plain {url : String} (hplain : Plain url) (floor : Floor) (status : Option Nat)
    (success : Bool) :
    (PageFetch.ofFetch url status success).report floor =
      .tell (noted floor url status success) := by
  have hreported := PageFetch.reported floor url status success
  unfold noted
  split
  next hunwanted => exact hreported.of_unwanted hunwanted
  next hwanted => exact hreported.of_plain (Nat.le_of_not_lt hwanted) hplain

theorem conclude_of_plain {url : String} (hplain : Plain url) (floor : Floor)
    (status : Option Nat) (answer : Except Error String) :
    conclude floor url status answer = ⟨noted floor url status answer.isOk, answer⟩ := by
  have hconclude : conclude floor url status answer =
      ((PageFetch.ofFetch url status answer.isOk).report floor >>= fun _ => .ofExcept answer) := by
    cases status <;> cases answer <;> rfl
  rw [hconclude, report_of_plain hplain, Traced.bind_of_ok (Traced.result_tell _)]
  simp only [Traced.events_tell, Traced.events_ofExcept, List.append_nil, Traced.result_ofExcept]

/-! ## Verdicts -/

/-- The failure to fetch a page when there is no response, and its report. -/
def unanswered (floor : Floor) (url reason : String) : Traced Log.Entry String :=
  ⟨noted floor url none false, .error (.fetch { url, reason, status := none, records := [] })⟩

/-- What a fetch makes of the request at which its redirects end. -/
inductive Verdict (client : Client) (site : Site) (floor : Floor) (url : String) (last : Sending) :
    Traced Log.Entry String → Prop where
  /-- The response is a success, and its text is the page. -/
  | received {r : Response} : last.answer site = .ok r → isSuccess r.status = true →
    Verdict client site floor url last ⟨noted floor url (some r.status) true, .ok r.body⟩
  /-- The response is no success. It may be a redirect, if the client does not follow any. -/
  | refused {r : Response} : last.answer site = .ok r → isSuccess r.status = false →
    (∀ location, r.location? = some location → client.followRedirects = false ∧
      ∃ next, last.redirect client.names location = .ok next) →
    Verdict client site floor url last ⟨noted floor url (some r.status) false,
      .error (.fetch
        { url, reason := s!"HTTP {r.status}", status := some r.status, records := [] })⟩
  /-- There is only what stands for such a response. -/
  | unseen {message : String} : last.reply site = .failure statusFailure message →
    Verdict client site floor url last (unanswered floor url "HTTP None")
  /-- The connection runs out of time. -/
  | timedOut {kind message : String} : last.reply site = .failure kind message →
    kind ∈ timeouts → Verdict client site floor url last (unanswered floor url "Request timed out")
  /-- The connection fails. -/
  | disconnected {kind message : String} : last.reply site = .failure kind message →
    kind ∉ timeouts → kind ∈ connectionFailures →
    Verdict client site floor url last (unanswered floor url s!"Request failed: {message}")
  /-- The location of a redirect cannot be read. -/
  | unreadable {location message : String} : last.location? site = some location →
    last.redirect client.names location = .error (.failed message) →
    Verdict client site floor url last (unanswered floor url s!"Request failed: {message}")
  /-- There is a redirect more than the client follows. -/
  | exhausted {location : String} {next : Outgoing} : client.followRedirects = true →
    last.more = 0 → last.location? site = some location →
    last.redirect client.names location = .ok next →
    Verdict client site floor url last
      (unanswered floor url "Request failed: Exceeded maximum allowed redirects.")
  /-- The response leads astray. That is no failure to fetch the page, and nothing is reported. -/
  | astray {e : Error} : last.IsAstray client.names site e →
    Verdict client site floor url last ⟨[], .error e⟩

section Verdicts

variable {client : Client} {site : Site} {floor : Floor} {url : String} {last : Sending}
  {r : Response}

theorem isSuccess_of_location? {location : String} (h : last.location? site = some location)
    (hanswer : last.answer site = .ok r) : isSuccess r.status = false := by
  rw [Sending.location?_of_answer hanswer] at h
  refine Bool.eq_false_iff.mpr fun hsuccess => ?_
  rw [Response.location?_of_isSuccess hsuccess] at h
  cases h

/-- What comes of the last request is concluded with its verdict. -/
theorem Ends.verdict {result : Except Breakdown Response} (h : Ends client site last result)
    (hsite : site.FailsOnConnection) (hplain : Plain url) :
    Verdict client site floor url last ((Attempt.ofAnswer url result).conclude floor url) := by
  have hreported (status : Option Nat) (answer : Except Error String) :
      Attempt.conclude floor url (.reported status answer) =
        ⟨noted floor url status answer.isOk, answer⟩ := conclude_of_plain hplain floor status answer
  cases h with
  | @failed b hanswer =>
    rcases Sending.answer_eq_error_iff.mp hanswer with
      ⟨kind, message, hreply, rfl⟩ | ⟨⟨r, hreply⟩, hscheme, rfl⟩
    · unfold Breakdown.ofKind
      simp only [List.contains_iff_mem]
      split
      next hstatus =>
        rw [Attempt.ofAnswer, hreported]
        exact .unseen (hstatus ▸ hreply)
      next hstatus =>
      split
      next htime =>
        rw [Attempt.ofAnswer, hreported]
        exact .timedOut hreply htime
      next htime =>
      have hkind := ((hsite _ _ _ _ hreply).resolve_left hstatus).resolve_left htime
      rw [if_pos hkind, Attempt.ofAnswer, hreported]
      exact .disconnected hreply htime hkind
    · exact .astray (.schemeless hreply hscheme)
  | @misled location b hlocation hnext =>
    rcases redirect_error hnext with ⟨message, rfl⟩ | ⟨e, rfl, -⟩
    · rw [Attempt.ofAnswer, hreported]
      exact .unreadable hlocation hnext
    · exact .astray (.misled hlocation hnext)
  | exhausted hfollow hmore hlocation hnext =>
    rw [Attempt.ofAnswer, hreported]
    exact .exhausted hfollow hmore hlocation hnext
  | @answered r hanswer hlocation =>
    rw [Attempt.ofAnswer, hreported]
    cases hsuccess : isSuccess r.status with
    | true => exact .received hanswer hsuccess
    | false =>
      refine .refused hanswer hsuccess fun location hlocation' => ?_
      rw [hlocation] at hlocation'
      cases hlocation'
  | @unfollowed r location next hfollow hanswer hlocation hnext =>
    have hsuccess :=
      isSuccess_of_location? ((Sending.location?_of_answer hanswer).trans hlocation) hanswer
    rw [Attempt.ofAnswer, hreported, hsuccess]
    refine .refused hanswer hsuccess fun location' hlocation' => ?_
    rw [hlocation] at hlocation'
    cases hlocation'
    exact ⟨hfollow, next, hnext⟩

theorem answer_of_isAstray {e : Error} (h : last.IsAstray client.names site e)
    (hanswer : last.answer site = .ok r) : isSuccess r.status = false := by
  cases h with
  | schemeless _ hscheme => exact absurd hscheme (Sending.answer_eq_ok_iff.mp hanswer).2
  | misled hlocation => exact isSuccess_of_location? hlocation hanswer

/-- The text of the last response is returned just if it is a success. -/
theorem Verdict.result_eq_ok_iff {x : Traced Log.Entry String}
    (h : Verdict client site floor url last x) (body : String) : x.result = .ok body ↔
      ∃ r, last.answer site = .ok r ∧ isSuccess r.status = true ∧ r.body = body := by
  -- Behind a redirect, a failure or another status there is no success to find.
  have hnone {x : Except Error String} (hx : ∀ b, x ≠ .ok b)
      (hno : ∀ r, last.answer site = .ok r → isSuccess r.status = false) : x = .ok body ↔
      ∃ r, last.answer site = .ok r ∧ isSuccess r.status = true ∧ r.body = body := by
    refine ⟨fun heq => absurd heq (hx body), fun ⟨r, hanswer, hsuccess, _⟩ => ?_⟩
    rw [hno r hanswer] at hsuccess
    cases hsuccess
  cases h with
  | @received r hanswer hsuccess =>
    constructor
    · rintro ⟨⟩
      exact ⟨r, hanswer, hsuccess, rfl⟩
    · rintro ⟨r', hanswer', -, rfl⟩
      rw [Except.ok.inj (hanswer.symm.trans hanswer')]
  | @refused r hanswer hsuccess =>
    refine hnone nofun fun r' hanswer' => ?_
    rwa [← Except.ok.inj (hanswer.symm.trans hanswer')]
  | unseen hreply | timedOut hreply | disconnected hreply =>
    refine hnone nofun fun r hanswer => ?_
    rw [Sending.answer_of_failure hreply] at hanswer
    cases hanswer
  | unreadable hlocation | exhausted _ _ hlocation =>
    exact hnone nofun fun r hanswer => isSuccess_of_location? hlocation hanswer
  | astray hastray => exact hnone nofun fun r hanswer => answer_of_isAstray hastray hanswer

theorem Sending.IsAstray.error_eq {names : NameRules} {e e' : Error}
    (h : last.IsAstray names site e) (h' : last.IsAstray names site e') : e = e' := by
  cases h with
  | schemeless hreply hscheme =>
    cases h' with
    | schemeless => rfl
    | misled hlocation =>
      obtain ⟨r, hanswer, -⟩ := Sending.exists_answer_of_location? hlocation
      exact absurd hscheme (Sending.answer_eq_ok_iff.mp hanswer).2
  | misled hlocation hnext =>
    cases h' with
    | schemeless _ hscheme =>
      obtain ⟨r, hanswer, -⟩ := Sending.exists_answer_of_location? hlocation
      exact absurd hscheme (Sending.answer_eq_ok_iff.mp hanswer).2
    | misled hlocation' hnext' =>
      obtain rfl := Option.some.inj (hlocation.symm.trans hlocation')
      rw [hnext] at hnext'
      cases hnext'
      rfl

theorem not_isAstray_of_answer {names : NameRules} {e : Error} (hanswer : last.answer site = .ok r)
    (hredirect : ∀ location, r.location? = some location →
      ∃ next, last.redirect names location = .ok next) : ¬ last.IsAstray names site e := by
  intro h
  cases h with
  | schemeless _ hscheme => exact (Sending.answer_eq_ok_iff.mp hanswer).2 hscheme
  | misled hlocation hnext =>
    rw [Sending.location?_of_answer hanswer] at hlocation
    obtain ⟨next, hnext'⟩ := hredirect _ hlocation
    rw [hnext] at hnext'
    cases hnext'

theorem not_isAstray_of_failure {names : NameRules} {e : Error} {kind message : String}
    (hreply : last.reply site = .failure kind message) : ¬ last.IsAstray names site e := by
  intro h
  cases h with
  | schemeless hreply' =>
    rw [hreply] at hreply'
    cases hreply'
  | misled hlocation =>
    rw [Sending.location?_of_error (Sending.answer_of_failure hreply)] at hlocation
    cases hlocation

theorem not_isAstray_of_redirect {names : NameRules} {e : Error} {location : String}
    (hlocation : last.location? site = some location)
    (hnext : ∀ e', last.redirect names location ≠ .error (.other e')) :
    ¬ last.IsAstray names site e := by
  intro h
  obtain ⟨r, hanswer, -⟩ := Sending.exists_answer_of_location? hlocation
  cases h with
  | schemeless _ hscheme => exact (Sending.answer_eq_ok_iff.mp hanswer).2 hscheme
  | misled hlocation' hnext' =>
    obtain rfl := Option.some.inj (hlocation.symm.trans hlocation')
    exact hnext _ hnext'

/-- A failure that is none to fetch the page comes from a response that leads astray. -/
theorem Verdict.result_eq_error_iff {x : Traced Log.Entry String}
    (h : Verdict client site floor url last x) (e : Error) :
    (x.result = .error e ∧ ∀ f, e ≠ .fetch f) ↔ last.IsAstray client.names site e := by
  have hfetch {f : FetchFailure} (hno : ¬ last.IsAstray client.names site e) :
      ((.error (.fetch f) : Except Error String) = .error e ∧ ∀ f, e ≠ .fetch f) ↔
        last.IsAstray client.names site e :=
    iff_of_false (fun ⟨heq, hne⟩ => hne f (Except.error.inj heq).symm) hno
  cases h with
  | received hanswer hsuccess =>
    refine iff_of_false nofun (not_isAstray_of_answer hanswer fun location hlocation => ?_)
    rw [Response.location?_of_isSuccess hsuccess] at hlocation
    cases hlocation
  | refused hanswer _ hredirect =>
    exact hfetch (not_isAstray_of_answer hanswer fun location hlocation =>
      (hredirect location hlocation).2)
  | unseen hreply | timedOut hreply | disconnected hreply =>
    exact hfetch (not_isAstray_of_failure hreply)
  | unreadable hlocation hnext | exhausted _ _ hlocation hnext =>
    refine hfetch (not_isAstray_of_redirect hlocation fun e' heq => ?_)
    rw [hnext] at heq
    cases heq
  | astray hastray =>
    constructor
    · rintro ⟨⟨⟩, -⟩
      exact hastray
    · intro hastray'
      exact ⟨congrArg _ (hastray.error_eq hastray'), hastray'.ne_fetch⟩

end Verdicts

namespace Client

/-- **Where its redirects end decides a fetch.** For what is no absolute address nothing is requested
and nothing reported. For an absolute one that requests can be sent to, without braces, at a site where
only the connection fails, the redirects end somewhere. The text there is returned just if the response
is a success, and the verdict says what else there is: the status of a response without success, none
for a failed connection, a redirect too many and a location that cannot be read, with one report of
the fetch that tells success from failure. Another failure, without any report, comes of a response that
leads astray. -/
theorem fetch_verdict (client : Client) (site : Site) (floor : Floor) (traffic : Traffic)
    (url : String) :
    (Url.isAbsolute url = .ok false → client.fetch site floor traffic url =
      (traffic, ⟨[], .error (.fetch
        { url, reason := "Cannot fetch non-absolute URL", status := none, records := [] })⟩)) ∧
    ∀ o, Url.isAbsolute url = .ok true → client.prepare url = .ok o → Plain url →
      site.FailsOnConnection →
      (∃ last, client.EndsAt site (o.opening traffic) last) ∧
      ∀ last, client.EndsAt site (o.opening traffic) last →
        (client.fetch site floor traffic url).1 = last.arrived ∧
        last.more + last.arrived.length = redirectLimit + (traffic.length + 1) ∧
        Verdict client site floor url last (client.fetch site floor traffic url).2 ∧
        (∀ body, (client.fetch site floor traffic url).2.result = .ok body ↔
          ∃ r, last.answer site = .ok r ∧ isSuccess r.status = true ∧ r.body = body) ∧
        ∀ e, ((client.fetch site floor traffic url).2.result = .error e ∧ ∀ f, e ≠ .fetch f) ↔
          last.IsAstray client.names site e := by
  refine ⟨fun habs => ?_, fun o habs ho hplain hsite => ⟨client.exists_endsAt site _, ?_⟩⟩
  · rw [fetch_eq, attempt_of_not_absolute habs]
    rfl
  intro last hlast
  obtain ⟨result, hends, houtcome⟩ := hlast.exists_ends
  have hask : client.ask site traffic o = (last.arrived, result) := houtcome
  have hfetch : client.fetch site floor traffic url =
      (last.arrived, (Attempt.ofAnswer url result).conclude floor url) := by
    rw [fetch_eq, attempt_of_prepared habs ho, hask]
  have hverdict : Verdict client site floor url last _ := hends.verdict hsite hplain
  rw [hfetch]
  refine ⟨rfl, ?_, hverdict, hverdict.result_eq_ok_iff, hverdict.result_eq_error_iff⟩
  rw [more_add_length hlast.chain]
  simp only [Outgoing.opening, Sending.arrived, List.length_append, List.length_singleton]

/-- A site where one page is there, and one sends its visitors to a mail address. -/
def mailSite : Site := .ofPages
  [("http://s/list", .page "<p>"),
    ("http://s/mail", .response ⟨302, "", [("Location", "mailto:a@b")]⟩)]

theorem failsOnConnection_mailSite : mailSite.FailsOnConnection := by
  intro traffic url kind message h
  simp only [mailSite, Site.ofPages, Reply.page, List.lookup_cons, List.lookup_nil] at h
  split at h
  · cases h
  · split at h
    · cases h
    · split at h <;> cases h

def mailAddress : Address where
  scheme := "mailto".toList
  user := []
  host := []
  port := none
  path := "a@b".toList
  query := none
  fragment := none

/-- The redirect to a mail address leads astray: a mail address has no host, and the host that was
asked does not go with it. -/
theorem isAstray_mail :
    ((outgoingTo "/mail").opening []).IsAstray .standard mailSite .badRequestUrl := by
  have hread : Address.read .standard "mailto:a@b" = .ok mailAddress := by decide +kernel
  have hat : mailAddress.atHost .standard ['s'] = .error .pathWithoutSlash := by decide +kernel
  have hhost : withHostOf .standard (addressOf "/mail") mailAddress =
      .error (.other .badRequestUrl) := by
    have hasked : shownHost .standard (addressOf "/mail") = .ok ['s'] := rfl
    rw [withHostOf_of_hostless (by decide) rfl hasked, hat]
    rfl
  have hlocation : readLocation .standard "mailto:a@b" = .ok mailAddress := by
    rw [readLocation, hread]
  have htarget : redirectTarget .standard (addressOf "/mail") "mailto:a@b" =
      .error (.other .badRequestUrl) :=
    bind_eq_error_iff.mpr (.inr ⟨_, hlocation, bind_eq_error_iff.mpr (.inl hhost)⟩)
  have hnext : redirect .standard (outgoingTo "/mail") "mailto:a@b" =
      .error (.other .badRequestUrl) := bind_eq_error_iff.mpr (.inl htarget)
  exact .misled rfl hnext

/-- The page is returned, the redirect to a mail address fails without a report, and a relative
address is not asked for. -/
theorem fetch_verdict_mail :
    (follower.fetch mailSite 0 [] "http://s/list").2.result = .ok "<p>" ∧
    (follower.fetch mailSite 0 [] "http://s/mail").2 = ⟨[], .error .badRequestUrl⟩ ∧
    follower.fetch mailSite 0 [] "list" = ([], .fail (.fetch
      ⟨"list", "Cannot fetch non-absolute URL", none, []⟩)) := by
  have hlist : Address.read .standard "http://s/list" = .ok (addressOf "/list") := by
    decide +kernel
  have hmail : Address.read .standard "http://s/mail" = .ok (addressOf "/mail") := by
    decide +kernel
  refine ⟨?_, ?_, (fetch_verdict ..).1 rfl⟩
  · have hends : Ends follower mailSite ((outgoingTo "/list").opening []) (.ok ⟨200, "<p>", []⟩) :=
      .answered rfl rfl
    obtain ⟨-, -, -, hok, -⟩ := ((fetch_verdict follower mailSite 0 [] "http://s/list").2 _
      rfl (prepare_eq_outgoingTo hlist rfl) (by decide) failsOnConnection_mailSite).2 _ hends.endsAt
    exact (hok _).mpr ⟨⟨200, "<p>", []⟩, rfl, rfl, rfl⟩
  · have hends : Ends follower mailSite _ _ := isAstray_mail.ends rfl
    obtain ⟨-, -, hverdict, -, herror⟩ := ((fetch_verdict follower mailSite 0 [] "http://s/mail").2 _
      rfl (prepare_eq_outgoingTo hmail rfl) (by decide) failsOnConnection_mailSite).2 _ hends.endsAt
    have hresult := ((herror _).mpr isAstray_mail).1
    generalize (follower.fetch mailSite 0 [] "http://s/mail").2 = x at hverdict hresult ⊢
    cases hverdict with
    | astray => cases hresult; rfl
    | _ => cases hresult

end Client

end Gleaner.Http
