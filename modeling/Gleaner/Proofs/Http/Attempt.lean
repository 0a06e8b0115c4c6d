import Gleaner.Http.Fetch
import Gleaner.Proofs.Log.Report

/-! # Fetches and their reports

A fetch through a client is an attempt, of which nobody hears, and then a report of what came of it.
The report is all that can make the fetch end in another way than the attempt
(`Client.fetch_reported`). -/

namespace Gleaner.Http

open Log (Floor Reported PageFetch mute)
open Template (Plain)

/-- What an attempt to fetch a page comes to. -/
inductive Attempt where
  /-- It fails before there is anything to report. -/
  | unreported (e : Error)
  /-- It ends in the text of a page or in a failure, with the status of the response if there is
  one, and this is reported. -/
  | reported (status : Option Nat) (result : Except Error String)

/-- The text or the failure that an attempt ends in. -/
def Attempt.result : Attempt → Except Error String
  | .unreported e => .error e
  | .reported _ result => result

/-- What the answer to a request amounts to. -/
def Attempt.ofAnswer (url : String) : Except Breakdown Response → Attempt
  | .ok r =>
    .reported (some r.status)
      (if isSuccess r.status then .ok r.body
      else .error (failure url s!"HTTP {r.status}" (some r.status)))
  | .error .refused => .reported none (.error (failure url "HTTP None"))
  | .error .timedOut => .reported none (.error (failure url "Request timed out"))
  | .error (.failed message) => .reported none (.error (failure url s!"Request failed: {message}"))
  | .error (.other e) => .unreported e

/-- What is done with an attempt: it is reported, if there is anything to report. -/
def Attempt.conclude (floor : Floor) (url : String) : Attempt → Traced Log.Entry String
  | .unreported e => .fail e
  | .reported status result => Http.conclude floor url status result

namespace Client

variable (client : Client) (site : Site) (traffic : Traffic) (url : String)

/-- A request and those that it is redirected to. -/
def ask (o : Outgoing) : Traffic × Except Breakdown Response :=
  client.send site redirectLimit traffic o

/-- An attempt to fetch the page at an address, and the traffic after it. -/
def attempt : Traffic × Attempt :=
  match Url.isAbsolute url with
  | .error fault => (traffic, .unreported (.badHost fault))
  | .ok false => (traffic, .unreported (failure url "Cannot fetch non-absolute URL"))
  | .ok true =>
    match client.prepare url with
    | .error e => (traffic, .unreported e)
    | .ok o =>
      let (after, answer) := client.ask site traffic o
      (after, .ofAnswer url answer)

variable {client site traffic url}

theorem attempt_of_fault {fault : Url.HostFault} (h : Url.isAbsolute url = .error fault) :
    client.attempt site traffic url = (traffic, .unreported (.badHost fault)) := by
  rw [attempt, h]

theorem attempt_of_not_absolute (h : Url.isAbsolute url = .ok false) :
    client.attempt site traffic url =
      (traffic, .unreported (failure url "Cannot fetch non-absolute URL")) := by
  rw [attempt, h]

theorem attempt_of_unprepared (h : Url.isAbsolute url = .ok true) {e : Error}
    (he : client.prepare url = .error e) :
    client.attempt site traffic url = (traffic, .unreported e) := by
  rw [attempt, h, he]

theorem attempt_of_prepared (h : Url.isAbsolute url = .ok true) {o : Outgoing}
    (ho : client.prepare url = .ok o) :
    client.attempt site traffic url =
      ((client.ask site traffic o).1, .ofAnswer url (client.ask site traffic o).2) := by
  rw [attempt, h, ho]

/-- A fetch is an attempt and its report. -/
theorem fetch_eq (floor : Floor) :
    client.fetch site floor traffic url =
      ((client.attempt site traffic url).1,
        (client.attempt site traffic url).2.conclude floor url) := by
  cases h : Url.isAbsolute url with
  | error fault => simp only [fetch, ifAbsolute, h, attempt_of_fault h, Attempt.conclude]
  | ok absolute =>
  cases absolute with
  | false => simp only [fetch, ifAbsolute, h, attempt_of_not_absolute h, Attempt.conclude]
  | true =>
  cases ho : client.prepare url with
  | error e => simp only [fetch, ifAbsolute, h, ho, attempt_of_unprepared h ho, Attempt.conclude]
  | ok o =>
    simp only [fetch, ifAbsolute, h, ho, attempt_of_prepared h ho]
    change ((client.ask site traffic o).1, _) = _
    refine Prod.ext rfl ?_
    dsimp only [ask]
    generalize client.send site redirectLimit traffic o = outcome
    rcases outcome.2 with (_ | message | _ | e) | r <;> rfl

end Client

/-- What is reported of an attempt, if there is anything to report. -/
def Attempt.Reports (floor : Floor) (url : String) (report : Traced Log.Entry Unit) :
    Attempt → Prop
  | .unreported _ => report = pure ()
  | .reported status result =>
    Reported floor (PageFetch.level result.isOk) (PageFetch.data url status result.isOk)
      "Fetch | url=" url (PageFetch.back status result.isOk) report

theorem Attempt.exists_report (floor : Floor) (url : String) (x : Attempt) :
    ∃ report, x.Reports floor url report ∧
      x.conclude floor url = report >>= fun _ => .ofExcept x.result := by
  cases x with
  | unreported e => exact ⟨pure (), rfl, rfl⟩
  | reported status result =>
    refine ⟨_, PageFetch.reported floor url status result.isOk, ?_⟩
    cases status <;> cases result <;> rfl

/-- The report of an attempt fails only over a brace in the address. -/
theorem Attempt.Reports.result {floor : Floor} {url : String} {report : Traced Log.Entry Unit}
    {x : Attempt} (h : x.Reports floor url report) :
    report.result = .ok () ∨
      ¬ Plain url ∧ ∃ fault, report.result = .error (.template fault) := by
  cases x with
  | unreported e =>
    obtain rfl : report = pure () := h
    exact .inl rfl
  | reported status result =>
    have hreported : Reported .. := h
    refine hreported.result.imp_right fun ⟨hexpand, hfault⟩ => ⟨fun hp => ?_, hfault⟩
    exact hexpand url (Template.expand_plain _ hp)

theorem Attempt.Reports.of_mute {url : String} {report : Traced Log.Entry Unit} {x : Attempt}
    (h : x.Reports mute url report) : report = pure () := by
  cases x with
  | unreported e => exact h
  | reported status result => exact Reported.of_mute h

namespace Client

variable {client : Client} {site : Site} {traffic : Traffic} {url : String}

theorem fetch_mute :
    client.fetch site mute traffic url =
      ((client.attempt site traffic url).1,
        .ofExcept (client.attempt site traffic url).2.result) := by
  rw [fetch_eq]
  refine Prod.ext rfl ?_
  obtain ⟨report, hreport, hconclude⟩ := (client.attempt site traffic url).2.exists_report mute url
  rw [hconclude, hreport.of_mute]
  rfl

theorem result_fetch (floor : Floor) :
    (client.fetch site floor traffic url).2.result = (client.attempt site traffic url).2.result ∨
      ¬ Plain url ∧
        ∃ fault, (client.fetch site floor traffic url).2.result = .error (.template fault) := by
  obtain ⟨report, hreport, hconclude⟩ := (client.attempt site traffic url).2.exists_report floor url
  rw [fetch_eq, hconclude, Traced.result_bind]
  rcases hreport.result with hok | ⟨hn, fault, hfault⟩
  · rw [hok]
    exact .inl rfl
  · rw [hfault]
    exact .inr ⟨hn, fault, rfl⟩

/-- **A fetch is its report and then the fetch that nobody hears of.** -/
theorem fetch_reported (floor : Floor) :
    (client.fetch site floor traffic url).1 = (client.fetch site mute traffic url).1 ∧
      ∃ report, (client.attempt site traffic url).2.Reports floor url report ∧
        (client.fetch site floor traffic url).2 =
          report >>= fun _ => (client.fetch site mute traffic url).2 := by
  rw [fetch_mute, fetch_eq]
  exact ⟨rfl, (client.attempt site traffic url).2.exists_report floor url⟩

/-- What a fetch can come to, and when. -/
inductive Fetched (client : Client) (site : Site) (traffic : Traffic) (url : String) :
    Except Error String → Prop where
  /-- The address has a malformed host. -/
  | malformed {fault : Url.HostFault} :
    Url.isAbsolute url = .error fault → Fetched client site traffic url (.error (.badHost fault))
  /-- It is no absolute address. -/
  | relative : Url.isAbsolute url = .ok false →
    Fetched client site traffic url (.error (failure url "Cannot fetch non-absolute URL"))
  /-- No request can be made for it. -/
  | refused {e : Error} : Url.isAbsolute url = .ok true → client.prepare url = .error e →
    Fetched client site traffic url (.error e)
  /-- The site answers with something that is no failure of the connection. -/
  | strange {o : Outgoing} {e : Error} : Url.isAbsolute url = .ok true →
    client.prepare url = .ok o → (client.ask site traffic o).2 = .error (.other e) →
    Fetched client site traffic url (.error e)
  /-- The connection fails, or there is a response without success. -/
  | failed {o : Outgoing} {reason : String} {status : Option Nat} :
    Url.isAbsolute url = .ok true → client.prepare url = .ok o →
    (∀ r, (client.ask site traffic o).2 = .ok r → isSuccess r.status = false) →
    Fetched client site traffic url (.error (failure url reason status))
  /-- A page is received. -/
  | received {o : Outgoing} {r : Response} : Url.isAbsolute url = .ok true →
    client.prepare url = .ok o → (client.ask site traffic o).2 = .ok r →
    isSuccess r.status = true → Fetched client site traffic url (.ok r.body)
  /-- The report fails over a brace in the address. -/
  | unreported {o : Outgoing} {fault : TemplateFault} : Url.isAbsolute url = .ok true →
    client.prepare url = .ok o → ¬ Plain url →
    Fetched client site traffic url (.error (.template fault))

/-- **Every fetch comes to one of these.** -/
theorem fetched (client : Client) (site : Site) (floor : Floor) (traffic : Traffic) (url : String) :
    Fetched client site traffic url (client.fetch site floor traffic url).2.result := by
  cases h : Url.isAbsolute url with
  | error fault =>
    rw [fetch_eq, attempt_of_fault h]
    exact .malformed h
  | ok absolute =>
  cases absolute with
  | false =>
    rw [fetch_eq, attempt_of_not_absolute h]
    exact .relative h
  | true =>
  cases ho : client.prepare url with
  | error e =>
    rw [fetch_eq, attempt_of_unprepared h ho]
    exact .refused h ho
  | ok o =>
  rcases @result_fetch client site traffic url floor with hresult | ⟨hn, fault, hfault⟩
  · rw [hresult, attempt_of_prepared h ho]
    cases hanswer : (client.ask site traffic o).2 with
    | error b =>
      have hnot : ∀ r, (client.ask site traffic o).2 = .ok r → isSuccess r.status = false := by
        rw [hanswer]
        nofun
      cases b with
      | timedOut | refused => exact .failed h ho hnot
      | failed message => exact .failed h ho hnot
      | other e => exact .strange h ho hanswer
    | ok r =>
      dsimp only [Attempt.ofAnswer, Attempt.result]
      split
      next hs => exact .received h ho hanswer hs
      next hs =>
        refine .failed h ho fun r' heq => ?_
        rw [hanswer] at heq
        cases heq
        exact Bool.eq_false_iff.mpr hs
  · rw [hfault]
    exact .unreported h ho hn

end Client

end Gleaner.Http
