import Gleaner.Http.Client
import Gleaner.Proofs.Traced
import Mathlib.Logic.Relation

/-! # Chains of redirects

A client sends one request after another, each to the address that the response to the one before leads
to. Every chain comes to an end (`exists_last`), and the request there decides what becomes of the
first one (`outcome_of_chain`). -/

namespace Gleaner.Http

open Relation (ReflTransGen)

/-- A request on its way: how many redirects may still be followed, and what reached the site
before. -/
structure Sending extends Outgoing where
  more : Nat
  traffic : Traffic

/-- The first of the requests that are sent for one. -/
def Outgoing.opening (o : Outgoing) (traffic : Traffic) : Sending where
  toOutgoing := o
  more := redirectLimit
  traffic

namespace Sending

variable (s : Sending)

def arrived : Traffic := s.traffic ++ [s.request]

def reply (site : Site) : Reply := site.reply s.arrived s.address.render

def answer (site : Site) : Except Breakdown Response := s.toOutgoing.answer site s.arrived

/-- Where the response wants the request to go instead. -/
def location? (site : Site) : Option String :=
  match s.answer site with
  | .ok r => r.location?
  | .error _ => none

/-- The request that a location leads to. -/
def redirect (names : NameRules) (location : String) : Except Breakdown Outgoing :=
  Http.redirect names s.toOutgoing location

def redirected (more : Nat) (next : Outgoing) : Sending where
  toOutgoing := next
  more
  traffic := s.arrived

variable {s} {site : Site} {r : Response} {e : Error}

theorem answer_eq_ok_iff :
    s.answer site = .ok r ↔ s.reply site = .response r ∧ s.address.scheme ≠ [] := by
  unfold answer Outgoing.answer reply
  split
  next h => simp only [h, reduceCtorEq, false_and]
  next r' h =>
    rw [h]
    split
    next hscheme => simp only [hscheme, reduceCtorEq, ne_eq, not_true_eq_false, and_false]
    next hscheme => simp only [Except.ok.injEq, Reply.response.injEq, hscheme, ne_eq,
      not_false_eq_true, and_true]

theorem answer_of_failure {kind message : String} (h : s.reply site = .failure kind message) :
    s.answer site = .error (.ofKind kind message) := by
  unfold answer Outgoing.answer
  change s.reply site = _ at h
  unfold reply at h
  rw [h]

theorem answer_eq_error_iff {b : Breakdown} : s.answer site = .error b ↔
    (∃ kind message, s.reply site = .failure kind message ∧ b = .ofKind kind message) ∨
      (∃ r, s.reply site = .response r) ∧ s.address.scheme = [] ∧
        b = .other (.noScheme s.address.render) := by
  cases hreply : s.reply site with
  | failure kind message =>
    rw [answer_of_failure hreply]
    constructor
    · rintro ⟨⟩
      exact .inl ⟨_, _, rfl, rfl⟩
    · rintro (⟨_, _, ⟨⟩, rfl⟩ | ⟨⟨_, ⟨⟩⟩, -⟩)
      rfl
  | response r =>
    have hanswer : s.answer site = if s.address.scheme = [] then
        .error (.other (.noScheme s.address.render)) else .ok r := by
      unfold answer Outgoing.answer
      unfold reply at hreply
      rw [hreply]
    rw [hanswer]
    constructor
    · intro h
      split at h
      next hscheme =>
        cases h
        exact .inr ⟨⟨_, rfl⟩, hscheme, rfl⟩
      next => cases h
    · rintro (⟨_, _, ⟨⟩, -⟩ | ⟨-, hscheme, rfl⟩)
      rw [if_pos hscheme]

end Sending

theorem Response.location?_of_isSuccess {r : Response} (h : isSuccess r.status = true) :
    r.location? = none := by
  refine if_neg ?_
  unfold isSuccess at h
  simp only [redirectStatuses, List.contains_iff_mem, List.mem_cons, List.not_mem_nil, or_false]
  simp only [Bool.and_eq_true, decide_eq_true_eq] at h
  omega

/-- A client goes on from a request to the one behind a redirect. -/
inductive Leads (client : Client) (site : Site) (s : Sending) : Sending → Prop where
  | redirect {more : Nat} {location : String} {next : Outgoing} :
    client.followRedirects = true → s.more = more + 1 → s.location? site = some location →
    s.redirect client.names location = .ok next → Leads client site s (s.redirected more next)

/-- A client stops at a request, with a result. -/
inductive Ends (client : Client) (site : Site) (s : Sending) : Except Breakdown Response → Prop where
  | failed {b : Breakdown} : s.answer site = .error b → Ends client site s (.error b)
  | misled {location : String} {b : Breakdown} : s.location? site = some location →
    s.redirect client.names location = .error b → Ends client site s (.error b)
  | exhausted {location : String} {next : Outgoing} : client.followRedirects = true →
    s.more = 0 → s.location? site = some location →
    s.redirect client.names location = .ok next →
    Ends client site s (.error (.failed "Exceeded maximum allowed redirects."))
  | answered {r : Response} : s.answer site = .ok r → r.location? = none →
    Ends client site s (.ok r)
  | unfollowed {r : Response} {location : String} {next : Outgoing} :
    client.followRedirects = false → s.answer site = .ok r → r.location? = some location →
    s.redirect client.names location = .ok next → Ends client site s (.ok r)

namespace Sending

variable {s : Sending} {site : Site} {r : Response}

theorem location?_of_answer (h : s.answer site = .ok r) : s.location? site = r.location? := by
  rw [location?, h]

theorem location?_of_error {b : Breakdown} (h : s.answer site = .error b) :
    s.location? site = none := by
  rw [location?, h]

theorem exists_answer_of_location? {location : String} (h : s.location? site = some location) :
    ∃ r, s.answer site = .ok r ∧ r.location? = some location := by
  cases hanswer : s.answer site with
  | error b =>
    rw [location?_of_error hanswer] at h
    cases h
  | ok r => exact ⟨r, rfl, by rwa [location?_of_answer hanswer] at h⟩

end Sending

namespace Client

variable (client : Client) (site : Site)

/-- What comes of a request on its way. -/
def outcome (s : Sending) : Traffic × Except Breakdown Response :=
  client.send site s.more s.traffic s.toOutgoing

variable {client site} {s s' : Sending} {result : Except Breakdown Response}

theorem outcome_eq : client.outcome site s =
    match client.turn site s.arrived s.toOutgoing, s.more with
    | .inl result, _ => (s.arrived, result)
    | .inr _, 0 => (s.arrived, .error (.failed "Exceeded maximum allowed redirects."))
    | .inr next, more + 1 => client.outcome site (s.redirected more next) := by
  rw [outcome, send.eq_def]
  rfl

theorem turn_of_location? {location : String} (h : s.location? site = some location) :
    ∃ r, s.answer site = .ok r ∧ r.location? = some location ∧
      client.turn site s.arrived s.toOutgoing =
        match s.redirect client.names location with
        | .error b => .inl (.error b)
        | .ok next => if client.followRedirects then .inr next else .inl (.ok r) := by
  obtain ⟨r, hanswer, hlocation⟩ := Sending.exists_answer_of_location? h
  refine ⟨r, hanswer, hlocation, ?_⟩
  rw [turn, show s.toOutgoing.answer site s.arrived = .ok r from hanswer]
  dsimp only
  rw [hlocation]
  rfl

theorem outcome_of_leads (h : Leads client site s s') :
    client.outcome site s = client.outcome site s' := by
  obtain ⟨hfollow, hmore, hlocation, hnext⟩ := h
  obtain ⟨r, -, -, hturn⟩ := @turn_of_location? client site s _ hlocation
  rw [outcome_eq, hturn, hnext, hfollow, hmore]
  rfl

end Client

section Chains

variable {client : Client} {site : Site} {s s' last : Sending}
  {result : Except Breakdown Response}

theorem Ends.outcome (h : Ends client site s result) :
    client.outcome site s = (s.arrived, result) := by
  rw [Client.outcome_eq]
  cases h with
  | failed hanswer =>
    rw [Client.turn, show s.toOutgoing.answer site s.arrived = _ from hanswer]
  | answered hanswer hlocation =>
    rw [Client.turn, show s.toOutgoing.answer site s.arrived = _ from hanswer]
    dsimp only
    rw [hlocation]
  | unfollowed hfollow hanswer hlocation hnext =>
    obtain ⟨r, hanswer', -, hturn⟩ := @Client.turn_of_location? client site s _
      ((Sending.location?_of_answer hanswer).trans hlocation)
    obtain rfl := Except.ok.inj (hanswer.symm.trans hanswer')
    rw [hturn, hnext, hfollow]
    rfl
  | misled hlocation hnext =>
    obtain ⟨r, -, -, hturn⟩ := @Client.turn_of_location? client site s _ hlocation
    rw [hturn, hnext]
  | exhausted hfollow hmore hlocation hnext =>
    obtain ⟨r, -, -, hturn⟩ := @Client.turn_of_location? client site s _ hlocation
    rw [hturn, hnext, hfollow, hmore]
    rfl

/-- **The last request of a chain decides what comes of the first.** -/
theorem outcome_of_chain (h : ReflTransGen (Leads client site) s last) :
    client.outcome site s = client.outcome site last := by
  induction h with
  | refl => rfl
  | tail _ hleads ih => rw [ih, Client.outcome_of_leads hleads]

/-- What has reached the site by a request is there for all that it leads to. -/
theorem arrived_prefix (h : ReflTransGen (Leads client site) s last) :
    s.arrived <+: last.arrived := by
  induction h with
  | refl => exact List.prefix_rfl
  | tail _ hleads ih =>
    cases hleads with
    | redirect => exact ih.trans (List.prefix_append ..)

theorem exists_ends_or_leads (client : Client) (site : Site) (s : Sending) :
    (∃ result, Ends client site s result) ∨
      ∃ s', Leads client site s s' ∧ s.more = s'.more + 1 := by
  cases hanswer : s.answer site with
  | error b => exact .inl ⟨_, .failed hanswer⟩
  | ok r =>
  cases hlocation : r.location? with
  | none => exact .inl ⟨_, .answered hanswer hlocation⟩
  | some location =>
  have hlocation' := (Sending.location?_of_answer hanswer).trans hlocation
  cases hnext : s.redirect client.names location with
  | error b => exact .inl ⟨_, .misled hlocation' hnext⟩
  | ok next =>
  cases hfollow : client.followRedirects with
  | false => exact .inl ⟨_, .unfollowed hfollow hanswer hlocation hnext⟩
  | true =>
  cases hmore : s.more with
  | zero => exact .inl ⟨_, .exhausted hfollow hmore hlocation' hnext⟩
  | succ more => exact .inr ⟨_, .redirect hfollow hmore hlocation' hnext, rfl⟩

/-- **Every chain has a last request**, since only so many redirects are followed. -/
theorem exists_last (client : Client) (site : Site) (s : Sending) :
    ∃ last result, ReflTransGen (Leads client site) s last ∧ Ends client site last result := by
  induction hmore : s.more generalizing s with
  | zero =>
    rcases exists_ends_or_leads client site s with ⟨result, hends⟩ | ⟨s', -, hs'⟩
    · exact ⟨s, result, .refl, hends⟩
    · omega
  | succ more ih =>
    rcases exists_ends_or_leads client site s with ⟨result, hends⟩ | ⟨s', hleads, hs'⟩
    · exact ⟨s, result, .refl, hends⟩
    · obtain ⟨last, result, hchain, hends⟩ := ih s' (by omega)
      exact ⟨last, result, .head hleads hchain, hends⟩

end Chains

/-! ## What fails on the way to a request -/

/-- The failures that no page is behind: a host that is malformed, or has a name that cannot be read,
and an address that no request can be sent to. -/
inductive Unreachable : Error → Prop where
  | badHost (fault : Url.HostFault) : Unreachable (.badHost fault)
  | badRequestUrl : Unreachable .badRequestUrl
  | badHostName (kind : String) : Unreachable (.badHostName kind)

section Requests

variable {names : NameRules} {a target : Address} {b : Breakdown} {e : Error}

theorem outside_error {α : Type} {x : Except Error α} (h : outside x = .error b) :
    ∃ e, x = .error e ∧ b = .other e := by
  cases x with
  | ok a => cases h
  | error e =>
    cases h
    exact ⟨e, rfl, rfl⟩

theorem shownHost_error (h : shownHost names a = .error e) : ∃ kind, e = .badHostName kind := by
  unfold shownHost at h
  cases hshown : a.shownHost names with
  | ok host =>
    rw [hshown] at h
    cases h
  | error kind =>
    rw [hshown] at h
    cases h
    exact ⟨kind, rfl⟩

theorem shownHosts_error (h : shownHosts names a target = .error e) :
    ∃ kind, e = .badHostName kind := by
  unfold shownHosts at h
  split at h
  all_goals
    rcases bind_eq_error_iff.mp h with hfirst | ⟨_, -, h⟩
    · exact shownHost_error hfirst
    · rcases bind_eq_error_iff.mp h with hsecond | ⟨_, -, h⟩
      · exact shownHost_error hsecond
      · cases h

theorem redirectHeaders_error {headers : Headers}
    (h : redirectHeaders names headers a target = .error e) : ∃ kind, e = .badHostName kind := by
  rcases bind_eq_error_iff.mp h with hhosts | ⟨hosts, -, h⟩
  · exact shownHosts_error hhosts
  · obtain ⟨here, there⟩ := hosts
    dsimp only at h
    split at h <;> cases h

theorem ofParts_error {x : Except AddressFault Address} (h : ofParts x = .error b) :
    b = .other .badRequestUrl := by
  cases x with
  | ok a => cases h
  | error fault =>
    cases h
    rfl

/-- A location with a scheme and no host is put at the host that was asked. -/
theorem withHostOf_of_hostless {host : List Char} (hscheme : target.scheme ≠ [])
    (htarget : target.host = []) (ha : shownHost names a = .ok host) :
    withHostOf names a target = ofParts (target.atHost names host) := by
  have hthere : shownHost names target = .ok [] := by
    unfold shownHost Address.shownHost
    rw [htarget]
    rfl
  rw [withHostOf, if_neg hscheme, hthere, ha]
  rfl

theorem withHostOf_error (h : withHostOf names a target = .error b) :
    ∃ e, b = .other e ∧ Unreachable e := by
  have houtside {target : Address} (h : outside (shownHost names target) = .error b) :
      ∃ e, b = .other e ∧ Unreachable e := by
    obtain ⟨e, he, rfl⟩ := outside_error h
    obtain ⟨kind, rfl⟩ := shownHost_error he
    exact ⟨_, rfl, .badHostName kind⟩
  unfold withHostOf at h
  split at h
  · cases h
  rcases bind_eq_error_iff.mp h with hthere | ⟨_, -, h⟩
  · exact houtside hthere
  split at h
  · cases h
  rcases bind_eq_error_iff.mp h with hhere | ⟨_, -, h⟩
  · exact houtside hhere
  · exact ⟨_, ofParts_error h, .badRequestUrl⟩

/-- A location that is no address is a failure of the connection. All else that is wrong with where a
redirect leads is none. -/
theorem redirectTarget_error {location : String}
    (h : redirectTarget names a location = .error b) :
    (∃ message, b = .failed message) ∨ ∃ e, b = .other e ∧ Unreachable e := by
  rcases bind_eq_error_iff.mp h with hread | ⟨target, -, h⟩
  · unfold readLocation at hread
    split at hread
    · cases hread
    · cases hread
      exact .inl ⟨_, rfl⟩
  rcases bind_eq_error_iff.mp h with hhost | ⟨target, -, h⟩
  · exact .inr (withHostOf_error hhost)
  rcases bind_eq_error_iff.mp h with hjoin | ⟨target, -, h⟩
  · unfold resolveAt at hjoin
    split at hjoin
    · cases hjoin
    split at hjoin
    · cases hjoin
      exact .inr ⟨_, rfl, .badHost _⟩
    · exact .inr ⟨_, ofParts_error hjoin, .badRequestUrl⟩
  · unfold withFragmentOf at h
    dsimp only at h
    split at h
    · exact .inr ⟨_, ofParts_error h, .badRequestUrl⟩
    · cases h

theorem redirect_error {o : Outgoing} {location : String}
    (h : redirect names o location = .error b) :
    (∃ message, b = .failed message) ∨ ∃ e, b = .other e ∧ Unreachable e := by
  rcases bind_eq_error_iff.mp h with htarget | ⟨target, -, h⟩
  · exact redirectTarget_error htarget
  rcases bind_eq_error_iff.mp h with hheaders | ⟨headers, -, h⟩
  · obtain ⟨e, he, rfl⟩ := outside_error hheaders
    obtain ⟨kind, rfl⟩ := redirectHeaders_error he
    exact .inr ⟨_, rfl, .badHostName kind⟩
  · cases h

theorem Client.headersFor_error {client : Client} (h : client.headersFor a = .error e) :
    ∃ kind, e = .badHostName kind := by
  rcases bind_eq_error_iff.mp h with hat | ⟨headers, -, h⟩
  · unfold headersAt at hat
    split at hat
    · cases hat
    rcases bind_eq_error_iff.mp hat with hhost | ⟨host, -, hat⟩
    · exact shownHost_error hhost
    · cases hat
  · cases h

/-- A request for what is at an address cannot be made if it has no address to go to, or a host whose
name cannot be read. -/
theorem Client.prepare_eq_error_iff {client : Client} {url : String} :
    client.prepare url = .error e ↔
      (∃ fault, Address.ofText client.names url = .error fault ∧ e = .badRequestUrl) ∨
        ∃ a, Address.ofText client.names url = .ok a ∧ client.headersFor a = .error e := by
  unfold prepare
  cases Address.ofText client.names url with
  | error fault =>
    constructor
    · rintro ⟨⟩
      exact .inl ⟨_, rfl, rfl⟩
    · rintro (⟨_, -, rfl⟩ | ⟨_, ⟨⟩, -⟩)
      rfl
  | ok a =>
    constructor
    · intro h
      rcases bind_eq_error_iff.mp h with hheaders | ⟨_, -, h⟩
      · exact .inr ⟨a, rfl, hheaders⟩
      · cases h
    · rintro (⟨_, ⟨⟩, -⟩ | ⟨_, ⟨⟩, hheaders⟩)
      exact bind_eq_error_iff.mpr (.inl hheaders)

theorem Client.prepare_error {client : Client} {url : String} (h : client.prepare url = .error e) :
    Unreachable e := by
  rcases prepare_eq_error_iff.mp h with ⟨_, -, rfl⟩ | ⟨a, -, hheaders⟩
  · exact .badRequestUrl
  · obtain ⟨kind, rfl⟩ := headersFor_error hheaders
    exact .badHostName kind

theorem Client.prepare_eq_ok_iff {client : Client} {url : String} {o : Outgoing} :
    client.prepare url = .ok o ↔ Address.ofText client.names url = .ok o.address ∧
      client.headersFor o.address = .ok o.headers := by
  unfold prepare
  cases Address.ofText client.names url with
  | error fault => exact ⟨nofun, nofun⟩
  | ok a =>
    rw [Except.ok.injEq]
    constructor
    · intro h
      obtain ⟨headers, hheaders, h⟩ := bind_eq_ok_iff.mp h
      cases h
      exact ⟨rfl, hheaders⟩
    · rintro ⟨rfl, hheaders⟩
      exact bind_eq_ok_iff.mpr ⟨o.headers, hheaders, rfl⟩

end Requests

end Gleaner.Http
