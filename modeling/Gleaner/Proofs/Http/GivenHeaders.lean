import Gleaner.Proofs.Http.Escape
import Gleaner.Proofs.Http.Headers

/-! # Headers that a caller gives

What a caller gives for a header is to replace what there is for it by default. The first request of a
fetch carries just the caller's value, with two exceptions (`fetch_carries_given_headers`). The name
from the settings is put in as `User-Agent`, and only a line with exactly these letters takes its
place: in other letters, the caller's name is sent beside it. And credentials in the address of a page
replace those of the caller. -/

namespace Gleaner.Http

open Headers

section Requests

variable {client : Client} {site : Site} {traffic : Traffic} {a : Address} {o : Outgoing}
  {sent : Headers} {name line : String}

namespace Client

theorem values_headersAt (h : client.headersAt a = .ok sent) (hname : client.headers.has name) :
    sent.values name = client.headers.values name := by
  unfold headersAt at h
  split at h
  next =>
    cases h
    rfl
  next hhost =>
    obtain ⟨host, -, h⟩ := bind_eq_ok_iff.mp h
    have hother : ¬ isSame "Host" name := fun hsame => hhost (by rw [has_congr hsame, hname])
    split at h
    · cases h
      rfl
    · cases h
      rw [values_cons, if_neg hother]

theorem exists_headersAt (h : client.headersFor a = .ok sent) :
    ∃ base, client.headersAt a = .ok base ∧
      (a.credentials? = none → sent = base) ∧
      ∀ line, a.credentials? = some line → sent = base.set "Authorization" line := by
  obtain ⟨base, hbase, h⟩ := bind_eq_ok_iff.mp h
  refine ⟨base, hbase, fun hnone => ?_, fun line hline => ?_⟩
  · rw [hnone] at h
    cases h
    rfl
  · rw [hline] at h
    cases h
    rfl

theorem values_headersFor_of_credentials (h : client.headersFor a = .ok sent)
    (hline : a.credentials? = some line) (hauth : isSame "Authorization" name) :
    sent.values name = [line] := by
  obtain ⟨base, -, -, hset⟩ := exists_headersAt h
  rw [hset line hline, values_set, if_pos hauth]

theorem values_headersFor (h : client.headersFor a = .ok sent) (hname : client.headers.has name)
    (hauth : a.credentials? = none ∨ ¬ isSame "Authorization" name) :
    sent.values name = client.headers.values name := by
  obtain ⟨base, hbase, hsame, hset⟩ := exists_headersAt h
  rw [← values_headersAt hbase hname]
  cases hline : a.credentials? with
  | none => rw [hsame hline]
  | some line =>
    rw [hset line hline, values_set, if_neg (hauth.resolve_left (by rw [hline]; nofun))]

/-- The headers of a request for an address can be made if the client names the host, or the name of
the host can be read. -/
theorem exists_headersFor_iff : (∃ sent, client.headersFor a = .ok sent) ↔
    client.headers.has "Host" ∨ ∃ host, shownHost client.names a = .ok host := by
  have hfor : (∃ sent, client.headersFor a = .ok sent) ↔ ∃ base, client.headersAt a = .ok base :=
    ⟨fun ⟨_, h⟩ => (exists_headersAt h).imp fun _ hbase => hbase.1,
      fun ⟨base, hbase⟩ => ⟨_, bind_eq_ok_iff.mpr ⟨base, hbase, rfl⟩⟩⟩
  rw [hfor]
  unfold headersAt
  cases hhost : client.headers.has "Host" with
  | true => exact iff_of_true ⟨_, if_pos rfl⟩ (.inl rfl)
  | false =>
    rw [if_neg Bool.false_ne_true]
    constructor
    · rintro ⟨base, h⟩
      obtain ⟨host, hshown, -⟩ := bind_eq_ok_iff.mp h
      exact .inr ⟨host, hshown⟩
    · intro h
      obtain ⟨host, hshown⟩ := h.resolve_left Bool.false_ne_true
      exact ⟨_, bind_eq_ok_iff.mpr ⟨host, hshown, rfl⟩⟩

/-- A fetch begins with a request for its address. -/
theorem exists_ask_eq (client : Client) (site : Site) (traffic : Traffic) (o : Outgoing) :
    ∃ rest, (client.ask site traffic o).1 = traffic ++ o.request :: rest := by
  obtain ⟨last, result, hchain, hends⟩ := exists_last client site (o.opening traffic)
  obtain ⟨rest, hrest⟩ := arrived_prefix hchain
  refine ⟨rest, ?_⟩
  rw [ask_of_ends hchain hends, ← hrest, Sending.arrived, List.append_assoc]
  rfl

end Client

end Requests

/-! ## What is carried -/

/-- What a request carries of the headers that a caller gives, under some settings and for an address
that may have credentials of its own. -/
structure Carries (settings : Settings) (given : Headers) (credentials : Option String)
    (sent : Headers) : Prop where
  /-- A header of the caller carries just the caller's value, unless it is `User-Agent` in other
  letters, or the address has other credentials. -/
  given_iff {name value : String} : (name, value) ∈ given →
    (sent.values name = [value] ↔
      (isSame name "User-Agent" → name = "User-Agent") ∧
        ∀ line, credentials = some line → isSame name "Authorization" → value = line)
  /-- The name from the settings comes first, unless the caller names `User-Agent` in these letters. -/
  userAgent : sent.values "User-Agent" =
    (if "User-Agent" ∈ given.map Prod.fst then [] else [settings.userAgent]) ++
      given.values "User-Agent"
  /-- The credentials of the address stand alone. -/
  authorization {line : String} : credentials = some line → sent.values "Authorization" = [line]

section Carried

variable {settings : Settings} {options : Options} {client : Client} {a : Address} {name : String}
  {sent : Headers}

theorem has_headersUnder (h : options.headers.Apart)
    (hname : options.headers.has name ∨ isSame "User-Agent" name) :
    (options.headersUnder settings).has name := by
  rw [has_iff_values, Options.values_headersUnder h]
  by_cases hgiven : options.headers.has name
  · split
    · exact List.cons_ne_nil _ _
    · exact has_iff_values.mp hgiven
  · have hagent := hname.resolve_left hgiven
    have hnone : "User-Agent" ∉ options.headers.map Prod.fst := fun hmem => by
      obtain ⟨line, hline, hline'⟩ := List.mem_map.mp hmem
      exact hgiven (has_iff.mpr ⟨line, hline, by rwa [hline']⟩)
    rw [if_pos ⟨hagent, hnone⟩]
    exact List.cons_ne_nil _ _

/-- Nothing comes in between for what the caller gives, but the credentials of the address. -/
theorem values_sent (h : options.headers.Apart)
    (hclient : client.headers = Client.standardHeaders.merge (options.headersUnder settings))
    (hsent : client.headersFor a = .ok sent)
    (hname : options.headers.has name ∨ isSame "User-Agent" name)
    (hauth : a.credentials? = none ∨ ¬ isSame "Authorization" name) :
    sent.values name = (options.headersUnder settings).values name := by
  have hhas : (options.headersUnder settings).has name := has_headersUnder h hname
  have hvalues : client.headers.values name = (options.headersUnder settings).values name := by
    rw [hclient, values_merge, if_pos hhas]
  have hhas' : client.headers.has name := by
    rw [has_iff_values, hvalues]
    exact has_iff_values.mp hhas
  rw [Client.values_headersFor hsent hhas' hauth, hvalues]

theorem carries_headersFor (h : options.headers.Apart)
    (hclient : client.headers = Client.standardHeaders.merge (options.headersUnder settings))
    (hsent : client.headersFor a = .ok sent) :
    Carries settings options.headers a.credentials? sent where
  given_iff := by
    intro name value hmem
    have hhas : options.headers.has name := has_iff.mpr ⟨_, hmem, isSame_refl name⟩
    by_cases hreplaced : ∃ line, a.credentials? = some line ∧ isSame "Authorization" name
    · obtain ⟨line, hline, hauth⟩ := hreplaced
      rw [Client.values_headersFor_of_credentials hsent hline hauth]
      constructor
      · rintro ⟨⟩
        refine ⟨fun hagent => absurd (isSame_trans hauth hagent) (by decide), ?_⟩
        rintro line' hline' -
        exact Option.some.inj (hline.symm.trans hline')
      · rintro ⟨-, hvalue⟩
        rw [hvalue line hline (isSame_symm hauth)]
    · have hauth : a.credentials? = none ∨ ¬ isSame "Authorization" name := by
        refine or_iff_not_imp_left.mpr fun hsome hauth => hreplaced ?_
        obtain ⟨line, hline⟩ := Option.ne_none_iff_exists'.mp hsome
        exact ⟨line, hline, hauth⟩
      have hvalue : ∀ line, a.credentials? = some line → isSame name "Authorization" →
          value = line := fun line hline hsame =>
        absurd ⟨line, hline, isSame_symm hsame⟩ hreplaced
      rw [values_sent h hclient hsent (.inl hhas) hauth, and_iff_left hvalue]
      exact Options.values_headersUnder_iff h hmem
  userAgent := by
    rw [values_sent h hclient hsent (.inr (isSame_refl _)) (.inr (by decide)),
      Options.values_headersUnder h]
    by_cases hmem : "User-Agent" ∈ options.headers.map Prod.fst
    · rw [if_neg fun hkept => hkept.2 hmem, if_pos hmem, List.nil_append]
    · rw [if_pos ⟨isSame_refl _, hmem⟩, if_neg hmem, List.singleton_append]
  authorization := by
    intro line hline
    exact Client.values_headersFor_of_credentials hsent hline (isSame_refl _)

end Carried

/-! ## Fetches -/

/-- A fetch under some settings gets as far as to request an address. -/
structure Asks (settings : Settings) (options : Options) (url : String) (a : Address) : Prop where
  isAbsolute : Url.isAbsolute url = .ok true
  address : Address.ofText options.names url = .ok a
  isAscii : (options.headersUnder settings).IsAscii
  /-- The name of the host can be read, or the caller says what to call it. -/
  host : (options.headersUnder settings).has "Host" ∨ ∃ host, shownHost options.names a = .ok host

section Fetches

variable {settings : Settings} {options : Options} {client : Client} {site : Site}
  {floor : Log.Floor} {traffic : Traffic} {url : String} {a : Address} {e : Error}

theorem fetchWithoutClient_fst : (fetchWithoutClient e traffic url).1 = traffic := by
  unfold fetchWithoutClient ifAbsolute
  split <;> rfl

theorem has_host_merge (headers : Headers) :
    (Client.standardHeaders.merge headers).has "Host" = headers.has "Host" := by
  have hstandard : Client.standardHeaders.values "Host" = [] := by decide
  refine Bool.eq_iff_iff.mpr ?_
  rw [has_iff_values, has_iff_values, values_merge]
  split
  next => rfl
  next hno =>
    rw [hstandard]
    exact iff_of_false (not_not.mpr rfl) fun h => hno (has_iff_values.mpr h)

/-- The client of a fetcher makes a request for just the addresses that are asked for. -/
theorem exists_prepare_iff
    (hclient : client.headers = Client.standardHeaders.merge (options.headersUnder settings))
    (hnames : client.names = options.names) (habs : Url.isAbsolute url = .ok true)
    (hascii : (options.headersUnder settings).IsAscii) :
    (∃ sent, client.prepare url = .ok ⟨sent, a⟩) ↔ Asks settings options url a := by
  have hhost : client.headers.has "Host" = (options.headersUnder settings).has "Host" := by
    rw [hclient, has_host_merge]
  simp only [Client.prepare_eq_ok_iff, exists_and_left, Client.exists_headersFor_iff, hhost, hnames]
  exact ⟨fun h => ⟨habs, h.1, hascii, h.2⟩, fun h => ⟨h.address, h.host⟩⟩

theorem fetcher_of_not_asks (hshared : options.sharedClient = false)
    (h : ∀ a, ¬ Asks settings options url a) :
    ((Access.client options).fetcher site settings floor traffic url).1 = traffic := by
  rw [Access.fetcher]
  by_cases hascii : (options.headersUnder settings).IsAscii
  · obtain ⟨client, hclient, hheaders, hnames⟩ := Client.ofOptions_of_isAscii hshared hascii
    rw [hclient]
    dsimp only
    rw [Client.fetch_eq]
    cases habs : Url.isAbsolute url with
    | error fault => rw [Client.attempt_of_fault habs]
    | ok absolute =>
    cases absolute with
    | false => rw [Client.attempt_of_not_absolute habs]
    | true =>
    cases ho : client.prepare url with
    | error e => rw [Client.attempt_of_unprepared habs ho]
    | ok o => exact absurd ((exists_prepare_iff hheaders hnames habs hascii).mp ⟨_, ho⟩) (h _)
  · obtain ⟨e, herror⟩ := Client.ofOptions_of_not_isAscii hshared hascii
    rw [herror]
    exact fetchWithoutClient_fst

end Fetches

/-- **The first request of a fetch carries what the caller gave.** No two names of the caller mean the
same header. Where a fetch comes to a request, each header of the caller carries just its value, unless
it is `User-Agent` in other letters or the address has other credentials. The name from the settings is
sent unless the caller names `User-Agent` in just these letters. A fetch that does not come to a request
leaves nothing at the site. -/
theorem fetch_carries_given_headers {options : Options} (hshared : options.sharedClient = false)
    (hapart : options.headers.Apart) (settings : Settings) (site : Site) (floor : Log.Floor)
    (traffic : Traffic) (url : String) :
    (∀ a, Asks settings options url a → ∃ first rest,
      ((Access.client options).fetcher site settings floor traffic url).1 =
        traffic ++ first :: rest ∧
      first.url = a.render ∧
      Carries settings options.headers a.credentials? first.headers) ∧
    ((∀ a, ¬ Asks settings options url a) →
      ((Access.client options).fetcher site settings floor traffic url).1 = traffic) := by
  refine ⟨fun a hasks => ?_, fetcher_of_not_asks hshared⟩
  obtain ⟨client, hclient, hheaders, hnames⟩ := Client.ofOptions_of_isAscii hshared hasks.isAscii
  obtain ⟨sent, ho⟩ :=
    (exists_prepare_iff hheaders hnames hasks.isAbsolute hasks.isAscii).mpr hasks
  obtain ⟨rest, hrest⟩ := client.exists_ask_eq site traffic ⟨sent, a⟩
  refine ⟨⟨a.render, sent⟩, rest, ?_, rfl,
    carries_headersFor hapart hheaders (Client.prepare_eq_ok_iff.mp ho).2⟩
  rw [Access.fetcher, hclient]
  dsimp only
  rw [Client.fetch_eq, Client.attempt_of_prepared hasks.isAbsolute ho, hrest]
  rfl

/-- A caller with a name, a header and credentials of their own, all in small letters. -/
def smallLetters : Options where
  headers := [("user-agent", "mine"), ("x-test", "1"), ("authorization", "token")]

/-- Settings with a short name. -/
def shortName : Settings where
  userAgent := "ours"

/-- The address of `/a` with credentials. -/
def credentialed : Address := { Client.addressOf "/a" with user := "u:p".toList }

/-- Of the three headers only the second carries what the caller gave and nothing else. Nothing is
requested for a relative address. -/
theorem fetch_carries_given_headers_small_letters :
    (∃ first rest, ((Access.client smallLetters).fetcher {} shortName 0 [] "http://u:p@s/a").1 =
        first :: rest ∧
      first.url = "http://u:p@s/a" ∧
      first.headers.values "user-agent" = ["ours", "mine"] ∧
      first.headers.values "x-test" = ["1"] ∧
      first.headers.values "authorization" = ["Basic dTpw"]) ∧
    ((Access.client smallLetters).fetcher {} shortName 0 [] "a").1 = [] := by
  have happart : smallLetters.headers.Apart := by
    unfold Headers.Apart
    decide
  have haddress : Address.ofText smallLetters.names "http://u:p@s/a" = .ok credentialed := by
    have hread : Address.read .standard "http://u:p@s/a" = .ok credentialed := by decide +kernel
    change (Address.read .standard "http://u:p@s/a" >>= _) = _
    rw [hread]
    rfl
  have hasks : Asks shortName smallLetters "http://u:p@s/a" credentialed :=
    ⟨rfl, haddress, check_eq_ok_iff.mp rfl, .inr ⟨['s'], rfl⟩⟩
  have hcredentials : credentialed.credentials? = some "Basic dTpw" := rfl
  constructor
  · obtain ⟨first, rest, hfirst, hurl, hcarries⟩ :=
      (fetch_carries_given_headers rfl happart shortName {} 0 [] "http://u:p@s/a").1 _ hasks
    have hagent : isSame "user-agent" "User-Agent" := by decide
    have hauth : isSame "authorization" "Authorization" := by decide
    refine ⟨first, rest, hfirst, hurl, ?_, ?_, ?_⟩
    · rw [values_congr hagent, hcarries.userAgent]
      rfl
    · have hmem : ("x-test", "1") ∈ smallLetters.headers := by decide
      exact (hcarries.given_iff hmem).mpr
        ⟨fun h => absurd h (by decide), fun _ _ h => absurd h (by decide)⟩
    · rw [values_congr hauth, hcarries.authorization hcredentials]
  · refine (fetch_carries_given_headers rfl happart shortName {} 0 [] "a").2 fun a hasks' => ?_
    have habs : Url.isAbsolute "a" = .ok false := rfl
    have habs' := hasks'.isAbsolute
    rw [habs] at habs'
    cases habs'

end Gleaner.Http
