import Gleaner.Http.Client
import Gleaner.Proofs.Traced
import Mathlib.Data.List.Pairwise
import Mathlib.Data.List.TakeWhile

/-! # Header lines

Names of headers are the same in capitals and small letters, so a header has the same values under
each of its names (`values_congr`). Here is what becomes of the values of a header when lines are put
together, and what the headers of a fetcher hold of those that a caller gave
(`Options.values_headersUnder`). -/

namespace Gleaner.Http

namespace Headers

variable {headers more : Headers} {a b c name value : String}

/-! ## Names -/

theorem isSame_iff : isSame a b = true ↔ a.toList.map Char.toLower = b.toList.map Char.toLower :=
  decide_eq_true_iff

theorem isSame_refl (a : String) : isSame a a = true := isSame_iff.mpr rfl

theorem isSame_symm (h : isSame a b = true) : isSame b a = true :=
  isSame_iff.mpr (isSame_iff.mp h).symm

theorem isSame_trans (h : isSame a b = true) (h' : isSame b c = true) : isSame a c = true :=
  isSame_iff.mpr ((isSame_iff.mp h).trans (isSame_iff.mp h'))

theorem isSame_congr (h : isSame a b = true) (c : String) : isSame c a = isSame c b :=
  Bool.eq_iff_iff.mpr ⟨fun hc => isSame_trans hc h, fun hc => isSame_trans hc (isSame_symm h)⟩

/-! ## Values -/

theorem values_congr (h : isSame a b = true) : headers.values a = headers.values b := by
  unfold values
  simp only [isSame_congr h]

theorem values_append : values (headers ++ more) name = headers.values name ++ more.values name := by
  simp only [values, List.filter_append, List.map_append]

theorem values_cons : values ((a, value) :: headers) name =
    if isSame a name then value :: headers.values name else headers.values name := by
  unfold values
  rw [List.filter_cons]
  split <;> rfl

theorem values_eq_nil_iff : headers.values name = [] ↔ ∀ line ∈ headers, ¬ isSame line.1 name := by
  simp only [values, List.map_eq_nil_iff, List.filter_eq_nil_iff]

theorem has_iff : headers.has name = true ↔ ∃ line ∈ headers, isSame line.1 name = true :=
  List.any_eq_true

theorem has_iff_values : headers.has name = true ↔ headers.values name ≠ [] := by
  rw [has_iff, Ne, values_eq_nil_iff]
  simp only [not_forall, not_not, exists_prop]

theorem has_congr (h : isSame a b = true) : headers.has a = headers.has b := by
  unfold has
  simp only [isSame_congr h]

theorem values_filter {p : String × String → Bool}
    (h : ∀ line ∈ headers, isSame line.1 name = true → p line = true) :
    values (headers.filter p) name = headers.values name := by
  unfold values
  rw [List.filter_filter, List.filter_congr]
  intro line hline
  cases hsame : isSame line.1 name with
  | false => rfl
  | true => exact h line hline hsame

theorem merge_eq : headers.merge more = headers.filter (!more.has ·.1) ++ more := rfl

theorem without_eq : headers.without a = headers.filter (!isSame ·.1 a) := rfl

/-- A header that the second lines have carries nothing else. -/
theorem values_merge : (headers.merge more).values name =
    if more.has name then more.values name else headers.values name := by
  rw [merge_eq, values_append]
  split
  next hhas =>
    have hnone : values (headers.filter (!more.has ·.1)) name = [] := by
      refine values_eq_nil_iff.mpr fun line hline hsame => ?_
      have hkept := (List.mem_filter.mp hline).2
      rw [has_congr hsame, hhas] at hkept
      cases hkept
    rw [hnone, List.nil_append]
  next hhas =>
    rw [not_ne_iff.mp (mt has_iff_values.mpr hhas), List.append_nil]
    refine values_filter fun line _ hsame => ?_
    rw [has_congr hsame, Bool.eq_false_iff.mpr hhas]
    rfl

theorem values_without (h : isSame a name = true) : (headers.without a).values name = [] := by
  rw [without_eq, values_eq_nil_iff]
  intro line hline hsame
  have hkept := (List.mem_filter.mp hline).2
  rw [isSame_congr h, hsame] at hkept
  cases hkept

theorem values_without_of_not (h : ¬ isSame a name) :
    (headers.without a).values name = headers.values name := by
  rw [without_eq]
  refine values_filter fun line _ hsame => ?_
  cases hother : isSame line.1 a with
  | false => rfl
  | true => exact absurd (isSame_trans (isSame_symm hother) hsame) h

/-- A header that is set carries the new value and nothing else. -/
theorem values_set : (headers.set a value).values name =
    if isSame a name then [value] else headers.values name := by
  induction headers with
  | nil =>
    rw [set, values_cons]
    rfl
  | cons line headers ih =>
    obtain ⟨k, v⟩ := line
    rw [set]
    cases hk : isSame k a with
    | true =>
      rw [if_pos rfl, values_cons, values_cons]
      split
      next hsame => rw [values_without hsame]
      next hsame =>
        have hother : ¬ isSame k name := fun h => hsame (isSame_trans (isSame_symm hk) h)
        rw [if_neg hother, values_without_of_not hsame]
    | false =>
      rw [if_neg Bool.false_ne_true, values_cons, values_cons, ih]
      by_cases hname : isSame a name
      · have hother : ¬ isSame k name := by
          intro h
          rw [isSame_trans h (isSame_symm hname)] at hk
          cases hk
        simp only [if_pos hname, if_neg hother]
      · simp only [if_neg hname]

/-! ## Names apart -/

/-- No two lines are of the same header. -/
def Apart (headers : Headers) : Prop :=
  headers.Pairwise fun x y => ¬ isSame x.1 y.1

theorem Apart.eq_of_isSame (h : headers.Apart) {x y : String × String} (hx : x ∈ headers)
    (hy : y ∈ headers) (hsame : isSame x.1 y.1 = true) : x = y := by
  by_contra hne
  have : Std.Symm fun x y : String × String => ¬ isSame x.1 y.1 :=
    ⟨fun _ _ h h' => h (isSame_symm h')⟩
  exact List.Pairwise.forall h hx hy hne hsame

theorem Apart.values_of_mem (h : headers.Apart) (hmem : (name, value) ∈ headers) :
    headers.values name = [value] := by
  obtain ⟨before, after, rfl⟩ := List.append_of_mem hmem
  obtain ⟨-, hafter, hbefore⟩ := List.pairwise_append.mp h
  obtain ⟨hafter, -⟩ := List.pairwise_cons.mp hafter
  have hnone : values before name = [] :=
    values_eq_nil_iff.mpr fun line hline => hbefore line hline _ List.mem_cons_self
  have hnone' : values after name = [] :=
    values_eq_nil_iff.mpr fun line hline hsame => hafter line hline (isSame_symm hsame)
  rw [values_append, values_cons, if_pos (isSame_refl name), hnone, hnone', List.nil_append]

theorem Apart.nodup (h : headers.Apart) : (headers.map Prod.fst).Nodup := by
  refine List.pairwise_map.mpr (h.imp ?_)
  rintro ⟨k, v⟩ ⟨k', v'⟩ hsame rfl
  exact hsame (isSame_refl k)

/-! ## Lines in ASCII -/

/-- All names and values are in ASCII. -/
def IsAscii (headers : Headers) : Prop :=
  ∀ line ∈ headers, (∀ c ∈ line.1.toList, c.val < 128) ∧ ∀ c ∈ line.2.toList, c.val < 128

theorem checkAscii_eq_ok_iff {text : String} :
    checkAscii text = .ok () ↔ ∀ c ∈ text.toList, c.val < 128 := by
  have hrest : text.toList.dropWhile (·.val < 128) = [] ↔ ∀ c ∈ text.toList, c.val < 128 := by
    simp only [List.dropWhile_eq_nil_iff, decide_eq_true_eq]
  unfold checkAscii
  dsimp only
  rw [← hrest]
  split
  next h => exact iff_of_true rfl h
  next h => exact iff_of_false nofun h

theorem checkAscii_eq_error {text : String} {e : Error} (h : checkAscii text = .error e) :
    ∃ run position, e = .notAscii run position := by
  unfold checkAscii at h
  dsimp only at h
  split at h
  · cases h
  · cases h
    exact ⟨_, _, rfl⟩

theorem check_eq_ok_iff : headers.check = .ok () ↔ headers.IsAscii := by
  induction headers with
  | nil => exact iff_of_true rfl nofun
  | cons line headers ih =>
    obtain ⟨k, v⟩ := line
    rw [check, IsAscii, List.forall_mem_cons, ← IsAscii, ← ih, ← checkAscii_eq_ok_iff,
      ← checkAscii_eq_ok_iff]
    simp only [bind_eq_ok_iff]
    constructor
    · rintro ⟨⟨⟩, hname, ⟨⟩, hvalue, h⟩
      exact ⟨⟨hname, hvalue⟩, h⟩
    · rintro ⟨⟨hname, hvalue⟩, h⟩
      exact ⟨(), hname, (), hvalue, h⟩

theorem check_eq_error {e : Error} (h : headers.check = .error e) :
    ∃ run position, e = .notAscii run position := by
  induction headers with
  | nil => cases h
  | cons line headers ih =>
    obtain ⟨k, v⟩ := line
    rcases bind_eq_error_iff.mp h with hname | ⟨-, -, h⟩
    · exact checkAscii_eq_error hname
    rcases bind_eq_error_iff.mp h with hvalue | ⟨-, -, h⟩
    · exact checkAscii_eq_error hvalue
    · exact ih h

end Headers

/-! ## The headers of a fetcher -/

open Headers

namespace Client

variable {k v n w : String} {headers more : Headers}

theorem override_of_new (h : n ∉ headers.map Prod.fst) :
    override headers ((n, w) :: more) = override (headers ++ [(n, w)]) more := by
  have hnone : ¬ headers.any (·.1 = n) := by
    simpa only [List.any_eq_true, decide_eq_true_eq, List.mem_map] using h
  exact congrArg (override · more) (if_neg hnone)

theorem override_of_first (h : k ∉ headers.map Prod.fst) :
    override ((k, v) :: headers) ((k, w) :: more) = override ((k, w) :: headers) more := by
  have hfirst : List.any ((k, v) :: headers) (·.1 = k) := by
    simp only [List.any_cons, decide_true, Bool.true_or]
  have hrest : headers.map (fun line => if line.1 = k then (k, w) else (line.1, line.2)) =
      headers := by
    refine (List.map_congr_left fun line hline => if_neg ?_).trans (List.map_id headers)
    rintro rfl
    exact h (List.mem_map_of_mem hline)
  calc override ((k, v) :: headers) ((k, w) :: more)
    _ = override (List.map (fun line => if line.1 = k then (k, w) else (line.1, line.2))
        ((k, v) :: headers)) more := congrArg (override · more) (if_pos hfirst)
    _ = override ((k, w) :: headers) more := by rw [List.map_cons, hrest, if_pos rfl]

/-- Lines with names of their own are put behind the first, and one of its name changes what it
says. -/
theorem override_cons (hmore : (more.map Prod.fst).Nodup) (hk : k ∉ headers.map Prod.fst)
    (hnot : ∀ line ∈ headers, line.1 ∉ more.map Prod.fst) :
    override ((k, v) :: headers) more =
      (k, (more.lookup k).getD v) :: (headers ++ more.filter (·.1 ≠ k)) := by
  induction more generalizing headers v with
  | nil => rw [List.filter_nil, List.append_nil]; rfl
  | cons line more ih =>
    obtain ⟨n, w⟩ := line
    obtain ⟨hn, hmore⟩ := List.nodup_cons.mp hmore
    have hnot' : ∀ line ∈ headers, line.1 ≠ n ∧ line.1 ∉ more.map Prod.fst := fun line hline =>
      not_or.mp fun h => hnot line hline (List.mem_cons.mpr h)
    by_cases hname : n = k
    · subst hname
      have hlookup : more.lookup n = none := by
        refine List.lookup_eq_none_iff.mpr fun line hline => bne_iff_ne.mpr ?_
        rintro rfl
        exact hn (List.mem_map.mpr ⟨line, hline, rfl⟩)
      rw [override_of_first hk, ih hmore hk fun line hline => (hnot' line hline).2, hlookup,
        List.lookup_cons_self, List.filter_cons_of_neg (by simp)]
      rfl
    · have hnew : n ∉ headers.map Prod.fst := fun h => by
        obtain ⟨line, hline, rfl⟩ := List.mem_map.mp h
        exact (hnot' line hline).1 rfl
      have hk' : k ∉ (headers ++ [(n, w)]).map Prod.fst := by
        rw [List.map_append, List.mem_append, List.map_singleton, List.mem_singleton]
        exact not_or.mpr ⟨hk, Ne.symm hname⟩
      have hnot'' : ∀ line ∈ headers ++ [(n, w)], line.1 ∉ more.map Prod.fst := by
        refine List.forall_mem_append.mpr ⟨fun line hline => (hnot' line hline).2, ?_⟩
        rintro line hline
        rwa [List.mem_singleton.mp hline]
      have hlookup : ((n, w) :: more).lookup k = more.lookup k := by
        rw [List.lookup_cons, beq_false_of_ne (Ne.symm hname)]
      have hfilter : ((n, w) :: more).filter (·.1 ≠ k) = (n, w) :: more.filter (·.1 ≠ k) :=
        List.filter_cons_of_pos (decide_eq_true hname)
      rw [override_of_new (List.not_mem_cons_of_ne_of_not_mem hname hnew), List.cons_append,
        ih hmore hk' hnot'', hlookup, hfilter, List.append_assoc]
      rfl

end Client

section Fetchers

variable {settings : Settings} {options : Options} {name value : String} {e : Error}

theorem Options.headersUnder_eq (h : options.headers.Apart) (settings : Settings) :
    options.headersUnder settings =
      ("User-Agent", (options.headers.lookup "User-Agent").getD settings.userAgent) ::
        options.headers.filter (·.1 ≠ "User-Agent") :=
  Client.override_cons h.nodup List.not_mem_nil nofun

/-- **What the caller chose stands alone**, but that the settings keep their name in front of it if
the caller does not write `User-Agent` in just this way. -/
theorem Options.values_headersUnder (h : options.headers.Apart) :
    (options.headersUnder settings).values name =
      if isSame "User-Agent" name ∧ "User-Agent" ∉ options.headers.map Prod.fst then
        settings.userAgent :: options.headers.values name
      else options.headers.values name := by
  rw [headersUnder_eq h, values_cons]
  cases hlookup : options.headers.lookup "User-Agent" with
  | none =>
    have hnone : "User-Agent" ∉ options.headers.map Prod.fst := fun hmem => by
      obtain ⟨line, hline, hname⟩ := List.mem_map.mp hmem
      exact bne_iff_ne.mp (List.lookup_eq_none_iff.mp hlookup line hline) hname.symm
    have hfilter : options.headers.filter (·.1 ≠ "User-Agent") = options.headers := by
      refine List.filter_eq_self.mpr fun line hline => decide_eq_true ?_
      exact fun hname => hnone (List.mem_map.mpr ⟨line, hline, hname⟩)
    simp only [hfilter, hnone, not_false_eq_true, and_true, Option.getD_none]
  | some v =>
    have hmem : ("User-Agent", v) ∈ options.headers := by
      obtain ⟨before, after, hheaders, -⟩ := List.lookup_eq_some_iff.mp hlookup
      rw [hheaders]
      exact List.mem_append_right before List.mem_cons_self
    have hgiven : ¬ (isSame "User-Agent" name ∧ "User-Agent" ∉ options.headers.map Prod.fst) :=
      fun hnot => hnot.2 (List.mem_map_of_mem hmem)
    rw [if_neg hgiven, Option.getD_some]
    split
    next hsame =>
      -- The caller's line is the only one of this header.
      have hnone : values (options.headers.filter (·.1 ≠ "User-Agent")) name = [] := by
        refine values_eq_nil_iff.mpr fun line hline hline' => ?_
        obtain ⟨hline, hother⟩ := List.mem_filter.mp hline
        have heq := h.eq_of_isSame hline hmem (isSame_trans hline' (isSame_symm hsame))
        rw [heq] at hother
        exact of_decide_eq_true hother rfl
      rw [hnone, ← values_congr hsame, h.values_of_mem hmem]
    next hsame =>
      refine values_filter fun line hline hline' => decide_eq_true fun hname => hsame ?_
      rwa [← hname]

theorem Options.values_headersUnder_iff (h : options.headers.Apart)
    (hmem : (name, value) ∈ options.headers) :
    (options.headersUnder settings).values name = [value] ↔
      (isSame name "User-Agent" → name = "User-Agent") := by
  rw [values_headersUnder h, h.values_of_mem hmem]
  split
  next hkept =>
    refine iff_of_false (by simp) fun hname => hkept.2 ?_
    exact List.mem_map.mpr ⟨_, hmem, hname (isSame_symm hkept.1)⟩
  next hkept =>
    refine iff_of_true rfl fun hagent => ?_
    -- The caller names `User-Agent` in these letters, and has no second line of that header.
    have hexact : "User-Agent" ∈ options.headers.map Prod.fst :=
      not_not.mp fun hnone => hkept ⟨isSame_symm hagent, hnone⟩
    obtain ⟨line, hline, hname⟩ := List.mem_map.mp hexact
    rw [← hname] at hagent ⊢
    rw [← h.eq_of_isSame hmem hline hagent]

namespace Client

theorem ofOptions_eq (hshared : options.sharedClient = false) : ofOptions settings options =
    (options.headersUnder settings).check >>= fun _ => .ok
      { headers := standardHeaders.merge (options.headersUnder settings)
        followRedirects := options.followRedirects.getD settings.followRedirects
        names := options.names } := by
  rw [ofOptions, hshared, if_neg Bool.false_ne_true]
  rfl

theorem ofOptions_of_isAscii (hshared : options.sharedClient = false)
    (h : (options.headersUnder settings).IsAscii) :
    ∃ client, ofOptions settings options = .ok client ∧
      client.headers = standardHeaders.merge (options.headersUnder settings) ∧
      client.names = options.names := by
  rw [ofOptions_eq hshared, check_eq_ok_iff.mpr h]
  exact ⟨_, rfl, rfl, rfl⟩

theorem ofOptions_of_not_isAscii (hshared : options.sharedClient = false)
    (h : ¬ (options.headersUnder settings).IsAscii) :
    ∃ e, ofOptions settings options = .error e := by
  rw [ofOptions_eq hshared]
  cases hcheck : (options.headersUnder settings).check with
  | ok => exact absurd (check_eq_ok_iff.mp hcheck) h
  | error e => exact ⟨e, rfl⟩

theorem ofOptions_eq_error (h : ofOptions settings options = .error e) :
    ∃ run position, e = .notAscii run position := by
  cases hshared : options.sharedClient with
  | true =>
    rw [ofOptions, hshared] at h
    cases h
  | false =>
  rw [ofOptions_eq hshared] at h
  rcases bind_eq_error_iff.mp h with hcheck | ⟨-, -, h⟩
  · exact check_eq_error hcheck
  · cases h

end Client

end Fetchers

end Gleaner.Http
