import Gleaner.Proofs.Normalize.LinkBase
import Gleaner.Proofs.Url.Blanks

/-! # Links normalized again

A link is trimmed first and loses its fragment and its tracking parameters last. So what comes out can be
empty or end in a blank, which a second pass takes for nothing or trims off; and at a base URL a link with
two slashes and no host can come out as a path, which a second pass joins. Every other link is left as it
is by a second pass (`LinkRule.normalize_again_iff`).

That a link with blanks at its ends changes is a matter of counting: taking it apart and rendering it adds
no blanks, so those that are trimmed off do not come back. -/

namespace Gleaner.Normalize

open Text (isBlank)
open Url (IsBase IsRooted IsWeb Parts checkLocation fullPath isAbsolute isKept locationOf partsOf
  schemeOf split)

theorem dropTrackingParams_idem (query : List Char) :
    dropTrackingParams (dropTrackingParams query) = dropTrackingParams query := by
  have hread : Url.readQuery (dropTrackingParams query) =
      (Url.readQuery query).filter fun x => ¬ IsTracking x.1 := by
    rw [LinkRule.dropTrackingParams_eq,
      Url.readQuery_renderQuery ((Url.isTable_readQuery query).filter _)]
  rw [LinkRule.dropTrackingParams_eq (dropTrackingParams query), hread, List.filter_filter,
    LinkRule.dropTrackingParams_eq]
  simp only [Bool.and_self]

namespace LinkRule

/-- A link that a rule leaves as it is: it has no blanks at its ends, and nothing that a base URL could
give it. -/
structure IsFixed (rule : LinkRule) (u : List Char) : Prop where
  nonempty : u ≠ []
  trimmed : Text.trim u = u
  anchored : ∀ b ∈ rule.base, b ≠ "" → schemeOf u [] ≠ [] ∨ ['/', '/'] <+: u

variable {rule : LinkRule} {s t u : List Char} {v w : Value} {p : Parts}

/-! ## One pass -/

theorem apply_eq_ok_iff : rule.apply s = .ok u ↔
    ∃ t p, rule.located s = .ok t ∧ split t = .ok p ∧ (rule.stripped p).render = u := by
  rw [apply_eq]
  refine (bind_eq_ok_iff (x := rule.located s)).trans ?_
  constructor
  · rintro ⟨t, ht, hrender⟩
    obtain ⟨p, hp, rfl⟩ := map_eq_ok_iff.mp hrender
    exact ⟨t, p, ht, hp, rfl⟩
  · rintro ⟨t, p, ht, hp, rfl⟩
    exact ⟨t, ht, map_eq_ok_iff.mpr ⟨p, hp, rfl⟩⟩

theorem normalize_cases (h : rule.normalize v = .ok w) : w = .none ∨
    ∃ s u, s ≠ [] ∧ rule.apply s = .ok u ∧ w = .str (.ofList u) := by
  unfold normalize at h
  split at h
  · exact .inl (Except.ok.inj h).symm
  dsimp only at h
  split at h
  · exact .inl (Except.ok.inj h).symm
  next hne =>
  split at h
  next u happly => exact .inr ⟨_, u, hne, happly, (Except.ok.inj h).symm⟩
  next => cases h

theorem normalize_str_iff : rule.normalize (.str (.ofList s)) = .ok (.str (.ofList u)) ↔
    Text.trim s ≠ [] ∧ rule.apply (Text.trim s) = .ok u := by
  unfold normalize
  rw [if_neg (by exact Bool.false_ne_true), Value.display, String.toList_ofList]
  dsimp only
  split
  next hnil => simp [hnil]
  next hne =>
    split
    next x happly => simp [hne, happly, String.ofList_inj]
    next fault happly => simp [happly]

theorem located_spec (hbase : IsBase rule.base) (hne : s ≠ []) (ht : rule.located s = .ok t)
    (hp : split t = .ok p) : rule.Located s t := by
  have hcheck : checkLocation (locationOf s) = .ok () := by
    by_cases hstays : rule.located s = .ok s
    · obtain rfl := Except.ok.inj (ht.symm.trans hstays)
      exact (Url.split_eq_ok_iff.mp hp).1
    obtain ⟨b, hb, hbne⟩ : ∃ b ∈ rule.base, b ≠ "" := by
      by_contra hnone
      exact hstays (located_of_no_base (by simpa using hnone) s)
    have hlooks : looksAbsolute s = false := by
      rw [← Bool.not_eq_true]
      exact fun hlooks => hstays (located_of_looksAbsolute rule hlooks)
    have hsplit := Url.split_of_isAbsolute ((hbase b hb).resolve_left hbne)
    rw [located_eq_join hb hbne hlooks,
      Url.join_eq (fun h => hbne (String.toList_eq_nil_iff.mp h)) hne hsplit, map_eq_ok_iff] at ht
    obtain ⟨r, hr, -⟩ := ht
    exact (Url.split_eq_ok_iff.mp hr).1
  obtain ⟨t', ht', hleads, -⟩ := exists_located hbase hne hcheck
  obtain rfl := Except.ok.inj (ht.symm.trans ht')
  exact hleads

theorem schemeOf_render (rule : LinkRule) (hp : split t = .ok p) :
    schemeOf (rule.stripped p).render [] = schemeOf t [] := by
  rw [(valid_stripped rule (Url.valid_of_split hp)).read_render.1]
  obtain ⟨-, rfl⟩ := Url.split_eq_ok_iff.mp hp
  rfl

theorem stripped_settled (rule : LinkRule) (p : Parts) :
    rule.stripped (rule.stripped p).settled = (rule.stripped p).settled := by
  have hquery : (if rule.dropTracking then dropTrackingParams (rule.stripped p).settled.query
      else (rule.stripped p).settled.query) = (rule.stripped p).settled.query := by
    split
    next hdrop =>
      rw [Parts.query_settled, stripped]
      dsimp only
      rw [if_pos hdrop, dropTrackingParams_idem]
    next => rfl
  have hfragment : (if rule.dropFragment then [] else (rule.stripped p).settled.fragment) =
      (rule.stripped p).settled.fragment := by
    split
    next hdrop =>
      rw [Parts.fragment_settled, stripped]
      exact (if_pos hdrop).symm
    next => rfl
  rw [stripped, hquery, hfragment]

/-- Nothing that is left out or encoded adds a blank. -/
theorem countP_render_le (rule : LinkRule) (hp : split t = .ok p) :
    (rule.stripped p).render.countP isBlank ≤ t.countP isBlank := by
  obtain ⟨-, rfl⟩ := Url.split_eq_ok_iff.mp hp
  have hquery : (rule.stripped (partsOf t [])).query.countP isBlank ≤
      (partsOf t []).query.countP isBlank := by
    unfold stripped
    dsimp only
    split
    · have hnone : (dropTrackingParams (partsOf t []).query).countP isBlank = 0 := by
        rw [List.countP_eq_zero]
        intro c hc
        rw [Url.isBlank_of_mem_renderQuery hc]
        exact Bool.false_ne_true
      rw [hnone]
      exact Nat.zero_le _
    · exact le_rfl
  have hfragment : (rule.stripped (partsOf t [])).fragment.countP isBlank ≤
      (partsOf t []).fragment.countP isBlank := by
    unfold stripped
    dsimp only
    split
    · exact Nat.zero_le _
    · exact le_rfl
  have hle := Url.blanks_partsOf_le t
  rw [Url.countP_render]
  unfold Parts.blanks at hle ⊢
  change (partsOf t []).scheme.countP isBlank + (partsOf t []).netloc.countP isBlank +
    (partsOf t []).path.countP isBlank + (partsOf t []).params.countP isBlank + _ + _ ≤ _
  omega

/-! ## Slashes and schemes in front -/

theorem schemeOf_of_web {scheme : List Char} (hweb : IsWeb scheme)
    (h : scheme ++ [':', '/', '/'] <+: s) : schemeOf s [] = scheme := by
  obtain ⟨rest, rfl⟩ := h
  have hclean : Url.clean (scheme ++ ':' :: '/' :: '/' :: ([] ++ rest)) =
      scheme ++ ':' :: '/' :: '/' :: ([] ++ rest.filter Url.isKept) :=
    Url.clean_web hweb fun c hc => absurd hc List.not_mem_nil
  have htake : Url.takeScheme? (Url.clean (scheme ++ [':', '/', '/'] ++ rest)) =
      some (scheme, '/' :: '/' :: rest.filter Url.isKept) := by
    rw [List.append_assoc]
    exact (congrArg Url.takeScheme? hclean).trans (Url.takeScheme?_web hweb _)
  rw [schemeOf, htake]

/-- At a base URL only a link with two slashes is left without a scheme. -/
theorem Located.slashes (h : rule.Located s t) {b : String} (hb : b ∈ rule.base) (hne : b ≠ "")
    (hscheme : schemeOf t [] = []) : t = s ∧ ['/', '/'] <+: s := by
  cases h with
  | stays hwhy =>
    refine ⟨rfl, ?_⟩
    rcases hwhy b hb hne with hlooks | hother
    · rcases looksAbsolute_iff.mp hlooks with hhttp | hhttps | hslashes
      · rw [schemeOf_of_web (.inl rfl) hhttp] at hscheme
        cases hscheme
      · rw [schemeOf_of_web (.inr rfl) hhttps] at hscheme
        cases hscheme
      · exact hslashes
    · exact absurd (Url.schemeOf_of_bare hscheme _) hother
  | joined _ habs _ _ _ hread _ =>
    obtain ⟨-, hweb, -⟩ := Url.isAbsolute_eq_true_iff.mp habs
    rw [← hread, hscheme] at hweb
    exact absurd hweb (by decide)

theorem isRooted_of_slashes {url : List Char} (h : ['/', '/'] <+: url)
    (hscheme : schemeOf url [] = []) : IsRooted (fullPath url) := by
  rcases Url.fullPath_cases url with hrooted | ⟨-, hfirst⟩
  · exact hrooted
  · rw [(Url.behindScheme_of_schemeOf hscheme).2] at hfirst
    obtain ⟨rest, rfl⟩ := h
    refine IsRooted.mono ?_ hfirst
    exact Url.isRooted_of_slashes ⟨rest.filter isKept, rfl⟩

/-- What such a link comes out as does not begin with a blank. -/
theorem isBlank_head_render (rule : LinkRule) (h : ['/', '/'] <+: t) (hp : split t = .ok p)
    (hscheme : schemeOf t [] = []) {c : Char} (hc : c ∈ (rule.stripped p).render.head?) :
    isBlank c = false := by
  have hvalid := valid_stripped rule (Url.valid_of_split hp)
  obtain ⟨-, rfl⟩ := Url.split_eq_ok_iff.mp hp
  have hrooted : IsRooted (rule.stripped (partsOf t [])).fullPath :=
    (isRooted_of_slashes h hscheme).mono (Url.fullPath_partsOf t)
  have hends := hvalid.head_render hscheme hrooted hc
  simp only [Url.endsNetloc, Bool.or_eq_true, decide_eq_true_eq] at hends
  rcases hends with (rfl | rfl) | rfl <;> rfl

theorem isBlank_of_mem_slashes {c : Char} (hc : c ∈ ['/', '/']) : isBlank c = false := by
  obtain rfl := List.eq_of_mem_replicate (n := 2) hc
  rfl

theorem isBlank_of_mem_front (h : Url.IsScheme s) {c : Char} (hc : c ∈ s ++ [':', '/', '/']) :
    isBlank c = false := by
  rcases List.mem_append.mp hc with hc | hc
  · exact Url.isBlank_of_isSchemeChar (h.chars c hc)
  · rcases List.mem_cons.mp hc with rfl | hc
    · rfl
    · exact isBlank_of_mem_slashes hc

/-- Trimming leaves the scheme of a rendered link as it is. -/
theorem schemeOf_trim_render (hvalid : p.Valid) (hne : p.scheme ≠ []) (base : List Char) :
    schemeOf (Text.trim p.render) base = p.scheme := by
  have hscheme := hvalid.scheme.resolve_left hne
  have hblank : ∀ c ∈ p.scheme ++ [':'], isBlank c = false := by
    intro c hc
    apply isBlank_of_mem_front hscheme
    rw [List.append_cons]
    exact List.mem_append_left _ hc
  obtain ⟨rest, hrest⟩ := Text.prefix_trim (hvalid.scheme_prefix_render hne) hblank
  have hkept : ∀ c ∈ rest, isKept c = true := by
    intro c hc
    apply hvalid.isKept_render
    apply (Text.trim_sublist p.render).subset
    rw [← hrest]
    exact List.mem_append_right _ hc
  rw [← hrest, List.append_assoc, List.singleton_append, schemeOf,
    hscheme.takeScheme?_clean hkept]

/-- A link with a scheme or two slashes in front is not joined when it is trimmed. -/
theorem Located.eq_trim (h : rule.Located (Text.trim p.render) t) (hvalid : p.Valid)
    (hanchored : ∀ b ∈ rule.base, b ≠ "" → schemeOf p.render [] ≠ [] ∨ ['/', '/'] <+: p.render) :
    t = Text.trim p.render := by
  cases h with
  | stays => rfl
  | @joined b _ hb habs hlooks hscheme _ _ _ =>
    obtain ⟨-, hweb, -⟩ := Url.isAbsolute_eq_true_iff.mp habs
    have hne : b ≠ "" := by
      rintro rfl
      cases habs
    rw [← Bool.not_eq_true, looksAbsolute_iff] at hlooks
    exfalso
    apply hlooks
    rcases hanchored b hb hne with hown | hslashes
    · rw [hvalid.read_render.1] at hown
      rw [← hscheme, schemeOf_trim_render hvalid hown] at hweb
      obtain ⟨rest, hrender, -⟩ := Url.render_of_isWeb hweb
      have hfront : p.scheme ++ [':', '/', '/'] <+: p.render := by
        rw [hrender]
        exact ⟨p.netloc ++ rest, by simp⟩
      have htrim := Text.prefix_trim hfront fun _ hc =>
        isBlank_of_mem_front (hvalid.scheme.resolve_left hown) hc
      rcases hweb with hhttp | hhttps
      · rw [hhttp] at htrim
        exact .inl htrim
      · rw [hhttps] at htrim
        exact .inr (.inl htrim)
    · exact .inr (.inr (Text.prefix_trim hslashes fun _ hc => isBlank_of_mem_slashes hc))

/-! ## Two passes -/

/-- A link that came out of a pass and is fixed comes out of the next one. -/
theorem IsFixed.apply_eq_self (h : rule.IsFixed u) (hbase : IsBase rule.base)
    (hfirst : rule.apply s = .ok u) : rule.apply u = .ok u := by
  obtain ⟨t, p, -, hp, rfl⟩ := apply_eq_ok_iff.mp hfirst
  have hvalid := valid_stripped rule (Url.valid_of_split hp)
  have hsplit := hvalid.split_render
  obtain ⟨t', hlocated, hleads, -⟩ :=
    exists_located hbase h.nonempty (Url.split_eq_ok_iff.mp hsplit).1
  have hsame : t' = Text.trim (rule.stripped p).render := by
    rw [← h.trimmed] at hleads
    exact hleads.eq_trim hvalid h.anchored
  rw [h.trimmed] at hsame
  rw [hsame] at hlocated
  refine apply_eq_ok_iff.mpr ⟨_, _, hlocated, hsplit, ?_⟩
  rw [stripped_settled, Parts.render_settled]

/-- A link that comes out of two passes alike is fixed. -/
theorem isFixed_of_apply (hbase : IsBase rule.base) (hs : s ≠ []) (hfirst : rule.apply s = .ok u)
    (hne : Text.trim u ≠ []) (hagain : rule.apply (Text.trim u) = .ok u) : rule.IsFixed u := by
  obtain ⟨t, p, ht, hp, hu⟩ := apply_eq_ok_iff.mp hfirst
  obtain ⟨t', p', ht', hp', hu'⟩ := apply_eq_ok_iff.mp hagain
  have hleads := located_spec hbase hs ht hp
  have hleads' := located_spec hbase hne ht' hp'
  have hanchored : ∀ b ∈ rule.base, b ≠ "" → schemeOf u [] ≠ [] ∨ ['/', '/'] <+: u := by
    intro b hb hbne
    rw [or_iff_not_imp_left, not_not]
    intro hscheme
    -- Without a scheme both passes have met a link with two slashes.
    have hscheme' := hscheme
    rw [← hu, schemeOf_render rule hp] at hscheme
    rw [← hu', schemeOf_render rule hp'] at hscheme'
    obtain ⟨rfl, hslashes⟩ := hleads.slashes hb hbne hscheme
    obtain ⟨-, hslashes'⟩ := hleads'.slashes hb hbne hscheme'
    refine hslashes'.trans (Text.trim_prefix_of_head fun c hc => ?_)
    rw [← hu] at hc
    exact isBlank_head_render rule hslashes hp hscheme hc
  refine ⟨?_, ?_, hanchored⟩
  · rintro rfl
    exact hne rfl
  · by_contra htrim
    have hsame : t' = Text.trim u := by
      rw [← hu] at hleads' hanchored ⊢
      exact hleads'.eq_trim (valid_stripped rule (Url.valid_of_split hp)) hanchored
    have hle := countP_render_le rule hp'
    have hlt := Text.countP_trim_lt htrim
    rw [hu', hsame] at hle
    omega

/-- **A normalized link is left as it is by a second pass just if it is not empty, has no blanks at its
ends, and has a scheme or two slashes in front when there is a base URL.** -/
theorem normalize_again_iff (hbase : IsBase rule.base) (h : rule.normalize v = .ok w) :
    rule.normalize w = .ok w ↔ w = .none ∨ ∃ u, w = .str (.ofList u) ∧ rule.IsFixed u := by
  rcases normalize_cases h with rfl | ⟨s, u, hs, happly, rfl⟩
  · exact iff_of_true rfl (.inl rfl)
  rw [normalize_str_iff]
  constructor
  · rintro ⟨hne, hagain⟩
    exact .inr ⟨u, rfl, isFixed_of_apply hbase hs happly hne hagain⟩
  · rintro (hnone | ⟨u', hu', hfixed⟩)
    · cases hnone
    · rw [Value.str.injEq, String.ofList_inj] at hu'
      subst hu'
      rw [hfixed.trimmed]
      exact ⟨hfixed.nonempty, hfixed.apply_eq_self hbase happly⟩

/-- A fragment behind a blank, a fragment alone, and slashes without a host. -/
theorem normalize_again_iff_three_ways :
    IsBase (some "https://shop.test/list/") ∧
    ({ base := some "https://shop.test/list/" } : LinkRule).normalize (.str "///a#top") =
      .ok (.str "/a") ∧
    ({ base := some "https://shop.test/list/" } : LinkRule).normalize (.str "/a") ≠ .ok (.str "/a") ∧
    IsBase none ∧
    ({} : LinkRule).normalize (.str "https://shop.test/a #top") = .ok (.str "https://shop.test/a ") ∧
    ({} : LinkRule).normalize (.str "https://shop.test/a ") ≠ .ok (.str "https://shop.test/a ") ∧
    ({} : LinkRule).normalize (.str "#top") = .ok (.str "") ∧
    ({} : LinkRule).normalize (.str "") ≠ .ok (.str "") := by
  have hbase : IsBase (some "https://shop.test/list/") := by
    rintro _ ⟨⟩
    exact .inr rfl
  have hnone : IsBase none := nofun
  have hslashes : ({ base := some "https://shop.test/list/" } : LinkRule).normalize
      (.str "///a#top") = .ok (.str "/a") := rfl
  have hblank : ({} : LinkRule).normalize (.str "https://shop.test/a #top") =
      .ok (.str "https://shop.test/a ") := rfl
  have hempty : ({} : LinkRule).normalize (.str "#top") = .ok (.str "") := rfl
  refine ⟨hbase, hslashes, fun hagain => ?_, hnone, hblank, fun hagain => ?_, hempty,
    fun hagain => ?_⟩
  · rcases (normalize_again_iff hbase hslashes).mp hagain with hw | ⟨u, hu, hfixed⟩
    · cases hw
    · obtain rfl : u = "/a".toList := by rw [Value.str.inj hu, String.toList_ofList]
      exact absurd (hfixed.anchored _ rfl (by decide)) (by decide)
  · rcases (normalize_again_iff hnone hblank).mp hagain with hw | ⟨u, hu, hfixed⟩
    · cases hw
    · obtain rfl : u = "https://shop.test/a ".toList := by
        rw [Value.str.inj hu, String.toList_ofList]
      exact absurd hfixed.trimmed (by decide)
  · rcases (normalize_again_iff hnone hempty).mp hagain with hw | ⟨u, hu, hfixed⟩
    · cases hw
    · obtain rfl : u = "".toList := by rw [Value.str.inj hu, String.toList_ofList]
      exact hfixed.nonempty rfl

end LinkRule

end Gleaner.Normalize
