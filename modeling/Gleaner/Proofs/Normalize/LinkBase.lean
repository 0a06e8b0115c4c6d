import Gleaner.Proofs.Normalize.QueryParameters
import Gleaner.Proofs.Url.Hostless

/-! # Links at a base URL

A link is joined with an absolute base URL only if it does not look absolute, that is, begin with a web
scheme and slashes or with two slashes (`LinkRule.Located`). A link that looks absolute without being so
is not joined with anything, though a crawl would join it. That is the only case in which the link of a
crawl becomes absolute and the normalized link does not (`LinkRule.normalize_isAbsolute_iff`). -/

namespace Gleaner.Normalize

open Url (IsBase isAbsolute schemeOf locationOf checkLocation split Parts)

theorem looksAbsolute_iff {s : List Char} : looksAbsolute s = true ↔
    "http://".toList <+: s ∨ "https://".toList <+: s ∨ "//".toList <+: s := by
  simp [looksAbsolute, List.isPrefixOf_iff_prefix]

namespace LinkRule

variable {rule : LinkRule} {s t : List Char} {v : Value} {p : Parts}

/-- Where a link leads at the base URL of a rule. -/
inductive Located (rule : LinkRule) (s : List Char) : List Char → Prop
  | stays : (∀ b ∈ rule.base, b ≠ "" → looksAbsolute s = true ∨
      schemeOf s (schemeOf b.toList []) ≠ schemeOf b.toList []) → Located rule s s
  | joined {b : String} {t : List Char} : b ∈ rule.base → isAbsolute b = .ok true →
      looksAbsolute s = false → schemeOf s (schemeOf b.toList []) = schemeOf b.toList [] →
      Url.join b.toList s = .ok t → schemeOf t [] = schemeOf b.toList [] →
      locationOf t = (if locationOf s = [] then locationOf b.toList else locationOf s) →
      Located rule s t

theorem located_of_looksAbsolute (rule : LinkRule) (h : looksAbsolute s = true) :
    rule.located s = .ok s := by
  unfold located
  cases rule.base with
  | none => rfl
  | some b => exact if_neg fun hjoined => by simp [h] at hjoined

theorem located_eq_join {b : String} (hb : b ∈ rule.base) (hne : b ≠ "")
    (h : looksAbsolute s = false) : rule.located s = Url.join b.toList s := by
  unfold located
  rw [Option.mem_def.mp hb]
  exact if_pos ⟨hne, by rw [h]; rfl⟩

theorem located_of_no_base (h : ∀ b ∈ rule.base, b = "") (s : List Char) :
    rule.located s = .ok s := by
  unfold located
  cases hb : rule.base with
  | none => rfl
  | some b => exact if_neg fun hjoined => hjoined.1 (h b hb)

/-- At an absolute base URL, or at none, every link that can be taken apart leads somewhere. -/
theorem exists_located (hbase : IsBase rule.base) (hne : s ≠ [])
    (hcheck : checkLocation (locationOf s) = .ok ()) :
    ∃ t, rule.located s = .ok t ∧ rule.Located s t ∧ checkLocation (locationOf t) = .ok () := by
  cases hlooks : looksAbsolute s with
  | true => exact ⟨s, located_of_looksAbsolute rule hlooks, .stays fun _ _ _ => .inl hlooks, hcheck⟩
  | false =>
  by_cases hnone : ∀ b ∈ rule.base, b = ""
  · exact ⟨s, located_of_no_base hnone s, .stays fun b hb hb' => absurd (hnone b hb) hb', hcheck⟩
  obtain ⟨b, hb, hbne⟩ : ∃ b ∈ rule.base, b ≠ "" := by simpa using hnone
  have habs : isAbsolute b = .ok true := (hbase b hb).resolve_left hbne
  rw [located_eq_join hb hbne hlooks]
  rcases Url.join_reads habs hne hcheck with ⟨hother, hjoin⟩ | ⟨hscheme, t, hjoin, hread, hloc⟩
  · refine ⟨s, hjoin, .stays fun b' hb' _ => ?_, hcheck⟩
    obtain rfl := Option.mem_unique hb hb'
    exact .inr hother
  · refine ⟨t, hjoin, .joined hb habs hlooks hscheme hjoin hread hloc, ?_⟩
    rw [hloc]
    split
    · exact (Url.isAbsolute_eq_true_iff.mp habs).1
    · exact hcheck

/-- What a link leads to has the scheme and the location of the normalized link. -/
theorem exists_normalize (hbase : IsBase rule.base) (hv : v.isNone = false)
    (hne : Text.trim v.display.toList ≠ [])
    (hcheck : checkLocation (locationOf (Text.trim v.display.toList)) = .ok ()) :
    ∃ t u, rule.Located (Text.trim v.display.toList) t ∧ rule.normalize v = .ok (.str u) ∧
      schemeOf u.toList [] = schemeOf t [] ∧ locationOf u.toList = locationOf t := by
  obtain ⟨t, hlocated, hleads, hread⟩ := exists_located hbase hne hcheck
  have hsplit : split t = .ok (Url.partsOf t []) := Url.split_eq_ok_iff.mpr ⟨hread, rfl⟩
  have hvalid := valid_stripped rule (Url.valid_of_split hsplit)
  obtain ⟨hscheme, hbehind⟩ := hvalid.read_render
  have hlocation : locationOf (rule.stripped (Url.partsOf t [])).render = locationOf t := by
    rw [locationOf, hbehind]
    rfl
  refine ⟨t, _, hleads, (normalize_reads rule hv hne hlocated hsplit).1, ?_⟩
  rw [String.toList_ofList]
  exact ⟨hscheme, hlocation⟩

section Crawled

variable {base link url : String}

/-- A link of a crawl that becomes absolute leads a rule to the same place, unless it only looks
absolute. -/
theorem Located.crawled (h : rule.Located link.toList t) (hb : rule.base = some base)
    (hbase : isAbsolute base = .ok true) (hne : link ≠ "")
    (habsolute : Url.absolute link base = .ok url) (hurl : isAbsolute url = .ok true) :
    (looksAbsolute link.toList = true ∧ isAbsolute link = .ok false ∧ t = link.toList) ∨
    ((looksAbsolute link.toList = true → isAbsolute link = .ok true) ∧
      Url.IsWeb (schemeOf t []) ∧ locationOf t = locationOf url.toList) := by
  have hbne : base ≠ "" := by
    rintro rfl
    cases hbase
  obtain ⟨hcheck, hweb, hloc'⟩ := Url.isAbsolute_eq_true_iff.mp hurl
  cases hlink : isAbsolute link with
  | error fault =>
    rw [Url.absolute_of_fault hlink] at habsolute
    cases habsolute
  | ok own =>
  cases own with
  | true =>
    -- An absolute link is its own address, also if it is joined.
    right
    rw [Url.absolute_of_isAbsolute hlink] at habsolute
    obtain rfl := Except.ok.inj habsolute
    cases h with
    | stays => exact ⟨fun _ => rfl, hweb, rfl⟩
    | joined hb' habs hlooks hscheme hjoin hread hloc =>
      rw [if_neg hloc'] at hloc
      rw [hread]
      exact ⟨fun _ => rfl, (Url.isAbsolute_eq_true_iff.mp habs).2.1, hloc⟩
  | false =>
    rw [Url.absolute_eq_join hlink hbne, map_eq_ok_iff] at habsolute
    obtain ⟨joined, hjoined, rfl⟩ := habsolute
    cases h with
    | stays hwhy =>
      rcases hwhy base hb hbne with hlooks | hother
      · exact .inl ⟨hlooks, rfl, rfl⟩
      · -- A link of another scheme is not changed by the crawl either.
        have hcheck' := Url.checkLocation_of_isAbsolute hlink
        have hnil : link.toList ≠ [] := fun h => hne (String.toList_eq_nil_iff.mp h)
        rcases Url.join_reads hbase hnil hcheck' with ⟨-, hstays⟩ | ⟨hsame, -⟩
        · obtain rfl := Except.ok.inj (hstays.symm.trans hjoined)
          rw [String.ofList_toList, hlink] at hurl
          cases hurl
        · exact absurd hsame hother
    | joined hb' habs hlooks hscheme hjoin hread hloc =>
      obtain rfl := Option.some.inj (hb.symm.trans hb')
      obtain rfl := Except.ok.inj (hjoin.symm.trans hjoined)
      rw [String.toList_ofList, hlooks, hread]
      exact .inr ⟨fun hlooks => absurd hlooks Bool.false_ne_true,
        (Url.isAbsolute_eq_true_iff.mp habs).2.1, rfl⟩

/-- **A normalized link is absolute wherever the link of a crawl is, but for links that only look
absolute**, and then it has the same network location. -/
theorem normalize_isAbsolute_iff (hb : rule.base = some base) (hbase : isAbsolute base = .ok true)
    (htrim : Text.trim link.toList = link.toList) (hne : link ≠ "")
    (habsolute : Url.absolute link base = .ok url) (hurl : isAbsolute url = .ok true) :
    ∃ u, rule.normalize (.str link) = .ok (.str u) ∧
      (isAbsolute u = .ok true ↔
        (looksAbsolute link.toList = true → isAbsolute link = .ok true)) ∧
      (isAbsolute u = .ok true → ∃ p q, split url.toList = .ok p ∧ split u.toList = .ok q ∧
        q.netloc = p.netloc) ∧
      (isAbsolute u ≠ .ok true → isAbsolute u = .ok false) := by
  have hbase' : IsBase rule.base := by
    intro b hb'
    obtain rfl := Option.some.inj (hb.symm.trans hb')
    exact .inr hbase
  have hcheck : checkLocation (locationOf link.toList) = .ok () := by
    cases hlink : isAbsolute link with
    | ok own => exact Url.checkLocation_of_isAbsolute hlink
    | error fault =>
      rw [Url.absolute_of_fault hlink] at habsolute
      cases habsolute
  have hnil : Text.trim link.toList ≠ [] := by
    rw [htrim]
    exact fun h => hne (String.toList_eq_nil_iff.mp h)
  obtain ⟨t, u, hleads, hnormalize, hscheme, hlocation⟩ :=
    exists_normalize (v := .str link) hbase' rfl hnil (by rwa [Value.display, htrim])
  rw [Value.display, htrim] at hleads
  refine ⟨u, hnormalize, ?_⟩
  rcases hleads.crawled hb hbase hne habsolute hurl with
    ⟨hlooks, hlink, rfl⟩ | ⟨hown, hweb, hhost⟩
  · have hu : isAbsolute u = .ok false := by
      rw [← hlink, Url.isAbsolute_eq, Url.isAbsolute_eq, hscheme, hlocation]
    rw [hu, hlink]
    simp [hlooks]
  · have hu : isAbsolute u = .ok true := by
      rw [Url.isAbsolute_eq_true_iff, hscheme, hlocation, hhost]
      obtain ⟨hread', -, hhost'⟩ := Url.isAbsolute_eq_true_iff.mp hurl
      exact ⟨hread', hweb, hhost'⟩
    exact ⟨iff_of_true hu hown, fun _ => ⟨_, _, Url.split_of_isAbsolute hurl,
      Url.split_of_isAbsolute hu, hlocation.trans hhost⟩, fun hnot => absurd hu hnot⟩

/-- A link with a host and without a scheme. -/
theorem normalize_isAbsolute_iff_slashes :
    isAbsolute "https://shop.test/list/" = .ok true ∧
    Text.trim "//cdn.test/a".toList = "//cdn.test/a".toList ∧ "//cdn.test/a" ≠ "" ∧
    Url.absolute "//cdn.test/a" "https://shop.test/list/" = .ok "https://cdn.test/a" ∧
    isAbsolute "https://cdn.test/a" = .ok true ∧
    ∃ u, ({ base := some "https://shop.test/list/" } : LinkRule).normalize (.str "//cdn.test/a") =
      .ok (.str u) ∧ isAbsolute u = .ok false := by
  have hbase : isAbsolute "https://shop.test/list/" = .ok true := rfl
  have htrim : Text.trim "//cdn.test/a".toList = "//cdn.test/a".toList := rfl
  have hne : "//cdn.test/a" ≠ "" := by decide
  have habsolute : Url.absolute "//cdn.test/a" "https://shop.test/list/" =
      .ok "https://cdn.test/a" := rfl
  have hurl : isAbsolute "https://cdn.test/a" = .ok true := rfl
  have hrule : ({ base := some "https://shop.test/list/" } : LinkRule).base =
      some "https://shop.test/list/" := rfl
  obtain ⟨u, hu, hiff, -, hfalse⟩ :=
    normalize_isAbsolute_iff hrule hbase htrim hne habsolute hurl
  refine ⟨hbase, htrim, hne, habsolute, hurl, u, hu, hfalse fun htrue => ?_⟩
  exact absurd (hiff.mp htrue rfl) (by decide)

end Crawled

end LinkRule

end Gleaner.Normalize
