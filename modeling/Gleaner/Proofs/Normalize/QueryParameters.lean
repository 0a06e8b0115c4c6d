import Gleaner.Normalize.Text
import Gleaner.Proofs.Url.Query
import Gleaner.Proofs.Url.Rendered

/-! # Parameters of a normalized link

A link is taken apart, its query is read and written again, and it is rendered. The link that comes out
has the parameters of the one that went in, but for those that track readers (`normalize_parameters`).
Its pairs are regrouped, so that their order is kept just when those of each name stand next to each
other (`normalize_pairs`). -/

namespace Gleaner.Normalize

open Text (trim)
open Url (Parts readPairs readQuery regroup Contiguous)

/-- Whether a parameter only tracks where a reader came from. -/
def IsTracking (name : List Char) : Prop := String.ofList name ∈ trackingParams

instance (name : List Char) : Decidable (IsTracking name) :=
  inferInstanceAs (Decidable (_ ∈ trackingParams))

namespace LinkRule

variable {v : Value} {t : List Char} {p : Parts}

/-- The link made absolute against the base URL. -/
def located (rule : LinkRule) (s : List Char) : Except Url.HostFault (List Char) :=
  match rule.base with
  | some b => if b ≠ "" ∧ !looksAbsolute s then Url.join b.toList s else .ok s
  | none => .ok s

/-- What is left of the parts of a link. -/
def stripped (rule : LinkRule) (p : Parts) : Parts :=
  { p with
    query := if rule.dropTracking then dropTrackingParams p.query else p.query
    fragment := if rule.dropFragment then [] else p.fragment }

theorem apply_eq (rule : LinkRule) (s : List Char) :
    rule.apply s = (rule.located s).bind fun t => (Url.split t).map fun p =>
      (rule.stripped p).render := by
  unfold apply located
  cases rule.base with
  | none => cases Url.split s <;> rfl
  | some b =>
    dsimp only
    split
    · cases Url.join b.toList s with
      | error fault => rfl
      | ok t => cases Url.split t <;> rfl
    · cases Url.split s <;> rfl

theorem isKept_renderQuery {params : Url.Params} {c : Char} (h : c ∈ Url.renderQuery params) :
    Url.isKept c = true ∧ c ≠ '#' := by
  rcases Url.mem_renderQuery h with hsafe | hmark
  · simp only [Url.isKept, Bool.and_eq_true, decide_eq_true_eq]
    refine ⟨⟨⟨?_, ?_⟩, ?_⟩, ?_⟩ <;> rintro rfl <;> exact absurd hsafe (by decide)
  · simp only [List.mem_cons, List.not_mem_nil, or_false] at hmark
    rcases hmark with rfl | rfl | rfl | rfl <;> decide

theorem valid_stripped (rule : LinkRule) (h : p.Valid) : (rule.stripped p).Valid := by
  refine h.with_query (fun c hc => ?_) fun c hc => ?_
  · split at hc
    · exact isKept_renderQuery hc
    · exact h.query c hc
  · split at hc
    · cases hc
    · exact h.fragment c hc

/-- A link that is found comes out as its parts without what is dropped. -/
theorem normalize_reads (rule : LinkRule) (hv : v.isNone = false)
    (hne : trim v.display.toList ≠ []) (hlocated : rule.located (trim v.display.toList) = .ok t)
    (hsplit : Url.split t = .ok p) :
    rule.normalize v = .ok (.str (.ofList (rule.stripped p).render)) ∧
      Url.split (rule.stripped p).render = .ok (rule.stripped p).settled := by
  constructor
  · have happly : rule.apply (trim v.display.toList) = .ok (rule.stripped p).render := by
      rw [apply_eq, hlocated]
      change (Url.split t).map _ = _
      rw [hsplit]
      rfl
    rw [normalize, if_neg (by rw [hv]; exact Bool.false_ne_true)]
    dsimp only
    rw [if_neg hne, happly]
  · exact (valid_stripped rule (Url.valid_of_split hsplit)).split_render

theorem dropTrackingParams_eq (query : List Char) : dropTrackingParams query =
    Url.renderQuery ((readQuery query).filter fun x => ¬ IsTracking x.1) := by
  have hfilter : (fun x : List Char × List (List Char) =>
      !trackingParams.contains (String.ofList x.1)) = fun x => decide (¬ IsTracking x.1) := by
    funext x
    by_cases h : String.ofList x.1 ∈ trackingParams <;> simp [IsTracking, h]
  rw [← hfilter]
  rfl

/-- **Every parameter is kept but those that track readers**, and so is everything in front of the
query behind a network location. No fragment is left. -/
theorem normalize_parameters (hv : v.isNone = false) (hne : trim v.display.toList ≠ [])
    (hsplit : Url.split (trim v.display.toList) = .ok p) :
    ∃ out p', ({} : LinkRule).normalize v = .ok (.str (.ofList out)) ∧ Url.split out = .ok p' ∧
      readQuery p'.query = (readQuery p.query).filter (fun x => ¬ IsTracking x.1) ∧
      '#' ∉ out ∧ (p.netloc ≠ [] → p' = { p with query := p'.query, fragment := [] }) := by
  obtain ⟨hnormalize, hread⟩ := normalize_reads {} hv hne rfl hsplit
  have hvalid := valid_stripped {} (Url.valid_of_split hsplit)
  refine ⟨_, _, hnormalize, hread, ?_, hvalid.notMem_render rfl, fun hnetloc => ?_⟩
  · rw [Parts.query_settled]
    change readQuery (dropTrackingParams p.query) = _
    rw [dropTrackingParams_eq, Url.readQuery_renderQuery ((Url.isTable_readQuery _).filter _)]
  · rw [hvalid.settled_of_location hnetloc]
    rfl

/-- A link whose parameters are repeated, empty, encoded, or only track readers. -/
theorem normalize_parameters_shop :
    trim " https://shop.test/a;b?q=1&utm_source=x&q=&%C3%A9=a+b#top".toList ≠ [] ∧
    Url.split (trim " https://shop.test/a;b?q=1&utm_source=x&q=&%C3%A9=a+b#top".toList) =
      .ok { scheme := "https".toList, netloc := "shop.test".toList, path := "/a".toList,
            params := "b".toList, query := "q=1&utm_source=x&q=&%C3%A9=a+b".toList,
            fragment := "top".toList } ∧
    ∃ out p', ({} : LinkRule).normalize
        (.str " https://shop.test/a;b?q=1&utm_source=x&q=&%C3%A9=a+b#top") =
        .ok (.str (.ofList out)) ∧ Url.split out = .ok p' ∧ '#' ∉ out ∧
      readQuery p'.query =
        [("q".toList, ["1".toList, []]), ("é".toList, ["a b".toList])] ∧
      p'.netloc = "shop.test".toList ∧ p'.path = "/a".toList ∧ p'.params = "b".toList := by
  have hne : trim " https://shop.test/a;b?q=1&utm_source=x&q=&%C3%A9=a+b#top".toList ≠ [] := by
    decide
  have hsplit : Url.split (trim " https://shop.test/a;b?q=1&utm_source=x&q=&%C3%A9=a+b#top".toList) =
      .ok { scheme := "https".toList, netloc := "shop.test".toList, path := "/a".toList,
            params := "b".toList, query := "q=1&utm_source=x&q=&%C3%A9=a+b".toList,
            fragment := "top".toList } := rfl
  obtain ⟨out, p', hnormalize, hread, hquery, hfragment, hsame⟩ :=
    normalize_parameters (v := .str " https://shop.test/a;b?q=1&utm_source=x&q=&%C3%A9=a+b#top")
      rfl hne hsplit
  have hparts := hsame (by decide)
  refine ⟨hne, hsplit, out, p', hnormalize, hread, hfragment, hquery.trans (by decide), ?_⟩
  rw [hparts]
  exact ⟨rfl, rfl, rfl⟩

theorem readPairs_dropTrackingParams (query : List Char) : readPairs (dropTrackingParams query) =
    regroup ((readPairs query).filter fun x => ¬ IsTracking x.1) := by
  rw [dropTrackingParams_eq]
  exact Url.readPairs_renderQuery_filter (fun n => decide (¬ IsTracking n)) query

/-- **The pairs of a query are regrouped when tracking parameters are dropped**, even if there are none.
So their order is kept just when those of each name stand next to each other. -/
theorem normalize_pairs (rule : LinkRule) (hv : v.isNone = false)
    (hne : trim v.display.toList ≠ []) (hlocated : rule.located (trim v.display.toList) = .ok t)
    (hsplit : Url.split t = .ok p) :
    ∃ out p', rule.normalize v = .ok (.str (.ofList out)) ∧ Url.split out = .ok p' ∧
      (rule.dropTracking = false → readPairs p'.query = readPairs p.query) ∧
      (rule.dropTracking = true → readPairs p'.query =
        regroup ((readPairs p.query).filter fun x => ¬ IsTracking x.1)) ∧
      ((∀ x ∈ readPairs p.query, ¬ IsTracking x.1) → (readPairs p'.query).Perm (readPairs p.query) ∧
        (readPairs p'.query = readPairs p.query ↔
          rule.dropTracking = false ∨ Contiguous (readPairs p.query))) := by
  obtain ⟨hnormalize, hread⟩ := normalize_reads rule hv hne hlocated hsplit
  refine ⟨_, _, hnormalize, hread, ?_⟩
  have hkept (h : rule.dropTracking = false) :
      readPairs (rule.stripped p).settled.query = readPairs p.query := by
    rw [Parts.query_settled, stripped, h]
    rfl
  have hdropped (h : rule.dropTracking = true) : readPairs (rule.stripped p).settled.query =
      regroup ((readPairs p.query).filter fun x => ¬ IsTracking x.1) := by
    rw [Parts.query_settled, stripped, h]
    exact readPairs_dropTrackingParams p.query
  refine ⟨hkept, hdropped, fun hnone => ?_⟩
  cases htracking : rule.dropTracking with
  | false =>
    rw [hkept htracking]
    exact ⟨.refl _, by simp⟩
  | true =>
    have hall : (readPairs p.query).filter (fun x => ¬ IsTracking x.1) = readPairs p.query := by
      rw [List.filter_eq_self]
      intro x hx
      simpa using hnone x hx
    rw [hdropped htracking, hall, Url.regroup_eq_self_iff]
    exact ⟨Url.regroup_perm _, by simp⟩

/-- A name that comes again behind another one. -/
theorem normalize_pairs_shop :
    trim "https://shop.test/?a=1&b=2&a=3".toList ≠ [] ∧
    Url.split (trim "https://shop.test/?a=1&b=2&a=3".toList) =
      .ok { scheme := "https".toList, netloc := "shop.test".toList, path := "/".toList,
            query := "a=1&b=2&a=3".toList } ∧
    (∀ x ∈ readPairs "a=1&b=2&a=3".toList, ¬ IsTracking x.1) ∧
    ∃ out p', ({} : LinkRule).normalize (.str "https://shop.test/?a=1&b=2&a=3") =
        .ok (.str (.ofList out)) ∧ Url.split out = .ok p' ∧
      readPairs p'.query =
        [("a".toList, "1".toList), ("a".toList, "3".toList), ("b".toList, "2".toList)] ∧
      readPairs p'.query ≠ readPairs "a=1&b=2&a=3".toList := by
  have hne : trim "https://shop.test/?a=1&b=2&a=3".toList ≠ [] := by decide
  have hsplit : Url.split (trim "https://shop.test/?a=1&b=2&a=3".toList) =
      .ok { scheme := "https".toList, netloc := "shop.test".toList, path := "/".toList,
            query := "a=1&b=2&a=3".toList } := rfl
  obtain ⟨out, p', hnormalize, hread, -, hpairs, -⟩ := normalize_pairs {}
    (v := .str "https://shop.test/?a=1&b=2&a=3") rfl hne rfl hsplit
  have hgroups : readPairs p'.query =
      [("a".toList, "1".toList), ("a".toList, "3".toList), ("b".toList, "2".toList)] :=
    (hpairs rfl).trans (by decide)
  refine ⟨hne, hsplit, by decide, out, p', hnormalize, hread, hgroups, ?_⟩
  rw [hgroups]
  decide

end LinkRule

end Gleaner.Normalize
