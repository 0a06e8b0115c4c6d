import Gleaner.Proofs.Url.Query
import Gleaner.Proofs.Url.Rendered

/-! # Blanks in a URL

Taking a URL apart only drops characters, and rendering it adds none that is blank. So a URL that was
taken apart is rendered with as many blanks as it had, or fewer. -/

namespace Gleaner.Url

open Text (isBlank)

/-- How many blanks the parts of a URL have. -/
def Parts.blanks (p : Parts) : Nat :=
  p.scheme.countP isBlank + p.netloc.countP isBlank + p.path.countP isBlank +
    p.params.countP isBlank + p.query.countP isBlank + p.fragment.countP isBlank

theorem countP_marked {mark : Char} (h : isBlank mark = false) (s : List Char) :
    (marked [mark] s).countP isBlank = s.countP isBlank := by
  unfold marked
  split
  next hs => rw [hs]
  next => rw [List.singleton_append, List.countP_cons_of_neg (by rw [h]; exact Bool.false_ne_true)]

theorem countP_render (p : Parts) : p.render.countP isBlank = p.blanks := by
  have hslash (s : List Char) : ('/' :: s).countP isBlank = s.countP isBlank :=
    List.countP_cons_of_neg Bool.false_ne_true
  have hscheme : (if p.scheme = [] then [] else p.scheme ++ [':']).countP isBlank =
      p.scheme.countP isBlank := by
    split
    next hs => rw [hs]
    next => rw [List.countP_append]; rfl
  have hpath : p.fullPath.countP isBlank = p.path.countP isBlank + p.params.countP isBlank := by
    rw [Parts.fullPath, List.countP_append, countP_marked rfl]
  rw [Parts.render_eq, List.countP_append, List.countP_append, List.countP_append, hscheme,
    countP_marked rfl, countP_marked rfl, Parts.blanks]
  split
  · rw [hslash, hslash, List.countP_append]
    split
    · rw [hslash, hpath]
      omega
    · rw [hpath]
      omega
  next hlocation =>
    have hnetloc : p.netloc = [] := not_not.mp (not_or.mp hlocation).1
    rw [hpath, hnetloc, List.countP_nil]
    omega

section Read

variable (s : List Char)

theorem countP_cutAt_le (sep : Char) : (Text.cutAt sep s).1.countP isBlank +
    ((Text.cutAt sep s).2.getD []).countP isBlank ≤ s.countP isBlank := by
  obtain ⟨before, after, hcut, -, hs⟩ := Text.cutAt_spec sep s
  rw [hcut, ← hs, List.countP_append]
  cases after with
  | none => exact le_rfl
  | some after => exact Nat.add_le_add_left (List.countP_cons ▸ Nat.le_add_right _ _) _

theorem countP_takeParams_le : (takeParams s).1.countP isBlank +
    (takeParams s).2.countP isBlank ≤ s.countP isBlank := by
  obtain ⟨dir, last, rfl, hdir, hlast⟩ := exists_last_segment s
  have hcut := countP_cutAt_le last ';'
  rw [takeParams_append hdir hlast, List.countP_append]
  dsimp only
  rw [List.countP_append]
  omega

theorem countP_cutPath_le (scheme : List Char) : (cutPath scheme s).1.countP isBlank +
    (cutPath scheme s).2.countP isBlank ≤ s.countP isBlank := by
  unfold cutPath
  split
  · exact countP_takeParams_le s
  · exact le_rfl

theorem countP_takeNetloc_le : (takeNetloc s).1.countP isBlank +
    (takeNetloc s).2.countP isBlank ≤ s.countP isBlank := by
  unfold takeNetloc
  split
  next r =>
    rw [← List.countP_append, List.takeWhile_append_dropWhile]
    exact (List.sublist_append_right ['/', '/'] r).countP_le
  next => exact le_of_eq (Nat.zero_add _)

theorem countP_schemeOf (url : List Char) : (schemeOf url []).countP isBlank = 0 := by
  rcases isScheme_schemeOf url with h | h
  · rw [h]
    rfl
  · rw [List.countP_eq_zero]
    intro c hc
    rw [isBlank_of_isSchemeChar (h.chars c hc)]
    exact Bool.false_ne_true

/-- The parts of a URL have no more blanks than the URL. -/
theorem blanks_partsOf_le (url : List Char) : (partsOf url []).blanks ≤ url.countP isBlank := by
  have hclean : (behindScheme url).countP isBlank ≤ url.countP isBlank :=
    ((behindScheme_suffix url).sublist.trans
      (List.filter_sublist.trans (List.dropWhile_sublist _))).countP_le
  have hscheme : (partsOf url []).scheme.countP isBlank = 0 := countP_schemeOf url
  have hnetloc : (partsOf url []).netloc.countP isBlank +
      (takeNetloc (behindScheme url)).2.countP isBlank ≤ (behindScheme url).countP isBlank :=
    countP_takeNetloc_le _
  have hfragment : (Text.cutAt '#' (takeNetloc (behindScheme url)).2).1.countP isBlank +
      (partsOf url []).fragment.countP isBlank ≤ (takeNetloc (behindScheme url)).2.countP isBlank :=
    countP_cutAt_le _ '#'
  have hquery : (fullPath url).countP isBlank + (partsOf url []).query.countP isBlank ≤
      (Text.cutAt '#' (takeNetloc (behindScheme url)).2).1.countP isBlank := countP_cutAt_le _ '?'
  have hpath : (partsOf url []).path.countP isBlank + (partsOf url []).params.countP isBlank ≤
      (fullPath url).countP isBlank := countP_cutPath_le _ _
  unfold Parts.blanks
  omega

end Read

/-- A query that is written has no blanks. -/
theorem isBlank_of_mem_renderQuery {params : Params} {c : Char} (h : c ∈ renderQuery params) :
    isBlank c = false := by
  rcases mem_renderQuery h with hsafe | hmark
  · have hascii := toNat_lt_of_isUnreserved hsafe
    revert hsafe
    apply forall_ascii _ hascii
    decide
  · simp only [List.mem_cons, List.not_mem_nil, or_false] at hmark
    rcases hmark with rfl | rfl | rfl | rfl <;> rfl

end Gleaner.Url
