import Gleaner.Proofs.Url.Directory
import Gleaner.Proofs.Url.PathParams
import Gleaner.Proofs.Url.Scheme

/-! # Rendered URLs

Parts that come from a URL are found again in the URL that is rendered from them (`split_render`), also
with another query or fragment (`Parts.Valid.with_query`). Only where the scheme asks for a network
location, a path that does not start at the root is brought there (`Parts.settled`). -/

namespace Gleaner.Url

/-- Path and parameters as they are rendered. -/
def Parts.fullPath (p : Parts) : List Char := p.path ++ marked [';'] p.params

/-- Parts that a URL can consist of. -/
structure Parts.Valid (p : Parts) : Prop where
  scheme : p.scheme = [] ∨ IsScheme p.scheme
  location : IsLocation p.netloc
  checked : checkLocation p.netloc = .ok ()
  path : ∀ c ∈ p.fullPath, isKept c = true ∧ c ≠ '?' ∧ c ≠ '#'
  params : cutPath p.scheme p.fullPath = (p.path, p.params)
  rooted : p.netloc ≠ [] → IsRooted p.fullPath
  bare : p.scheme = [] → takeScheme? p.fullPath = none ∧ ∀ c ∈ p.fullPath.head?, 32 < c.toNat
  query : ∀ c ∈ p.query, isKept c = true ∧ c ≠ '#'
  fragment : ∀ c ∈ p.fragment, isKept c = true

instance (path : List Char) : Decidable (IsRooted path) :=
  Option.decidableForallMem path.head?

/-- The parts that are found in a rendered URL. -/
def Parts.settled (p : Parts) : Parts :=
  if p.scheme ≠ [] ∧ isOneOf netlocSchemes p.scheme ∧ ¬ IsRooted p.fullPath then
    { p with path := '/' :: p.path }
  else p

/-- What stands behind scheme and network location. -/
def Parts.behindLocation (p : Parts) : List Char :=
  p.settled.fullPath ++ (marked ['?'] p.query ++ marked ['#'] p.fragment)

/-! ## What is read of a rendered URL -/

section Read

variable {netloc rest full query fragment s : List Char}

theorem takeNetloc_append (h : IsLocation netloc) (hrest : ∀ c ∈ rest.head?, endsNetloc c = true) :
    takeNetloc ('/' :: '/' :: (netloc ++ rest)) = (netloc, rest) := by
  have hall : ∀ c ∈ netloc, (!endsNetloc c) = true := fun c hc => by rw [(h c hc).1]; rfl
  rw [takeNetloc, List.takeWhile_append_of_pos hall, List.dropWhile_append_of_pos hall]
  cases rest with
  | nil => simp
  | cons c rest => simp [hrest c rfl]

theorem takeNetloc_of_not_prefix (h : ¬ ['/', '/'] <+: s) : takeNetloc s = ([], s) := by
  unfold takeNetloc
  split
  next r => exact absurd ⟨r, rfl⟩ h
  next => rfl

theorem cutAt_marked {mark : Char} {a : List Char} (h : mark ∉ a) (s : List Char) :
    ∃ after, Text.cutAt mark (a ++ marked [mark] s) = (a, after) ∧ after.getD [] = s := by
  unfold marked
  split
  next hnil => exact ⟨none, by rw [List.append_nil, Text.cutAt_of_notMem h], hnil.symm⟩
  next => exact ⟨some s, Text.cutAt_append h s, rfl⟩

theorem partsOf_eq {url scheme : List Char} (hscheme : schemeOf url [] = scheme)
    (hbehind : takeNetloc (behindScheme url) =
      (netloc, full ++ (marked ['?'] query ++ marked ['#'] fragment)))
    (hfull : ∀ c ∈ full, c ≠ '?' ∧ c ≠ '#') (hquery : '#' ∉ query) :
    partsOf url [] = { scheme, netloc, path := (cutPath scheme full).1,
                       params := (cutPath scheme full).2, query, fragment } := by
  have hfragment : '#' ∉ full ++ marked ['?'] query := by
    rw [List.mem_append, not_or]
    refine ⟨fun h => (hfull '#' h).2 rfl, ?_⟩
    unfold marked
    split
    · exact List.not_mem_nil
    · exact fun h => (List.mem_cons.mp h).elim (by decide) hquery
  obtain ⟨after, hcut, hafter⟩ := cutAt_marked hfragment fragment
  obtain ⟨after', hcut', hafter'⟩ := cutAt_marked (fun h => (hfull '?' h).1 rfl) query
  have hlocation : locationOf url = netloc := by rw [locationOf, hbehind]
  unfold partsOf
  rw [hbehind, hlocation, hscheme]
  dsimp only
  rw [← List.append_assoc, hcut]
  dsimp only
  rw [hcut', hafter, hafter']
  rfl

end Read

section Render

variable {p : Parts}

/-- A path from the root has no scheme in front. -/
theorem IsRooted.takeScheme?_eq_none {s : List Char} (h : IsRooted s) : takeScheme? s = none := by
  rw [Option.eq_none_iff_forall_ne_some]
  rintro ⟨own, after⟩ hsome
  obtain ⟨text, htext, rfl, -⟩ := takeScheme?_eq_some_iff.mp hsome
  obtain ⟨c, hc, halpha⟩ := htext.head
  obtain rfl := h c (by rw [List.head?_append, Option.mem_def.mp hc]; rfl)
  exact absurd halpha (by decide)

theorem isRooted_iff {path : List Char} : ¬ IsRooted path ↔ path ≠ [] ∧ path.head? ≠ some '/' := by
  cases path with
  | nil => simp [IsRooted]
  | cons c path => simp [IsRooted]

theorem mem_marks {c : Char} (h : c ∈ (marked ['?'] p.query ++ marked ['#'] p.fragment).head?) :
    c = '?' ∨ c = '#' :=
  (mem_head?_append h).imp eq_of_mem_head?_marked eq_of_mem_head?_marked

theorem Parts.query_settled (p : Parts) : p.settled.query = p.query := by
  unfold Parts.settled
  split <;> rfl

theorem Parts.mem_fullPath_settled {c : Char} (h : c ∈ p.settled.fullPath) :
    c = '/' ∨ c ∈ p.fullPath := by
  unfold Parts.settled at h
  split at h
  · exact List.mem_cons.mp h
  · exact .inr h

theorem Parts.Valid.isKept_behindLocation (h : p.Valid) :
    ∀ c ∈ p.behindLocation, isKept c = true := by
  have hmarked {mark : Char} {s : List Char} (hmark : isKept mark = true)
      (hs : ∀ c ∈ s, isKept c = true) : ∀ c ∈ marked [mark] s, isKept c = true := by
    unfold marked
    split
    · exact fun c hc => absurd hc List.not_mem_nil
    · exact List.forall_mem_cons.mpr ⟨hmark, hs⟩
  unfold Parts.behindLocation
  rw [List.forall_mem_append, List.forall_mem_append]
  refine ⟨fun c hc => ?_, hmarked (by decide) fun c hc => (h.query c hc).1,
    hmarked (by decide) h.fragment⟩
  rcases Parts.mem_fullPath_settled hc with rfl | hmem
  · decide
  · exact (h.path c hmem).1

/-- Whether a network location, if only an empty one, is rendered. -/
def Parts.HasLocation (p : Parts) : Prop :=
  p.netloc ≠ [] ∨ (p.scheme ≠ [] ∧ isOneOf netlocSchemes p.scheme = true) ∨
    ['/', '/'] <+: p.fullPath

theorem isRooted_of_slashes {path : List Char} (h : ['/', '/'] <+: path) : IsRooted path := by
  obtain ⟨rest, rfl⟩ := h
  intro c hc
  exact (Option.some.inj hc).symm

/-- Behind a network location the path gets a slash unless it starts at the root. -/
theorem Parts.Valid.fullPath_settled (h : p.Valid) (hlocation : p.HasLocation) :
    p.settled.fullPath = if IsRooted p.fullPath then p.fullPath else '/' :: p.fullPath := by
  unfold Parts.settled
  split
  next hslash => exact (if_neg hslash.2.2).symm
  next hslash =>
    refine (if_pos ?_).symm
    rcases hlocation with hnetloc | hscheme | hslashes
    · exact h.rooted hnetloc
    · by_contra hrooted
      exact hslash ⟨hscheme.1, hscheme.2, hrooted⟩
    · exact isRooted_of_slashes hslashes

theorem Parts.Valid.isRooted_settled (h : p.Valid) (hlocation : p.HasLocation) :
    IsRooted p.settled.fullPath := by
  rw [h.fullPath_settled hlocation]
  split
  next hrooted => exact hrooted
  · intro c hc
    exact (Option.some.inj hc).symm

theorem Parts.render_eq (p : Parts) : p.render =
    (if p.scheme = [] then [] else p.scheme ++ [':']) ++
      (if p.netloc ≠ [] ∨ (p.scheme ≠ [] ∧ isOneOf netlocSchemes p.scheme) ∨
          ['/', '/'].isPrefixOf p.fullPath then
        '/' :: '/' :: (p.netloc ++
          if p.fullPath ≠ [] ∧ p.fullPath.head? ≠ some '/' then '/' :: p.fullPath else p.fullPath)
      else p.fullPath) ++ marked ['?'] p.query ++ marked ['#'] p.fragment := rfl

theorem Parts.Valid.render_of_location (h : p.Valid) (hlocation : p.HasLocation) :
    p.render = (if p.scheme = [] then [] else p.scheme ++ [':']) ++
      '/' :: '/' :: (p.netloc ++ p.behindLocation) := by
  have hsettled := h.fullPath_settled hlocation
  rw [Parts.HasLocation, ← List.isPrefixOf_iff_prefix] at hlocation
  rw [Parts.render_eq, if_pos hlocation, Parts.behindLocation, hsettled]
  by_cases hrooted : IsRooted p.fullPath
  · rw [if_neg fun hnot => isRooted_iff.mpr hnot hrooted, if_pos hrooted]
    simp only [List.append_assoc, List.cons_append]
  · rw [if_pos (isRooted_iff.mp hrooted), if_neg hrooted]
    simp only [List.append_assoc, List.cons_append]

theorem Parts.settled_of_not_location (hlocation : ¬ p.HasLocation) : p.settled = p :=
  if_neg fun hslash => hlocation (.inr (.inl ⟨hslash.1, hslash.2.1⟩))

theorem Parts.render_of_not_location (hlocation : ¬ p.HasLocation) :
    p.render = (if p.scheme = [] then [] else p.scheme ++ [':']) ++ p.behindLocation := by
  have hsettled := Parts.settled_of_not_location hlocation
  rw [Parts.HasLocation, ← List.isPrefixOf_iff_prefix] at hlocation
  rw [Parts.render_eq, if_neg hlocation, Parts.behindLocation, hsettled]
  simp only [List.append_assoc]

theorem not_prefix_append {s t : List Char} (h : ¬ ['/', '/'] <+: s) (ht : ∀ c ∈ t.head?, c ≠ '/') :
    ¬ ['/', '/'] <+: s ++ t := by
  rintro ⟨rest, hrest⟩
  match s with
  | [] =>
    obtain rfl : '/' :: '/' :: rest = t := hrest
    exact ht '/' rfl rfl
  | [c] =>
    obtain rfl : '/' :: rest = t := (List.cons.inj hrest).2
    exact ht '/' rfl rfl
  | c :: d :: s =>
    obtain ⟨rfl, hslash⟩ := List.cons.inj hrest
    obtain ⟨rfl, -⟩ := List.cons.inj hslash
    exact h ⟨s, rfl⟩

/-- Behind its scheme a rendered URL has the network location in front of the path. -/
theorem Parts.Valid.exists_behind (h : p.Valid) :
    ∃ s, p.render = (if p.scheme = [] then [] else p.scheme ++ [':']) ++ s ∧
      takeNetloc s = (p.netloc, p.behindLocation) ∧ (∀ c ∈ s, isKept c = true) ∧
      (p.scheme = [] → takeScheme? s = none ∧ ∀ c ∈ s.head?, 32 < c.toNat) := by
  have hkept := h.isKept_behindLocation
  by_cases hlocation : p.HasLocation
  · -- The slashes keep a scheme off, and the location goes up to the path or to a mark.
    have hrooted := h.isRooted_settled hlocation
    refine ⟨_, h.render_of_location hlocation, takeNetloc_append h.location fun c hc => ?_, ?_,
      fun _ => ⟨?_, fun c hc => ?_⟩⟩
    · rcases mem_head?_append hc with hpath | hmark
      · rw [hrooted c hpath]
        decide
      · rcases mem_marks hmark with rfl | rfl <;> decide
    · rw [List.forall_mem_cons, List.forall_mem_cons, List.forall_mem_append]
      exact ⟨by decide, by decide, fun c hc => (h.location c hc).2, hkept⟩
    · exact (isRooted_of_slashes ⟨_, rfl⟩).takeScheme?_eq_none
    · obtain rfl := Option.some.inj hc
      decide
  · -- The path comes first: it begins with no two slashes, nor with a scheme if there is none.
    have hnot := hlocation
    rw [Parts.HasLocation, not_or, not_or, not_not] at hnot
    obtain ⟨hnetloc, -, hslashes⟩ := hnot
    have hbehind : p.behindLocation =
        p.fullPath ++ (marked ['?'] p.query ++ marked ['#'] p.fragment) := by
      rw [Parts.behindLocation, Parts.settled_of_not_location hlocation]
    refine ⟨_, Parts.render_of_not_location hlocation, ?_, hkept, fun hscheme => ?_⟩
    · rw [hnetloc]
      refine takeNetloc_of_not_prefix (hbehind ▸ not_prefix_append hslashes fun c hc => ?_)
      rcases mem_marks hc with rfl | rfl <;> decide
    · obtain ⟨hnone, hhead⟩ := h.bare hscheme
      rw [hbehind]
      constructor
      · refine takeScheme?_append_eq_none hnone fun c hc => ?_
        rcases mem_marks hc with rfl | rfl <;> decide
      · intro c hc
        rcases mem_head?_append hc with hpath | hmark
        · exact hhead c hpath
        · rcases mem_marks hmark with rfl | rfl <;> decide

theorem Parts.Valid.read_render (h : p.Valid) : schemeOf p.render [] = p.scheme ∧
    takeNetloc (behindScheme p.render) = (p.netloc, p.behindLocation) := by
  obtain ⟨s, hrender, hnetloc, hkept, hbare⟩ := h.exists_behind
  rw [← hnetloc, hrender]
  unfold schemeOf behindScheme
  by_cases hscheme : p.scheme = []
  · obtain ⟨hnone, hhead⟩ := hbare hscheme
    rw [if_pos hscheme, List.nil_append, clean_eq_self hkept hhead, hnone]
    exact ⟨hscheme.symm, rfl⟩
  · have hown := h.scheme.resolve_left hscheme
    rw [if_neg hscheme, List.append_assoc, List.singleton_append, hown.takeScheme?_clean hkept]
    exact ⟨rfl, rfl⟩

/-- **What is rendered is read back.** -/
theorem Parts.Valid.split_render (h : p.Valid) : split p.render = .ok p.settled := by
  obtain ⟨hscheme, hbehind⟩ := h.read_render
  have hchars : ∀ c ∈ p.settled.fullPath, c ≠ '?' ∧ c ≠ '#' := by
    intro c hc
    rcases Parts.mem_fullPath_settled hc with rfl | hmem
    · decide
    · exact (h.path c hmem).2
  have hcut : cutPath p.scheme p.settled.fullPath = (p.settled.path, p.settled.params) := by
    unfold Parts.settled
    split
    · change cutPath p.scheme ('/' :: p.fullPath) = ('/' :: p.path, p.params)
      rw [cutPath_cons_slash, h.params]
    · exact h.params
  have hlocation : locationOf p.render = p.netloc := by rw [locationOf, hbehind]
  rw [split_eq_ok_iff, hlocation,
    partsOf_eq hscheme hbehind hchars fun hmem => (h.query '#' hmem).2 rfl, hcut]
  refine ⟨h.checked, ?_⟩
  unfold Parts.settled
  split <;> rfl

theorem Parts.Valid.settled_of_location (h : p.Valid) (hne : p.netloc ≠ []) : p.settled = p :=
  if_neg fun hslash => hslash.2.2 (h.rooted hne)

theorem Parts.Valid.with_query (h : p.Valid) {query fragment : List Char}
    (hquery : ∀ c ∈ query, isKept c = true ∧ c ≠ '#') (hfragment : ∀ c ∈ fragment, isKept c = true) :
    ({ p with query, fragment } : Parts).Valid :=
  { h with query := hquery, fragment := hfragment }

/-- The parts that are found are rendered to the same URL. -/
theorem Parts.render_settled (p : Parts) : p.settled.render = p.render := by
  unfold Parts.settled
  split
  next hslash =>
    have hlocation : p.netloc ≠ [] ∨ (p.scheme ≠ [] ∧ isOneOf netlocSchemes p.scheme) ∨
        ['/', '/'].isPrefixOf p.fullPath := .inr (.inl ⟨hslash.1, hslash.2.1⟩)
    have hlocation' : p.netloc ≠ [] ∨ (p.scheme ≠ [] ∧ isOneOf netlocSchemes p.scheme) ∨
        ['/', '/'].isPrefixOf ('/' :: p.fullPath) := .inr (.inl ⟨hslash.1, hslash.2.1⟩)
    have hfull : ({ p with path := '/' :: p.path } : Parts).fullPath = '/' :: p.fullPath := rfl
    rw [Parts.render_eq, Parts.render_eq p, hfull, if_pos hlocation, if_pos hlocation',
      if_pos (isRooted_iff.mp hslash.2.2),
      if_neg (not_and_not_right.mpr fun _ => List.head?_cons)]
  next => rfl

theorem Parts.fragment_settled (p : Parts) : p.settled.fragment = p.fragment := by
  unfold Parts.settled
  split <;> rfl

theorem Parts.Valid.isKept_render (h : p.Valid) : ∀ c ∈ p.render, isKept c = true := by
  obtain ⟨s, hrender, -, hkept, -⟩ := h.exists_behind
  rw [hrender, List.forall_mem_append]
  refine ⟨fun c hc => ?_, hkept⟩
  split at hc
  · cases hc
  next hne =>
    rcases List.mem_append.mp hc with hown | hcolon
    · exact (isKept_of_isSchemeChar ((h.scheme.resolve_left hne).chars c hown)).1
    · obtain rfl := List.mem_singleton.mp hcolon
      decide

theorem Parts.Valid.scheme_prefix_render (h : p.Valid) (hne : p.scheme ≠ []) :
    p.scheme ++ [':'] <+: p.render := by
  obtain ⟨s, hrender, -⟩ := h.exists_behind
  rw [hrender, if_neg hne]
  exact List.prefix_append _ s

/-- Without a scheme a URL with a path from the root begins with that path or with a mark. -/
theorem Parts.Valid.head_render (h : p.Valid) (hscheme : p.scheme = [])
    (hrooted : IsRooted p.fullPath) {c : Char} (hc : c ∈ p.render.head?) : endsNetloc c = true := by
  by_cases hlocation : p.HasLocation
  · rw [h.render_of_location hlocation, if_pos hscheme] at hc
    obtain rfl := Option.some.inj hc
    rfl
  · rw [Parts.render_of_not_location hlocation, if_pos hscheme, List.nil_append,
      Parts.behindLocation, Parts.settled_of_not_location hlocation] at hc
    rcases mem_head?_append hc with hpath | hmark
    · rw [hrooted c hpath]
      rfl
    · rcases mem_marks hmark with rfl | rfl <;> rfl

/-- Without a fragment nothing in a rendered URL starts one. -/
theorem Parts.Valid.notMem_render (h : p.Valid) (hfragment : p.fragment = []) : '#' ∉ p.render := by
  have hscheme : '#' ∉ if p.scheme = [] then [] else p.scheme ++ [':'] := by
    split
    · exact List.not_mem_nil
    next hne =>
      rw [List.mem_append, not_or]
      refine ⟨fun hmem => ?_, by decide⟩
      exact absurd ((h.scheme.resolve_left hne).chars '#' hmem) (by decide)
  have hnetloc : '#' ∉ p.netloc := fun hmem => absurd (h.location '#' hmem).1 (by decide)
  have hbehind : '#' ∉ p.behindLocation := by
    rw [Parts.behindLocation, hfragment, List.mem_append, List.mem_append, not_or, not_or]
    refine ⟨fun hmem => ?_, fun hmem => ?_, List.not_mem_nil⟩
    · rcases Parts.mem_fullPath_settled hmem with hslash | hmem
      · exact absurd hslash (by decide)
      · exact (h.path '#' hmem).2.2 rfl
    · unfold marked at hmem
      split at hmem
      · cases hmem
      · exact (List.mem_cons.mp hmem).elim (by decide) fun hmem => (h.query '#' hmem).2 rfl
  by_cases hlocation : p.HasLocation
  · rw [h.render_of_location hlocation]
    simp [hscheme, hnetloc, hbehind]
  · rw [Parts.render_of_not_location hlocation]
    simp [hscheme, hbehind]

end Render

/-! ## What a URL consists of -/

section Parts

variable {url : List Char} {p : Parts}

theorem takeNetloc_suffix (s : List Char) : (takeNetloc s).2 <:+ s := by
  unfold takeNetloc
  split
  next r => exact (List.dropWhile_suffix _).trans ⟨['/', '/'], rfl⟩
  next => exact List.suffix_rfl

theorem isKept_behindLocation {c : Char} (h : c ∈ (takeNetloc (behindScheme url)).2) :
    isKept c = true := by
  have hclean : c ∈ clean url :=
    (behindScheme_suffix url).subset ((takeNetloc_suffix _).subset h)
  simpa [isKept] using (List.mem_filter.mp hclean).2

theorem isKept_fullPath {c : Char} (h : c ∈ fullPath url) :
    isKept c = true ∧ c ≠ '?' ∧ c ≠ '#' := by
  have hpath := Text.prefix_of_cutAt '?' (Text.cutAt '#' (takeNetloc (behindScheme url)).2).1
  have hfront := Text.prefix_of_cutAt '#' (takeNetloc (behindScheme url)).2
  refine ⟨isKept_behindLocation (hfront.subset (hpath.subset h)), ?_, ?_⟩
  · exact ne_of_mem_of_not_mem h (Text.notMem_cutAt '?' _)
  · exact ne_of_mem_of_not_mem (hpath.subset h) (Text.notMem_cutAt '#' _)

theorem bare_fullPath (h : schemeOf url [] = []) :
    takeScheme? (fullPath url) = none ∧ ∀ c ∈ (fullPath url).head?, 32 < c.toNat := by
  obtain ⟨hnone, hbehind⟩ := behindScheme_of_schemeOf h
  rcases fullPath_cases url with hrooted | ⟨-, hfirst⟩
  · refine ⟨hrooted.takeScheme?_eq_none, fun c hc => ?_⟩
    rw [hrooted c hc]
    decide
  · rw [hbehind] at hfirst
    exact ⟨takeScheme?_mono hnone hfirst, fun c hc =>
      lt_of_mem_head?_clean (mem_head?_mono hfirst hc)⟩

theorem fullPath_partsOf (url : List Char) : (partsOf url []).fullPath <+: fullPath url :=
  marked_cutPath_prefix (schemeOf url []) (fullPath url)

/-- **Every URL that can be taken apart has valid parts.** -/
theorem valid_of_split (h : split url = .ok p) : p.Valid := by
  obtain ⟨hcheck, rfl⟩ := split_eq_ok_iff.mp h
  have hfull := fullPath_partsOf url
  have hquery : ∀ c ∈ (partsOf url []).query, isKept c = true ∧ c ≠ '#' := by
    intro c hc
    have hmem : c ∈ (Text.cutAt '#' (takeNetloc (behindScheme url)).2).1 := Text.mem_of_mem_cutAt hc
    have hkept := isKept_behindLocation ((Text.prefix_of_cutAt '#' _).subset hmem)
    exact ⟨hkept, ne_of_mem_of_not_mem hmem (Text.notMem_cutAt '#' _)⟩
  have hbare (hscheme : (partsOf url []).scheme = []) :
      takeScheme? (partsOf url []).fullPath = none ∧
        ∀ c ∈ (partsOf url []).fullPath.head?, 32 < c.toNat := by
    obtain ⟨hnone, hhead⟩ := bare_fullPath hscheme
    exact ⟨takeScheme?_mono hnone hfull, fun c hc => hhead c (mem_head?_mono hfull hc)⟩
  exact
    { scheme := isScheme_schemeOf url
      location := isLocation_locationOf url
      checked := hcheck
      path := fun c hc => isKept_fullPath (hfull.subset hc)
      params := cutPath_marked (schemeOf url []) (fullPath url)
      rooted := fun hne => (isRooted_fullPath hne).mono hfull
      bare := hbare
      query := hquery
      fragment := fun c hc => isKept_behindLocation (Text.mem_of_mem_cutAt hc) }

end Parts

end Gleaner.Url
