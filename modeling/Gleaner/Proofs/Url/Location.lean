import Gleaner.Proofs.Text.Pieces
import Gleaner.Proofs.Traced
import Gleaner.Url.Basic

/-! # Network locations

Whether a URL can be taken apart is decided by its network location alone. Resolving a link against
an absolute URL keeps the location of one of the two, so it fails only if the link itself cannot be
taken apart, and what it comes to can be taken apart again. -/

namespace Gleaner.Url

/-- What follows the scheme of a URL, if it has one. -/
def behindScheme (url : List Char) : List Char :=
  match takeScheme? (clean url) with
  | some (_, rest) => rest
  | none => clean url

/-- The scheme of a URL, or another one if it has none. -/
def schemeOf (url scheme : List Char) : List Char :=
  match takeScheme? (clean url) with
  | some (own, _) => own
  | none => scheme

/-- The network location of a URL. -/
def locationOf (url : List Char) : List Char := (takeNetloc (behindScheme url)).1

/-- Checks a network location. -/
def checkLocation (netloc : List Char) : Except HostFault Unit := do
  checkBrackets netloc
  checkSeparators netloc

/-- The parts of a URL whose location is not checked. -/
def partsOf (url scheme : List Char) : Parts :=
  let rest := (takeNetloc (behindScheme url)).2
  let (rest, fragment) := Text.cutAt '#' rest
  let (path, query) := Text.cutAt '?' rest
  let (path, params) :=
    if isOneOf paramSchemes (schemeOf url scheme) then takeParams path else (path, [])
  { scheme := schemeOf url scheme, netloc := locationOf url, path, params,
    query := query.getD [], fragment := fragment.getD [] }

theorem split_eq (url scheme : List Char) :
    split url scheme = (checkLocation (locationOf url)).map fun _ => partsOf url scheme := by
  unfold split checkLocation partsOf locationOf behindScheme schemeOf
  cases takeScheme? (clean url) with
  | none =>
    dsimp only [Option.getD_none]
    cases checkBrackets (takeNetloc (clean url)).1 with
    | error fault => rfl
    | ok _ => cases checkSeparators (takeNetloc (clean url)).1 <;> rfl
  | some own =>
    dsimp only [Option.getD_some]
    cases checkBrackets (takeNetloc own.2).1 with
    | error fault => rfl
    | ok _ => cases checkSeparators (takeNetloc own.2).1 <;> rfl

theorem split_eq_ok_iff {url scheme : List Char} {p : Parts} : split url scheme = .ok p ↔
    checkLocation (locationOf url) = .ok () ∧ partsOf url scheme = p := by
  rw [split_eq, map_eq_ok_iff]
  exact ⟨fun ⟨_, h, hp⟩ => ⟨h, hp⟩, fun ⟨h, hp⟩ => ⟨(), h, hp⟩⟩

/-- Whether a scheme is one of the web. -/
def IsWeb (scheme : List Char) : Prop := scheme = "http".toList ∨ scheme = "https".toList

instance (scheme : List Char) : Decidable (IsWeb scheme) := inferInstanceAs (Decidable (_ ∨ _))

theorem isAbsolute_eq (url : String) :
    isAbsolute url = (checkLocation (locationOf url.toList)).map fun _ =>
      decide (IsWeb (schemeOf url.toList []) ∧ locationOf url.toList ≠ []) := by
  unfold isAbsolute
  rw [split_eq]
  cases checkLocation (locationOf url.toList) with
  | error fault => rfl
  | ok _ =>
    refine congrArg Except.ok ?_
    rw [Bool.eq_iff_iff, decide_eq_true_iff]
    simp only [Bool.and_eq_true, Bool.or_eq_true, decide_eq_true_eq]
    rfl

theorem isAbsolute_eq_true_iff {url : String} : isAbsolute url = .ok true ↔
    checkLocation (locationOf url.toList) = .ok () ∧ IsWeb (schemeOf url.toList []) ∧
      locationOf url.toList ≠ [] := by
  rw [isAbsolute_eq, map_eq_ok_iff]
  simp only [decide_eq_true_eq]
  exact ⟨fun ⟨_, h, hp⟩ => ⟨h, hp⟩, fun ⟨h, hp⟩ => ⟨(), h, hp⟩⟩

theorem checkLocation_of_isAbsolute {url : String} {w : Bool} (h : isAbsolute url = .ok w) :
    checkLocation (locationOf url.toList) = .ok () := by
  rw [isAbsolute_eq, map_eq_ok_iff] at h
  exact h.choose_spec.1

/-! ## Rendered locations -/

/-- Whether a character stays when a URL is cleaned. -/
def isKept (c : Char) : Bool := c ≠ '\t' && c ≠ '\r' && c ≠ '\n'

/-- Whether a text can stand where a network location does. -/
def IsLocation (netloc : List Char) : Prop :=
  ∀ c ∈ netloc, endsNetloc c = false ∧ isKept c = true

theorem behindScheme_suffix (url : List Char) : behindScheme url <:+ clean url := by
  unfold behindScheme takeScheme?
  obtain ⟨before, after, hcut, -, happend⟩ := Text.cutAt_spec ':' (clean url)
  rw [hcut]
  match before, after with
  | [], _ => exact List.suffix_refl _
  | _ :: _, none => exact List.suffix_refl _
  | c :: r, some after =>
    dsimp only
    split
    next own rest h =>
      split at h
      · cases h
        exact ⟨c :: r ++ [':'], by rw [← happend]; simp⟩
      · cases h
    · exact List.suffix_refl _

theorem isLocation_locationOf (url : List Char) : IsLocation (locationOf url) := by
  intro c hc
  unfold locationOf takeNetloc at hc
  split at hc
  next r hr =>
    have hends := List.mem_takeWhile_imp hc
    have hmem : c ∈ clean url :=
      (behindScheme_suffix url).subset (by rw [hr]; simp [(List.takeWhile_sublist _).subset hc])
    refine ⟨by simpa using hends, ?_⟩
    simpa [isKept] using (List.mem_filter.mp hmem).2
  · cases hc

theorem mem_head?_append {a b : List Char} {c : Char} (h : c ∈ (a ++ b).head?) :
    c ∈ a.head? ∨ c ∈ b.head? := by
  rw [List.head?_append] at h
  exact (Option.or_eq_some_iff.mp h).imp_right And.right

theorem mem_head?_mono {a b : List Char} (h : a <+: b) {c : Char} (hc : c ∈ a.head?) :
    c ∈ b.head? := by
  obtain ⟨rest, rfl⟩ := h
  rw [List.head?_append, Option.mem_def.mp hc]
  rfl

theorem eq_of_mem_head?_marked {mark : Char} {s : List Char} {c : Char}
    (h : c ∈ (marked [mark] s).head?) : c = mark := by
  unfold marked at h
  split at h
  · cases h
  · exact (Option.some.inj h).symm

theorem render_of_isWeb {p : Parts} (h : IsWeb p.scheme) :
    ∃ rest, p.render = p.scheme ++ ':' :: '/' :: '/' :: (p.netloc ++ rest) ∧
      ∀ c ∈ rest.head?, c = '/' ∨ c = '?' ∨ c = '#' := by
  have hne : p.scheme ≠ [] := by rcases h with h | h <;> rw [h] <;> decide
  have hnetloc : isOneOf netlocSchemes p.scheme = true := by
    rcases h with h | h <;> rw [h] <;> decide
  refine ⟨(if p.path ++ marked [';'] p.params ≠ [] ∧
      (p.path ++ marked [';'] p.params).head? ≠ some '/' then
      '/' :: (p.path ++ marked [';'] p.params) else p.path ++ marked [';'] p.params) ++
    (marked ['?'] p.query ++ marked ['#'] p.fragment), ?_, ?_⟩
  · unfold Parts.render
    simp only [hne, hnetloc, ne_eq, not_false_eq_true, and_self, or_true, true_or, ↓reduceIte,
      List.append_assoc, List.cons_append, List.nil_append]
  · intro c hc
    rcases mem_head?_append hc with hc | hc
    · left
      split at hc
      · exact (Option.some.inj hc).symm
      next hpath =>
        have hslash := not_and_not_right.mp hpath fun hnil => by rw [hnil] at hc; cases hc
        rw [hslash] at hc
        exact (Option.some.inj hc).symm
    · right
      exact (mem_head?_append hc).imp eq_of_mem_head?_marked eq_of_mem_head?_marked

theorem clean_web {scheme netloc rest : List Char} (h : IsWeb scheme) (hn : IsLocation netloc) :
    clean (scheme ++ ':' :: '/' :: '/' :: (netloc ++ rest)) =
      scheme ++ ':' :: '/' :: '/' :: (netloc ++ rest.filter isKept) := by
  have hnetloc : netloc.filter isKept = netloc := List.filter_eq_self.mpr fun c hc => (hn c hc).2
  have hfilter : (netloc ++ rest).filter isKept = netloc ++ rest.filter isKept := by
    rw [List.filter_append, hnetloc]
  rcases h with rfl | rfl
  · change 'h' :: 't' :: 't' :: 'p' :: ':' :: '/' :: '/' :: (netloc ++ rest).filter isKept = _
    rw [hfilter]
    rfl
  · change 'h' :: 't' :: 't' :: 'p' :: 's' :: ':' :: '/' :: '/' ::
      (netloc ++ rest).filter isKept = _
    rw [hfilter]
    rfl

theorem takeScheme?_web {scheme : List Char} (h : IsWeb scheme) (rest : List Char) :
    takeScheme? (scheme ++ ':' :: rest) = some (scheme, rest) := by
  unfold takeScheme?
  rcases h with rfl | rfl <;> rw [Text.cutAt_append (by decide)] <;> rfl

theorem locationOf_render {p : Parts} (h : IsWeb p.scheme) (hn : IsLocation p.netloc)
    (scheme : List Char) :
    locationOf p.render = p.netloc ∧ schemeOf p.render scheme = p.scheme := by
  obtain ⟨rest, hrender, hrest⟩ := render_of_isWeb h
  have htake : takeScheme? (clean p.render) =
      some (p.scheme, '/' :: '/' :: (p.netloc ++ rest.filter isKept)) := by
    rw [hrender, clean_web h hn, takeScheme?_web h]
  refine ⟨?_, by rw [schemeOf, htake]⟩
  rw [locationOf, behindScheme, htake]
  change (p.netloc ++ rest.filter isKept).takeWhile (!endsNetloc ·) = p.netloc
  rw [List.takeWhile_append_of_pos fun c hc => by rw [(hn c hc).1]; rfl]
  cases rest with
  | nil => simp
  | cons c rest =>
    obtain ⟨hkept, hends⟩ : isKept c = true ∧ endsNetloc c = true := by
      rcases hrest c rfl with rfl | rfl | rfl <;> decide
    rw [List.filter_cons_of_pos hkept, List.takeWhile_cons_of_neg (by rw [hends]; decide),
      List.append_nil]

/-! ## Links made absolute -/

/-- The parts of a reference with those that it takes from a base. -/
def Parts.resolve (b r : Parts) : Parts :=
  if isOneOf netlocSchemes r.scheme ∧ r.netloc ≠ [] then r
  else
    let netloc := if isOneOf netlocSchemes r.scheme then b.netloc else r.netloc
    if r.path = [] ∧ r.params = [] then
      { r with netloc, path := b.path, params := b.params,
               query := if r.query = [] then b.query else r.query }
    else { r with netloc, path := mergePaths b.path r.path }

theorem Parts.resolve_scheme (b r : Parts) : (b.resolve r).scheme = r.scheme := by
  unfold resolve
  split
  · rfl
  dsimp only
  split <;> rfl

theorem Parts.resolve_netloc {b r : Parts} (h : isOneOf netlocSchemes r.scheme = true) :
    (b.resolve r).netloc = if r.netloc = [] then b.netloc else r.netloc := by
  unfold resolve
  by_cases hr : r.netloc = []
  · rw [if_pos hr, if_neg fun hn => hn.2 hr]
    dsimp only
    rw [if_pos h]
    split <;> rfl
  · rw [if_neg hr, if_pos ⟨h, hr⟩]

/-- A reference is taken apart, and rendered with what it takes from the base if the scheme is that
of the base. -/
theorem join_eq {base ref : List Char} {b : Parts} (hbase : base ≠ []) (href : ref ≠ [])
    (hb : split base = .ok b) :
    join base ref = (split ref b.scheme).map fun r =>
      if r.scheme ≠ b.scheme ∨ !isOneOf relativeSchemes r.scheme then ref
      else (b.resolve r).render := by
  unfold join
  rw [if_neg hbase, if_neg href, hb]
  dsimp only [bind, Except.bind]
  cases split ref b.scheme with
  | error fault => rfl
  | ok r =>
    dsimp only [Except.map, Parts.resolve]
    split
    · rfl
    split
    · rfl
    split <;> rfl

theorem isOneOf_of_isWeb {scheme : List Char} (h : IsWeb scheme) :
    isOneOf netlocSchemes scheme = true ∧ isOneOf relativeSchemes scheme = true := by
  rcases h with rfl | rfl <;> decide

/-- What is resolved has one of the two locations. -/
theorem read_resolve {b r : Parts} (hweb : IsWeb r.scheme) (hloc : IsLocation b.netloc)
    (hloc' : IsLocation r.netloc) (scheme : List Char) :
    locationOf (b.resolve r).render = (if r.netloc = [] then b.netloc else r.netloc) ∧
      schemeOf (b.resolve r).render scheme = r.scheme := by
  have hresolve := Parts.resolve_netloc (b := b) (isOneOf_of_isWeb hweb).1
  have hlocation : IsLocation (b.resolve r).netloc := by
    rw [hresolve]
    split <;> assumption
  have hread := locationOf_render (p := b.resolve r) (by rwa [Parts.resolve_scheme]) hlocation scheme
  rwa [hresolve, Parts.resolve_scheme] at hread

/-- At an absolute URL a reference of another scheme stays. Every other one gets the scheme of the URL,
and its location unless it has one. -/
theorem join_reads {base : String} {ref : List Char} (hbase : isAbsolute base = .ok true)
    (hne : ref ≠ []) (href : checkLocation (locationOf ref) = .ok ()) :
    (schemeOf ref (schemeOf base.toList []) ≠ schemeOf base.toList [] ∧
      join base.toList ref = .ok ref) ∨
    (schemeOf ref (schemeOf base.toList []) = schemeOf base.toList [] ∧
      ∃ url, join base.toList ref = .ok url ∧ schemeOf url [] = schemeOf base.toList [] ∧
        locationOf url = if locationOf ref = [] then locationOf base.toList else locationOf ref) := by
  obtain ⟨hcheck, hweb, hlocation⟩ := isAbsolute_eq_true_iff.mp hbase
  have hbne : base.toList ≠ [] := fun h => hlocation (by rw [h]; rfl)
  have hsplit : split base.toList = .ok (partsOf base.toList []) :=
    split_eq_ok_iff.mpr ⟨hcheck, rfl⟩
  have hsplit' : split ref (partsOf base.toList []).scheme =
      .ok (partsOf ref (schemeOf base.toList [])) := split_eq_ok_iff.mpr ⟨href, rfl⟩
  rw [join_eq hbne hne hsplit, hsplit']
  by_cases hscheme : schemeOf ref (schemeOf base.toList []) = schemeOf base.toList []
  · right
    have hweb' : IsWeb (partsOf ref (schemeOf base.toList [])).scheme := by
      rw [← hscheme] at hweb
      exact hweb
    obtain ⟨hnetloc, hread⟩ := read_resolve (b := partsOf base.toList []) hweb'
      (isLocation_locationOf _) (isLocation_locationOf _) []
    refine ⟨hscheme, _, congrArg Except.ok (if_neg ?_), hread.trans hscheme, hnetloc⟩
    rintro (hother | hrelative)
    · exact hother hscheme
    · rw [(isOneOf_of_isWeb hweb').2] at hrelative
      cases hrelative
  · exact .inl ⟨hscheme, congrArg Except.ok (if_pos (.inl hscheme))⟩

/-- Resolved against an absolute URL, a link that can be taken apart stays or becomes absolute. -/
theorem join_cases {base ref : String} (hbase : isAbsolute base = .ok true)
    (href : checkLocation (locationOf ref.toList) = .ok ()) :
    join base.toList ref.toList = .ok ref.toList ∨
      ∃ url, join base.toList ref.toList = .ok url ∧ isAbsolute (.ofList url) = .ok true := by
  obtain ⟨hcheck, hweb, hne⟩ := isAbsolute_eq_true_iff.mp hbase
  by_cases hrne : ref.toList = []
  · refine .inr ⟨base.toList, ?_, by rwa [String.ofList_toList]⟩
    unfold join
    rw [if_neg fun h => hne (by rw [h]; rfl), if_pos hrne]
    rfl
  rcases join_reads hbase hrne href with ⟨-, hstays⟩ | ⟨-, url, hjoin, hscheme, hlocation⟩
  · exact .inl hstays
  · refine .inr ⟨url, hjoin, ?_⟩
    rw [isAbsolute_eq_true_iff, String.toList_ofList, hscheme, hlocation]
    split
    · exact ⟨hcheck, hweb, hne⟩
    next hown => exact ⟨href, hweb, hown⟩

/-- Whether a page has no address, or an absolute one. -/
def IsBase (base : Option String) : Prop := ∀ b, base = some b → b = "" ∨ isAbsolute b = .ok true

theorem absolute_of_fault {link : String} {fault : HostFault} (h : isAbsolute link = .error fault)
    (base : Option String) : absolute link base = .error fault := by
  unfold absolute
  rw [h]
  rfl

theorem absolute_of_isAbsolute {link : String} (h : isAbsolute link = .ok true)
    (base : Option String) : absolute link base = .ok link := by
  unfold absolute
  rw [h]
  rfl

theorem absolute_eq_join {link base : String} (h : isAbsolute link = .ok false) (hne : base ≠ "") :
    absolute link base = (join base.toList link.toList).map String.ofList := by
  unfold absolute
  rw [h]
  dsimp only [bind, Except.bind]
  rw [if_neg Bool.false_ne_true, if_neg hne]
  cases join base.toList link.toList <;> rfl

/-- **Every other link can**: at an absolute base URL, or at none, it stays or comes to an absolute
URL. -/
theorem absolute_cases {link : String} {base : Option String} (hb : IsBase base) {w : Bool}
    (h : isAbsolute link = .ok w) :
    absolute link base = .ok link ∨
      ∃ url, absolute link base = .ok url ∧ isAbsolute url = .ok true := by
  cases w with
  | true => exact .inl (absolute_of_isAbsolute h base)
  | false =>
  cases base with
  | none =>
    left
    unfold absolute
    rw [h]
    rfl
  | some b =>
  by_cases hempty : b = ""
  · left
    unfold absolute
    rw [h, hempty]
    rfl
  have hcheck := checkLocation_of_isAbsolute h
  rw [absolute_eq_join h hempty]
  rcases join_cases ((hb b rfl).resolve_left hempty) hcheck with hjoin | ⟨url, hjoin, habs⟩
  · rw [hjoin]
    exact .inl (congrArg Except.ok String.ofList_toList)
  · rw [hjoin]
    exact .inr ⟨.ofList url, rfl, habs⟩

theorem exists_absolute {link : String} {base : Option String} (hb : IsBase base) (hne : link ≠ "")
    {w : Bool} (h : isAbsolute link = .ok w) : ∃ url, absolute link base = .ok url ∧ url ≠ "" := by
  rcases absolute_cases hb h with hstays | ⟨url, habs, hweb⟩
  · exact ⟨link, hstays, hne⟩
  · refine ⟨url, habs, ?_⟩
    rintro rfl
    cases hweb

theorem exists_isAbsolute {link url : String} {base : Option String} (hb : IsBase base)
    (h : absolute link base = .ok url) : ∃ w, isAbsolute url = .ok w := by
  cases hw : isAbsolute link with
  | error fault =>
    rw [absolute_of_fault hw] at h
    cases h
  | ok w =>
  rcases absolute_cases hb hw with hstays | ⟨url', habs, hweb⟩
  · rw [hstays] at h
    cases h
    exact ⟨w, hw⟩
  · rw [habs] at h
    cases h
    exact ⟨true, hweb⟩

end Gleaner.Url
