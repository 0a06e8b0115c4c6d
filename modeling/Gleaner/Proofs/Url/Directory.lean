import Gleaner.Proofs.Url.Location

/-! # Directories

A link with a path of its own takes from the URL it is resolved against the scheme, the network
location and the directories of the path. So at URLs that lie beside each other it comes to the same
(`join_of_beside`). -/

namespace Gleaner.Url

/-- The directories that a path leads through. -/
def directories (path : List Char) : List (List Char) :=
  (Text.splitOn '/' path).dropLast.filter (· ≠ [])

/-- The path of a URL together with its parameters. -/
def fullPath (url : List Char) : List Char :=
  (Text.cutAt '?' (Text.cutAt '#' (takeNetloc (behindScheme url)).2).1).1

/-- Whether a path starts at the root, as it does behind a network location. -/
def IsRooted (path : List Char) : Prop := ∀ c ∈ path.head?, c = '/'

/-- Two URLs lead to the same directory of the same host. -/
structure Beside (a b : List Char) : Prop where
  scheme : schemeOf a [] = schemeOf b []
  location : locationOf a = locationOf b
  directories : directories (partsOf a []).path = directories (partsOf b []).path

section Paths

variable {base path : List Char}

theorem IsRooted.mono (h : IsRooted path) (hp : base <+: path) : IsRooted base :=
  fun c hc => h c (mem_head?_mono hp hc)

theorem prefix_of_takeParams (path : List Char) : (takeParams path).1 <+: path := by
  have hcut (s : List Char) := Text.prefix_of_cutAt ';' s
  unfold takeParams
  split
  next dir last hdir =>
    rw [Text.cutAtLast?_eq_some hdir]
    specialize hcut last
    split
    · exact List.prefix_rfl
    next name params h =>
      rw [h] at hcut
      exact List.prefix_append_right_inj dir |>.mpr ((List.cons_prefix_cons).mpr ⟨rfl, hcut⟩)
  next =>
    specialize hcut path
    split
    · exact List.prefix_rfl
    next name params h =>
      rwa [h] at hcut

/-- The path starts at the root behind `//`, and comes first behind the scheme otherwise. -/
theorem fullPath_cases (url : List Char) :
    IsRooted (fullPath url) ∨ locationOf url = [] ∧ fullPath url <+: behindScheme url := by
  have hquery := Text.prefix_of_cutAt '?' (Text.cutAt '#' (takeNetloc (behindScheme url)).2).1
  have hprefix : fullPath url <+: (takeNetloc (behindScheme url)).2 :=
    hquery.trans (Text.prefix_of_cutAt '#' _)
  unfold locationOf
  unfold takeNetloc at hprefix ⊢
  split at hprefix
  next r _ =>
    left
    intro c hc
    have hmem := List.mem_of_mem_head? hc
    have hmark : c ≠ '?' := ne_of_mem_of_not_mem hmem (Text.notMem_cutAt '?' _)
    have hmark' : c ≠ '#' :=
      ne_of_mem_of_not_mem (hquery.subset hmem) (Text.notMem_cutAt '#' _)
    have hends := List.head?_dropWhile_not (!endsNetloc ·) r
    rw [Option.mem_def.mp (mem_head?_mono hprefix hc)] at hends
    simpa [endsNetloc, hmark, hmark'] using hends
  next => exact .inr ⟨rfl, hprefix⟩

/-- Behind a network location comes a path that starts at the root, or none. -/
theorem isRooted_fullPath {url : List Char} (h : locationOf url ≠ []) : IsRooted (fullPath url) :=
  (fullPath_cases url).resolve_right fun hnone => h hnone.1

theorem isRooted_path {url : List Char} (h : locationOf url ≠ []) (scheme : List Char) :
    IsRooted (partsOf url scheme).path := by
  have hrooted := isRooted_fullPath h
  unfold partsOf
  dsimp only
  split
  · exact hrooted.mono (prefix_of_takeParams _)
  · exact hrooted

theorem dropInnerEmpty_cons_append (first : List Char) (dirs : List (List Char))
    {segs : List (List Char)} (h : segs ≠ []) : dropInnerEmpty (first :: (dirs ++ segs)) =
      first :: (dirs.filter (· ≠ []) ++ segs.dropLast.filter (· ≠ []) ++ segs.getLast?.toList) := by
  have hne : dirs ++ segs ≠ [] := List.append_ne_nil_of_right_ne_nil dirs h
  obtain ⟨seg, more, hsegs⟩ := List.exists_cons_of_ne_nil hne
  rw [hsegs, dropInnerEmpty, ← hsegs, List.dropLast_append_of_ne_nil h, List.filter_append,
    List.getLast?_append_of_ne_nil _ h]
  nofun

/-- Only the directories of a base path count for a path that is resolved against it. -/
theorem mergeSegments_eq (h : IsRooted base) (hpath : path.head? ≠ some '/') :
    mergeSegments base path =
      [] :: (directories base ++ (Text.splitOn '/' path).dropLast.filter (· ≠ []) ++
        (Text.splitOn '/' path).getLast?.toList) := by
  have hne := Text.splitOn_ne_nil '/' path
  unfold mergeSegments
  rw [if_neg hpath]
  cases base with
  | nil => exact dropInnerEmpty_cons_append [] [] hne
  | cons c rest =>
    obtain rfl := h c rfl
    have hparts : Text.splitOn '/' ('/' :: rest) = [] :: Text.splitOn '/' rest := rfl
    have hne' := Text.splitOn_ne_nil '/' rest
    unfold directories
    rw [hparts]
    generalize Text.splitOn '/' rest = parts at hne'
    have hlast : ([] :: parts).getLast? = parts.getLast? := by
      obtain ⟨part, more, rfl⟩ := List.exists_cons_of_ne_nil hne'
      exact List.getLast?_cons_cons
    dsimp only
    rw [List.dropLast_cons_of_ne_nil hne', hlast]
    split
    next hempty =>
      -- The base ends in a slash: its last segment is empty and falls away with the others.
      obtain ⟨dirs, rfl⟩ := List.getLast?_eq_some_iff.mp hempty
      rw [List.cons_append, dropInnerEmpty_cons_append [] _ hne]
      simp
    next =>
      rw [List.cons_append, dropInnerEmpty_cons_append [] _ hne]
      simp

theorem mergePaths_congr {base' : List Char} (h : IsRooted base) (h' : IsRooted base')
    (hdirectories : directories base = directories base') (path : List Char) :
    mergePaths base path = mergePaths base' path := by
  have hsegments : mergeSegments base path = mergeSegments base' path := by
    by_cases hpath : path.head? = some '/'
    · rw [mergeSegments, mergeSegments, if_pos hpath, if_pos hpath]
    · rw [mergeSegments_eq h hpath, mergeSegments_eq h' hpath, hdirectories]
  rw [mergePaths, mergePaths, hsegments]

end Paths

section Joins

variable {a b ref : List Char}

theorem resolve_congr {p q r : Parts} (hp : IsRooted p.path) (hq : IsRooted q.path)
    (hnetloc : p.netloc = q.netloc) (hdirectories : directories p.path = directories q.path)
    (hpath : r.path ≠ []) : p.resolve r = q.resolve r := by
  unfold Parts.resolve
  rw [hnetloc, mergePaths_congr hp hq hdirectories]
  simp [hpath]

/-- **A link with a path comes to the same at URLs beside each other.** -/
theorem join_of_beside (h : Beside a b) (ha : checkLocation (locationOf a) = .ok ())
    (hne : locationOf a ≠ []) (href : (partsOf ref (schemeOf a [])).path ≠ []) :
    join a ref = join b ref := by
  have hrefne : ref ≠ [] := by
    rintro rfl
    refine href ?_
    unfold partsOf
    dsimp only
    split <;> rfl
  have hane : a ≠ [] := by
    rintro rfl
    exact hne rfl
  have hbne : b ≠ [] := by
    rintro rfl
    exact hne h.location
  have hsplit : split a = .ok (partsOf a []) := split_eq_ok_iff.mpr ⟨ha, rfl⟩
  have hsplit' : split b = .ok (partsOf b []) := split_eq_ok_iff.mpr ⟨h.location ▸ ha, rfl⟩
  rw [join_eq hane hrefne hsplit, join_eq hbne hrefne hsplit']
  have hscheme : (partsOf a []).scheme = (partsOf b []).scheme := h.scheme
  rw [← hscheme, split_eq]
  cases checkLocation (locationOf ref) with
  | error fault => rfl
  | ok _ =>
    have hresolve : (partsOf a []).resolve (partsOf ref (schemeOf a [])) =
        (partsOf b []).resolve (partsOf ref (schemeOf a [])) :=
      resolve_congr (isRooted_path hne []) (isRooted_path (h.location ▸ hne) []) h.location
        h.directories href
    have hown : (partsOf a []).scheme = schemeOf a [] := rfl
    simp only [Except.map, hown, hresolve]

end Joins

end Gleaner.Url
