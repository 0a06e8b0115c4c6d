import Gleaner.Proofs.Text.Pieces
import Gleaner.Url.Basic

/-! # Parameters of a path

The parameters of a path stand behind the first semicolon of its last segment. Path and parameters that
were taken apart are taken apart in the same way again (`cutPath_marked`), also behind a slash
(`cutPath_cons_slash`). -/

namespace Gleaner.Url

/-- Path and parameters under a scheme. -/
def cutPath (scheme path : List Char) : List Char × List Char :=
  if isOneOf paramSchemes scheme then takeParams path else (path, [])

variable {dir last : List Char}

theorem exists_last_segment (s : List Char) :
    ∃ dir last, s = dir ++ last ∧ (∀ c ∈ dir.getLast?, c = '/') ∧ '/' ∉ last := by
  refine ⟨(s.reverse.dropWhile (· ≠ '/')).reverse, (s.reverse.takeWhile (· ≠ '/')).reverse, ?_,
    fun c hc => ?_, fun hmem => ?_⟩
  · rw [← List.reverse_append, List.takeWhile_append_dropWhile, List.reverse_reverse]
  · rw [List.getLast?_reverse] at hc
    have hnot := List.head?_dropWhile_not (· ≠ '/') s.reverse
    rw [Option.mem_def.mp hc] at hnot
    simpa using hnot
  · simpa using List.mem_takeWhile_imp (List.mem_reverse.mp hmem)

/-- Parameters are cut off the last segment. -/
theorem takeParams_append (hdir : ∀ c ∈ dir.getLast?, c = '/') (hlast : '/' ∉ last) :
    takeParams (dir ++ last) = (dir ++ (Text.cutAt ';' last).1, (Text.cutAt ';' last).2.getD []) := by
  obtain ⟨name, params, hcut, -, hname⟩ := Text.cutAt_spec ';' last
  unfold takeParams
  cases hend : dir.getLast? with
  | none =>
    obtain rfl := List.getLast?_eq_none_iff.mp hend
    rw [List.nil_append, Text.cutAtLast?_of_notMem hlast, hcut]
    cases params with
    | none => rw [← hname]; simp
    | some params => rfl
  | some c =>
    obtain rfl := hdir c hend
    obtain ⟨front, rfl⟩ := List.getLast?_eq_some_iff.mp hend
    rw [List.append_assoc, List.singleton_append, Text.cutAtLast?_append hlast]
    dsimp only
    rw [hcut]
    cases params with
    | none => rw [← hname]; simp
    | some params => simp

/-- Path and parameters that were taken apart are taken apart in the same way again. -/
theorem takeParams_marked (s : List Char) :
    takeParams ((takeParams s).1 ++ marked [';'] (takeParams s).2) = takeParams s := by
  obtain ⟨dir, last, rfl, hdir, hlast⟩ := exists_last_segment s
  obtain ⟨name, params, hcut, hsemicolon, hname⟩ := Text.cutAt_spec ';' last
  have hwhole : takeParams (dir ++ last) = (dir ++ name, params.getD []) := by
    rw [takeParams_append hdir hlast, hcut]
  have hname' : '/' ∉ name := fun hmem => hlast (by rw [← hname]; exact List.mem_append_left _ hmem)
  have hnone : takeParams (dir ++ name) = (dir ++ name, []) := by
    rw [takeParams_append hdir hname', Text.cutAt_of_notMem hsemicolon]
    rfl
  rw [hwhole]
  dsimp only
  match params with
  | none | some [] => exact (congrArg takeParams (List.append_nil _)).trans hnone
  | some (c :: params) =>
    have hsame : dir ++ name ++ marked [';'] (c :: params) = dir ++ last := by
      rw [← hname, List.append_assoc]
      rfl
    rw [Option.getD_some, hsame, hwhole]
    rfl

theorem takeParams_cons_slash (s : List Char) :
    takeParams ('/' :: s) = ('/' :: (takeParams s).1, (takeParams s).2) := by
  obtain ⟨dir, last, rfl, hdir, hlast⟩ := exists_last_segment s
  have hdir' : ∀ c ∈ ('/' :: dir).getLast?, c = '/' := by
    intro c hc
    rw [List.getLast?_cons] at hc
    cases hend : dir.getLast? with
    | none => simpa [hend] using hc.symm
    | some d =>
      obtain rfl : d = c := by simpa [hend] using hc
      exact hdir d hend
  rw [takeParams_append hdir hlast, ← List.cons_append, takeParams_append hdir' hlast,
    List.cons_append]

theorem marked_takeParams_prefix (s : List Char) :
    (takeParams s).1 ++ marked [';'] (takeParams s).2 <+: s := by
  obtain ⟨dir, last, rfl, hdir, hlast⟩ := exists_last_segment s
  obtain ⟨name, params, hcut, -, hname⟩ := Text.cutAt_spec ';' last
  rw [takeParams_append hdir hlast, hcut]
  dsimp only
  rw [List.append_assoc, List.prefix_append_right_inj, ← hname, List.prefix_append_right_inj]
  match params with
  | none | some [] => exact List.nil_prefix
  | some (c :: params) => exact List.prefix_rfl

theorem cutPath_marked (scheme s : List Char) :
    cutPath scheme ((cutPath scheme s).1 ++ marked [';'] (cutPath scheme s).2) =
      cutPath scheme s := by
  unfold cutPath
  split
  · exact takeParams_marked s
  · exact congrArg (·, []) (List.append_nil s)

theorem cutPath_cons_slash (scheme s : List Char) :
    cutPath scheme ('/' :: s) = ('/' :: (cutPath scheme s).1, (cutPath scheme s).2) := by
  unfold cutPath
  split
  · exact takeParams_cons_slash s
  · rfl

theorem marked_cutPath_prefix (scheme s : List Char) :
    (cutPath scheme s).1 ++ marked [';'] (cutPath scheme s).2 <+: s := by
  unfold cutPath
  split
  · exact marked_takeParams_prefix s
  · exact (List.append_nil s).symm ▸ List.prefix_rfl

end Gleaner.Url
