import Gleaner.Proofs.Text.Pieces
import Gleaner.Proofs.Url.Field
import Mathlib.Data.List.Induction
import Mathlib.Data.List.Nodup

/-! # Parameters of a query

A query is read as pairs from left to right, and its pairs are gathered under their names. A written
query has the pairs of each name next to each other, names in the order in which they occur first. So
reading and writing a query keeps its parameters (`readQuery_renderQuery`) and regroups its pairs
(`readPairs_renderQuery_filter`). -/

namespace Gleaner.Url

/-- Names, each with its values. -/
abbrev Params := List (List Char × List (List Char))

/-- The pairs of parameters from left to right. -/
def flatten (params : Params) : List (List Char × List Char) :=
  params.flatMap fun x => x.2.map (x.1, ·)

/-- Pairs gathered under their names. -/
def gather (ps : List (List Char × List Char)) : Params :=
  ps.foldl (fun params x => addValue params x.1 x.2) []

/-- Pairs with those of one name next to each other, where the first of them is. -/
def regroup (ps : List (List Char × List Char)) : List (List Char × List Char) :=
  (ps.map Prod.fst).eraseDups.flatMap fun n => ps.filter (·.1 = n)

/-- Between two pairs of one name there is no pair of another. -/
def Contiguous (ps : List (List Char × List Char)) : Prop :=
  ∀ x y z, [x, y, z].Sublist ps → x.1 = z.1 → y.1 = x.1

/-- Parameters as they are read: each name once, and none without a value. -/
structure IsTable (params : Params) : Prop where
  nodup : (params.map Prod.fst).Nodup
  values : ∀ x ∈ params, x.2 ≠ []

variable {params : Params} {ps qs : List (List Char × List Char)} {n v : List Char}

/-! ## First occurrences -/

theorem eraseDups_concat (names : List (List Char)) (n : List Char) : (names ++ [n]).eraseDups =
    if n ∈ names then names.eraseDups else names.eraseDups ++ [n] := by
  rw [List.eraseDups_append, List.removeAll]
  by_cases h : n ∈ names
  · simp [h]
  · simp [h, List.eraseDups_cons]

theorem nodup_eraseDups (names : List (List Char)) : names.eraseDups.Nodup := by
  induction names using List.reverseRecOn with
  | nil => exact List.nodup_nil
  | append_singleton names n ih =>
    rw [eraseDups_concat]
    split
    · exact ih
    next h =>
      rw [List.nodup_append_comm, List.singleton_append, List.nodup_cons, List.mem_eraseDups]
      exact ⟨h, ih⟩

/-! ## Pairs under their names -/

theorem addValue_of_notMem (h : n ∉ params.map Prod.fst) (v : List Char) :
    addValue params n v = params ++ [(n, [v])] := by
  induction params with
  | nil => rfl
  | cons x rest ih =>
    obtain ⟨m, vs⟩ := x
    rw [List.map_cons, List.mem_cons, not_or] at h
    rw [addValue, if_neg (Ne.symm h.1), ih h.2, List.cons_append]

theorem addValue_concat (h : n ∉ params.map Prod.fst) (vs : List (List Char)) (v : List Char) :
    addValue (params ++ [(n, vs)]) n v = params ++ [(n, vs ++ [v])] := by
  induction params with
  | nil => simp [addValue]
  | cons x rest ih =>
    obtain ⟨m, ws⟩ := x
    rw [List.map_cons, List.mem_cons, not_or] at h
    rw [List.cons_append, addValue, if_neg (Ne.symm h.1), ih h.2, List.cons_append]

theorem addValue_map {names : List (List Char)} (f : List Char → List (List Char))
    (hnodup : names.Nodup) (h : n ∈ names) (v : List Char) :
    addValue (names.map fun m => (m, f m)) n v =
      names.map fun m => (m, if m = n then f m ++ [v] else f m) := by
  induction names with
  | nil => cases h
  | cons m names ih =>
    obtain ⟨hm, hnames⟩ := List.nodup_cons.mp hnodup
    rw [List.map_cons, List.map_cons, addValue]
    split
    next heq =>
      subst heq
      congr 1
      refine List.map_congr_left fun k hk => ?_
      rw [if_neg (ne_of_mem_of_not_mem hk hm)]
    next hne =>
      rw [ih hnames ((List.mem_cons.mp h).resolve_left (Ne.symm hne))]

/-- **Each name is gathered once, where it occurs first, with its values in their order.** -/
theorem gather_eq (ps : List (List Char × List Char)) : gather ps =
    (ps.map Prod.fst).eraseDups.map fun n => (n, (ps.filter (·.1 = n)).map Prod.snd) := by
  induction ps using List.reverseRecOn with
  | nil => rfl
  | append_singleton ps x ih =>
    obtain ⟨n, v⟩ := x
    have hstep : gather (ps ++ [(n, v)]) = addValue (gather ps) n v := List.foldl_concat ..
    have hvalues (m : List Char) : ((ps ++ [(n, v)]).filter (·.1 = m)).map Prod.snd =
        if m = n then (ps.filter (·.1 = m)).map Prod.snd ++ [v]
        else (ps.filter (·.1 = m)).map Prod.snd := by
      rw [List.filter_append, List.map_append]
      by_cases hm : m = n
      · simp [hm]
      · simp [hm, Ne.symm hm]
    rw [hstep, ih, List.map_append, List.map_singleton, eraseDups_concat]
    simp only [hvalues]
    split
    next hn => rw [addValue_map _ (nodup_eraseDups _) (List.mem_eraseDups.mpr hn)]
    next hn =>
      have hnotMem : n ∉ (ps.map Prod.fst).eraseDups := fun h => hn (List.mem_eraseDups.mp h)
      have hfilter : ps.filter (·.1 = n) = [] := by
        rw [List.filter_eq_nil_iff]
        intro x hx heq
        exact hn (List.mem_map.mpr ⟨x, hx, by simpa using heq⟩)
      rw [addValue_of_notMem (by simpa using hn), List.map_append]
      congr 1
      · refine List.map_congr_left fun m hm => ?_
        rw [if_neg (ne_of_mem_of_not_mem hm hnotMem)]
      · simp [hfilter]

theorem isTable_gather (ps : List (List Char × List Char)) : IsTable (gather ps) := by
  rw [gather_eq]
  refine ⟨?_, fun x hx => ?_⟩
  · rw [List.map_map]
    exact (List.map_id _).symm ▸ nodup_eraseDups _
  obtain ⟨n, hn, rfl⟩ := List.mem_map.mp hx
  obtain ⟨y, hy, rfl⟩ := List.mem_map.mp (List.mem_eraseDups.mp hn)
  have hmem : y ∈ ps.filter (·.1 = y.1) := List.mem_filter.mpr ⟨hy, by simp⟩
  simpa using List.ne_nil_of_mem hmem

theorem IsTable.filter (h : IsTable params) (f : List Char × List (List Char) → Bool) :
    IsTable (params.filter f) where
  nodup := h.nodup.sublist (List.filter_sublist.map Prod.fst)
  values x hx := h.values x (List.mem_of_mem_filter hx)

theorem foldl_addValue (h : n ∉ params.map Prod.fst) {vs : List (List Char)} (hne : vs ≠ []) :
    (vs.map (n, ·)).foldl (fun params x => addValue params x.1 x.2) params = params ++ [(n, vs)] := by
  have hmore (us ws : List (List Char)) :
      (ws.map (n, ·)).foldl (fun params x => addValue params x.1 x.2) (params ++ [(n, us)]) =
        params ++ [(n, us ++ ws)] := by
    induction ws generalizing us with
    | nil => simp
    | cons w ws ih =>
      rw [List.map_cons, List.foldl_cons, addValue_concat h, ih, List.append_assoc,
        List.singleton_append]
  obtain ⟨w, ws, rfl⟩ := List.exists_cons_of_ne_nil hne
  rw [List.map_cons, List.foldl_cons, addValue_of_notMem h, hmore, List.singleton_append]

/-- **Parameters are gathered again from their pairs.** -/
theorem gather_flatten (h : IsTable params) : gather (flatten params) = params := by
  induction params using List.reverseRecOn with
  | nil => rfl
  | append_singleton params x ih =>
    obtain ⟨n, vs⟩ := x
    have hnodup := h.nodup
    rw [List.map_append, List.map_singleton, List.nodup_append] at hnodup
    have hn : n ∉ params.map Prod.fst := fun hmem => hnodup.2.2 n hmem n (by simp) rfl
    have hparams : IsTable params :=
      ⟨hnodup.1, fun x hx => h.values x (List.mem_append_left _ hx)⟩
    have hflatten : flatten (params ++ [(n, vs)]) = flatten params ++ vs.map (n, ·) := by
      simp [flatten]
    have hgather : gather (flatten params ++ vs.map (n, ·)) =
        (vs.map (n, ·)).foldl (fun params x => addValue params x.1 x.2) params := by
      rw [gather, List.foldl_append]
      exact congrArg (List.foldl _ · _) (ih hparams)
    rw [hflatten, hgather, foldl_addValue hn (h.values (n, vs) (by simp))]

theorem flatten_gather (ps : List (List Char × List Char)) : flatten (gather ps) = regroup ps := by
  rw [gather_eq, flatten, List.flatMap_map]
  refine List.flatMap_congr fun n _ => ?_
  rw [List.map_map]
  conv_rhs => rw [← List.map_id (ps.filter (·.1 = n))]
  refine List.map_congr_left fun x hx => ?_
  have hname : x.1 = n := by simpa using (List.mem_filter.mp hx).2
  rw [Function.comp_apply, ← hname]
  rfl

theorem filter_addValue (f : List Char → Bool) (params : Params) (n v : List Char) :
    (addValue params n v).filter (fun x => f x.1) =
      if f n then addValue (params.filter fun x => f x.1) n v else params.filter fun x => f x.1 := by
  induction params with
  | nil => cases hf : f n <;> simp [addValue, hf]
  | cons x rest ih =>
    obtain ⟨m, vs⟩ := x
    rw [addValue]
    split
    next heq =>
      subst heq
      cases hf : f m <;> simp [addValue, hf]
    next hne =>
      cases hf : f m
      · rw [List.filter_cons_of_neg (by simp [hf]), List.filter_cons_of_neg (by simp [hf]), ih]
      · rw [List.filter_cons_of_pos (by simp [hf]), List.filter_cons_of_pos (by simp [hf]), ih,
          addValue, if_neg hne]
        split <;> rfl

/-- Names that are left out do not change how the others are gathered. -/
theorem filter_gather (f : List Char → Bool) (ps : List (List Char × List Char)) :
    (gather ps).filter (fun x => f x.1) = gather (ps.filter fun x => f x.1) := by
  induction ps using List.reverseRecOn with
  | nil => rfl
  | append_singleton ps x ih =>
    have hstep (qs : List (List Char × List Char)) :
        gather (qs ++ [x]) = addValue (gather qs) x.1 x.2 := List.foldl_concat ..
    rw [hstep, filter_addValue, ih, List.filter_append]
    cases hf : f x.1
    · rw [List.filter_cons_of_neg (by simp [hf]), List.filter_nil, List.append_nil]
      rfl
    · rw [List.filter_cons_of_pos (by simp [hf]), List.filter_nil, hstep]
      rfl

/-! ## Pairs in their order -/

theorem regroup_cons (x : List Char × List Char) (r : List (List Char × List Char)) :
    regroup (x :: r) = x :: (r.filter (·.1 = x.1) ++ regroup (r.filter (·.1 ≠ x.1))) := by
  have hnames : ((x :: r).map Prod.fst).eraseDups =
      x.1 :: ((r.filter (·.1 ≠ x.1)).map Prod.fst).eraseDups := by
    rw [List.map_cons, List.eraseDups_cons, List.filter_map]
    congr 3
    refine List.filter_congr fun y _ => ?_
    by_cases hy : y.1 = x.1
    · simp [hy]
    · simp [hy]
  have hrest : ∀ m ∈ ((r.filter (·.1 ≠ x.1)).map Prod.fst).eraseDups,
      (x :: r).filter (·.1 = m) = (r.filter (·.1 ≠ x.1)).filter (·.1 = m) := by
    intro m hm
    obtain ⟨y, hy, rfl⟩ := List.mem_map.mp (List.mem_eraseDups.mp hm)
    have hne : y.1 ≠ x.1 := by simpa using (List.mem_filter.mp hy).2
    rw [List.filter_cons_of_neg (by simpa using Ne.symm hne), List.filter_filter]
    refine List.filter_congr fun z _ => ?_
    by_cases hz : z.1 = y.1
    · simp [hz, hne]
    · simp [hz]
  rw [regroup, hnames, List.flatMap_cons, List.flatMap_congr hrest,
    List.filter_cons_of_pos (by simp), List.cons_append]
  rfl

/-- A first pair, and the rest without its name. -/
theorem regroup_induction {motive : List (List Char × List Char) → Prop} (nil : motive [])
    (cons : ∀ x r, motive (r.filter (·.1 ≠ x.1)) → motive (x :: r)) (ps) : motive ps := by
  induction hlength : ps.length using Nat.strong_induction_on generalizing ps with
  | _ length ih =>
    cases ps with
    | nil => exact nil
    | cons x r =>
      have hlt : (r.filter (·.1 ≠ x.1)).length < length := by
        rw [← hlength, List.length_cons]
        exact Nat.lt_succ_of_le (List.length_filter_le _ r)
      exact cons x r (ih _ hlt _ rfl)

/-- **No pair is lost or added.** -/
theorem regroup_perm (ps : List (List Char × List Char)) : (regroup ps).Perm ps := by
  induction ps using regroup_induction with
  | nil => exact .nil
  | cons x r ih =>
    have hsplit : (r.filter (·.1 = x.1) ++ r.filter (·.1 ≠ x.1)).Perm r := by
      simpa using List.filter_append_perm (fun y => decide (y.1 = x.1)) r
    rw [regroup_cons]
    exact ((ih.append_left _).trans hsplit).cons x

theorem contiguous_regroup (ps : List (List Char × List Char)) : Contiguous (regroup ps) := by
  have hnodup : (ps.map Prod.fst).eraseDups.Nodup := nodup_eraseDups _
  unfold regroup
  generalize (ps.map Prod.fst).eraseDups = names at hnodup
  intro x y z hsub hxz
  induction names with
  | nil => cases hsub
  | cons n names ih =>
    obtain ⟨hn, hnames⟩ := List.nodup_cons.mp hnodup
    have hhere : ∀ a ∈ ps.filter (·.1 = n), a.1 = n := fun a ha => by
      simpa using (List.mem_filter.mp ha).2
    have hthere : ∀ a ∈ names.flatMap fun m => ps.filter (·.1 = m), a.1 ≠ n := by
      intro a ha
      obtain ⟨m, hm, ha⟩ := List.mem_flatMap.mp ha
      have hname : a.1 = m := by simpa using (List.mem_filter.mp ha).2
      rw [hname]
      exact ne_of_mem_of_not_mem hm hn
    rw [List.flatMap_cons, List.sublist_append_iff] at hsub
    obtain ⟨l, r, hlr, hl, hr⟩ := hsub
    -- The three pairs lie in one group, or those that lie in the first come before the others.
    match l, hlr, hl with
    | [], hlr, _ =>
      rw [List.nil_append] at hlr
      exact ih hnames (hlr ▸ hr)
    | [a], hlr, hl =>
      obtain ⟨rfl, rfl⟩ : x = a ∧ [y, z] = r := List.cons.inj hlr
      have hx := hhere x (hl.subset (by simp))
      exact absurd (hxz ▸ hx) (hthere z (hr.subset (by simp)))
    | [a, b], hlr, hl =>
      obtain ⟨rfl, htail⟩ := List.cons.inj hlr
      obtain ⟨rfl, rfl⟩ : y = b ∧ [z] = r := List.cons.inj htail
      have hx := hhere x (hl.subset (by simp))
      exact absurd (hxz ▸ hx) (hthere z (hr.subset (by simp)))
    | a :: b :: c :: l, hlr, hl =>
      obtain ⟨rfl, htail⟩ := List.cons.inj hlr
      obtain ⟨rfl, -⟩ := List.cons.inj htail
      rw [hhere x (hl.subset (by simp)), hhere y (hl.subset (by simp))]

theorem filter_append_filter (n : List Char)
    (h : ∀ y z, [y, z].Sublist ps → z.1 = n → y.1 = n) :
    ps.filter (·.1 = n) ++ ps.filter (·.1 ≠ n) = ps := by
  induction ps with
  | nil => rfl
  | cons y ps ih =>
    by_cases hy : y.1 = n
    · rw [List.filter_cons_of_pos (by simpa using hy), List.filter_cons_of_neg (by simpa using hy),
        List.cons_append, ih fun a b hab => h a b (hab.cons y)]
    · have hnone : ps.filter (·.1 = n) = [] := by
        rw [List.filter_eq_nil_iff]
        intro z hz hname
        have hpair : [y, z].Sublist (y :: ps) := (List.singleton_sublist.mpr hz).cons_cons y
        exact hy (h y z hpair (by simpa using hname))
      have hall : ps.filter (·.1 ≠ n) = ps := by
        rw [List.filter_eq_self]
        intro z hz
        have hnot := List.filter_eq_nil_iff.mp hnone z hz
        simpa using hnot
      rw [List.filter_cons_of_neg (by simpa using hy), List.filter_cons_of_pos (by simpa using hy),
        hnone, hall, List.nil_append]

theorem regroup_of_contiguous (h : Contiguous ps) : regroup ps = ps := by
  induction ps using regroup_induction with
  | nil => rfl
  | cons x r ih =>
    have hsplit : r.filter (·.1 = x.1) ++ r.filter (·.1 ≠ x.1) = r :=
      filter_append_filter x.1 fun y z hyz hz => h x y z (hyz.cons_cons x) hz.symm
    have hrest : Contiguous (r.filter (·.1 ≠ x.1)) := fun a b c habc =>
      h a b c ((habc.trans List.filter_sublist).cons x)
    rw [regroup_cons, ih hrest, hsplit]

theorem regroup_eq_self_iff : regroup ps = ps ↔ Contiguous ps :=
  ⟨fun h => h ▸ contiguous_regroup ps, regroup_of_contiguous⟩

/-! ## Queries -/

/-- A pair as it is written. -/
def encodePair (x : List Char × List Char) : List Char := encodeField x.1 ++ '=' :: encodeField x.2

theorem renderQuery_eq (params : Params) :
    renderQuery params = Text.join ['&'] ((flatten params).map encodePair) := by
  rw [renderQuery, flatten, List.map_flatMap]
  simp only [List.map_map]
  rfl

theorem mem_join {sep c : Char} {texts : List (List Char)} (h : c ∈ Text.join [sep] texts) :
    c = sep ∨ ∃ t ∈ texts, c ∈ t := by
  induction texts with
  | nil => cases h
  | cons t texts ih =>
    cases texts with
    | nil =>
      rw [Text.join_singleton] at h
      exact .inr ⟨t, List.mem_cons_self, h⟩
    | cons u texts =>
      rw [Text.join_cons (List.cons_ne_nil u texts), List.mem_append, List.mem_cons] at h
      rcases h with h | rfl | h
      · exact .inr ⟨t, List.mem_cons_self, h⟩
      · exact .inl rfl
      · refine (ih h).imp_right ?_
        rintro ⟨w, hw, hc⟩
        exact ⟨w, List.mem_cons_of_mem t hw, hc⟩

theorem mem_renderQuery {c : Char} (h : c ∈ renderQuery params) :
    isUnreserved c = true ∨ c ∈ ['&', '=', '+', '%'] := by
  rw [renderQuery_eq] at h
  rcases mem_join h with rfl | ⟨t, ht, hc⟩
  · exact .inr (by decide)
  · obtain ⟨x, -, rfl⟩ := List.mem_map.mp ht
    rw [encodePair, List.mem_append, List.mem_cons] at hc
    rcases hc with hc | rfl | hc
    · rcases mem_encodeField hc with hsafe | rfl | rfl
      · exact .inl hsafe
      · exact .inr (by decide)
      · exact .inr (by decide)
    · exact .inr (by decide)
    · rcases mem_encodeField hc with hsafe | rfl | rfl
      · exact .inl hsafe
      · exact .inr (by decide)
      · exact .inr (by decide)

theorem notMem_encodePair (x : List Char × List Char) : '&' ∉ encodePair x := by
  rw [encodePair, List.mem_append, List.mem_cons]
  have hfield : ∀ s, '&' ∉ encodeField s :=
    notMem_encodeField (by decide) (by decide) (by decide)
  rintro (h | h | h)
  · exact hfield _ h
  · cases h
  · exact hfield _ h

/-- **The pairs of a written query are those that it was written from.** -/
theorem readPairs_renderQuery (params : Params) : readPairs (renderQuery params) = flatten params := by
  have hnonempty : ∀ t ∈ (flatten params).map encodePair, t ≠ [] := by
    intro t ht
    obtain ⟨x, -, rfl⟩ := List.mem_map.mp ht
    simp [encodePair]
  have hpieces : (Text.splitOn '&' (renderQuery params)).filter (· ≠ []) =
      (flatten params).map encodePair := by
    rw [renderQuery_eq]
    by_cases hnil : (flatten params).map encodePair = []
    · rw [hnil]
      rfl
    · rw [Text.splitOn_join hnil fun t ht => ?_, List.filter_eq_self.mpr]
      · intro t ht
        simpa using hnonempty t ht
      · obtain ⟨x, -, rfl⟩ := List.mem_map.mp ht
        exact notMem_encodePair x
  rw [readPairs, hpieces, List.map_map]
  conv_rhs => rw [← List.map_id (flatten params)]
  refine List.map_congr_left fun x _ => ?_
  have hequals : '=' ∉ encodeField x.1 := notMem_encodeField (by decide) (by decide) (by decide) _
  simp only [Function.comp_apply, encodePair, Text.cutAt_append hequals, Option.getD_some,
    decodeField_encodeField, id_eq]

/-- **A written query has the parameters that it was written from.** -/
theorem readQuery_renderQuery (h : IsTable params) : readQuery (renderQuery params) = params := by
  change gather (readPairs (renderQuery params)) = params
  rw [readPairs_renderQuery, gather_flatten h]

theorem isTable_readQuery (query : List Char) : IsTable (readQuery query) :=
  isTable_gather (readPairs query)

/-- **A query that is read and written again has its pairs regrouped**, also if names are left out. -/
theorem readPairs_renderQuery_filter (f : List Char → Bool) (query : List Char) :
    readPairs (renderQuery ((readQuery query).filter fun x => f x.1)) =
      regroup ((readPairs query).filter fun x => f x.1) := by
  have hgather : readQuery query = gather (readPairs query) := rfl
  rw [readPairs_renderQuery, hgather, filter_gather, flatten_gather]

end Gleaner.Url
