import Gleaner.Proofs.Url.Field
import Gleaner.Proofs.Url.Location

/-! # Schemes

A scheme begins with a letter, goes up to the first colon, and is read in lower case. What it is made of
has no part in what follows it: a text without a scheme has none with a query or a fragment behind it
either (`takeScheme?_append_eq_none`). -/

namespace Gleaner.Url

/-- A text that is read as a scheme in front of a colon. -/
structure IsSchemeText (s : List Char) : Prop where
  head : ∃ c ∈ s.head?, c.isAlpha = true
  chars : ∀ c ∈ s, isSchemeChar c = true

/-- A scheme as it is read, in lower case. -/
structure IsScheme (s : List Char) : Prop extends IsSchemeText s where
  lower : s.map Char.toLower = s

variable {s url : List Char}

/-! ## Characters of a scheme -/

theorem toNat_lt_of_isSchemeChar {c : Char} (h : isSchemeChar c = true) : c.toNat < 128 := by
  simp only [isSchemeChar, Bool.or_eq_true, decide_eq_true_eq] at h
  rcases h with ((h | rfl) | rfl) | rfl
  · exact toNat_lt_of_isAlphanum h
  all_goals decide

theorem isSchemeChar_toLower {c : Char} (h : isSchemeChar c = true) :
    isSchemeChar c.toLower = true ∧ (c.isAlpha = true → c.toLower.isAlpha = true) ∧
      c.toLower.toLower = c.toLower := by
  have hascii := toNat_lt_of_isSchemeChar h
  revert h
  apply forall_ascii _ hascii
  decide

theorem isKept_of_isSchemeChar {c : Char} (h : isSchemeChar c = true) :
    isKept c = true ∧ 32 < c.toNat ∧ c ≠ ':' := by
  have hascii := toNat_lt_of_isSchemeChar h
  revert h
  apply forall_ascii _ hascii
  decide

theorem isBlank_of_isSchemeChar {c : Char} (h : isSchemeChar c = true) :
    Text.isBlank c = false := by
  have hascii := toNat_lt_of_isSchemeChar h
  revert h
  apply forall_ascii _ hascii
  decide

theorem IsSchemeText.notMem (h : IsSchemeText s) : ':' ∉ s :=
  fun hmem => (isKept_of_isSchemeChar (h.chars ':' hmem)).2.2 rfl

theorem IsSchemeText.map_toLower (h : IsSchemeText s) : IsScheme (s.map Char.toLower) where
  head := by
    obtain ⟨c, hc, halpha⟩ := h.head
    refine ⟨c.toLower, by simp [Option.mem_def.mp hc], ?_⟩
    exact (isSchemeChar_toLower (h.chars c (List.mem_of_mem_head? hc))).2.1 halpha
  chars := by
    intro d hd
    obtain ⟨c, hc, rfl⟩ := List.mem_map.mp hd
    exact (isSchemeChar_toLower (h.chars c hc)).1
  lower := by
    rw [List.map_map]
    exact List.map_congr_left fun c hc => (isSchemeChar_toLower (h.chars c hc)).2.2

/-! ## Schemes in front of a text -/

theorem takeScheme?_eq_some_iff {own after : List Char} : takeScheme? s = some (own, after) ↔
    ∃ text, IsSchemeText text ∧ s = text ++ ':' :: after ∧ text.map Char.toLower = own := by
  constructor
  · intro h
    obtain ⟨before, rest, hcut, -, hs⟩ := Text.cutAt_spec ':' s
    unfold takeScheme? at h
    rw [hcut] at h
    match before, rest with
    | [], _ | _ :: _, none => cases h
    | c :: r, some rest =>
      dsimp only at h
      split at h
      next hscheme =>
        rw [Bool.and_eq_true, List.all_eq_true] at hscheme
        simp only [Option.some.injEq, Prod.mk.injEq] at h
        obtain ⟨rfl, rfl⟩ := h
        exact ⟨c :: r, ⟨⟨c, rfl, hscheme.1⟩, hscheme.2⟩, hs.symm, rfl⟩
      · cases h
  · rintro ⟨text, htext, rfl, rfl⟩
    obtain ⟨c, hc, halpha⟩ := htext.head
    obtain ⟨r, rfl⟩ := List.head?_eq_some_iff.mp hc
    unfold takeScheme?
    rw [Text.cutAt_append htext.notMem]
    dsimp only
    rw [if_pos]
    rw [Bool.and_eq_true, List.all_eq_true]
    exact ⟨halpha, htext.chars⟩

/-- A scheme cannot begin in a text and end behind it. -/
theorem takeScheme?_append_eq_none (h : takeScheme? s = none) {t : List Char}
    (ht : ∀ c ∈ t.head?, isSchemeChar c = false ∧ c ≠ ':') : takeScheme? (s ++ t) = none := by
  rw [Option.eq_none_iff_forall_ne_some]
  rintro ⟨own, after⟩ hsome
  obtain ⟨text, htext, happend, -⟩ := takeScheme?_eq_some_iff.mp hsome
  rcases List.append_eq_append_iff.mp happend with ⟨gap, rfl, rfl⟩ | ⟨gap, rfl, hgap⟩
  · cases gap with
    | nil => exact (ht ':' rfl).2 rfl
    | cons d gap =>
      have hd := htext.chars d (by simp)
      rw [(ht d rfl).1] at hd
      cases hd
  · cases gap with
    | nil => exact (ht ':' (by rw [← List.nil_append t, ← hgap]; rfl)).2 rfl
    | cons d gap =>
      obtain ⟨rfl, -⟩ := List.cons.inj hgap
      rw [takeScheme?_eq_some_iff.mpr ⟨text, htext, rfl, rfl⟩] at h
      cases h

theorem takeScheme?_mono {t : List Char} (h : takeScheme? t = none) (hs : s <+: t) :
    takeScheme? s = none := by
  rw [Option.eq_none_iff_forall_ne_some]
  rintro ⟨own, after⟩ hsome
  obtain ⟨text, htext, rfl, -⟩ := takeScheme?_eq_some_iff.mp hsome
  obtain ⟨rest, rfl⟩ := hs
  rw [takeScheme?_eq_some_iff.mpr ⟨text, htext, List.append_assoc text _ rest, rfl⟩] at h
  cases h

/-! ## Schemes of URLs -/

theorem clean_eq_self (hkept : ∀ c ∈ s, isKept c = true) (hhead : ∀ c ∈ s.head?, 32 < c.toNat) :
    clean s = s := by
  have hdrop : s.dropWhile (·.toNat ≤ 32) = s := by
    cases s with
    | nil => rfl
    | cons c s => exact List.dropWhile_cons_of_neg (by simpa using hhead c rfl)
  rw [clean, hdrop]
  exact List.filter_eq_self.mpr hkept

theorem IsScheme.ne_nil (h : IsScheme s) : s ≠ [] := by
  rintro rfl
  obtain ⟨c, hc, -⟩ := h.head
  cases hc

/-- In front of what is kept a scheme is found again. -/
theorem IsScheme.takeScheme?_clean (h : IsScheme s) {t : List Char}
    (ht : ∀ c ∈ t, isKept c = true) : takeScheme? (clean (s ++ ':' :: t)) = some (s, t) := by
  have hclean : clean (s ++ ':' :: t) = s ++ ':' :: t := by
    refine clean_eq_self ?_ fun c hc => ?_
    · rw [List.forall_mem_append, List.forall_mem_cons]
      exact ⟨fun c hc => (isKept_of_isSchemeChar (h.chars c hc)).1, by decide, ht⟩
    · rw [List.head?_append_of_ne_nil _ h.ne_nil] at hc
      exact (isKept_of_isSchemeChar (h.chars c (List.mem_of_mem_head? hc))).2.1
  rw [hclean]
  exact takeScheme?_eq_some_iff.mpr ⟨s, h.toIsSchemeText, rfl, h.lower⟩

theorem isScheme_schemeOf (url : List Char) : schemeOf url [] = [] ∨ IsScheme (schemeOf url []) := by
  unfold schemeOf
  split
  next own after h =>
    obtain ⟨text, htext, -, rfl⟩ := takeScheme?_eq_some_iff.mp h
    exact .inr htext.map_toLower
  next => exact .inl rfl

theorem behindScheme_of_schemeOf (h : schemeOf url [] = []) :
    takeScheme? (clean url) = none ∧ behindScheme url = clean url := by
  unfold schemeOf at h
  unfold behindScheme
  cases htake : takeScheme? (clean url) with
  | none => exact ⟨rfl, rfl⟩
  | some x =>
    obtain ⟨text, htext, -, hown⟩ := takeScheme?_eq_some_iff.mp htake
    rw [htake] at h
    obtain rfl : text = [] := List.map_eq_nil_iff.mp (hown.trans h)
    obtain ⟨c, hc, -⟩ := htext.head
    cases hc

theorem lt_of_mem_head?_clean {c : Char} (h : c ∈ (clean url).head?) : 32 < c.toNat := by
  have hnot := List.head?_dropWhile_not (fun c : Char => decide (c.toNat ≤ 32)) url
  unfold clean at h
  cases hdrop : url.dropWhile (fun c => decide (c.toNat ≤ 32)) with
  | nil =>
    rw [hdrop] at h
    cases h
  | cons d r =>
    rw [hdrop] at h hnot
    change c ∈ ((d :: r).filter isKept).head? at h
    have hlt : 32 < d.toNat := by simpa using hnot
    have hkept : isKept d = true := by
      simp only [isKept, Bool.and_eq_true, decide_eq_true_eq]
      refine ⟨⟨?_, ?_⟩, ?_⟩ <;> rintro rfl <;> exact absurd hlt (by decide)
    rw [List.filter_cons_of_pos hkept] at h
    exact Option.some.inj h ▸ hlt

end Gleaner.Url
