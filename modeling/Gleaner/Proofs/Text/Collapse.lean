import Gleaner.Proofs.Text.Pieces
import Mathlib.Data.List.Chain

/-! # Collapsed texts

In a collapsed text every blank is a space and no two blanks are neighbours. Collapsing leads to such a
text (`collapsed_collapse`) and leaves it as it is (`Collapsed.collapse_eq`). Trimming or cutting a text
keeps it collapsed. -/

namespace Gleaner.Text

/-- A text without runs of blanks and without blanks other than the space. -/
structure Collapsed (s : List Char) : Prop where
  apart : s.IsChain fun c d => ¬ (isBlank c = true ∧ isBlank d = true)
  spaces : ∀ c ∈ s, isBlank c = true → c = ' '

section Collapse

variable {s a b : List Char}

theorem collapse_cons_of_not_isBlank {c : Char} (h : isBlank c = false) (s : List Char) :
    collapse (c :: s) = c :: collapse s := by
  rw [collapse.eq_def]
  exact if_neg (by rw [h]; exact Bool.false_ne_true)

theorem collapse_cons_of_isBlank {c : Char} (h : isBlank c = true) (s : List Char) :
    collapse (c :: s) = ' ' :: collapse (trimStart s) := by
  induction s generalizing c with
  | nil =>
    rw [collapse, if_pos h]
    rfl
  | cons d r ih =>
    rw [collapse, if_pos h]
    cases hd : isBlank d with
    | false =>
      have hself : trimStart (d :: r) = d :: r := trimStart_eq_self_iff.mpr (by simpa using hd)
      rw [if_neg Bool.false_ne_true, hself]
    | true =>
      have hdrop : trimStart (d :: r) = trimStart r := List.dropWhile_cons_of_pos hd
      rw [if_pos rfl, ih hd, hdrop]

theorem head?_collapse_of_not_isBlank (h : ∀ c ∈ s.head?, isBlank c = false) :
    (collapse s).head? = s.head? := by
  cases s with
  | nil => rfl
  | cons c r => rw [collapse_cons_of_not_isBlank (h c rfl), List.head?_cons, List.head?_cons]

theorem Collapsed.nil : Collapsed [] := ⟨.nil, fun _ hc => absurd hc List.not_mem_nil⟩

theorem Collapsed.cons {c : Char} (hc : isBlank c = true → c = ' ') (h : Collapsed s)
    (hs : isBlank c = true → ∀ d ∈ s.head?, isBlank d = false) : Collapsed (c :: s) where
  apart := by
    apply h.apart.cons
    rintro d hd ⟨hblank, hblank'⟩
    rw [hs hblank d hd] at hblank'
    cases hblank'
  spaces := List.forall_mem_cons.mpr ⟨hc, h.spaces⟩

theorem Collapsed.left_of_append (h : Collapsed (a ++ b)) : Collapsed a where
  apart := h.apart.left_of_append
  spaces c hc := h.spaces c (List.mem_append_left b hc)

theorem Collapsed.right_of_append (h : Collapsed (a ++ b)) : Collapsed b where
  apart := h.apart.right_of_append
  spaces c hc := h.spaces c (List.mem_append_right a hc)

theorem Collapsed.take (h : Collapsed s) (n : Nat) : Collapsed (s.take n) := by
  rw [← List.take_append_drop n s] at h
  exact h.left_of_append

theorem Collapsed.trim (h : Collapsed s) : Collapsed (trim s) := by
  obtain ⟨p, q, hs, -, -⟩ := exists_blanks_around s
  rw [hs] at h
  exact h.left_of_append.right_of_append

/-- What is collapsed is a collapsed text. -/
theorem collapsed_collapse (s : List Char) : Collapsed (collapse s) := by
  -- Behind a blank the recursion goes on where the next one that is no blank stands.
  induction hn : s.length using Nat.strong_induction_on generalizing s with
  | _ n ih =>
  cases s with
  | nil => exact .nil
  | cons c r =>
    rw [List.length_cons] at hn
    cases hc : isBlank c with
    | false =>
      rw [collapse_cons_of_not_isBlank hc]
      refine (ih r.length (by omega) r rfl).cons ?_ ?_ <;>
      · intro hblank
        rw [hc] at hblank
        cases hblank
    | true =>
      have hlength : (trimStart r).length ≤ r.length := (trimStart_sublist r).length_le
      rw [collapse_cons_of_isBlank hc]
      refine (ih (trimStart r).length (by omega) _ rfl).cons (fun _ => rfl) fun _ d hd => ?_
      rw [head?_collapse_of_not_isBlank fun _ => isBlank_of_mem_head?] at hd
      exact isBlank_of_mem_head? hd

/-- A collapsed text is its own. -/
theorem Collapsed.collapse_eq (h : Collapsed s) : collapse s = s := by
  induction s with
  | nil => rfl
  | cons c r ih =>
    have hr : Collapsed r := Collapsed.right_of_append (a := [c]) h
    cases hc : isBlank c with
    | false => rw [collapse_cons_of_not_isBlank hc, ih hr]
    | true =>
      have hstart : trimStart r = r := by
        rw [trimStart_eq_self_iff]
        intro d hd
        rw [← Bool.not_eq_true]
        exact fun hblank => (List.isChain_cons.mp h.apart).1 d hd ⟨hc, hblank⟩
      rw [collapse_cons_of_isBlank hc, hstart, ih hr, h.spaces c List.mem_cons_self hc]

end Collapse

end Gleaner.Text
