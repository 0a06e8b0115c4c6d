import Gleaner.Filter.Builtin
import Gleaner.Proofs.Normalize.TextOptions
import Gleaner.Proofs.Text.Collapse
import Gleaner.Proofs.Traced

/-! # Words and squished texts

The words of a text, and the filter that leaves nothing but them. -/

namespace Gleaner.Text

/-! ## Words

The words of a text are its longest runs of characters that are not blank. A text has its words in one
way only, and `words` finds them (`words_eq_iff`). A text that is collapsed and trimmed is its words
with a space between each two of them (`trim_collapse`), and such a text has the same words again
(`hasWords_join`). -/

/-- A run of characters that are not blank. -/
structure IsWord (w : List Char) : Prop where
  ne_nil : w ≠ []
  isBlank : ∀ c ∈ w, isBlank c = false

/-- The words of a text from left to right. Blanks stand before, between and behind them, and no word
stops before a character that is not blank. -/
inductive HasWords : List Char → List (List Char) → Prop where
  | blank {gap : List Char} : (∀ c ∈ gap, isBlank c = true) → HasWords gap []
  | word {gap w rest : List Char} {ws : List (List Char)} : (∀ c ∈ gap, isBlank c = true) →
    IsWord w → (∀ c ∈ rest.head?, isBlank c = true) → HasWords rest ws →
    HasWords (gap ++ w ++ rest) (w :: ws)

section Words

variable {s gap w rest : List Char} {ws : List (List Char)}

theorem IsWord.isBlank_of_head? (h : IsWord w) (rest : List Char) :
    ∀ c ∈ (w ++ rest).head?, Text.isBlank c = false := by
  intro c hc
  rw [List.head?_append_of_ne_nil w h.ne_nil] at hc
  exact h.isBlank c (List.mem_of_mem_head? hc)

/-! ## What is found -/

theorem words_cons_of_isBlank {c : Char} (h : isBlank c = true) (s : List Char) :
    words (c :: s) = words s := by
  rw [words, blankPieces, if_pos h]
  exact List.filter_cons_of_neg (by simp)

theorem words_append_of_blank (h : ∀ c ∈ gap, isBlank c = true) (s : List Char) :
    words (gap ++ s) = words s := by
  induction gap with
  | nil => rfl
  | cons c gap ih =>
    obtain ⟨hc, hgap⟩ := List.forall_mem_cons.mp h
    rw [List.cons_append, words_cons_of_isBlank hc, ih hgap]

/-- Characters that are not blank come to the first piece. -/
theorem blankPieces_append (hw : ∀ c ∈ w, isBlank c = false) {p : List Char}
    {ps : List (List Char)} (h : blankPieces rest = p :: ps) :
    blankPieces (w ++ rest) = (w ++ p) :: ps := by
  induction w with
  | nil => exact h
  | cons c w ih =>
    obtain ⟨hc, hw⟩ := List.forall_mem_cons.mp hw
    rw [List.cons_append, blankPieces, if_neg (by simp [hc]), ih hw]
    rfl

theorem exists_blankPieces (h : ∀ c ∈ s.head?, isBlank c = true) :
    ∃ ps, blankPieces s = [] :: ps := by
  cases s with
  | nil => exact ⟨[], rfl⟩
  | cons c r =>
    have hc : isBlank c = true := h c rfl
    exact ⟨blankPieces r, by rw [blankPieces, if_pos hc]⟩

theorem words_append (hw : IsWord w) (hrest : ∀ c ∈ rest.head?, isBlank c = true) :
    words (w ++ rest) = w :: words rest := by
  obtain ⟨ps, hps⟩ := exists_blankPieces hrest
  have hpieces := blankPieces_append hw.isBlank hps
  rw [List.append_nil] at hpieces
  rw [words, words, hpieces, hps, List.filter_cons_of_pos (by simpa using hw.ne_nil),
    List.filter_cons_of_neg (by simp)]

theorem HasWords.words_eq (h : HasWords s ws) : words s = ws := by
  induction h with
  | @blank gap hgap =>
    rw [← List.append_nil gap, words_append_of_blank hgap]
    rfl
  | word hgap hw hrest _ ih =>
    rw [List.append_assoc, words_append_of_blank hgap, words_append hw hrest, ih]

/-- Every text has words. -/
theorem exists_hasWords (s : List Char) : ∃ ws, HasWords s ws := by
  -- The blanks in front, then the first word, and the induction is on what is left behind it.
  induction hn : s.length using Nat.strong_induction_on generalizing s with
  | _ n ih =>
  have hgap : ∀ c ∈ s.takeWhile isBlank, isBlank c = true := fun c hc => List.mem_takeWhile_imp hc
  have hs : s = s.takeWhile isBlank ++ trimStart s := List.takeWhile_append_dropWhile.symm
  cases htrim : trimStart s with
  | nil =>
    rw [htrim, List.append_nil] at hs
    rw [hs]
    exact ⟨[], .blank hgap⟩
  | cons d r =>
    have hd : isBlank d = false := isBlank_of_mem_head? (s := s) (by rw [htrim]; rfl)
    have hword : IsWord ((d :: r).takeWhile (!isBlank ·)) := by
      refine ⟨by simp [hd], fun c hc => ?_⟩
      simpa using List.mem_takeWhile_imp hc
    have hrest : ∀ c ∈ ((d :: r).dropWhile (!isBlank ·)).head?, isBlank c = true := by
      intro c hc
      have hnot := List.head?_dropWhile_not (fun c => !isBlank c) (d :: r)
      rw [show ((d :: r).dropWhile (!isBlank ·)).head? = some c from hc] at hnot
      simpa using hnot
    have hlength : ((d :: r).dropWhile (!isBlank ·)).length < n := by
      have hle := (List.dropWhile_sublist (!isBlank ·) (l := r)).length_le
      have hlt : r.length < s.length := by
        have hsub := (trimStart_sublist s).length_le
        rw [htrim, List.length_cons] at hsub
        omega
      rw [List.dropWhile_cons_of_pos (by simp [hd])]
      omega
    obtain ⟨ws, hws⟩ := ih _ hlength _ rfl
    have hsplit := HasWords.word hgap hword hrest hws
    rw [List.append_assoc, List.takeWhile_append_dropWhile, ← htrim, ← hs] at hsplit
    exact ⟨_, hsplit⟩

/-- **The words of a text are what `words` finds.** -/
theorem words_eq_iff : words s = ws ↔ HasWords s ws := by
  refine ⟨?_, HasWords.words_eq⟩
  rintro rfl
  obtain ⟨ws, hws⟩ := exists_hasWords s
  rwa [hws.words_eq]

theorem hasWords_words (s : List Char) : HasWords s (words s) := words_eq_iff.mp rfl

theorem HasWords.isWord (h : HasWords s ws) : ∀ w ∈ ws, IsWord w := by
  induction h with
  | blank => exact List.forall_mem_nil _
  | word _ hw _ _ ih => exact List.forall_mem_cons.mpr ⟨hw, ih⟩

/-- The words have all characters that are not blank. -/
theorem HasWords.flatten_eq (h : HasWords s ws) : ws.flatten = s.filter (!isBlank ·) := by
  have hblank {gap : List Char} (hgap : ∀ c ∈ gap, isBlank c = true) :
      gap.filter (!isBlank ·) = [] := by
    refine List.filter_eq_nil_iff.mpr fun c hc => ?_
    simp [hgap c hc]
  induction h with
  | blank hgap => rw [hblank hgap, List.flatten_nil]
  | @word gap w rest ws hgap hw _ _ ih =>
    have hkept : w.filter (!isBlank ·) = w :=
      List.filter_eq_self.mpr fun c hc => by simp [hw.isBlank c hc]
    rw [List.filter_append, List.filter_append, hblank hgap, hkept, List.flatten_cons, ih,
      List.nil_append]

/-! ## Blanks around and between -/

theorem HasWords.append_left (h : HasWords s ws) (hgap : ∀ c ∈ gap, isBlank c = true) :
    HasWords (gap ++ s) ws := by
  rw [← words_eq_iff, words_append_of_blank hgap, h.words_eq]

theorem HasWords.append_right (h : HasWords s ws) (hgap : ∀ c ∈ gap, isBlank c = true) :
    HasWords (s ++ gap) ws := by
  induction h with
  | blank hs => exact .blank (List.forall_mem_append.mpr ⟨hs, hgap⟩)
  | @word front w rest ws hfront hw hrest _ ih =>
    rw [List.append_assoc]
    refine .word hfront hw (fun c hc => ?_) ih
    cases rest with
    | nil => exact hgap c (List.mem_of_mem_head? hc)
    | cons d r => exact hrest c hc

theorem words_trim (s : List Char) : words (trim s) = words s := by
  obtain ⟨p, q, hs, hp, hq⟩ := exists_blanks_around s
  have haround := ((hasWords_words (trim s)).append_left hp).append_right hq
  rw [← hs] at haround
  exact haround.words_eq.symm

/-- Words with a space between each two of them are the words of that text. -/
theorem hasWords_join (h : ∀ w ∈ ws, IsWord w) : HasWords (join [' '] ws) ws := by
  have hspace : isBlank ' ' = true := rfl
  induction ws with
  | nil => exact .blank (List.forall_mem_nil _)
  | cons w ws ih =>
    obtain ⟨hw, hws⟩ := List.forall_mem_cons.mp h
    cases hnil : ws with
    | nil =>
      have hone : HasWords ([] ++ w ++ []) [w] :=
        .word (List.forall_mem_nil _) hw (by simp) (.blank (List.forall_mem_nil _))
      simpa using hone
    | cons w' ws' =>
      have hrest : HasWords ([' '] ++ join [' '] ws) ws :=
        (ih hws).append_left (List.forall_mem_singleton.mpr hspace)
      have hword : HasWords ([] ++ w ++ ' ' :: join [' '] ws) (w :: ws) := by
        refine .word (List.forall_mem_nil _) hw ?_ hrest
        rintro c ⟨⟩
        exact hspace
      rw [join_cons (List.cons_ne_nil w' ws'), ← hnil]
      exact hword

theorem join_eq_nil_iff (h : ∀ w ∈ ws, IsWord w) : join [' '] ws = [] ↔ ws = [] := by
  constructor
  · intro hnil
    rw [← (hasWords_join h).words_eq, hnil]
    rfl
  · rintro rfl
    rfl

/-! ## Collapsed and trimmed -/

theorem collapse_append_of_word (hw : ∀ c ∈ w, isBlank c = false) (rest : List Char) :
    collapse (w ++ rest) = w ++ collapse rest := by
  induction w with
  | nil => rfl
  | cons c w ih =>
    obtain ⟨hc, hw⟩ := List.forall_mem_cons.mp hw
    rw [List.cons_append, collapse_cons_of_not_isBlank hc, ih hw, List.cons_append]

theorem trimStart_collapse (s : List Char) :
    trimStart (collapse s) = collapse (trimStart s) := by
  have hself {s : List Char} (h : ∀ c ∈ s.head?, isBlank c = false) :
      trimStart (collapse s) = collapse s := by
    rw [trimStart_eq_self_iff, head?_collapse_of_not_isBlank h]
    exact h
  cases s with
  | nil => rfl
  | cons c r =>
    cases hc : isBlank c with
    | false =>
      have hhead : ∀ d ∈ (c :: r).head?, isBlank d = false := by
        rintro d ⟨⟩
        exact hc
      rw [hself hhead, trimStart_eq_self_iff.mpr hhead]
    | true =>
      have hdrop : trimStart (c :: r) = trimStart r := List.dropWhile_cons_of_pos hc
      have hspace : trimStart (' ' :: collapse (trimStart r)) = trimStart (collapse (trimStart r)) :=
        List.dropWhile_cons_of_pos rfl
      rw [collapse_cons_of_isBlank hc, hspace, hdrop, hself fun _ => isBlank_of_mem_head?]

theorem trimEnd_cons_of_ne_nil (c : Char) (h : trimEnd s ≠ []) :
    trimEnd (c :: s) = c :: trimEnd s := by
  have hne : s.reverse.dropWhile isBlank ≠ [] := fun hnil => h (by rw [trimEnd, hnil]; rfl)
  rw [trimEnd, List.reverse_cons, List.dropWhile_append, if_neg (by simpa using hne),
    List.reverse_append]
  rfl

theorem HasWords.trimEnd_collapse (h : HasWords s ws) :
    trimEnd (collapse (trimStart s)) = join [' '] ws := by
  induction h with
  | blank hgap =>
    rw [trimStart_eq_nil_iff.mpr hgap]
    rfl
  | @word gap w rest ws hgap hw hrest hws ih =>
    have hstart : trimStart (gap ++ w ++ rest) = w ++ rest := by
      rw [List.append_assoc, trimStart_append (hw.isBlank_of_head? rest),
        trimStart_eq_nil_iff.mpr hgap, List.nil_append]
    rw [hstart, collapse_append_of_word hw.isBlank,
      trimEnd_append fun c hc => hw.isBlank c (List.mem_of_mem_getLast? hc)]
    cases rest with
    | nil =>
      obtain rfl : [] = ws := hws.words_eq
      rw [join_singleton]
      exact List.append_nil w
    | cons c r =>
      have hc : isBlank c = true := hrest c rfl
      have hdrop : trimStart (c :: r) = trimStart r := List.dropWhile_cons_of_pos hc
      rw [hdrop] at ih
      rw [collapse_cons_of_isBlank hc]
      -- The space that the gap becomes comes off again if no word is behind it.
      by_cases hnil : ws = []
      · rw [hnil, trimEnd_eq_nil_iff.mpr, join_singleton, List.append_nil]
        rw [hnil] at ih
        exact List.forall_mem_cons.mpr ⟨rfl, trimEnd_eq_nil_iff.mp ih⟩
      · have hne : trimEnd (collapse (trimStart r)) ≠ [] := by
          rw [ih]
          exact fun hjoin => hnil ((join_eq_nil_iff hws.isWord).mp hjoin)
        rw [trimEnd_cons_of_ne_nil ' ' hne, ih, join_cons hnil]

/-- **A text that is collapsed and trimmed is its words with a space between each two of them.** -/
theorem trim_collapse (s : List Char) : trim (collapse s) = join [' '] (words s) := by
  rw [trim, trimStart_collapse, (hasWords_words s).trimEnd_collapse]

end Words

end Gleaner.Text

namespace Gleaner.Filter

open Normalize (TextRule)
open Text (HasWords isBlank words words_eq_iff words_trim hasWords_words hasWords_join)

/-! ## Squished texts

What the filter `squish` makes of a value are the words of its text with a space between each two of
them (`squish_words`). So it does not matter whether a text is trimmed or squished before or after. -/

variable {v : Value}

theorem run_squish (hv : v.isNone = false) :
    squish.run v [] = pure (.str (.ofList (Text.join [' '] (words v.display.toList)))) := by
  change Traced.ofExcept (.ok (TextRule.normalize { collapse := true } v)) = _
  rw [TextRule.normalize_eq _ hv, ← Text.trim_collapse]
  rfl

theorem run_trim (hv : v.isNone = false) :
    trim.run v [] = pure (.str (.ofList (Text.trim v.display.toList))) := by
  change Traced.ofExcept (.ok (TextRule.normalize {} v)) = _
  rw [TextRule.normalize_eq _ hv]
  rfl

/-- Texts with the same words are squished alike. -/
theorem run_squish_ofList {s t : List Char} (h : words s = words t) :
    squish.run (.str (.ofList s)) [] = pure (.str (.ofList (Text.join [' '] (words t)))) := by
  rw [run_squish rfl, Value.display, String.toList_ofList, h]

/-- **A squished text is the words of the text, joined by single spaces.** The words are the longest
runs of characters that are not blank, and all of these characters are left, in their order. Squished
or trimmed once more, before or after, the text comes out the same. -/
theorem squish_words (hv : v.isNone = false) :
    let text := v.display.toList
    let squished := Text.join [' '] (words text)
    (∀ ws, words text = ws ↔ HasWords text ws) ∧
    squish.run v [] = pure (.str (.ofList squished)) ∧
    squished.filter (!isBlank ·) = text.filter (!isBlank ·) ∧
    (squish.run v [] >>= (squish.run · [])) = squish.run v [] ∧
    (trim.run v [] >>= (squish.run · [])) = squish.run v [] ∧
    (squish.run v [] >>= (trim.run · [])) = squish.run v [] := by
  intro text squished
  have hwords : HasWords squished (words text) := hasWords_join (hasWords_words text).isWord
  have htrim : Text.trim squished = squished := by
    have hsquished : Text.trim (Text.collapse text) = squished := Text.trim_collapse text
    rw [← hsquished, Text.trim_trim]
  refine ⟨fun ws => words_eq_iff, run_squish hv, ?_, ?_, ?_, ?_⟩
  · rw [← hwords.flatten_eq, (hasWords_words text).flatten_eq]
  · rw [run_squish hv, pure_bind]
    exact run_squish_ofList hwords.words_eq
  · rw [run_squish hv, run_trim hv, pure_bind]
    exact run_squish_ofList (words_trim text)
  · rw [run_squish hv, pure_bind, run_trim rfl, Value.display, String.toList_ofList]
    exact congrArg (fun s => pure (Value.str (.ofList s))) htrim

/-- Two words with an em space, a line end and an ideographic space around and between them. -/
theorem squish_words_spaced :
    (Value.str "\u2003new\n\t\u3000 books ").isNone = false ∧
    squish.run (.str "\u2003new\n\t\u3000 books ") [] = pure (.str "new books") ∧
    (squish.run (.str "\u2003new\n\t\u3000 books ") [] >>= (trim.run · [])) =
      pure (.str "new books") := by
  obtain ⟨-, hsquish, -, -, -, htrim⟩ :=
    squish_words (v := .str "\u2003new\n\t\u3000 books ") rfl
  exact ⟨rfl, hsquish, htrim.trans hsquish⟩

end Gleaner.Filter
