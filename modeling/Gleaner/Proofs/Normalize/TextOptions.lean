import Gleaner.Normalize.Text
import Gleaner.Proofs.Text.Collapse

/-! # Options of a text rule

A text is collapsed, then trimmed, then cut. Collapsed texts stay collapsed under the two later steps, but
a cut can fall behind a blank of the text, and then a trimmed text ends in a blank again. That is the only
way in which one option takes back what another one did (`normalize_options`). -/

namespace Gleaner.Normalize

open Text (isBlank Collapsed)

theorem cut_of_nonneg {n : Int} (h : 0 ≤ n) (s : List Char) : cut n s = s.take n.toNat := by
  unfold cut
  split
  next hle => exact (List.take_of_length_le (by omega)).symm
  next => rfl

namespace TextRule

/-- A rule that keeps the case of a text and does not count from its end. -/
structure IsPlain (rule : TextRule) : Prop where
  lowercase : rule.lowercase = false
  uppercase : rule.uppercase = false
  maxLength : ∀ n ∈ rule.maxLength, 0 ≤ n

/-- The rule without its bound. -/
def uncut (rule : TextRule) : TextRule := { rule with maxLength := none }

/-- Whether a text is cut right behind a blank. -/
def CutsBehindBlank (rule : TextRule) (s : List Char) : Prop :=
  ∃ n ∈ rule.maxLength, n < ((rule.uncut.apply s).length : Int) ∧
    ∃ c ∈ ((rule.uncut.apply s).take n.toNat).getLast?, isBlank c = true

variable {rule : TextRule} {s : List Char} {v : Value}

theorem normalize_eq (rule : TextRule) (hv : v.isNone = false) :
    rule.normalize v = .str (.ofList (rule.apply v.display.toList)) := by
  cases v with
  | none => cases hv
  | _ => rfl

theorem normalize_ofList (rule : TextRule) (s : List Char) :
    rule.normalize (.str (.ofList s)) = .str (.ofList (rule.apply s)) := by
  rw [normalize_eq rule rfl, Value.display, String.toList_ofList]

theorem apply_of_none (rule : TextRule) (h : rule.maxLength = none) (s : List Char) :
    rule.apply s = rule.uncut.apply s := by
  unfold apply uncut
  rw [h]

theorem IsPlain.apply_of_some (h : rule.IsPlain) {n : Int} (hn : rule.maxLength = some n)
    (s : List Char) : rule.apply s = (rule.uncut.apply s).take n.toNat := by
  rw [← cut_of_nonneg (h.maxLength n hn)]
  unfold apply uncut
  rw [hn]

theorem IsPlain.uncut_apply (h : rule.IsPlain) (s : List Char) : rule.uncut.apply s =
    if rule.trim then Text.trim (if rule.collapse then Text.collapse s else s)
    else if rule.collapse then Text.collapse s else s := by
  unfold apply uncut
  dsimp only
  rw [h.lowercase, h.uppercase]
  rfl

theorem IsPlain.collapsed_uncut (h : rule.IsPlain) (hcollapse : rule.collapse = true)
    (s : List Char) : Collapsed (rule.uncut.apply s) := by
  have hs := Text.collapsed_collapse s
  rw [h.uncut_apply, if_pos hcollapse]
  split
  · exact hs.trim
  · exact hs

theorem IsPlain.trimmed_uncut (h : rule.IsPlain) (htrim : rule.trim = true) (s : List Char) :
    Text.trim (rule.uncut.apply s) = rule.uncut.apply s := by
  rw [h.uncut_apply, if_pos htrim, Text.trim_trim]

theorem IsPlain.collapsed_apply (h : rule.IsPlain) (hcollapse : rule.collapse = true)
    (s : List Char) : Collapsed (rule.apply s) := by
  have hs := h.collapsed_uncut hcollapse s
  cases hn : rule.maxLength with
  | none =>
    rw [apply_of_none rule hn]
    exact hs
  | some n =>
    rw [h.apply_of_some hn]
    exact hs.take n.toNat

theorem IsPlain.length_apply (h : rule.IsPlain) {n : Int} (hn : n ∈ rule.maxLength)
    (s : List Char) : ((rule.apply s).length : Int) ≤ n := by
  have hnonneg := h.maxLength n hn
  have hlength := List.length_take_le n.toNat (rule.uncut.apply s)
  rw [h.apply_of_some hn]
  omega

theorem IsPlain.head_apply (h : rule.IsPlain) (htrim : rule.trim = true) {c : Char}
    (hc : c ∈ (rule.apply s).head?) : isBlank c = false := by
  have hhead := (Text.trim_eq_self_iff.mp (h.trimmed_uncut htrim s)).1
  cases hn : rule.maxLength with
  | none =>
    rw [apply_of_none rule hn] at hc
    exact hhead c hc
  | some n =>
    rw [h.apply_of_some hn, List.head?_take] at hc
    split at hc
    · cases hc
    · exact hhead c hc

/-- A trimmed text that is cut ends in a blank just if the cut falls behind one. -/
theorem IsPlain.last_apply_iff (h : rule.IsPlain) (htrim : rule.trim = true) (s : List Char) :
    (∀ c ∈ (rule.apply s).getLast?, isBlank c = false) ↔ ¬ rule.CutsBehindBlank s := by
  have hlast := (Text.trim_eq_self_iff.mp (h.trimmed_uncut htrim s)).2
  constructor
  · rintro hends ⟨n, hn, -, c, hc, hblank⟩
    rw [← h.apply_of_some hn] at hc
    rw [hends c hc] at hblank
    cases hblank
  · intro hcut c hc
    rw [← Bool.not_eq_true]
    intro hblank
    cases hn : rule.maxLength with
    | none =>
      rw [apply_of_none rule hn] at hc
      rw [hlast c hc] at hblank
      cases hblank
    | some n =>
      rw [h.apply_of_some hn] at hc
      have hlong : n < ((rule.uncut.apply s).length : Int) := by
        -- A text that is not longer is not cut, so that it ends as it was trimmed.
        by_contra hshort
        rw [List.take_of_length_le (by omega)] at hc
        rw [hlast c hc] at hblank
        cases hblank
      exact hcut ⟨n, hn, hlong, c, hc, hblank⟩

theorem IsPlain.trim_apply_iff (h : rule.IsPlain) (htrim : rule.trim = true) (s : List Char) :
    Text.trim (rule.apply s) = rule.apply s ↔ ¬ rule.CutsBehindBlank s := by
  rw [Text.trim_eq_self_iff, h.last_apply_iff htrim]
  exact and_iff_right fun c hc => h.head_apply htrim hc

/-- On a text that is collapsed and short enough a rule only trims. -/
theorem IsPlain.apply_of_collapsed (h : rule.IsPlain)
    (hcollapse : rule.collapse = true → Collapsed s)
    (hlength : ∀ n ∈ rule.maxLength, (s.length : Int) ≤ n) :
    rule.apply s = if rule.trim then Text.trim s else s := by
  have huncut : rule.uncut.apply s = if rule.trim then Text.trim s else s := by
    have hself : (if rule.collapse then Text.collapse s else s) = s := by
      split
      next hon => exact (hcollapse hon).collapse_eq
      · rfl
    rw [h.uncut_apply, hself]
  cases hn : rule.maxLength with
  | none => rw [apply_of_none rule hn, huncut]
  | some n =>
    have hshort : (if rule.trim then Text.trim s else s).length ≤ s.length := by
      split
      · exact (Text.trim_sublist s).length_le
      · exact le_rfl
    have hbound := hlength n hn
    rw [h.apply_of_some hn, huncut, List.take_of_length_le (by omega)]

theorem IsPlain.apply_apply (h : rule.IsPlain) (s : List Char) :
    rule.apply (rule.apply s) = if rule.trim then Text.trim (rule.apply s) else rule.apply s :=
  h.apply_of_collapsed (fun hon => h.collapsed_apply hon s) fun _ hn => h.length_apply hn s

/-- **The options of a text rule hold together but for one case**: a text that is trimmed ends in a blank
just if it is cut behind one. A second pass only trims off what such a cut has left, so that it changes
nothing otherwise. -/
theorem normalize_options (h : rule.IsPlain) (hv : v.isNone = false) :
    ∃ s, rule.normalize v = .str (.ofList s) ∧
      (rule.collapse = true → Collapsed s) ∧
      (∀ n ∈ rule.maxLength, (s.length : Int) ≤ n) ∧
      (rule.trim = true → (∀ c ∈ s.head?, isBlank c = false) ∧
        ((∀ c ∈ s.getLast?, isBlank c = false) ↔ ¬ rule.CutsBehindBlank v.display.toList)) ∧
      rule.normalize (rule.normalize v) = .str (.ofList (if rule.trim then Text.trim s else s)) ∧
      (rule.normalize (rule.normalize v) = rule.normalize v ↔
        (rule.trim = true → ¬ rule.CutsBehindBlank v.display.toList)) := by
  have hagain : rule.normalize (rule.normalize v) = .str (.ofList
      (if rule.trim then Text.trim (rule.apply v.display.toList) else rule.apply v.display.toList)) := by
    rw [normalize_eq rule hv, normalize_ofList, h.apply_apply]
  refine ⟨rule.apply v.display.toList, normalize_eq rule hv, fun hon => h.collapsed_apply hon _,
    fun n hn => h.length_apply hn _, fun htrim => ⟨fun c hc => h.head_apply htrim hc,
      h.last_apply_iff htrim _⟩, hagain, ?_⟩
  rw [hagain, normalize_eq rule hv]
  cases htrim : rule.trim with
  | false => simp
  | true =>
    rw [if_pos rfl, Value.str.injEq, String.ofList_inj, h.trim_apply_iff htrim]
    simp

/-- A text that is cut behind a space. -/
theorem normalize_options_hello :
    ({ collapse := true, maxLength := some 6 } : TextRule).IsPlain ∧
    (Value.str " hello \n world ").isNone = false ∧
    ({ collapse := true, maxLength := some 6 } : TextRule).CutsBehindBlank
      " hello \n world ".toList ∧
    ({ collapse := true, maxLength := some 6 } : TextRule).normalize (.str " hello \n world ") =
      .str "hello " ∧
    ({ collapse := true, maxLength := some 6 } : TextRule).normalize (.str "hello ") =
      .str "hello" := by
  have hplain : ({ collapse := true, maxLength := some 6 } : TextRule).IsPlain :=
    ⟨rfl, rfl, by rintro _ ⟨⟩; decide⟩
  have hcut : ({ collapse := true, maxLength := some 6 } : TextRule).CutsBehindBlank
      " hello \n world ".toList := ⟨6, rfl, by decide, ' ', rfl, rfl⟩
  have hfirst : ({ collapse := true, maxLength := some 6 } : TextRule).normalize
      (.str " hello \n world ") = .str "hello " := rfl
  obtain ⟨s, hs, -, -, -, hagain, -⟩ := normalize_options hplain (v := .str " hello \n world ") rfl
  rw [hfirst] at hs hagain
  rw [Value.str.injEq] at hs
  refine ⟨hplain, rfl, hcut, hfirst, hagain.trans ?_⟩
  rw [if_pos rfl, ← String.toList_ofList (l := s), ← hs]
  rfl

end TextRule

end Gleaner.Normalize
