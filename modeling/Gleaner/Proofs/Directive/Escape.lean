import Gleaner.Directive.Basic
import Gleaner.Proofs.Text.Pieces

/-! # Splitting what was escaped

Splitting a text at its bare separators and joining the escaped parts are inverse to each other. The
one text that does not come back is a part that ends in a backslash before a separator: there the
backslash escapes the separator. -/

namespace Gleaner.Directive

open Gleaner.Text (join join_cons join_singleton)

variable {sep : Char}

section Escape

@[simp]
theorem escape_nil : escape sep [] = [] := rfl

@[simp]
theorem escape_append (p q : List Char) : escape sep (p ++ q) = escape sep p ++ escape sep q :=
  List.flatMap_append

theorem escape_cons_self (p : List Char) : escape sep (sep :: p) = '\\' :: sep :: escape sep p := by
  simp [escape]

theorem escape_cons_of_ne {c : Char} (h : c ≠ sep) (p : List Char) :
    escape sep (c :: p) = c :: escape sep p := by
  simp [escape, h]

theorem escape_of_notMem {p : List Char} (h : sep ∉ p) : escape sep p = p := by
  induction p with
  | nil => rfl
  | cons c p ih =>
    rw [List.mem_cons, not_or] at h
    rw [escape_cons_of_ne (Ne.symm h.1), ih h.2]

/-- Every separator takes one more character. -/
theorem length_escape (p : List Char) : (escape sep p).length = p.length + p.count sep := by
  induction p with
  | nil => rfl
  | cons c p ih =>
    by_cases h : c = sep
    · subst h
      rw [escape_cons_self, List.length_cons, List.length_cons, ih, List.length_cons,
        List.count_cons_self]
      omega
    · rw [escape_cons_of_ne h, List.length_cons, ih, List.length_cons, List.count_cons_of_ne h]
      omega

theorem mem_escape {p : List Char} {c : Char} (h : c ∈ p) : c ∈ escape sep p := by
  rw [escape, List.mem_flatMap]
  refine ⟨c, h, ?_⟩
  split <;> simp

theorem escape_join {d : Char} (h : d ≠ sep) (ps : List (List Char)) :
    escape sep (join [d] ps) = join [d] (ps.map (escape sep)) :=
  Text.flatMap_join (f := fun c => if c = sep then ['\\', c] else [c]) (if_neg h) ps

/-- An escaped text does not begin with a bare separator. -/
theorem head?_escape (hsep : sep ≠ '\\') (p : List Char) : (escape sep p).head? ≠ some sep := by
  cases p with
  | nil => simp
  | cons c p =>
    by_cases h : c = sep
    · rw [h, escape_cons_self]
      simpa using Ne.symm hsep
    · rw [escape_cons_of_ne h]
      simpa using h

end Escape

section Split

theorem splitUnescaped_escaped (t : List Char) :
    splitUnescaped sep ('\\' :: sep :: t) = extendHead sep (splitUnescaped sep t) := by
  simp [splitUnescaped]

theorem splitUnescaped_sep (hsep : sep ≠ '\\') (t : List Char) :
    splitUnescaped sep (sep :: t) = [] :: splitUnescaped sep t := by
  cases t with
  | nil => simp [splitUnescaped]
  | cons d r => simp [splitUnescaped, hsep]

theorem splitUnescaped_cons {c : Char} (hc : c ≠ sep) {t : List Char}
    (ht : c = '\\' → t.head? ≠ some sep) :
    splitUnescaped sep (c :: t) = extendHead c (splitUnescaped sep t) := by
  cases t with
  | nil => simp [splitUnescaped, hc, extendHead]
  | cons d r =>
    rw [splitUnescaped, if_neg fun h => ht h.1 (by rw [h.2]; rfl), if_neg hc]

theorem splitUnescaped_ne_nil (t : List Char) : splitUnescaped sep t ≠ [] := by
  have hextend : ∀ c ps, extendHead c ps ≠ [] := fun c ps => by cases ps <;> simp [extendHead]
  fun_cases splitUnescaped sep t <;> simp [hextend]

/-- Texts are read from the left: an escaped separator, a bare separator, or another character,
which is a backslash only where no separator follows. -/
theorem scan_induction (sep : Char) {motive : List Char → Prop} (nil : motive [])
    (escaped : ∀ t, motive t → motive ('\\' :: sep :: t))
    (bare : ∀ t, motive t → motive (sep :: t))
    (other : ∀ c t, c ≠ sep → (c = '\\' → t.head? ≠ some sep) → motive t → motive (c :: t)) :
    ∀ t, motive t := by
  intro t
  fun_induction splitUnescaped sep t with
  | case1 => exact nil
  | case2 => exact bare [] nil
  | case3 c h => exact other c [] h (by simp) nil
  | case4 c d r h ih =>
    obtain ⟨rfl, rfl⟩ := h
    exact escaped r ih
  | case5 d r _ ih => exact bare (d :: r) ih
  | case6 c d r h hc ih =>
    exact other c (d :: r) hc (fun hb hd => h ⟨hb, by simpa using hd⟩) ih

/-- An escaped text goes to the front of the first part of what follows it. -/
theorem splitUnescaped_escape_append (hsep : sep ≠ '\\') {p t q : List Char}
    {qs : List (List Char)} (ht : t.head? = some sep → p.getLast? ≠ some '\\')
    (hq : splitUnescaped sep t = q :: qs) :
    splitUnescaped sep (escape sep p ++ t) = (p ++ q) :: qs := by
  induction p with
  | nil => simpa using hq
  | cons c p ih =>
    have hrest : splitUnescaped sep (escape sep p ++ t) = (p ++ q) :: qs := by
      refine ih fun h hp => ht h ?_
      rw [List.getLast?_cons, hp]
      rfl
    by_cases hc : c = sep
    · subst hc
      rw [escape_cons_self, List.cons_append, List.cons_append, splitUnescaped_escaped, hrest]
      rfl
    · rw [escape_cons_of_ne hc, List.cons_append, splitUnescaped_cons hc, hrest]
      · rfl
      · -- The next character stands in the escaped rest, or it is the first one of `t`.
        intro hb hhead
        cases p with
        | nil => exact ht (by simpa using hhead) (by rw [hb]; rfl)
        | cons d p =>
          rw [List.head?_append] at hhead
          cases h : (escape sep (d :: p)).head? with
          | none =>
            rw [List.head?_eq_none_iff, ← List.length_eq_zero_iff, length_escape] at h
            simp at h
          | some e =>
            rw [h] at hhead
            exact head?_escape hsep (d :: p) (h.trans hhead)

theorem splitUnescaped_escape (hsep : sep ≠ '\\') (p : List Char) :
    splitUnescaped sep (escape sep p) = [p] := by
  simpa using splitUnescaped_escape_append hsep (p := p) (t := []) (by simp) rfl

theorem splitUnescaped_escape_sep (hsep : sep ≠ '\\') {p : List Char}
    (hp : p.getLast? ≠ some '\\') (t : List Char) :
    splitUnescaped sep (escape sep p ++ sep :: t) = p :: splitUnescaped sep t := by
  simpa using splitUnescaped_escape_append hsep (fun _ => hp) (splitUnescaped_sep hsep t)

theorem join_escape_extendHead (c : Char) {ps : List (List Char)} (hne : ps ≠ []) :
    join [sep] ((extendHead c ps).map (escape sep)) =
      escape sep [c] ++ join [sep] (ps.map (escape sep)) := by
  cases ps with
  | nil => exact absurd rfl hne
  | cons p ps =>
    have hp : escape sep (c :: p) = escape sep [c] ++ escape sep p := escape_append [c] p
    cases ps with
    | nil => simp [extendHead, hp]
    | cons q qs =>
      have hqs : (q :: qs).map (escape sep) ≠ [] := by simp
      rw [extendHead, List.map_cons (a := c :: p), List.map_cons (a := p), join_cons hqs,
        join_cons hqs, hp, List.append_assoc]

/-- **Joining the escaped parts gives the text back.** -/
theorem join_escape_splitUnescaped (hsep : sep ≠ '\\') (t : List Char) :
    join [sep] ((splitUnescaped sep t).map (escape sep)) = t := by
  induction t using scan_induction sep with
  | nil => rfl
  | escaped t ih =>
    rw [splitUnescaped_escaped, join_escape_extendHead _ (splitUnescaped_ne_nil t), ih,
      escape_cons_self]
    rfl
  | bare t ih =>
    rw [splitUnescaped_sep hsep, List.map_cons, join_cons (by simp [splitUnescaped_ne_nil]), ih]
    rfl
  | other c t hc ht ih =>
    rw [splitUnescaped_cons hc ht, join_escape_extendHead _ (splitUnescaped_ne_nil t), ih,
      escape_cons_of_ne hc]
    rfl

/-- A first part is empty only where the text begins with the separator. -/
theorem head?_of_splitUnescaped (hsep : sep ≠ '\\') {t q : List Char} {qs : List (List Char)}
    (h : splitUnescaped sep t = [] :: q :: qs) : t.head? = some sep := by
  have hqs : (q :: qs).map (escape sep) ≠ [] := by simp
  rw [← join_escape_splitUnescaped hsep t, h, List.map_cons, join_cons hqs]
  rfl

/-- No part but the last ends in a backslash. -/
theorem getLast?_of_mem_dropLast (hsep : sep ≠ '\\') (t : List Char) :
    ∀ p ∈ (splitUnescaped sep t).dropLast, p.getLast? ≠ some '\\' := by
  -- Putting `c` in front of the first part changes its last character only if the part is empty.
  have hextend : ∀ (c : Char) (t : List Char), (c = '\\' → t.head? ≠ some sep) →
      (∀ p ∈ (splitUnescaped sep t).dropLast, p.getLast? ≠ some '\\') →
      ∀ p ∈ (extendHead c (splitUnescaped sep t)).dropLast, p.getLast? ≠ some '\\' := by
    intro c t hc ih
    cases h : splitUnescaped sep t with
    | nil => simp [extendHead]
    | cons p ps =>
      cases ps with
      | nil => simp [extendHead]
      | cons q qs =>
        rw [h, List.dropLast_cons_cons] at ih
        rw [extendHead, List.dropLast_cons_cons, List.forall_mem_cons]
        rw [List.forall_mem_cons] at ih
        refine ⟨?_, ih.2⟩
        cases p with
        | nil => simpa using fun hb : c = '\\' => hc hb (head?_of_splitUnescaped hsep h)
        | cons d p => simpa [List.getLast?_cons] using ih.1
  induction t using scan_induction sep with
  | nil => simp [splitUnescaped]
  | escaped t ih =>
    rw [splitUnescaped_escaped]
    exact hextend sep t (fun h => absurd h hsep) ih
  | bare t ih =>
    rw [splitUnescaped_sep hsep, List.dropLast_cons_of_ne_nil (splitUnescaped_ne_nil t),
      List.forall_mem_cons]
    exact ⟨by simp, ih⟩
  | other c t hc ht ih =>
    rw [splitUnescaped_cons hc ht]
    exact hextend c t ht ih

end Split

end Gleaner.Directive
