import Gleaner.Proofs.Directive.Reading

/-! # The grammar of selectors

A selector is cut into segments at the bars that no backslash directly precedes. The first segment
holds the sub-selector and, behind the first `@`, the mode; a second one holds the name of a filter
and, behind the first colon, its arguments. `WellFormed` says which selectors follow the grammar and
`Describes` what they mean. The main statement is that the compiler accepts just these, and gives
just that (`compile_iff_grammar`). -/

namespace Gleaner.Directive

open Text (trim hasBlank)

section Grammar

/-- The pieces of a text between the separators that no backslash directly precedes, after the
character `previous`. -/
def bareCuts (sep : Char) : Option Char → List Char → List (List Char)
  | _, [] => [[]]
  | previous, c :: r =>
    if c = sep ∧ previous ≠ some '\\' then [] :: bareCuts sep (some c) r
    else extendHead c (bareCuts sep (some c) r)

/-- The segments of a selector. In a segment `\|` stands for a bar. -/
def segments (s : List Char) : List (List Char) :=
  (bareCuts '|' none s).map (Text.replace ['\\', '|'] ['|'])

/-- The trimmed text before the first mark. -/
def textBefore (mark : Char) (s : List Char) : List Char := trim (s.takeWhile (· ≠ mark))

/-- The trimmed text behind the first mark. -/
def textBehind (mark : Char) (s : List Char) : List Char := trim (s.dropWhile (· ≠ mark)).tail

/-- A text without one layer of equal quotes, if it has one. -/
def Unquoted (s body : List Char) : Prop :=
  (∃ q, (q = '"' ∨ q = '\x27') ∧ s = q :: (body ++ [q])) ∨ ¬ InQuotes s ∧ body = s

/-- The arguments that a text stands for. -/
def ArgumentsOf (s : List Char) (args : List String) : Prop :=
  ∃ body, Unquoted s body ∧
    args = if body = [] then [] else (body.splitOn ',').map fun a => .ofList (trim a)

/-- A selector that follows the grammar. -/
structure WellFormed (s : List Char) : Prop where
  not_blank : trim s ≠ []
  segments_le : (segments s).length ≤ 2
  subSelector_ne : ∀ base ∈ (segments s)[0]?, textBefore '@' base ≠ []
  mode_blank : ∀ base ∈ (segments s)[0]?, hasBlank (textBehind '@' base) = false
  name_ne : ∀ clause ∈ (segments s)[1]?, textBefore ':' clause ≠ []
  name_blank : ∀ clause ∈ (segments s)[1]?, hasBlank (textBefore ':' clause) = false

/-- A selector whose filter is not among the known names, when it has to be. -/
def Refused (names : Names) (s : List Char) : Prop :=
  names.strict = true ∧ ∃ known, names.known = some known ∧
    ∃ clause, (segments s)[1]? = some clause ∧ known (.ofList (textBefore ':' clause)) = false

/-- What a selector means. -/
structure Describes (s : List Char) (d : Directive) : Prop where
  subSelector : ∀ base ∈ (segments s)[0]?, d.subSelector =
    if String.ofList (textBefore '@' base) = oldSelfReference then selfReference
    else .ofList (textBefore '@' base)
  mode : ∀ base ∈ (segments s)[0]?, d.mode =
    if textBehind '@' base = [] then textMode else .ofList (textBehind '@' base)
  noFilter : (segments s)[1]? = none → d.filter = none
  filter : ∀ clause ∈ (segments s)[1]?, ∃ args,
    ArgumentsOf (textBehind ':' clause) args ∧
      d.filter = some ⟨.ofList (textBefore ':' clause), args⟩

end Grammar

section Segments

variable {sep : Char}

/-- Only a separator at the front depends on what precedes it. -/
theorem bareCuts_of_head?_ne {t : List Char} (h : t.head? ≠ some sep) (p q : Option Char) :
    bareCuts sep p t = bareCuts sep q t := by
  cases t with
  | nil => rfl
  | cons c r =>
    have hc : c ≠ sep := by simpa using h
    rw [bareCuts, bareCuts, if_neg fun h => hc h.1, if_neg fun h => hc h.1]

theorem map_escape_extendHead_of_ne {c : Char} (hc : c ≠ sep) (ps : List (List Char)) :
    (extendHead c ps).map (escape sep) = extendHead c (ps.map (escape sep)) := by
  cases ps with
  | nil => simp [extendHead, escape_cons_of_ne hc]
  | cons p ps => simp [extendHead, escape_cons_of_ne hc]

theorem map_escape_extendHead_self (ps : List (List Char)) :
    (extendHead sep ps).map (escape sep) =
      extendHead '\\' (extendHead sep (ps.map (escape sep))) := by
  cases ps with
  | nil => simp [extendHead, escape_cons_self]
  | cons p ps => simp [extendHead, escape_cons_self]

/-- The pieces between bare separators are the parts with their separators escaped. -/
theorem bareCuts_eq (hsep : sep ≠ '\\') (t : List Char) {previous : Option Char}
    (hp : previous ≠ some '\\') :
    bareCuts sep previous t = (splitUnescaped sep t).map (escape sep) := by
  induction t using scan_induction sep generalizing previous with
  | nil => rfl
  | escaped t ih =>
    rw [bareCuts, if_neg fun h => hsep h.1.symm, bareCuts, if_neg fun h => h.2 rfl,
      ih (by simpa using hsep), splitUnescaped_escaped, map_escape_extendHead_self]
  | bare t ih =>
    rw [bareCuts, if_pos ⟨rfl, hp⟩, ih (by simpa using hsep), splitUnescaped_sep hsep]
    rfl
  | other c t hc ht ih =>
    rw [bareCuts, if_neg fun h => hc h.1, splitUnescaped_cons hc ht,
      map_escape_extendHead_of_ne hc]
    by_cases hb : c = '\\'
    · rw [bareCuts_of_head?_ne (ht hb) (some c) none, ih (by simp)]
    · rw [ih (by simpa using hb)]

/-- To take the backslashes away again undoes the escaping. -/
theorem replace_escape (hsep : sep ≠ '\\') (p : List Char) :
    Text.replace ['\\', sep] [sep] (escape sep p) = p := by
  change Text.replaceFrom _ _ 0 (escape sep p) = p
  induction p with
  | nil => rfl
  | cons c p ih =>
    by_cases hc : c = sep
    · subst hc
      rw [escape_cons_self, Text.replaceFrom, if_pos (by simp)]
      change [c] ++ Text.replaceFrom _ _ 1 (c :: escape c p) = c :: p
      rw [Text.replaceFrom, ih]
      rfl
    · rw [escape_cons_of_ne hc, Text.replaceFrom, if_neg, ih]
      -- A backslash of the text would have to stand before a bare separator.
      intro h
      cases he : escape sep p with
      | nil => simp [he] at h
      | cons d r =>
        have hd : d ≠ sep := by simpa [he] using head?_escape hsep p
        have hp : '\\' = c ∧ sep = d := by simpa [he] using h
        exact hd hp.2.symm

theorem splitUnescaped_eq_segments (s : List Char) : splitUnescaped '|' s = segments s := by
  rw [segments, bareCuts_eq bar_ne s (by simp), List.map_map]
  have hid : Text.replace ['\\', '|'] ['|'] ∘ escape '|' = id :=
    funext fun p => replace_escape bar_ne p
  rw [hid, List.map_id]

theorem segments_ne_nil (s : List Char) : segments s ≠ [] := by
  rw [← splitUnescaped_eq_segments]
  exact splitUnescaped_ne_nil s

end Segments

section Parts

theorem getD_cutAt (mark : Char) (s : List Char) :
    (Text.cutAt mark s).2.getD [] = (s.dropWhile (· ≠ mark)).tail := by
  rw [Text.cutAt]
  cases s.dropWhile (· ≠ mark) <;> rfl

theorem readBase_eq (base : List Char) :
    readBase base =
      if textBefore '@' base = [] then .error .noSubSelector
      else if hasBlank (textBehind '@' base) then
        .error (.blankInMode (.ofList (textBehind '@' base)))
      else .ok (.ofList (textBefore '@' base),
        if textBehind '@' base = [] then textMode else .ofList (textBehind '@' base)) := by
  rw [textBehind, ← getD_cutAt]
  rfl

theorem readInvocation_eq (clause : List Char) :
    readInvocation clause =
      if textBefore ':' clause = [] then .error .noFilterName
      else if hasBlank (textBefore ':' clause) then
        .error (.blankInFilterName (.ofList (textBefore ':' clause)))
      else .ok ⟨.ofList (textBefore ':' clause), readArgs (clause.dropWhile (· ≠ ':')).tail⟩ := by
  rw [← getD_cutAt]
  rfl

theorem unquoted_iff {s body : List Char} : Unquoted s body ↔ body = stripQuotes s := by
  by_cases h : InQuotes s
  · obtain ⟨q, m, hq, rfl⟩ := h
    rw [stripQuotes_quoted hq]
    constructor
    · rintro (⟨q', -, he⟩ | ⟨hn, -⟩)
      · obtain ⟨rfl, he⟩ := List.cons.inj he
        exact (List.append_cancel_right he).symm
      · exact absurd ⟨q, m, hq, rfl⟩ hn
    · rintro rfl
      exact .inl ⟨q, hq, rfl⟩
  · rw [stripQuotes_of_not_inQuotes h]
    constructor
    · rintro (⟨q, hq, rfl⟩ | ⟨-, rfl⟩)
      · exact absurd ⟨q, body, hq, rfl⟩ h
      · rfl
    · rintro rfl
      exact .inr ⟨h, rfl⟩

theorem argumentsOf_iff {raw : List Char} {args : List String} :
    ArgumentsOf (trim raw) args ↔ args = readArgs raw := by
  simp only [ArgumentsOf, unquoted_iff, exists_eq_left, readArgs, Text.splitOn_eq]

theorem readBase_eq_ok_iff {base : List Char} {subSelector mode : String} :
    readBase base = .ok (subSelector, mode) ↔
      textBefore '@' base ≠ [] ∧ hasBlank (textBehind '@' base) = false ∧
        subSelector = .ofList (textBefore '@' base) ∧
        mode = if textBehind '@' base = [] then textMode else .ofList (textBehind '@' base) := by
  rw [readBase_eq]
  split
  next h => simp [h]
  next h =>
    split
    next hb => simp [hb]
    next hb =>
      have hb' : hasBlank (textBehind '@' base) = false := by simpa using hb
      simp only [Except.ok.injEq, Prod.mk.injEq, hb', ne_eq, h, not_false_eq_true, true_and]
      exact and_congr eq_comm eq_comm

theorem readInvocation_eq_ok_iff {clause : List Char} {f : Invocation} :
    readInvocation clause = .ok f ↔
      textBefore ':' clause ≠ [] ∧ hasBlank (textBefore ':' clause) = false ∧
        ∃ args, ArgumentsOf (textBehind ':' clause) args ∧
          f = ⟨.ofList (textBefore ':' clause), args⟩ := by
  rw [readInvocation_eq]
  split
  next h => simp [h]
  next h =>
    split
    next hb => simp [hb]
    next hb =>
      have hb' : hasBlank (textBefore ':' clause) = false := by simpa using hb
      simp only [textBehind, argumentsOf_iff, exists_eq_left, Except.ok.injEq, hb', ne_eq, h,
        not_false_eq_true, true_and]
      exact eq_comm

end Parts

section Selectors

variable {s : String} {d : Directive}

theorem segments_cases {t : List Char} (h : (segments t).length ≤ 2) :
    (∃ base, segments t = [base]) ∨ ∃ base clause, segments t = [base, clause] := by
  match hs : segments t with
  | [] => exact absurd hs (segments_ne_nil t)
  | [base] => exact .inl ⟨base, rfl⟩
  | [base, clause] => exact .inr ⟨base, clause, rfl⟩
  | _ :: _ :: _ :: _ => rw [hs] at h; simp at h

theorem eq_of_iff {subSelector mode : String} {f : Option Invocation} :
    d = of subSelector mode f ↔
      (d.subSelector = if subSelector = oldSelfReference then selfReference else subSelector) ∧
        d.mode = mode ∧ d.filter = f := by
  constructor
  · rintro rfl
    exact ⟨of_subSelector _ _ _, of_mode _ _ _, of_filter _ _ _⟩
  · rintro ⟨hsub, rfl, rfl⟩
    rw [of]
    cases d
    split at hsub
    next h => simpa [h] using hsub
    next h => simpa [h] using hsub

/-- What a selector is read as is what the grammar gives. -/
theorem parts_iff_grammar : Parts s d ↔ WellFormed s.toList ∧ Describes s.toList d := by
  constructor
  · intro h
    have hblank : trim s.toList ≠ [] := by
      intro hb
      have hread := read_eq_ok_iff.mpr h
      rw [read, if_pos hb] at hread
      cases hread
    rcases h with ⟨base, sub, mode, hs, hb, hd⟩ | ⟨base, clause, sub, mode, f, hs, hb, hf, hd⟩
    · rw [splitUnescaped_eq_segments] at hs
      obtain ⟨hsub, hmode, rfl, rfl⟩ := readBase_eq_ok_iff.mp hb
      obtain ⟨hd1, hd2, hd3⟩ := eq_of_iff.mp hd
      exact ⟨⟨hblank, by simp [hs], by simpa [hs] using hsub, by simpa [hs] using hmode,
          by simp [hs], by simp [hs]⟩,
        ⟨by simpa [hs] using hd1, by simpa [hs] using hd2, fun _ => hd3, by simp [hs]⟩⟩
    · rw [splitUnescaped_eq_segments] at hs
      obtain ⟨hsub, hmode, rfl, rfl⟩ := readBase_eq_ok_iff.mp hb
      obtain ⟨hname, hnameBlank, args, hargs, rfl⟩ := readInvocation_eq_ok_iff.mp hf
      obtain ⟨hd1, hd2, hd3⟩ := eq_of_iff.mp hd
      exact ⟨⟨hblank, by simp [hs], by simpa [hs] using hsub, by simpa [hs] using hmode,
          by simpa [hs] using hname, by simpa [hs] using hnameBlank⟩,
        ⟨by simpa [hs] using hd1, by simpa [hs] using hd2, by simp [hs],
          by simpa [hs] using ⟨args, hargs, hd3⟩⟩⟩
  · rintro ⟨hw, hd⟩
    rcases segments_cases hw.segments_le with ⟨base, hs⟩ | ⟨base, clause, hs⟩
    · have hbase : base ∈ (segments s.toList)[0]? := by simp [hs]
      exact .inl ⟨base, _, _, by rw [splitUnescaped_eq_segments, hs],
        readBase_eq_ok_iff.mpr ⟨hw.subSelector_ne base hbase, hw.mode_blank base hbase, rfl, rfl⟩,
        eq_of_iff.mpr ⟨hd.subSelector base hbase, hd.mode base hbase, hd.noFilter (by simp [hs])⟩⟩
    · have hbase : base ∈ (segments s.toList)[0]? := by simp [hs]
      have hclause : clause ∈ (segments s.toList)[1]? := by simp [hs]
      obtain ⟨args, hargs, hfilter⟩ := hd.filter clause hclause
      exact .inr ⟨base, clause, _, _, _, by rw [splitUnescaped_eq_segments, hs],
        readBase_eq_ok_iff.mpr ⟨hw.subSelector_ne base hbase, hw.mode_blank base hbase, rfl, rfl⟩,
        readInvocation_eq_ok_iff.mpr ⟨hw.name_ne clause hclause, hw.name_blank clause hclause,
          args, hargs, rfl⟩,
        eq_of_iff.mpr ⟨hd.subSelector base hbase, hd.mode base hbase, hfilter⟩⟩

/-- Every selector that follows the grammar means something. -/
theorem WellFormed.exists_describes (h : WellFormed s.toList) : ∃ d, Describes s.toList d := by
  rcases segments_cases h.segments_le with ⟨base, hs⟩ | ⟨base, clause, hs⟩
  · refine ⟨of (.ofList (textBefore '@' base))
      (if textBehind '@' base = [] then textMode else .ofList (textBehind '@' base)), ?_⟩
    exact ⟨by simp [hs, of_subSelector], by simp [hs], by simp, by simp [hs]⟩
  · refine ⟨of (.ofList (textBefore '@' base))
      (if textBehind '@' base = [] then textMode else .ofList (textBehind '@' base))
      (some ⟨.ofList (textBefore ':' clause), readArgs (clause.dropWhile (· ≠ ':')).tail⟩), ?_⟩
    refine ⟨by simp [hs, of_subSelector], by simp [hs], by simp [hs], ?_⟩
    intro clause' hclause
    obtain rfl : clause = clause' := by simpa [hs] using hclause
    exact ⟨_, argumentsOf_iff.mpr rfl, of_filter _ _ _⟩

theorem read_eq_ok_iff_grammar :
    read s = .ok d ↔ WellFormed s.toList ∧ Describes s.toList d := by
  rw [read_eq_ok_iff, parts_iff_grammar]

theorem exists_read_eq_error_iff : (∃ fault, read s = .error fault) ↔ ¬ WellFormed s.toList := by
  constructor
  · rintro ⟨fault, h⟩ hw
    obtain ⟨d, hd⟩ := hw.exists_describes
    rw [read_eq_ok_iff_grammar.mpr ⟨hw, hd⟩] at h
    cases h
  · intro hw
    cases h : read s with
    | ok d => exact absurd (read_eq_ok_iff_grammar.mp h).1 hw
    | error fault => exact ⟨fault, rfl⟩

theorem refused_iff {names : Names} (h : Describes s.toList d) :
    Refused names s.toList ↔ ∃ f, d.filter = some f ∧ names.accepts f.name = false := by
  have haccepts (name : String) : names.accepts name = false ↔
      names.strict = true ∧ ∃ known, names.known = some known ∧ known name = false := by
    rw [Names.accepts]
    cases names.known <;> simp
  constructor
  · rintro ⟨hstrict, known, hknown, clause, hclause, hname⟩
    obtain ⟨args, -, hf⟩ := h.filter clause hclause
    exact ⟨_, hf, (haccepts _).mpr ⟨hstrict, known, hknown, hname⟩⟩
  · rintro ⟨f, hf, hname⟩
    obtain ⟨hstrict, known, hknown, hname⟩ := (haccepts _).mp hname
    cases hclause : (segments s.toList)[1]? with
    | none =>
      rw [h.noFilter hclause] at hf
      cases hf
    | some clause =>
      obtain ⟨args, -, hf'⟩ := h.filter clause hclause
      rw [hf] at hf'
      cases hf'
      exact ⟨hstrict, known, hknown, clause, hclause, hname⟩

theorem Describes.unique {d' : Directive} (hw : WellFormed s.toList) (h : Describes s.toList d)
    (h' : Describes s.toList d') : d = d' := by
  have hread := read_eq_ok_iff_grammar.mpr ⟨hw, h⟩
  rw [read_eq_ok_iff_grammar.mpr ⟨hw, h'⟩] at hread
  exact (Except.ok.inj hread).symm

/-! ### The three outcomes -/

theorem compile_of_not_wellFormed (names : Names) (hw : ¬ WellFormed s.toList) :
    ∃ fault, compile s names = .error (.malformedSelector s fault) := by
  obtain ⟨fault, h⟩ := exists_read_eq_error_iff.mpr hw
  exact ⟨fault, by rw [compile, h]⟩

theorem compile_of_refused {names : Names} (hw : WellFormed s.toList)
    (hr : Refused names s.toList) : ∃ clause, (segments s.toList)[1]? = some clause ∧
      compile s names = .error (.unknownFilter (.ofList (textBefore ':' clause)) s) := by
  obtain ⟨d, hd⟩ := hw.exists_describes
  obtain ⟨f, hf, hname⟩ := (refused_iff hd).mp hr
  obtain ⟨-, known, -, clause, hclause, -⟩ := hr
  obtain ⟨args, -, hf'⟩ := hd.filter clause hclause
  refine ⟨clause, hclause, ?_⟩
  rw [hf] at hf'
  cases hf'
  simp only [compile, read_eq_ok_iff_grammar.mpr ⟨hw, hd⟩, hf, hname, Bool.false_eq_true,
    if_false]

theorem compile_of_describes {names : Names} (hw : WellFormed s.toList)
    (hr : ¬ Refused names s.toList) (hd : Describes s.toList d) : compile s names = .ok d := by
  rw [compile, read_eq_ok_iff_grammar.mpr ⟨hw, hd⟩]
  dsimp only
  split
  next f hf =>
    rw [if_pos]
    by_contra hname
    exact hr ((refused_iff hd).mpr ⟨f, hf, by simpa using hname⟩)
  · rfl

/-- **The compiler accepts exactly the grammar.** A selector compiles just when it follows the
grammar and its filter is not refused, and then to the one directive that the grammar gives. One
that does not follow the grammar is malformed; a filter that is refused is the only other
failure. -/
theorem compile_iff_grammar (s : String) (names : Names) :
    (∀ d, compile s names = .ok d ↔
      WellFormed s.toList ∧ ¬ Refused names s.toList ∧ Describes s.toList d) ∧
    (WellFormed s.toList → ∃! d, Describes s.toList d) ∧
    ((∃ fault, compile s names = .error (.malformedSelector s fault)) ↔
      ¬ WellFormed s.toList) ∧
    (∀ name selector, compile s names = .error (.unknownFilter name selector) ↔
      WellFormed s.toList ∧ Refused names s.toList ∧ selector = s ∧
        ∃ clause, (segments s.toList)[1]? = some clause ∧
          name = .ofList (textBefore ':' clause)) ∧
    ∀ e, compile s names = .error e →
      (∃ fault, e = .malformedSelector s fault) ∨ ∃ name, e = .unknownFilter name s := by
  by_cases hw : WellFormed s.toList
  · obtain ⟨d, hd⟩ := hw.exists_describes
    have hunique : ∃! d, Describes s.toList d := ⟨d, hd, fun _ hd' => hd'.unique hw hd⟩
    by_cases hr : Refused names s.toList
    · obtain ⟨clause, hclause, hc⟩ := compile_of_refused hw hr
      refine ⟨?_, fun _ => hunique, ?_, ?_, ?_⟩
      · simp [hc, hr]
      · simp [hc, hw]
      · intro name selector
        simp only [hc, hw, hr, hclause, Except.error.injEq, Error.unknownFilter.injEq,
          Option.some.injEq, exists_eq_left', true_and]
        rw [and_comm]
        exact and_congr eq_comm eq_comm
      · rintro e he
        rw [hc] at he
        cases he
        exact .inr ⟨_, rfl⟩
    · have hc := compile_of_describes hw hr hd
      refine ⟨?_, fun _ => hunique, ?_, ?_, ?_⟩
      · intro d'
        rw [hc]
        constructor
        · rintro ⟨⟩
          exact ⟨hw, hr, hd⟩
        · rintro ⟨-, -, hd'⟩
          rw [hd.unique hw hd']
      · simp [hc, hw]
      · simp [hc, hr]
      · simp [hc]
  · obtain ⟨fault, hc⟩ := compile_of_not_wellFormed names hw
    refine ⟨?_, fun h => absurd h hw, ?_, ?_, ?_⟩
    · simp [hc, hw]
    · simp [hc, hw]
    · simp [hc, hw]
    · rintro e he
      rw [hc] at he
      cases he
      exact .inl ⟨fault, rfl⟩

end Selectors

end Gleaner.Directive
