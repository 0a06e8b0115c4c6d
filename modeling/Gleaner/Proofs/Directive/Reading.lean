import Gleaner.Directive.Basic
import Gleaner.Proofs.Directive.Escape

/-! # What compiling reads

The parts a selector is read in, and what the compiler sees to in each of them: `Readable` holds of
every directive that some selector compiles to. What is read of a part is never more than the part. -/

namespace Gleaner

open Text (trim trimmed hasBlank join splitOn cutAt)

/-- A filter clause as the compiler leaves it. -/
structure Invocation.Readable (f : Invocation) : Prop where
  name_ne : f.name ≠ ""
  name_blank : hasBlank f.name.toList = false
  name_colon : ':' ∉ f.name.toList
  args : ∀ a ∈ f.args, trimmed a = a ∧ ',' ∉ a.toList

/-- The text of a filter clause before bars are escaped. -/
def Invocation.text (f : Invocation) : List Char :=
  if f.args = [] then f.name.toList
  else f.name.toList ++ ':' :: join [','] (f.args.map String.toList)

namespace Directive

/-- A sub-selector and a mode as the compiler leaves them. -/
structure ReadableBase (subSelector mode : String) : Prop where
  subSelector_ne : subSelector ≠ ""
  subSelector_trimmed : trimmed subSelector = subSelector
  subSelector_at : '@' ∉ subSelector.toList
  mode_ne : mode ≠ ""
  mode_blank : hasBlank mode.toList = false

/-- A directive as the compiler leaves it. -/
structure Readable (d : Directive) : Prop where
  base : ReadableBase d.subSelector d.mode
  filter : ∀ f ∈ d.filter, f.Readable

/-- The text of a sub-selector and a mode before bars are escaped. -/
def baseText (subSelector mode : String) : List Char :=
  subSelector.toList ++ if mode = textMode then [] else '@' :: mode.toList

/-- A text between two equal quotes. -/
def InQuotes (s : List Char) : Prop := ∃ q m, (q = '"' ∨ q = '\x27') ∧ s = q :: (m ++ [q])

section Read

theorem stripQuotes_quoted {q : Char} (hq : q = '"' ∨ q = '\x27') (m : List Char) :
    stripQuotes (q :: (m ++ [q])) = m := by
  simp [stripQuotes, hq]

theorem stripQuotes_of_not_inQuotes {s : List Char} (h : ¬ InQuotes s) : stripQuotes s = s := by
  cases s with
  | nil => rfl
  | cons q r =>
    rw [stripQuotes, if_neg]
    rintro ⟨hq, hr⟩
    obtain ⟨m, rfl⟩ := List.getLast?_eq_some_iff.mp hr
    exact h ⟨q, m, hq, rfl⟩

theorem stripQuotes_sublist (s : List Char) : (stripQuotes s).Sublist s := by
  by_cases h : InQuotes s
  · obtain ⟨q, m, hq, rfl⟩ := h
    rw [stripQuotes_quoted hq]
    exact (List.sublist_append_left m [q]).cons q
  · simp [stripQuotes_of_not_inQuotes h]

instance (s : List Char) : Decidable (InQuotes s) :=
  decidable_of_iff (stripQuotes s ≠ s)
    ⟨fun h => Classical.byContradiction fun hn => h (stripQuotes_of_not_inQuotes hn), by
      rintro ⟨q, m, hq, rfl⟩ h
      have := congrArg List.length h
      rw [stripQuotes_quoted hq, List.length_cons, List.length_append] at this
      omega⟩

theorem trimmed_eq_self_iff {a : String} : trimmed a = a ↔ trim a.toList = a.toList := by
  rw [trimmed, ← String.toList_inj, String.toList_ofList]

/-- Arguments that are read are trimmed pieces of the text inside the quotes. -/
theorem readArgs_sound (raw : List Char) :
    (∀ a ∈ readArgs raw, trimmed a = a ∧ ',' ∉ a.toList) ∧
      (join [','] ((readArgs raw).map String.toList)).Sublist (stripQuotes (trim raw)) := by
  rw [readArgs]
  split
  · exact ⟨by simp, List.nil_sublist _⟩
  · constructor
    · intro a ha
      obtain ⟨p, hp, rfl⟩ := List.mem_map.mp ha
      rw [trimmed_eq_self_iff, String.toList_ofList]
      exact ⟨Text.trim_trim p, fun h =>
        Text.notMem_of_mem_splitOn hp ((Text.trim_sublist p).subset h)⟩
    · have hmap : ((splitOn ',' (stripQuotes (trim raw))).map
          fun a => String.ofList (trim a)).map String.toList =
          (splitOn ',' (stripQuotes (trim raw))).map trim := by
        rw [List.map_map]
        exact List.map_congr_left fun p _ => String.toList_ofList
      conv => rhs; rw [← Text.join_splitOn ',' (stripQuotes (trim raw))]
      rw [hmap]
      exact Text.join_map_sublist Text.trim_sublist _

/-- A filter clause that is read is as the compiler leaves them, and its text is part of the clause. -/
theorem readInvocation_sound {clause : List Char} {f : Invocation}
    (h : readInvocation clause = .ok f) : f.Readable ∧ f.text.Sublist clause := by
  obtain ⟨before, after, hcut, hbefore, hclause⟩ := Text.cutAt_spec ':' clause
  rw [readInvocation, hcut] at h
  dsimp only at h
  split at h
  · cases h
  next hname =>
    split at h
    · cases h
    next hblank =>
      cases h
      have hcolon : ':' ∉ trim before := fun h => hbefore ((Text.trim_sublist before).subset h)
      refine ⟨⟨?_, ?_, ?_, ?_⟩, ?_⟩
      · simpa using hname
      · simpa using hblank
      · simpa using hcolon
      · exact (readArgs_sound _).1
      · rw [← hclause, Invocation.text, String.toList_ofList]
        split
        · exact (Text.trim_sublist before).trans (List.sublist_append_left _ _)
        next hargs =>
          cases after with
          | none => exact absurd rfl hargs
          | some raw =>
            have hraw := ((readArgs_sound raw).2.trans (stripQuotes_sublist _)).trans
              (Text.trim_sublist raw)
            exact (Text.trim_sublist before).append (hraw.cons_cons ':')

/-- A base that is read is as the compiler leaves it, and its text is part of the base. -/
theorem readBase_sound {base : List Char} {subSelector mode : String}
    (h : readBase base = .ok (subSelector, mode)) :
    ReadableBase subSelector mode ∧ (baseText subSelector mode).Sublist base := by
  obtain ⟨before, after, hcut, hbefore, hbase⟩ := Text.cutAt_spec '@' base
  rw [readBase, hcut] at h
  dsimp only at h
  split at h
  · cases h
  next hsub =>
    split at h
    · cases h
    next hblank =>
      cases h
      have hat : '@' ∉ trim before := fun h => hbefore ((Text.trim_sublist before).subset h)
      have hsub' : trimmed (.ofList (trim before)) = .ofList (trim before) := by
        rw [trimmed_eq_self_iff, String.toList_ofList, Text.trim_trim]
      by_cases hmode : trim (after.getD []) = []
      · rw [if_pos hmode]
        refine ⟨⟨by simpa using hsub, hsub', by simpa using hat, by decide, by decide⟩, ?_⟩
        rw [← hbase, baseText, String.toList_ofList, if_pos rfl, List.append_nil]
        exact (Text.trim_sublist before).trans (List.sublist_append_left _ _)
      · rw [if_neg hmode]
        refine ⟨⟨by simpa using hsub, hsub', by simpa using hat, by simpa using hmode,
          by simpa using hblank⟩, ?_⟩
        rw [← hbase, baseText, String.toList_ofList]
        refine (Text.trim_sublist before).append ?_
        split
        · exact List.nil_sublist _
        · cases after with
          | none => exact absurd rfl hmode
          | some raw =>
            rw [String.toList_ofList]
            exact (Text.trim_sublist raw).cons_cons '@'

end Read

section Parts

variable {s : String} {d : Directive}

theorem bar_ne : '|' ≠ '\\' := by decide

theorem eq_of_splitUnescaped_one {t p : List Char} (h : splitUnescaped '|' t = [p]) :
    t = escape '|' p := by
  simpa [h] using (join_escape_splitUnescaped bar_ne t).symm

theorem eq_of_splitUnescaped_two {t p q : List Char} (h : splitUnescaped '|' t = [p, q]) :
    t = escape '|' p ++ '|' :: escape '|' q ∧ p.getLast? ≠ some '\\' := by
  constructor
  · rw [← join_escape_splitUnescaped bar_ne t, h, List.map_cons, List.map_singleton,
      Text.join_cons (List.cons_ne_nil _ _), Text.join_singleton]
  · exact getLast?_of_mem_dropLast bar_ne t p (by simp [h])

/-- The directive that the parts of a selector are read as. -/
def Parts (s : String) (d : Directive) : Prop :=
  (∃ base subSelector mode, splitUnescaped '|' s.toList = [base] ∧
    readBase base = .ok (subSelector, mode) ∧ d = .of subSelector mode) ∨
  ∃ base clause subSelector mode f, splitUnescaped '|' s.toList = [base, clause] ∧
    readBase base = .ok (subSelector, mode) ∧ readInvocation clause = .ok f ∧
      d = .of subSelector mode (some f)

/-- A text with a sub-selector is not blank. -/
theorem trim_ne_nil_of_readBase {base t : List Char} {subSelector mode : String}
    (h : readBase base = .ok (subSelector, mode)) (hsub : base ⊆ t) : trim t ≠ [] := by
  intro hblank
  rw [Text.trim_eq_nil_iff] at hblank
  obtain ⟨hr, htext⟩ := readBase_sound h
  have hall : ∀ c ∈ subSelector.toList, Text.isBlank c = true := fun c hc =>
    hblank c (hsub (htext.subset (List.mem_append_left _ hc)))
  rw [← Text.trim_eq_nil_iff, trimmed_eq_self_iff.mp hr.subSelector_trimmed] at hall
  exact hr.subSelector_ne (by simpa using hall)

theorem read_eq_ok_iff : read s = .ok d ↔ Parts s d := by
  constructor
  · intro h
    rw [read] at h
    split at h
    · cases h
    · split at h
      next base hs =>
        cases hb : readBase base with
        | error e => rw [hb] at h; cases h
        | ok x =>
          rw [hb] at h
          cases h
          exact .inl ⟨base, x.1, x.2, hs, hb, rfl⟩
      next base clause hs =>
        cases hb : readBase base with
        | error e => rw [hb] at h; cases h
        | ok x =>
          cases hf : readInvocation clause with
          | error e => rw [hb, hf] at h; cases h
          | ok f =>
            rw [hb, hf] at h
            cases h
            exact .inr ⟨base, clause, x.1, x.2, f, hs, hb, hf, rfl⟩
      · cases h
  · rintro (⟨base, sub, mode, hs, hb, rfl⟩ | ⟨base, clause, sub, mode, f, hs, hb, hf, rfl⟩)
    · have hsub : base ⊆ s.toList := fun c hc => by
        rw [eq_of_splitUnescaped_one hs]
        exact mem_escape hc
      rw [read, if_neg (trim_ne_nil_of_readBase hb hsub), hs]
      dsimp only
      rw [hb]
      rfl
    · have hsub : base ⊆ s.toList := fun c hc => by
        rw [(eq_of_splitUnescaped_two hs).1]
        exact List.mem_append_left _ (mem_escape hc)
      rw [read, if_neg (trim_ne_nil_of_readBase hb hsub), hs]
      dsimp only
      rw [hb, hf]
      rfl

/-- Without a table of names, to compile is to read. -/
theorem compile_eq_ok_iff : compile s = .ok d ↔ Parts s d := by
  rw [← read_eq_ok_iff, compile]
  split
  next hr => simp [hr]
  next d' hr =>
    rw [hr]
    split
    · simp [Names.accepts]
    · simp

@[simp]
theorem of_mode (subSelector mode : String) (f : Option Invocation) :
    (of subSelector mode f).mode = mode := by
  rw [of]; split <;> rfl

@[simp]
theorem of_filter (subSelector mode : String) (f : Option Invocation) :
    (of subSelector mode f).filter = f := by
  rw [of]; split <;> rfl

theorem of_subSelector (subSelector mode : String) (f : Option Invocation) :
    (of subSelector mode f).subSelector =
      if subSelector = oldSelfReference then selfReference else subSelector := by
  rw [of]; split <;> rfl

@[simp]
theorem of_self (d : Directive) : of d.subSelector d.mode d.filter = d := by
  rw [of, dif_neg d.subSelector_ne]

theorem ReadableBase.of {subSelector mode : String} (h : ReadableBase subSelector mode)
    (f : Option Invocation) :
    ReadableBase (of subSelector mode f).subSelector (of subSelector mode f).mode := by
  rw [of_mode, of_subSelector]
  split
  · exact ⟨by decide, by decide, by decide, h.mode_ne, h.mode_blank⟩
  · exact h

/-- **Whatever is compiled is readable.** -/
theorem Parts.readable (h : Parts s d) : d.Readable := by
  rcases h with ⟨base, sub, mode, -, hb, rfl⟩ | ⟨base, clause, sub, mode, f, -, hb, hf, rfl⟩
  · exact ⟨(readBase_sound hb).1.of none, by simp⟩
  · refine ⟨(readBase_sound hb).1.of (some f), ?_⟩
    simpa using (readInvocation_sound hf).1

end Parts

end Directive

end Gleaner
