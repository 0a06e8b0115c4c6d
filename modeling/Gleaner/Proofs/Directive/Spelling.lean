import Gleaner.Proofs.Directive.RoundTrip

/-! # A selector for every readable directive

What the compiler sees to in a directive is all that it asks of one: every readable directive has a
selector that compiles to it. The written form is not always such a selector, but `spelling` is. It
escapes every bar, puts a blank before the bar of the filter clause, so that no backslash can stand
there, and writes the arguments in quotes of their own, behind a blank that keeps one empty argument
apart from none. -/

namespace Gleaner

open Text (trim trimmed hasBlank join splitOn)

/-- A filter clause with its arguments in quotes. -/
def Invocation.spelling (f : Invocation) : List Char :=
  f.name.toList ++ if f.args = [] then []
    else ':' :: '"' :: (' ' :: join [','] (f.args.map String.toList) ++ ['"'])

namespace Directive

/-- A selector for a directive. -/
def spelling (d : Directive) : String :=
  .ofList <| match d.filter with
    | none => escape '|' (baseText d.subSelector d.mode)
    | some f => escape '|' (baseText d.subSelector d.mode ++ [' ']) ++ '|' :: escape '|' f.spelling

section Base

/-- A blank at the end of a base is not read. -/
theorem readBase_concat_blank {c : Char} (h : Text.isBlank c = true) (base : List Char) :
    readBase (base ++ [c]) = readBase base := by
  have hat : c ≠ '@' := by
    rintro rfl
    exact absurd h (by decide)
  obtain ⟨before, after, hcut, hbefore, rfl⟩ := Text.cutAt_spec '@' base
  rw [readBase, readBase, hcut]
  cases after with
  | none =>
    have hnot : '@' ∉ before ++ [c] := by simpa [hbefore] using hat.symm
    have hcut' : Text.cutAt '@' (before ++ [c]) = (before ++ [c], none) :=
      Text.cutAt_of_notMem hnot
    simp only [Option.elim_none, List.append_nil, hcut', Text.trim_concat_of_isBlank h]
  | some raw =>
    have hcut' : Text.cutAt '@' (before ++ '@' :: (raw ++ [c])) = (before, some (raw ++ [c])) :=
      Text.cutAt_append hbefore (raw ++ [c])
    simp only [Option.elim_some, List.append_assoc, List.cons_append, hcut', Option.getD_some,
      Text.trim_concat_of_isBlank h]

end Base

section Args

/-- A blank before joined texts goes to the first of them. -/
theorem cons_join (c : Char) (sep p : List Char) (ps : List (List Char)) :
    c :: join sep (p :: ps) = join sep ((c :: p) :: ps) := by
  cases ps with
  | nil => simp
  | cons q qs => simp [join, List.intercalate_cons_cons]

/-- Joined arguments in quotes of their own are read back, whatever they are. -/
theorem readArgs_quoted {args : List String} (hne : args ≠ [])
    (h : ∀ a ∈ args, trimmed a = a ∧ ',' ∉ a.toList) :
    readArgs ('"' :: (' ' :: join [','] (args.map String.toList) ++ ['"'])) = args := by
  obtain ⟨a, as, rfl⟩ := List.exists_cons_of_ne_nil hne
  have htrim : trim ('"' :: (' ' :: join [','] ((a :: as).map String.toList) ++ ['"'])) =
      '"' :: (' ' :: join [','] ((a :: as).map String.toList) ++ ['"']) := by
    refine Text.trim_eq_self_iff.mpr ⟨?_, ?_⟩
    · simp [Text.isBlank]
    · rw [← List.cons_append, List.getLast?_concat]
      simp [Text.isBlank]
  have hsplit : splitOn ',' (' ' :: join [','] ((a :: as).map String.toList)) =
      (' ' :: a.toList) :: as.map String.toList := by
    rw [List.map_cons, cons_join]
    refine Text.splitOn_join (List.cons_ne_nil _ _) fun p hp => ?_
    rcases List.mem_cons.mp hp with rfl | hp
    · simpa using (h a List.mem_cons_self).2
    · obtain ⟨b, hb, rfl⟩ := List.mem_map.mp hp
      exact (h b (List.mem_cons_of_mem a hb)).2
  have hfirst : String.ofList (trim (' ' :: a.toList)) = a := by
    rw [Text.trim_cons_of_isBlank (by decide)]
    exact (h a List.mem_cons_self).1
  have hrest : as.map (fun b => String.ofList (trim b.toList)) = as := by
    conv => rhs; rw [← List.map_id as]
    exact List.map_congr_left fun b hb => (h b (List.mem_cons_of_mem a hb)).1
  rw [readArgs, htrim, stripQuotes_quoted (.inl rfl), if_neg (List.cons_ne_nil _ _), hsplit,
    List.map_cons, List.map_map, hfirst]
  exact congrArg (a :: ·) hrest

theorem readInvocation_spelling {f : Invocation} (h : f.Readable) :
    readInvocation f.spelling = .ok f := by
  obtain ⟨after, hcut, hafter⟩ : ∃ after, Text.cutAt ':' f.spelling = (f.name.toList, after) ∧
      readArgs (after.getD []) = f.args := by
    rw [Invocation.spelling]
    split
    next hargs =>
      rw [List.append_nil]
      exact ⟨none, Text.cutAt_of_notMem h.name_colon, by rw [hargs]; rfl⟩
    next hargs => exact ⟨_, Text.cutAt_append h.name_colon _, readArgs_quoted hargs h.args⟩
  have hne : f.name.toList ≠ [] := by simpa using h.name_ne
  rw [readInvocation, hcut]
  dsimp only
  rw [Text.trim_of_hasBlank h.name_blank, if_neg hne, if_neg (by simp [h.name_blank]), hafter,
    String.ofList_toList]

end Args

section Image

variable {d : Directive}

/-- A readable directive is read off its spelling, part by part. -/
theorem parts_spelling (h : d.Readable) : Parts d.spelling d := by
  have hbase := readBase_baseText h.base
  cases hf : d.filter with
  | none =>
    refine .inl ⟨_, _, _, ?_, hbase, ?_⟩
    · rw [spelling, hf, String.toList_ofList, splitUnescaped_escape bar_ne]
    · rw [← hf, of_self]
  | some f =>
    have hlast : (baseText d.subSelector d.mode ++ [' ']).getLast? ≠ some '\\' := by
      rw [List.getLast?_concat]
      decide
    refine .inr ⟨baseText d.subSelector d.mode ++ [' '], f.spelling, d.subSelector, d.mode, f,
      ?_, ?_, readInvocation_spelling (h.filter f hf), ?_⟩
    · rw [spelling, hf, String.toList_ofList, splitUnescaped_escape_sep bar_ne hlast,
        splitUnescaped_escape bar_ne]
    · rw [readBase_concat_blank (by decide), hbase]
    · rw [← hf, of_self]

theorem compile_spelling (h : d.Readable) : compile d.spelling = .ok d :=
  compile_eq_ok_iff.mpr (parts_spelling h)

instance (f : Invocation) : Decidable f.Readable :=
  decidable_of_iff (f.name ≠ "" ∧ hasBlank f.name.toList = false ∧ ':' ∉ f.name.toList ∧
      ∀ a ∈ f.args, trimmed a = a ∧ ',' ∉ a.toList)
    ⟨fun h => ⟨h.1, h.2.1, h.2.2.1, h.2.2.2⟩,
      fun h => ⟨h.name_ne, h.name_blank, h.name_colon, h.args⟩⟩

instance (d : Directive) : Decidable d.Readable :=
  decidable_of_iff ((d.subSelector ≠ "" ∧ trimmed d.subSelector = d.subSelector ∧
      '@' ∉ d.subSelector.toList ∧ d.mode ≠ "" ∧ hasBlank d.mode.toList = false) ∧
      ∀ f ∈ d.filter, f.Readable)
    ⟨fun h => ⟨⟨h.1.1, h.1.2.1, h.1.2.2.1, h.1.2.2.2.1, h.1.2.2.2.2⟩, h.2⟩,
      fun h => ⟨⟨h.base.subSelector_ne, h.base.subSelector_trimmed, h.base.subSelector_at,
        h.base.mode_ne, h.base.mode_blank⟩, h.filter⟩⟩

/-- **Which directives some selector compiles to**: the readable ones, and no others. So bars in
modes and names, backslashes at the end of any part, quotes around arguments and the one empty
argument can all be had, while no selector gives a sub-selector with an `@` or an argument with a
comma. -/
theorem exists_compile_iff_readable :
    (∀ d : Directive, (∃ s, compile s = .ok d) ↔ d.Readable) ∧
    (∀ d ∈ [of "a" "b|c", of "a" textMode (some ⟨"b|c", []⟩),
        of "a\\" "b\\" (some ⟨"c\\", ["d\\"]⟩), of "a\\" textMode (some ⟨"b", []⟩),
        of "a" textMode (some ⟨"b", ["'c'"]⟩), of "a" textMode (some ⟨"b", ["'c'", "\"d\""]⟩),
        of "a" textMode (some ⟨"b", [""]⟩)],
      ∃ s, compile s = .ok d) ∧
    ∀ s d, compile s = .ok d → '@' ∉ d.subSelector.toList ∧
      ∀ f ∈ d.filter, ∀ a ∈ f.args, ',' ∉ a.toList := by
  have hreadable {s : String} {d : Directive} (h : compile s = .ok d) : d.Readable :=
    (compile_eq_ok_iff.mp h).readable
  refine ⟨fun d => ⟨?_, ?_⟩, ?_, ?_⟩
  · rintro ⟨s, hs⟩
    exact hreadable hs
  · intro h
    exact ⟨d.spelling, compile_spelling h⟩
  · intro d hd
    have hr : d.Readable := by
      revert d
      decide
    exact ⟨d.spelling, compile_spelling hr⟩
  · intro s d h
    have hr := hreadable h
    exact ⟨hr.base.subSelector_at, fun f hf a ha => ((hr.filter f hf).args a ha).2⟩

end Image

end Directive

end Gleaner
