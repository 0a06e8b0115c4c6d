import Gleaner.Proofs.Directive.Reading

/-! # Writing a directive and compiling it again

Which directives come back from their written form. What the compiler sees to is needed, and so is
what the writer would have to see to and does not, `Writable`, which is all about the filter clause.

A selector that compiles to a directive is at least as long as its escaped parts, and as long only if
it is those parts. A written form that compiled to its directive in another way than part by part
would therefore be longer than it is. -/

namespace Gleaner

open Text (trim trimmed hasBlank join splitOn cutAt)

open Directive (escape baseText escape_append escape_cons_of_ne escape_join escape_of_notMem
  length_escape)

namespace Invocation

theorem escape_text (f : Invocation) :
    escape '|' f.text = escape '|' f.name.toList ++
      if f.args = [] then [] else ':' :: join [','] (f.args.map fun a => escape '|' a.toList) := by
  rw [text]
  split
  · simp
  · rw [escape_append, escape_cons_of_ne (by decide), escape_join (by decide), List.map_map]
    rfl

theorem render_eq (f : Invocation) :
    f.render = f.name.toList ++
      if f.args = [] then [] else ':' :: join [','] (f.args.map fun a => escape '|' a.toList) := by
  rw [render]
  split <;> simp

/-- A name without bars is written as it should be. -/
theorem render_of_notMem {f : Invocation} (h : '|' ∉ f.name.toList) :
    f.render = escape '|' f.text := by
  rw [render_eq, escape_text, escape_of_notMem h]

/-- Every bar of the name is a backslash short. -/
theorem length_escape_text (f : Invocation) :
    (escape '|' f.text).length = f.render.length + f.name.toList.count '|' := by
  rw [render_eq, escape_text, List.length_append, List.length_append, length_escape]
  omega

end Invocation

namespace Directive

/-- What stands right before the filter clause in the written form. -/
def front (d : Directive) : String := if d.mode = textMode then d.subSelector else d.mode

/-- A directive whose filter clause survives being written: no backslash stands before its bar, its
name has no bar, and its arguments neither look like none nor like one quoted text. -/
structure Writable (d : Directive) : Prop where
  front : d.filter.isSome → d.front.toList.getLast? ≠ some '\\'
  name : ∀ f ∈ d.filter, '|' ∉ f.name.toList
  args : ∀ f ∈ d.filter, f.args ≠ [""]
  quotes : ∀ f ∈ d.filter, ¬ InQuotes (join [','] (f.args.map String.toList))

instance (d : Directive) : Decidable d.Writable :=
  decidable_of_iff ((d.filter.isSome → d.front.toList.getLast? ≠ some '\\') ∧
      ∀ f ∈ d.filter, '|' ∉ f.name.toList ∧ f.args ≠ [""] ∧
        ¬ InQuotes (join [','] (f.args.map String.toList)))
    ⟨fun h => ⟨h.1, fun f hf => (h.2 f hf).1, fun f hf => (h.2 f hf).2.1,
        fun f hf => (h.2 f hf).2.2⟩,
      fun h => ⟨h.front, fun f hf => ⟨h.name f hf, h.args f hf, h.quotes f hf⟩⟩⟩

section Lengths

/-- Dropping characters makes the escaped text shorter. -/
theorem eq_or_length_escape_lt {p q : List Char} (h : p.Sublist q) :
    p = q ∨ (escape '|' p).length < (escape '|' q).length := by
  rw [length_escape, length_escape]
  rcases h.length_le.eq_or_lt with heq | hlt
  · exact .inl (h.eq_of_length heq)
  · have := h.count_le '|'
    exact .inr (by omega)

/-- What is read of a base is the whole of it, or is shorter. The older word for the current element
is longer than `&`. -/
theorem baseText_eq_or_lt {base : List Char} {subSelector mode : String} (f : Option Invocation)
    (h : readBase base = .ok (subSelector, mode)) :
    baseText (of subSelector mode f).subSelector mode = base ∨
      (escape '|' (baseText (of subSelector mode f).subSelector mode)).length <
        (escape '|' base).length := by
  have htext := eq_or_length_escape_lt (readBase_sound h).2
  rw [of_subSelector]
  split
  next hold =>
    have hshort : (escape '|' (baseText selfReference mode)).length <
        (escape '|' (baseText oldSelfReference mode)).length := by
      simp [baseText, selfReference, oldSelfReference, length_escape]
    rw [hold] at htext
    rcases htext with rfl | hlt
    · exact .inr hshort
    · exact .inr (hshort.trans hlt)
  · exact htext

end Lengths

section Back

section Args

variable {args : List String} (h : ∀ a ∈ args, trimmed a = a ∧ ',' ∉ a.toList)
include h

theorem trim_join_args :
    trim (join [','] (args.map String.toList)) = join [','] (args.map String.toList) := by
  refine Text.trim_join (by decide) fun p hp => ?_
  obtain ⟨a, ha, rfl⟩ := List.mem_map.mp hp
  exact trimmed_eq_self_iff.mp (h a ha).1

theorem splitOn_join_args (hne : args ≠ []) :
    splitOn ',' (join [','] (args.map String.toList)) = args.map String.toList := by
  refine Text.splitOn_join (by simpa using hne) fun p hp => ?_
  obtain ⟨a, ha, rfl⟩ := List.mem_map.mp hp
  exact (h a ha).2

/-- Only one empty argument is written as nothing. -/
theorem join_args_eq_nil (hne : args ≠ []) (hnil : join [','] (args.map String.toList) = []) :
    args = [""] := by
  have hmap : [[]] = args.map String.toList := by
    rw [← splitOn_join_args h hne, hnil]
    rfl
  obtain ⟨a, rfl⟩ : ∃ a, args = [a] :=
    List.length_eq_one_iff.mp (by simpa using (congrArg List.length hmap).symm)
  simpa using hmap

/-- Joined arguments are read back when they are neither nothing nor one quoted text. -/
theorem readArgs_join_iff : readArgs (join [','] (args.map String.toList)) = args ↔
    args ≠ [""] ∧ ¬ InQuotes (join [','] (args.map String.toList)) := by
  by_cases hne : args = []
  · subst hne
    exact iff_of_true rfl ⟨by simp, by decide⟩
  constructor
  · intro hread
    refine ⟨?_, ?_⟩
    · rintro rfl
      exact absurd hread (by decide)
    · -- The quotes would be taken off, and what is left is too short for the arguments.
      rintro ⟨q, m, hq, hj⟩
      have hsub := (readArgs_sound (join [','] (args.map String.toList))).2
      rw [hread, trim_join_args h, hj, stripQuotes_quoted hq] at hsub
      have := hsub.length_le
      rw [List.length_cons, List.length_append] at this
      omega
  · rintro ⟨hempty, hquotes⟩
    have hbody : join [','] (args.map String.toList) ≠ [] :=
      fun hnil => hempty (join_args_eq_nil h hne hnil)
    rw [readArgs, trim_join_args h, stripQuotes_of_not_inQuotes hquotes, if_neg hbody,
      splitOn_join_args h hne, List.map_map]
    conv => rhs; rw [← List.map_id args]
    refine List.map_congr_left fun a ha => ?_
    exact (h a ha).1

end Args

theorem readInvocation_text {f : Invocation} (hf : f.Readable) : readInvocation f.text =
    .ok ⟨f.name, readArgs (join [','] (f.args.map String.toList))⟩ := by
  obtain ⟨after, hcut, hafter⟩ : ∃ after, cutAt ':' f.text = (f.name.toList, after) ∧
      after.getD [] = join [','] (f.args.map String.toList) := by
    rw [Invocation.text]
    split
    next hargs => exact ⟨none, Text.cutAt_of_notMem hf.name_colon, by rw [hargs]; rfl⟩
    next => exact ⟨_, Text.cutAt_append hf.name_colon _, rfl⟩
  have hne : f.name.toList ≠ [] := by simpa using hf.name_ne
  rw [readInvocation, hcut]
  dsimp only
  rw [Text.trim_of_hasBlank hf.name_blank, if_neg hne, if_neg (by simp [hf.name_blank]), hafter,
    String.ofList_toList]

/-- The text of a filter clause is read back when its arguments are. -/
theorem readInvocation_text_iff {f : Invocation} (hf : f.Readable) :
    readInvocation f.text = .ok f ↔
      f.args ≠ [""] ∧ ¬ InQuotes (join [','] (f.args.map String.toList)) := by
  rw [readInvocation_text hf, ← readArgs_join_iff hf.args]
  constructor
  · intro h
    exact congrArg Invocation.args (Except.ok.inj h)
  · intro h
    rw [h]

theorem readBase_baseText {subSelector mode : String} (h : ReadableBase subSelector mode) :
    readBase (baseText subSelector mode) = .ok (subSelector, mode) := by
  have hne : subSelector.toList ≠ [] := by simpa using h.subSelector_ne
  have hmode : mode.toList ≠ [] := by simpa using h.mode_ne
  have htrim := trimmed_eq_self_iff.mp h.subSelector_trimmed
  by_cases ht : mode = textMode
  · rw [baseText, if_pos ht, List.append_nil, readBase, Text.cutAt_of_notMem h.subSelector_at]
    dsimp only
    rw [htrim, if_neg hne, String.ofList_toList, ht]
    rfl
  · rw [baseText, if_neg ht, readBase, Text.cutAt_append h.subSelector_at]
    dsimp only
    rw [htrim, if_neg hne, Option.getD_some, Text.trim_of_hasBlank h.mode_blank,
      if_neg (by simp [h.mode_blank]), if_neg hmode, String.ofList_toList, String.ofList_toList]

end Back

section RoundTrip

variable {d : Directive}

theorem renderBase_eq (d : Directive) :
    d.renderBase = escape '|' (baseText d.subSelector d.mode) := by
  rw [renderBase, baseText, escape_append]
  split
  · rfl
  · rw [escape_cons_of_ne (by decide)]

theorem toList_render_none (h : d.filter = none) :
    d.render.toList = escape '|' (baseText d.subSelector d.mode) := by
  rw [render, h, renderBase_eq, String.toList_ofList, List.append_nil]

theorem toList_render_some {f : Invocation} (h : d.filter = some f) :
    d.render.toList = escape '|' (baseText d.subSelector d.mode) ++ '|' :: f.render := by
  rw [render, h, renderBase_eq, String.toList_ofList]

/-- The last character before the bar is the last one of the mode, or of the sub-selector where the
mode is not written. -/
theorem getLast?_baseText (h : d.mode ≠ "") :
    (baseText d.subSelector d.mode).getLast? = d.front.toList.getLast? := by
  rw [baseText, front]
  split
  · rw [List.append_nil]
  · have hne : d.mode.toList ≠ [] := by simpa using h
    rw [List.getLast?_append, List.getLast?_cons, List.getLast?_eq_some_getLast hne]
    rfl

/-- A readable and writable directive comes back, part by part. -/
theorem parts_render (hr : d.Readable) (hw : d.Writable) : Parts d.render d := by
  have hbase := readBase_baseText hr.base
  cases h : d.filter with
  | none =>
    refine .inl ⟨_, _, _, ?_, hbase, ?_⟩
    · rw [toList_render_none h, splitUnescaped_escape bar_ne]
    · rw [← h, of_self]
  | some f =>
    have hclause : readInvocation f.text = .ok f :=
      (readInvocation_text_iff (hr.filter f h)).mpr ⟨hw.args f h, hw.quotes f h⟩
    refine .inr ⟨_, _, _, _, f, ?_, hbase, hclause, ?_⟩
    · have hlast : (baseText d.subSelector d.mode).getLast? ≠ some '\\' := by
        rw [getLast?_baseText hr.base.mode_ne]
        exact hw.front (by rw [h]; rfl)
      rw [toList_render_some h, splitUnescaped_escape_sep bar_ne hlast,
        Invocation.render_of_notMem (hw.name f h), splitUnescaped_escape bar_ne]
    · rw [← h, of_self]

/-- A directive comes back only part by part: any other way needs a longer text. -/
theorem Parts.writable (h : Parts d.render d) : d.Writable := by
  have hr := h.readable
  rcases h with ⟨base, sub, mode, -, -, hd⟩ | ⟨base, clause, sub, mode, f, hs, hb, hf, hd⟩
  · have hnone : d.filter = none := by rw [hd, of_filter]
    exact ⟨by simp [hnone], by simp [hnone], by simp [hnone], by simp [hnone]⟩
  · have hsome : d.filter = some f := by rw [hd, of_filter]
    obtain ⟨hsplit, hlast⟩ := eq_of_splitUnescaped_two hs
    have hbase := baseText_eq_or_lt (some f) hb
    have hmode : d.mode = mode := by rw [hd, of_mode]
    rw [← hd, ← hmode] at hbase
    have hclause := eq_or_length_escape_lt (readInvocation_sound hf).2
    have htext := f.length_escape_text
    rw [toList_render_some hsome] at hsplit
    have hlen := congrArg List.length hsplit
    simp only [List.length_append, List.length_cons] at hlen
    -- Both parts are at least as long as what is read of them, and together no longer.
    have hbase_le : (escape '|' (baseText d.subSelector d.mode)).length ≤
        (escape '|' base).length := hbase.elim (fun h => by rw [h]) Nat.le_of_lt
    have hclause_le : (escape '|' f.text).length ≤ (escape '|' clause).length :=
      hclause.elim (fun h => by rw [h]) Nat.le_of_lt
    obtain rfl := hbase.resolve_right (by omega)
    obtain rfl := hclause.resolve_right (by omega)
    have hcount : f.name.toList.count '|' = 0 := by omega
    obtain ⟨hargs, hquotes⟩ := (readInvocation_text_iff (readInvocation_sound hf).1).mp hf
    rw [getLast?_baseText hr.base.mode_ne] at hlast
    refine ⟨fun _ => hlast, ?_, ?_, ?_⟩
    · simpa [hsome] using List.count_eq_zero.mp hcount
    · simpa [hsome] using hargs
    · simpa [hsome] using hquotes

/-- **Which directives come back from their written form**: those that are as the compiler leaves
them and whose filter clause survives being written. -/
theorem compile_render_eq_ok_iff (d : Directive) :
    compile d.render = .ok d ↔ d.Readable ∧ d.Writable := by
  rw [compile_eq_ok_iff]
  exact ⟨fun h => ⟨h.readable, h.writable⟩, fun h => parts_render h.1 h.2⟩

/-- **A compiled selector that is written out compiles to the same directive** just when its filter
clause survives being written. -/
theorem recompile_eq_ok_iff {s : String} (h : compile s = .ok d) :
    compile d.render = .ok d ↔ d.Writable := by
  rw [compile_eq_ok_iff] at h ⊢
  exact ⟨Parts.writable, parts_render h.readable⟩

/-- Bars in the sub-selector, the mode and the arguments survive. A bar in the name does not, nor do
one empty argument, arguments in quotes, or a sub-selector that ends in a backslash. -/
theorem recompile_bars_and_quotes :
    (∃ d, compile "a\\|b@c\\|d|replace:\\|,-" = .ok d ∧ compile d.render = .ok d) ∧
    ∀ s ∈ ["a|b\\|c", "a|default:\" \"", "a|replace:\"'b','c'\"", "a\\ |trim"],
      ∃ d, compile s = .ok d ∧ compile d.render ≠ .ok d := by
  refine ⟨⟨of "a|b" "c|d" (some ⟨"replace", ["|", "-"]⟩), rfl,
    (recompile_eq_ok_iff (s := "a\\|b@c\\|d|replace:\\|,-") rfl).mpr (by decide)⟩, ?_⟩
  simp only [List.forall_mem_cons]
  refine ⟨⟨of "a" textMode (some ⟨"b|c", []⟩), rfl, ?_⟩,
    ⟨of "a" textMode (some ⟨"default", [""]⟩), rfl, ?_⟩,
    ⟨of "a" textMode (some ⟨"replace", ["'b'", "'c'"]⟩), rfl, ?_⟩,
    ⟨of "a\\" textMode (some ⟨"trim", []⟩), rfl, ?_⟩, by simp⟩
  · exact fun h => absurd ((recompile_eq_ok_iff (s := "a|b\\|c") rfl).mp h) (by decide)
  · exact fun h => absurd ((recompile_eq_ok_iff (s := "a|default:\" \"") rfl).mp h) (by decide)
  · exact fun h =>
      absurd ((recompile_eq_ok_iff (s := "a|replace:\"'b','c'\"") rfl).mp h) (by decide)
  · exact fun h => absurd ((recompile_eq_ok_iff (s := "a\\ |trim") rfl).mp h) (by decide)

end RoundTrip

end Directive

end Gleaner
