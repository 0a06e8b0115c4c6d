import Gleaner.Proofs.Directive.Grammar
import Gleaner.Proofs.Extract.Strict

/-! # Filters that nobody registered

Where unknown names are let through, a clause that names an unregistered filter does nothing: the
selector reads what the text before its first bare bar reads (`extractBy_unregistered`). The clause
is only reported, once for each element that is found. -/

namespace Gleaner

open Markup (Cursor)

namespace Directive

variable {selector : String} {d : Directive}

/-- The text of a selector before its first bar that no backslash directly precedes. -/
def textBeforeBar (selector : String) : String :=
  .ofList ((bareCuts '|' none selector.toList).headD [])

/-- A directive without its filter. -/
def bare (d : Directive) : Directive := { d with filter := none }

theorem bare_of (subSelector mode : String) (f : Option Invocation) :
    (of subSelector mode f).bare = of subSelector mode := by
  unfold of
  split <;> rfl

/-- Before its first bare bar a selector has the escaped form of its first part. -/
theorem toList_textBeforeBar {base : List Char} {rest : List (List Char)}
    (h : splitUnescaped '|' selector.toList = base :: rest) :
    (textBeforeBar selector).toList = escape '|' base := by
  rw [textBeforeBar, String.toList_ofList, bareCuts_eq bar_ne _ (by simp), h]
  rfl

/-- **Without its filter clause** a selector compiles to the same sub-selector and mode. -/
theorem compile_textBeforeBar (h : compile selector = .ok d) :
    compile (textBeforeBar selector) = .ok d.bare := by
  have hparts : ∀ base rest sub mode,
      splitUnescaped '|' selector.toList = base :: rest → readBase base = .ok (sub, mode) →
      Parts (textBeforeBar selector) (.of sub mode) := by
    intro base rest sub mode hs hb
    refine .inl ⟨base, sub, mode, ?_, hb, rfl⟩
    rw [toList_textBeforeBar hs]
    exact splitUnescaped_escape bar_ne base
  rw [compile_eq_ok_iff]
  rcases compile_eq_ok_iff.mp h with
    ⟨base, sub, mode, hs, hb, rfl⟩ | ⟨base, clause, sub, mode, f, hs, hb, -, rfl⟩
  · rw [bare_of]
    exact hparts base [] sub mode hs hb
  · rw [bare_of]
    exact hparts base [clause] sub mode hs hb

end Directive

namespace Chain

/-- A name that neither registry has is not resolved. -/
theorem resolve_of_not_has {c : Chain} {name : String} (hown : c.own.has name = false)
    (hfallback : c.fallback.has name = false) : c.resolve name = .nothing := by
  have hget : c.own.get name = .nothing := FilterTable.get_of_has_eq_false hown
  rw [resolve, hget]
  exact FilterTable.get_of_has_eq_false hfallback

end Chain

namespace Extractor

variable {x : Extractor} {place : Option Cursor} {selector : String} {d : Directive}
  {f : Invocation}

theorem target_bare (place : Option Cursor) (d : Directive) :
    target place d.bare = target place d := rfl

/-- A selector that compiles is compiled the same when unknown names are let through. -/
theorem compile_of_lenient (hlenient : x.strict = false) (h : Directive.compile selector = .ok d) :
    x.compile selector = .ok d := by
  obtain ⟨chain, strict⟩ := x
  cases hlenient
  rw [compile_lenient, h]

theorem applyFilter_of_nothing (h : x.chain.resolve f.name = .nothing) (v : Value) :
    x.applyFilter v f = ⟨[unknownFilter f.name], .ok v⟩ := by
  rw [applyFilter, h]
  rfl

theorem extract_bare (x : Extractor) (place : Option Cursor) (d : Directive) :
    x.extract place d.bare = match target place d with
      | .error e => .fail e
      | .ok none => pure .none
      | .ok (some c) => pure (read c d.mode) := by
  rw [extract, target_bare]
  rfl

/-- The directive without its filter reads the same, and the clause is reported if there is anything
to read. -/
theorem extract_of_nothing (hf : d.filter = some f) (h : x.chain.resolve f.name = .nothing)
    (place : Option Cursor) :
    (x.extract place d).result = (x.extract place d.bare).result ∧
      (x.extract place d.bare).events = [] ∧
      (∀ c, target place d = .ok (some c) →
        (x.extract place d).events = [unknownFilter f.name]) ∧
      ((∀ c, target place d ≠ .ok (some c)) → (x.extract place d).events = []) := by
  rw [extract_bare, extract, hf]
  cases target place d with
  | error e => exact ⟨rfl, rfl, by simp, fun _ => rfl⟩
  | ok found =>
    cases found with
    | none => exact ⟨rfl, rfl, by simp, fun _ => rfl⟩
    | some c =>
      dsimp only
      rw [applyFilter_of_nothing h]
      exact ⟨rfl, rfl, fun _ _ => rfl, fun hnone => absurd rfl (hnone c)⟩

/-- **A filter that nobody registered is as if not written**, apart from one warning where an
element is found. -/
theorem extractBy_unregistered (hlenient : x.strict = false)
    (hd : Directive.compile selector = .ok d) (hf : d.filter = some f)
    (hown : x.chain.own.has f.name = false) (hfallback : x.chain.fallback.has f.name = false)
    (place : Option Cursor) :
    (x.extractBy place selector).result =
        (x.extractBy place (Directive.textBeforeBar selector)).result ∧
      (x.extractBy place (Directive.textBeforeBar selector)).events = [] ∧
      (∀ c, target place d = .ok (some c) →
        (x.extractBy place selector).events = [unknownFilter f.name]) ∧
      ((∀ c, target place d ≠ .ok (some c)) → (x.extractBy place selector).events = []) := by
  have hwith := compile_of_lenient hlenient hd
  have hwithout := compile_of_lenient hlenient (Directive.compile_textBeforeBar hd)
  rw [extractBy, extractBy, hwith, hwithout]
  exact extract_of_nothing hf (Chain.resolve_of_not_has hown hfallback) place

/-- The clause is reported for the entry that is found, and not for the table that is missing. -/
theorem extractBy_unregistered_nope :
    Directive.compile "li @id |nope:1,2" = .ok (.of "li" "id" (some ⟨"nope", ["1", "2"]⟩)) ∧
    Directive.compile "table|nope" = .ok (.of "table" "text" (some ⟨"nope", []⟩)) ∧
    Scanner.trimChain.own.has "nope" = false ∧ Scanner.trimChain.fallback.has "nope" = false ∧
    Directive.textBeforeBar "li @id |nope:1,2" = "li @id " ∧
    (⟨Scanner.trimChain, false⟩ : Extractor).extractBy (some Scraper.tripleList)
      "li @id |nope:1,2" = ⟨[unknownFilter "nope"], .ok (.str " x ")⟩ ∧
    (⟨Scanner.trimChain, false⟩ : Extractor).extractBy (some Scraper.tripleList) "table|nope" =
      ⟨[], .ok .none⟩ := by
  have hfound : Directive.compile "li @id |nope:1,2" =
    .ok (.of "li" "id" (some ⟨"nope", ["1", "2"]⟩)) := rfl
  have hmissing : Directive.compile "table|nope" =
    .ok (.of "table" "text" (some ⟨"nope", []⟩)) := rfl
  refine ⟨hfound, hmissing, rfl, rfl, rfl, ?_, ?_⟩
  · obtain ⟨hresult, -, hevents, -⟩ := extractBy_unregistered (x := ⟨Scanner.trimChain, false⟩)
      rfl hfound rfl rfl rfl (some Scraper.tripleList)
    exact congrArg₂ Traced.mk (hevents _ rfl) hresult
  · obtain ⟨hresult, -, -, hevents⟩ := extractBy_unregistered (x := ⟨Scanner.trimChain, false⟩)
      rfl hmissing rfl rfl rfl (some Scraper.tripleList)
    exact congrArg₂ Traced.mk (hevents nofun) hresult

end Extractor

end Gleaner
