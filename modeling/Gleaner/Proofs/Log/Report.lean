import Gleaner.Log.Event
import Gleaner.Proofs.Template.Around

/-! # Reports of addresses

The reports of a scan and of a fetch hold an address between plain texts, and the whole is read as a
template. So what is written shows the address as it expands, and an address that is no template
makes the report fail. Nobody hears of either if no entries of that level are wanted. -/

namespace Gleaner.Log

open Template (Plain Names expand expand_plain expand_around_iff plain_repr plain_toString_int)

/-- How the report of an event comes out whose text holds an address between two others. -/
inductive Reported (floor : Floor) (level : Level) (data : Names) (front address back : String) :
    Traced Entry Unit → Prop where
  /-- Nobody wants it. -/
  | unwanted : level.severity < floor → Reported floor level data front address back (pure ())
  /-- One entry is written. It shows the address as it expands. -/
  | written {shown : String} : floor ≤ level.severity → expand data address = .ok shown →
    Reported floor level data front address back (.tell [⟨level, front ++ shown ++ back, data⟩])
  /-- The address does not expand, and nothing is written. -/
  | refused {fault : TemplateFault} : floor ≤ level.severity →
    (∀ shown, expand data address ≠ .ok shown) →
    Reported floor level data front address back (.fail (.template fault))

/-- More than any severity: with this floor nothing is reported. -/
def mute : Floor := 51

theorem severity_lt_mute (level : Level) : level.severity < mute := by
  cases level <;> decide

namespace Reported

variable {floor : Floor} {level : Level} {data : Names} {front address back : String}
  {report : Traced Entry Unit}

theorem of_event {e : Event} (hfront : Plain front) (hback : Plain back)
    (htext : e.text = front ++ address ++ back) :
    Reported floor e.level e.data front address back (e.report floor) := by
  unfold Event.report Event.entry
  split
  next h => exact .unwanted h
  next h =>
  rw [htext]
  cases hx : expand e.data (front ++ address ++ back) with
  | ok message =>
    obtain ⟨shown, hshown, rfl⟩ := (expand_around_iff hfront hback).mp hx
    exact .written (Nat.le_of_not_lt h) hshown
  | error fault =>
    refine .refused (Nat.le_of_not_lt h) fun shown hshown => ?_
    have hok := (expand_around_iff hfront hback).mpr ⟨shown, hshown, rfl⟩
    rw [hx] at hok
    cases hok

theorem result (h : Reported floor level data front address back report) :
    report.result = .ok () ∨
      (∀ shown, expand data address ≠ .ok shown) ∧
        ∃ fault, report.result = .error (.template fault) := by
  cases h with
  | unwanted => exact .inl rfl
  | written => exact .inl rfl
  | refused _ hshown => exact .inr ⟨hshown, _, rfl⟩

theorem of_plain (h : Reported floor level data front address back report)
    (hw : floor ≤ level.severity) (hp : Plain address) :
    report = .tell [⟨level, front ++ address ++ back, data⟩] := by
  have hexpand := expand_plain data hp
  cases h with
  | unwanted h => exact absurd hw (Nat.not_le_of_lt h)
  | written _ hshown =>
    rw [hexpand] at hshown
    cases hshown
    rfl
  | refused _ hshown => exact absurd hexpand (hshown address)

theorem of_unwanted (h : Reported floor level data front address back report)
    (hw : level.severity < floor) : report = pure () := by
  cases h with
  | unwanted => rfl
  | written h | refused h => exact absurd hw (Nat.not_lt.mpr h)

theorem result_of_plain (h : Reported floor level data front address back report)
    (hp : Plain address) : report.result = .ok () :=
  h.result.elim id fun hx => absurd (expand_plain data hp) (hx.1 address)

theorem of_mute (h : Reported mute level data front address back report) : report = pure () :=
  h.of_unwanted (severity_lt_mute level)

end Reported

/-! ## Scans -/

namespace PageScan

/-- The address of a page as its report gives it. -/
def shownAddress : Option String → String
  | some url => if url = "" then "<inline>" else url
  | none => "<inline>"

/-- The report of a page up to its address. -/
def front (page : Nat) : String := s!"Page scanned | page={page} | url="

/-- The report of a page behind its address. -/
def back (items : Nat) : String := s!" | items={items} | status=SUCCESS"

/-- The data in the report of a page. -/
def data (url : Option String) (page items : Nat) : Names :=
  [("url", .ofText? url), ("page", .int page), ("items_count", .int items),
    ("duration", .float (.zero false)), ("success", .bool true)]

theorem plain_shownAddress {url : Option String} (h : ∀ u, url = some u → Plain u) :
    Plain (shownAddress url) := by
  cases url with
  | none => decide
  | some u =>
    by_cases hu : u = ""
    · rw [hu]; decide
    · rw [shownAddress, if_neg hu]; exact h u rfl

theorem shown_ofText (url : Option String) :
    (if (Value.ofText? url).isTruthy then (Value.ofText? url).display else "<inline>") =
      shownAddress url := by
  cases url with
  | none => rfl
  | some url =>
    by_cases h : url = "" <;>
      simp [shownAddress, Value.ofText?, Value.isTruthy, Value.display, h]

/-- **The report of a scan** reads the address of the page as a template. -/
theorem reported (floor : Floor) (url : Option String) (page items : Nat) :
    Reported floor .info (data url page items) (front page) (shownAddress url) (back items)
      ((ofCrawl url page items).report floor) := by
  have hfront : Plain (front page) :=
    ((Plain.append (s := "Page scanned | page=") (by decide) (plain_repr page)).append
      (t := " | url=") (by decide))
  have hback : Plain (back items) :=
    ((Plain.append (s := " | items=") (by decide) (plain_repr items)).append
      (t := " | status=SUCCESS") (by decide))
  have hevent : ∃ e, (ofCrawl url page items).event = .ok e ∧ e.level = .info ∧
      e.data = data url page items ∧ e.text = front page ++ shownAddress url ++ back items := by
    refine ⟨_, rfl, rfl, rfl, ?_⟩
    change "Page scanned | page=" ++ page.repr ++ " | url=" ++
      (if (Value.ofText? url).isTruthy then (Value.ofText? url).display else "<inline>") ++
      " | items=" ++ items.repr ++ " | " ++ "status=SUCCESS" =
      "Page scanned | page=" ++ page.repr ++ " | url=" ++ shownAddress url ++
        (" | items=" ++ items.repr ++ (" | " ++ "status=SUCCESS"))
    rw [shown_ofText]
    simp only [String.append_assoc]
  obtain ⟨e, he, hlevel, hdata, htext⟩ := hevent
  rw [report, he, ← hlevel, ← hdata]
  exact .of_event hfront hback htext

theorem report_ofCrawl (floor : Floor) {url : Option String} (page items : Nat)
    (h : ∀ u, url = some u → Plain u) : ((ofCrawl url page items).report floor).result = .ok () :=
  (reported floor url page items).result_of_plain (plain_shownAddress h)

end PageScan

/-! ## Fetches -/

namespace PageFetch

/-- The status of a response, if there is one. -/
def shownStatus : Option Nat → Value
  | some n => .int n
  | none => .none

def level (success : Bool) : Level := if success then .debug else .warning

/-- The report of a fetch behind its address. -/
def back (status : Option Nat) (success : Bool) : String :=
  s!" | code={(shownStatus status).display} | status={Log.status (.bool success)}"

/-- The data in the report of a fetch. -/
def data (url : String) (status : Option Nat) (success : Bool) : Names :=
  [("url", .str url), ("status_code", shownStatus status), ("duration", .float (.zero false)),
    ("success", .bool success)]

def ofFetch (url : String) (status : Option Nat) (success : Bool) : PageFetch where
  url := .str url
  status := shownStatus status
  success := .bool success

/-- **The report of a fetch** reads its address as a template. -/
theorem reported (floor : Floor) (url : String) (status : Option Nat) (success : Bool) :
    Reported floor (level success) (data url status success) "Fetch | url=" url
      (back status success) ((ofFetch url status success).report floor) := by
  have hfront : Plain "Fetch | url=" := by decide
  have hstatus : Plain (shownStatus status).display := by
    cases status with
    | none => decide
    | some n => exact plain_toString_int n
  have hback : Plain (back status success) :=
    ((Plain.append (s := " | code=") (by decide) hstatus).append (t := " | status=")
      (by decide)).append (by cases success <;> decide)
  have hevent : ∃ e, (ofFetch url status success).event = .ok e ∧ e.level = level success ∧
      e.data = data url status success ∧
      e.text = "Fetch | url=" ++ url ++ back status success := by
    refine ⟨_, rfl, rfl, rfl, ?_⟩
    change "Fetch | url=" ++ url ++ " | code=" ++ (shownStatus status).display ++ " | " ++
      ("status=" ++ Log.status (.bool success) ++ "") =
      "Fetch | url=" ++ url ++
        (" | code=" ++ (shownStatus status).display ++ (" | " ++ "status=") ++
          Log.status (.bool success))
    simp only [String.append_assoc, String.append_empty]
  obtain ⟨e, he, hlevel, hdata, htext⟩ := hevent
  rw [report, he, ← hlevel, ← hdata]
  exact .of_event hfront hback htext

end PageFetch

end Gleaner.Log
