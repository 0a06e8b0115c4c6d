import Gleaner.Proofs.Traced
import Gleaner.Template.Expand
import Mathlib.Data.List.TakeWhile

/-! # Templates and plain text

Text without braces expands to itself, alone and around a template. -/

namespace Gleaner

/-! ## Plain texts

A text without braces is a template that expands to itself. -/

namespace Template

/-- A text without braces. -/
def Plain (s : String) : Prop := ∀ c ∈ s.toList, c ≠ '\x7b' ∧ c ≠ '\x7d'

instance (s : String) : Decidable (Plain s) :=
  decidable_of_iff (s.toList.all fun c => c != '\x7b' && c != '\x7d') (by simp [Plain])

theorem Plain.append {s t : String} (hs : Plain s) (ht : Plain t) : Plain (s ++ t) := by
  intro c hc
  rw [String.toList_append, List.mem_append] at hc
  exact hc.elim (hs c) (ht c)

theorem plain_repr (n : Nat) : Plain n.repr := by
  intro c hc
  rw [Nat.toList_repr] at hc
  have hd := Nat.isDigit_of_mem_toDigits (by decide) (by decide) hc
  constructor <;> rintro rfl <;> exact absurd hd (by decide)

theorem plain_toString_int (i : Int) : Plain (toString i) := by
  cases i with
  | ofNat n => exact plain_repr n
  | negSucc n => exact .append (s := "-") (by decide) (plain_repr (n + 1))

/-- A plain template stands for itself, whatever its fields could name. -/
theorem expand_plain (names : Names) {s : String} (h : Plain s) : expand names s = .ok s := by
  have htext : s.toList.takeWhile (fun c => !(c = '\x7b' || c = '\x7d')) = s.toList := by
    rw [List.takeWhile_eq_self_iff]
    intro c hc
    simpa using h c hc
  have hall : expandWithin names 1 (s.length + 1) s.toList = .ok s.toList := by
    rw [expandWithin]
    simp only [htext, List.drop_length]
  rw [expand, hall]
  exact congrArg Except.ok String.ofList_toList

end Template

end Gleaner

namespace Gleaner.Template

/-! ## Templates inside plain text

Fields are read from their opening brace to their closing one, whatever follows. So plain text
around a template changes nothing: it expands just when the template does, and stands unchanged around what
the template expands to (`expand_around_iff`). -/

section Fields

theorem readName_exact {hidden : Bool} {s name r : List Char} {sign : Char}
    (h : readName hidden s = .ok (name, sign, r)) :
    ∃ pre, s = pre ++ sign :: r ∧
      ∀ x, readName hidden (pre ++ sign :: x) = .ok (name, sign, x) := by
  induction s generalizing hidden name with
  | nil => rw [readName] at h; cases h
  | cons c s ih =>
    rw [readName] at h
    split at h
    next hh =>
      obtain ⟨⟨name', sign', r'⟩, hread, heq⟩ := bind_eq_ok_iff.mp h
      cases heq
      obtain ⟨pre, rfl, hpre⟩ := ih hread
      refine ⟨c :: pre, rfl, fun x => ?_⟩
      rw [List.cons_append, readName, if_pos hh, hpre]
      rfl
    next hh =>
    split at h
    · cases h
    next hb =>
    split at h
    next hend =>
      cases h
      refine ⟨[], rfl, fun x => ?_⟩
      rw [List.nil_append, readName, if_neg hh, if_neg hb, if_pos hend]
    next hend =>
      obtain ⟨⟨name', sign', r'⟩, hread, heq⟩ := bind_eq_ok_iff.mp h
      cases heq
      obtain ⟨pre, rfl, hpre⟩ := ih hread
      refine ⟨c :: pre, rfl, fun x => ?_⟩
      rw [List.cons_append, readName, if_neg hh, if_neg hb, if_neg hend, hpre]
      rfl

theorem readSpec_exact {depth : Nat} {s spec r : List Char} (h : readSpec depth s = .ok (spec, r)) :
    s = spec ++ '\x7d' :: r ∧ ∀ x, readSpec depth (spec ++ '\x7d' :: x) = .ok (spec, x) := by
  induction s generalizing depth spec with
  | nil => rw [readSpec] at h; cases h
  | cons c s ih =>
    rw [readSpec.eq_def] at h
    dsimp only at h
    split at h
    next hc =>
      subst hc
      cases depth with
      | zero =>
        cases h
        exact ⟨rfl, fun x => rfl⟩
      | succ depth =>
        obtain ⟨⟨spec', r'⟩, hread, heq⟩ := bind_eq_ok_iff.mp h
        cases heq
        obtain ⟨rfl, hspec⟩ := ih hread
        refine ⟨rfl, fun x => ?_⟩
        rw [List.cons_append, readSpec.eq_def]
        dsimp only
        rw [if_pos rfl, hspec]
        rfl
    next hc =>
      obtain ⟨⟨spec', r'⟩, hread, heq⟩ := bind_eq_ok_iff.mp h
      cases heq
      obtain ⟨rfl, hspec⟩ := ih hread
      refine ⟨rfl, fun x => ?_⟩
      rw [List.cons_append, readSpec.eq_def]
      dsimp only
      rw [if_neg hc, hspec]
      rfl

/-- What is read behind the name of a field and the sign that ends it. -/
def readBehind (name : List Char) (sign : Char) (r : List Char) : Except TemplateFault Field :=
  if sign = '\x7d' then return { name, rest := r }
  else if sign = ':' then do
    let (spec, rest) ← readSpec 0 r
    return { name, spec, rest }
  else match r with
    | [] => .error (.malformed "end of string while looking for conversion specifier")
    | [_] => .error (.malformed "unmatched '\x7b' in format spec")
    | c :: d :: r =>
      if d = '\x7d' then return { name, conversion := some c, rest := r }
      else if d = ':' then do
        let (spec, rest) ← readSpec 0 r
        return { name, conversion := some c, spec, rest }
      else .error (.malformed "expected ':' after conversion specifier")

theorem readField_eq (s : List Char) :
    readField s = readName false s >>= fun (name, sign, r) => readBehind name sign r := rfl

theorem readBehind_exact {name r : List Char} {sign : Char} {f : Field}
    (h : readBehind name sign r = .ok f) :
    ∃ pre, sign :: r = pre ++ '\x7d' :: f.rest ∧ f.spec.length ≤ pre.length ∧
      ∀ x y, sign :: y = pre ++ '\x7d' :: x →
        readBehind name sign y = .ok { f with rest := x } := by
  unfold readBehind at h
  split at h
  next hs =>
    cases h
    refine ⟨[], by rw [hs]; rfl, Nat.zero_le _, ?_⟩
    rintro x y hxy
    obtain rfl : y = x := (List.cons.inj hxy).2
    unfold readBehind
    rw [if_pos hs]
    rfl
  next hs =>
  split at h
  next hs' =>
    obtain ⟨⟨spec, rest⟩, hspec, heq⟩ := bind_eq_ok_iff.mp h
    cases heq
    obtain ⟨rfl, hx⟩ := readSpec_exact hspec
    refine ⟨sign :: spec, rfl, Nat.le_succ _, ?_⟩
    rintro x y hxy
    obtain rfl : y = spec ++ '\x7d' :: x := (List.cons.inj hxy).2
    unfold readBehind
    rw [if_neg hs, if_pos hs', hx]
    rfl
  next hs' =>
  split at h
  · cases h
  · cases h
  next c d r =>
  split at h
  next hd =>
    cases h
    refine ⟨[sign, c], by rw [hd]; rfl, Nat.zero_le _, ?_⟩
    rintro x y hxy
    obtain rfl : y = c :: '\x7d' :: x := (List.cons.inj hxy).2
    unfold readBehind
    rw [if_neg hs, if_neg hs']
    rfl
  next hd =>
  split at h
  next hd' =>
    obtain ⟨⟨spec, rest⟩, hspec, heq⟩ := bind_eq_ok_iff.mp h
    cases heq
    obtain ⟨rfl, hx⟩ := readSpec_exact hspec
    refine ⟨sign :: c :: d :: spec, rfl, by simp only [List.length_cons]; omega, ?_⟩
    rintro x y hxy
    obtain rfl : y = c :: d :: (spec ++ '\x7d' :: x) := (List.cons.inj hxy).2
    unfold readBehind
    rw [if_neg hs, if_neg hs']
    dsimp only
    rw [if_neg hd, if_pos hd', hx]
    rfl
  · cases h

theorem readField_exact {s : List Char} {f : Field} (h : readField s = .ok f) :
    ∃ pre, s = pre ++ '\x7d' :: f.rest ∧ f.spec.length ≤ pre.length ∧
      ∀ x, readField (pre ++ '\x7d' :: x) = .ok { f with rest := x } := by
  rw [readField_eq] at h
  obtain ⟨⟨name, sign, r⟩, hname, hbehind⟩ := bind_eq_ok_iff.mp h
  obtain ⟨pre, rfl, hpre⟩ := readName_exact hname
  obtain ⟨more, hr, hlength, hmore⟩ := readBehind_exact hbehind
  refine ⟨pre ++ more, by rw [hr, List.append_assoc], ?_, fun x => ?_⟩
  · rw [List.length_append]
    exact hlength.trans (Nat.le_add_left _ _)
  · obtain ⟨y, hy⟩ : ∃ y, sign :: y = more ++ '\x7d' :: x := by
      cases more with
      | nil =>
        obtain ⟨rfl, -⟩ := List.cons.inj hr
        exact ⟨x, rfl⟩
      | cons c more =>
        obtain ⟨rfl, -⟩ := List.cons.inj hr
        exact ⟨more ++ '\x7d' :: x, rfl⟩
    rw [List.append_assoc, ← hy, readField_eq, hpre]
    exact hmore x y hy

/-- Text without braces behind a field stays behind it. -/
theorem readField_append_iff {s t : List Char} (ht : '\x7d' ∉ t) {f : Field} :
    readField (s ++ t) = .ok f ↔
      ∃ f', readField s = .ok f' ∧ f = { f' with rest := f'.rest ++ t } := by
  constructor
  · intro h
    obtain ⟨pre, heq, -, hx⟩ := readField_exact h
    -- The closing brace stands in `s`.
    obtain ⟨r, rfl, hr⟩ : ∃ r, s = pre ++ '\x7d' :: r ∧ f.rest = r ++ t := by
      rcases List.append_eq_append_iff.mp heq with ⟨a, rfl, hr⟩ | ⟨a, rfl, hr⟩
      · refine absurd ?_ ht
        rw [hr]
        simp
      · cases a with
        | nil => exact absurd (by rw [List.nil_append] at hr; rw [← hr]; simp) ht
        | cons c a =>
          obtain ⟨rfl, hrest⟩ := List.cons.inj hr
          exact ⟨a, rfl, hrest⟩
    exact ⟨_, hx r, by rw [← hr]⟩
  · rintro ⟨f', h, rfl⟩
    obtain ⟨pre, rfl, -, hx⟩ := readField_exact h
    rw [List.append_assoc]
    exact hx _

end Fields

section Expansion

variable {names : Names}

/-- Whether a character is one of the braces. -/
def isBrace (c : Char) : Bool := c = '\x7b' || c = '\x7d'

/-- What is written in the place of a field. -/
def written (names : Names) (depth fuel : Nat) (field : Field) :
    Except TemplateFault (List Char) := do
  let value ← convert (← fieldValue names field.name) field.conversion
  let spec ←
    if !field.spec.any isBrace then pure field.spec
    else match depth with
      | 0 => .error (.malformed "Max string recursion exceeded")
      | depth + 1 => expandWithin names depth (fuel + 1) field.spec
  write value spec

/-- The expansion of a text that begins with a brace, if it is not empty. -/
def expandBrace (names : Names) (depth fuel : Nat) : List Char → Except TemplateFault (List Char)
  | [] => .ok []
  | [c] => .error (.malformed s!"Single '{c}' encountered in format string")
  | c :: d :: r =>
    if c = d then (expandWithin names depth fuel r).map (c :: ·)
    else if c = '\x7d' then .error (.malformed "Single '\x7d' encountered in format string")
    else do
      let field ← readField (d :: r)
      let shown ← written names depth fuel field
      return shown ++ (← expandWithin names depth fuel field.rest)

/-- A text up to its first brace, and what follows. -/
theorem exists_brace_split (s : List Char) : ∃ text rest, s = text ++ rest ∧
    (∀ c ∈ text, isBrace c = false) ∧ ∀ c ∈ rest.head?, isBrace c = true := by
  refine ⟨s.takeWhile (!isBrace ·), s.dropWhile (!isBrace ·),
    List.takeWhile_append_dropWhile.symm, ?_, ?_⟩
  · intro c hc
    simpa using List.mem_takeWhile_imp hc
  · intro c hc
    have hnot := List.head?_dropWhile_not (!isBrace ·) s
    rw [show (s.dropWhile (!isBrace ·)).head? = some c from hc] at hnot
    simpa using hnot

theorem expandWithin_append (depth fuel : Nat) {text rest : List Char}
    (ht : ∀ c ∈ text, isBrace c = false) (hr : ∀ c ∈ rest.head?, isBrace c = true) :
    expandWithin names depth (fuel + 1) (text ++ rest) =
      (expandBrace names depth fuel rest).map (text ++ ·) := by
  have htake : (text ++ rest).takeWhile (fun c => !(c = '\x7b' || c = '\x7d')) = text := by
    rw [List.takeWhile_append_of_pos fun c hc => by simpa [isBrace] using ht c hc]
    cases rest with
    | nil => simp
    | cons c r =>
      have hc : (c = '\x7b' || c = '\x7d') = true := hr c rfl
      rw [List.takeWhile_cons_of_neg (by rw [hc]; exact Bool.false_ne_true), List.append_nil]
  rw [expandWithin]
  simp only [htake, List.drop_left]
  cases rest with
  | nil => simp [expandBrace, Except.map]
  | cons c rest =>
  cases rest with
  | nil => rfl
  | cons d r =>
    dsimp only [expandBrace]
    split
    · cases expandWithin names depth fuel r <;> rfl
    · split
      · rfl
      · change _ = (text ++ ·) <$> (_ : Except TemplateFault (List Char))
        simp only [written, map_bind, bind_assoc, map_pure, List.append_assoc]
        refine bind_congr fun field => bind_congr fun shown => bind_congr fun value => ?_
        change (if (!field.spec.any isBrace) = true then _ else _) = _
        by_cases hs : (!field.spec.any isBrace) = true
        · simp only [hs, ↓reduceIte, bind_assoc]
        · simp only [hs, Bool.false_eq_true, ↓reduceIte]
          cases depth <;> simp only [bind_assoc]

theorem expandWithin_of_plain (depth fuel : Nat) {text : List Char}
    (ht : ∀ c ∈ text, isBrace c = false) :
    expandWithin names depth (fuel + 1) text = .ok text := by
  have happend := @expandWithin_append names depth fuel text [] ht nofun
  rw [List.append_nil] at happend
  rw [happend]
  exact congrArg Except.ok (List.append_nil text)

theorem length_of_readField {s : List Char} {f : Field} (h : readField s = .ok f) :
    f.rest.length < s.length ∧ f.spec.length < s.length := by
  obtain ⟨pre, rfl, hspec, -⟩ := readField_exact h
  simp only [List.length_append, List.length_cons]
  omega

theorem written_congr {depth m n : Nat} {field : Field}
    (h : ∀ d, depth = d + 1 →
      expandWithin names d (m + 1) field.spec = expandWithin names d (n + 1) field.spec) :
    written names depth m field = written names depth n field := by
  cases depth with
  | zero => rfl
  | succ d => simp only [written, h d rfl]

theorem expandWithin_fuel_of_specs {depth : Nat}
    (hdepth : ∀ d, depth = d + 1 → ∀ {m n : Nat} {s : List Char}, s.length < m → s.length < n →
      expandWithin names d m s = expandWithin names d n s) {m n : Nat} {s : List Char}
    (hm : s.length < m) (hn : s.length < n) :
    expandWithin names depth m s = expandWithin names depth n s := by
  induction m generalizing n s with
  | zero => exact absurd hm (Nat.not_lt_zero _)
  | succ m ih =>
    obtain ⟨n, rfl⟩ := Nat.exists_eq_add_one_of_ne_zero (Nat.ne_of_gt (Nat.zero_lt_of_lt hn))
    obtain ⟨text, rest, rfl, ht, hr⟩ := exists_brace_split s
    rw [expandWithin_append depth m ht hr, expandWithin_append depth n ht hr]
    congr 1
    rw [List.length_append] at hm hn
    match rest with
    | [] => rfl
    | [c] => rfl
    | c :: d :: r =>
      simp only [List.length_cons] at hm hn
      dsimp only [expandBrace]
      rw [ih (n := n) (s := r) (by omega) (by omega)]
      cases hf : readField (d :: r) with
      | error e => rfl
      | ok field =>
        obtain ⟨hrest, hspec⟩ := length_of_readField hf
        rw [List.length_cons] at hrest hspec
        have hwritten : written names depth m field = written names depth n field :=
          written_congr fun d h => hdepth d h (by omega) (by omega)
        dsimp only [bind, Except.bind]
        rw [hwritten, ih (n := n) (s := field.rest) (by omega) (by omega)]

/-- More fuel than there are characters changes nothing. -/
theorem expandWithin_fuel (depth : Nat) {m n : Nat} {s : List Char} (hm : s.length < m)
    (hn : s.length < n) : expandWithin names depth m s = expandWithin names depth n s := by
  -- A layout is expanded at a smaller depth, everything else with less fuel.
  induction depth generalizing m n s with
  | zero => exact expandWithin_fuel_of_specs (fun d h => absurd h (Nat.succ_ne_zero d).symm) hm hn
  | succ depth ih =>
    refine expandWithin_fuel_of_specs (fun d h => ?_) hm hn
    obtain rfl := Nat.succ.inj h
    exact fun hm hn => ih hm hn

theorem expandWithin_plain_append (depth fuel : Nat) {a s : List Char}
    (ha : ∀ c ∈ a, isBrace c = false) :
    expandWithin names depth (fuel + 1) (a ++ s) =
      (expandWithin names depth (fuel + 1) s).map (a ++ ·) := by
  obtain ⟨text, rest, rfl, ht, hr⟩ := exists_brace_split s
  have hat : ∀ c ∈ a ++ text, isBrace c = false := fun c hc =>
    (List.mem_append.mp hc).elim (ha c) (ht c)
  rw [← List.append_assoc, expandWithin_append depth fuel hat hr,
    expandWithin_append depth fuel ht hr]
  cases expandBrace names depth fuel rest with
  | error e => rfl
  | ok m => exact congrArg Except.ok (List.append_assoc a text m)

theorem not_readField_of_plain {s : List Char} (hs : '\x7d' ∉ s) (f : Field) :
    readField s ≠ .ok f := by
  intro h
  obtain ⟨pre, rfl, -⟩ := readField_exact h
  exact hs (by simp)

/-- Plain text behind a brace and what belongs to it stays behind. -/
theorem expandBrace_append_plain_iff {depth fuel : Nat} {b : List Char}
    (hb : ∀ c ∈ b, isBrace c = false)
    (ih : ∀ {s m' : List Char}, s.length < fuel →
      (expandWithin names depth fuel (s ++ b) = .ok m' ↔
        ∃ m, expandWithin names depth fuel s = .ok m ∧ m' = m ++ b))
    {c : Char} (hc : isBrace c = true) {r m' : List Char} (hr : r.length < fuel) :
    expandBrace names depth fuel (c :: (r ++ b)) = .ok m' ↔
      ∃ m, expandBrace names depth fuel (c :: r) = .ok m ∧ m' = m ++ b := by
  have hclose : '\x7d' ∉ b := fun h => by simpa [isBrace] using hb _ h
  cases r with
  | nil =>
    refine iff_of_false ?_ (by simp [expandBrace])
    -- A last brace is alone, or opens a field that never ends.
    cases b with
    | nil => simp [expandBrace]
    | cons d b =>
      have hd : c ≠ d := by
        rintro rfl
        rw [hb c List.mem_cons_self] at hc
        cases hc
      rw [List.nil_append]
      dsimp only [expandBrace]
      rw [if_neg hd]
      split
      · intro h
        cases h
      · intro h
        obtain ⟨field, hf, -⟩ := bind_eq_ok_iff.mp h
        exact not_readField_of_plain hclose field hf
  | cons d r =>
    rw [List.length_cons] at hr
    rw [List.cons_append]
    dsimp only [expandBrace]
    split
    next hcd =>
      simp only [map_eq_ok_iff, ih (s := r) (by omega)]
      constructor
      · rintro ⟨_, ⟨m, hm, rfl⟩, rfl⟩
        exact ⟨_, ⟨m, hm, rfl⟩, rfl⟩
      · rintro ⟨_, ⟨m, hm, rfl⟩, rfl⟩
        exact ⟨_, ⟨m, hm, rfl⟩, rfl⟩
    next hcd =>
    split
    · simp
    · rw [← List.cons_append]
      simp only [bind_eq_ok_iff, readField_append_iff hclose]
      constructor
      · rintro ⟨_, ⟨field, hf, rfl⟩, shown, hshown, more, hmore, heq⟩
        obtain ⟨hrest, -⟩ := length_of_readField hf
        rw [List.length_cons] at hrest
        obtain ⟨m, hm, rfl⟩ := (ih (by omega)).mp hmore
        cases heq
        exact ⟨shown ++ m, ⟨field, hf, shown, hshown, m, hm, rfl⟩, (List.append_assoc ..).symm⟩
      · rintro ⟨_, ⟨field, hf, shown, hshown, m, hm, heq⟩, rfl⟩
        obtain ⟨hrest, -⟩ := length_of_readField hf
        rw [List.length_cons] at hrest
        cases heq
        exact ⟨_, ⟨field, hf, rfl⟩, shown, hshown, m ++ b, (ih (by omega)).mpr ⟨m, hm, rfl⟩,
          congrArg Except.ok (List.append_assoc ..).symm⟩

theorem expandWithin_append_plain_iff (depth : Nat) {b : List Char}
    (hb : ∀ c ∈ b, isBrace c = false) {fuel : Nat} {s m' : List Char} (hs : s.length < fuel) :
    expandWithin names depth fuel (s ++ b) = .ok m' ↔
      ∃ m, expandWithin names depth fuel s = .ok m ∧ m' = m ++ b := by
  induction fuel generalizing s m' with
  | zero => exact absurd hs (Nat.not_lt_zero _)
  | succ fuel ih =>
    obtain ⟨text, rest, rfl, ht, hr⟩ := exists_brace_split s
    match rest with
    | [] =>
      have htb : ∀ c ∈ text ++ b, isBrace c = false := fun c hc =>
        (List.mem_append.mp hc).elim (ht c) (hb c)
      rw [List.append_nil, expandWithin_of_plain depth fuel htb,
        expandWithin_of_plain depth fuel ht]
      simp [eq_comm]
    | c :: r =>
      have hc : isBrace c = true := hr c rfl
      rw [List.length_append, List.length_cons] at hs
      have hr' : ∀ d ∈ (c :: (r ++ b)).head?, isBrace d = true := hr
      have hbrace (m' : List Char) : expandBrace names depth fuel (c :: (r ++ b)) = .ok m' ↔
          ∃ m, expandBrace names depth fuel (c :: r) = .ok m ∧ m' = m ++ b :=
        expandBrace_append_plain_iff hb (fun h => ih h) hc (by omega)
      rw [List.append_assoc, List.cons_append, expandWithin_append depth fuel ht hr',
        expandWithin_append depth fuel ht hr]
      simp only [map_eq_ok_iff, hbrace]
      constructor
      · rintro ⟨_, ⟨m, hm, rfl⟩, rfl⟩
        exact ⟨text ++ m, ⟨m, hm, rfl⟩, (List.append_assoc ..).symm⟩
      · rintro ⟨_, ⟨m, hm, rfl⟩, rfl⟩
        exact ⟨m ++ b, ⟨m, hm, rfl⟩, (List.append_assoc ..).symm⟩

end Expansion

section Text

theorem Plain.isBrace {s : String} (h : Plain s) : ∀ c ∈ s.toList, isBrace c = false := by
  intro c hc
  simpa [Template.isBrace] using h c hc

/-- **A template inside plain text** expands just when it does by itself, and the plain text stays
around what it expands to. -/
theorem expand_around_iff {names : Names} {a b : String} (ha : Plain a) (hb : Plain b)
    {s m' : String} :
    expand names (a ++ s ++ b) = .ok m' ↔ ∃ m, expand names s = .ok m ∧ m' = a ++ m ++ b := by
  have hlength : s.toList.length < (a ++ s ++ b).length + 1 := by
    simp only [String.length_append, String.length_toList]
    omega
  have hfuel : expandWithin names 1 ((a ++ s ++ b).length + 1) s.toList =
      expandWithin names 1 (s.length + 1) s.toList :=
    expandWithin_fuel 1 hlength (by rw [String.length_toList]; exact Nat.lt_succ_self _)
  have hbehind (m' : List Char) :
      expandWithin names 1 ((a ++ s ++ b).length + 1) (s.toList ++ b.toList) = .ok m' ↔
        ∃ m, expandWithin names 1 (s.length + 1) s.toList = .ok m ∧ m' = m ++ b.toList := by
    rw [expandWithin_append_plain_iff 1 hb.isBrace hlength, hfuel]
  unfold expand
  rw [String.toList_append, String.toList_append, List.append_assoc,
    expandWithin_plain_append 1 _ ha.isBrace]
  simp only [map_eq_ok_iff, hbehind]
  constructor
  · rintro ⟨_, ⟨_, ⟨m, hm, rfl⟩, rfl⟩, rfl⟩
    refine ⟨.ofList m, ⟨m, hm, rfl⟩, ?_⟩
    simp only [String.ofList_append, String.ofList_toList, String.append_assoc]
  · rintro ⟨_, ⟨m, hm, rfl⟩, rfl⟩
    refine ⟨_, ⟨_, ⟨m, hm, rfl⟩, rfl⟩, ?_⟩
    simp only [String.ofList_append, String.ofList_toList, String.append_assoc]

end Text

end Gleaner.Template
