import Gleaner.Proofs.Text.Digits
import Gleaner.Url.Query

/-! # Names and values of a query

A text is written with letters, digits and four other characters as they are, with `+` for a space and
with the bytes of UTF-8 behind percent signs. What is written so is read back
(`decodeField_encodeField`), and none of it separates the parts of a URL. -/

namespace Gleaner.Url

/-! ## Bytes of UTF-8 -/

theorem ofNat_toNat_of_eq {c : Char} {n : Nat} (h : n = c.toNat) : Char.ofNat n = c := by
  rw [h, Char.ofNat_toNat]

theorem toNat_cases (c : Char) : c.toNat < 0xd800 ∨ 0xdfff < c.toNat ∧ c.toNat < 0x110000 := by
  have h := c.valid
  rw [UInt32.isValidChar, Nat.isValidChar] at h
  exact h

theorem utf8_lt (c : Char) : ∀ b ∈ utf8 c, b < 256 := by
  have hcode := toNat_cases c
  unfold utf8
  dsimp only
  intro b hb
  split at hb
  · simp only [List.mem_singleton] at hb
    omega
  split at hb
  · simp only [List.mem_cons, List.not_mem_nil, or_false] at hb
    omega
  split at hb
  · simp only [List.mem_cons, List.not_mem_nil, or_false] at hb
    omega
  · simp only [List.mem_cons, List.not_mem_nil, or_false] at hb
    omega

/-- A byte inside a sequence that is not the last one. -/
theorem decodeUtf8_next {q : Sequence} {b : Nat} (hlo : q.lo ≤ b) (hhi : b ≤ q.hi) (hdue : 1 < q.due)
    (r : List Nat) : decodeUtf8 (some q) (b :: r) =
      decodeUtf8 (some ⟨q.due - 1, 0x80, 0xbf, q.code * 64 + (b - 0x80)⟩) r := by
  rw [decodeUtf8, if_pos ⟨hlo, hhi⟩]
  dsimp only
  rw [if_neg (by omega)]

theorem decodeUtf8_last {q : Sequence} {b : Nat} (hlo : q.lo ≤ b) (hhi : b ≤ q.hi) (hdue : q.due = 1)
    (r : List Nat) : decodeUtf8 (some q) (b :: r) =
      Char.ofNat (q.code * 64 + (b - 0x80)) :: decodeUtf8 none r := by
  rw [decodeUtf8, if_pos ⟨hlo, hhi⟩]
  dsimp only
  rw [if_pos (by omega)]

theorem decodeUtf8_lead {b due lo hi : Nat} (h : leadByte? b = some (due, lo, hi)) (hb : ¬ b < 0x80)
    (r : List Nat) : decodeUtf8 none (b :: r) = decodeUtf8 (some ⟨due, lo, hi,
      b - (if due = 1 then 0xc0 else if due = 2 then 0xe0 else 0xf0)⟩) r := by
  rw [decodeUtf8, firstByte, if_neg hb, h]
  rfl

/-- The first two bytes of a sequence fit each other. -/
theorem leadByte?_two {n : Nat} (h : 0x80 ≤ n) (h' : n < 0x800) :
    leadByte? (0xc0 + n / 64) = some (1, 0x80, 0xbf) := by
  unfold leadByte?
  rw [if_pos (by omega)]

theorem leadByte?_three {n : Nat} (h : 0x800 ≤ n) (h' : n < 0xd800 ∨ 0xdfff < n ∧ n < 0x10000) :
    ∃ lo hi, leadByte? (0xe0 + n / 4096) = some (2, lo, hi) ∧
      lo ≤ 0x80 + n / 64 % 64 ∧ 0x80 + n / 64 % 64 ≤ hi := by
  unfold leadByte?
  rw [if_neg (by omega)]
  by_cases hfirst : 0xe0 + n / 4096 = 0xe0
  · exact ⟨_, _, if_pos hfirst, by omega, by omega⟩
  rw [if_neg hfirst]
  by_cases hlast : 0xe0 + n / 4096 = 0xed
  · exact ⟨_, _, if_pos hlast, by omega, by omega⟩
  rw [if_neg hlast]
  exact ⟨_, _, if_pos (by omega), by omega, by omega⟩

theorem leadByte?_four {n : Nat} (h : 0x10000 ≤ n) (h' : n < 0x110000) :
    ∃ lo hi, leadByte? (0xf0 + n / 262144) = some (3, lo, hi) ∧
      lo ≤ 0x80 + n / 4096 % 64 ∧ 0x80 + n / 4096 % 64 ≤ hi := by
  unfold leadByte?
  rw [if_neg (by omega), if_neg (by omega), if_neg (by omega), if_neg (by omega)]
  by_cases hfirst : 0xf0 + n / 262144 = 0xf0
  · exact ⟨_, _, if_pos hfirst, by omega, by omega⟩
  rw [if_neg hfirst]
  by_cases hmiddle : 0xf1 ≤ 0xf0 + n / 262144 ∧ 0xf0 + n / 262144 ≤ 0xf3
  · exact ⟨_, _, if_pos hmiddle, by omega, by omega⟩
  rw [if_neg hmiddle]
  exact ⟨_, _, if_pos (by omega), by omega, by omega⟩

/-- The bytes of a character are read back as it. -/
theorem decodeUtf8_utf8 (c : Char) (r : List Nat) :
    decodeUtf8 none (utf8 c ++ r) = c :: decodeUtf8 none r := by
  have hcode := toNat_cases c
  unfold utf8
  dsimp only
  split
  next hone =>
    rw [List.singleton_append, decodeUtf8, firstByte, if_pos hone]
    dsimp only
    rw [Char.ofNat_toNat, List.singleton_append]
  next hone =>
  split
  next htwo =>
    rw [List.cons_append, List.singleton_append,
      decodeUtf8_lead (leadByte?_two (by omega) htwo) (by omega),
      decodeUtf8_last (by dsimp only; omega) (by dsimp only; omega) rfl]
    refine congrArg (· :: decodeUtf8 none r) (ofNat_toNat_of_eq ?_)
    dsimp only
    rw [if_pos rfl]
    omega
  next htwo =>
  split
  next hthree =>
    obtain ⟨lo, hi, hlead, hlo, hhi⟩ := leadByte?_three (n := c.toNat) (by omega) (by omega)
    rw [List.cons_append, List.cons_append, List.singleton_append,
      decodeUtf8_lead hlead (by omega), decodeUtf8_next hlo hhi (by dsimp only; omega),
      decodeUtf8_last (by dsimp only; omega) (by dsimp only; omega) rfl]
    refine congrArg (· :: decodeUtf8 none r) (ofNat_toNat_of_eq ?_)
    dsimp only
    rw [if_neg (by decide), if_pos rfl]
    omega
  next hthree =>
    obtain ⟨lo, hi, hlead, hlo, hhi⟩ := leadByte?_four (n := c.toNat) (by omega) (by omega)
    rw [List.cons_append, List.cons_append, List.cons_append, List.singleton_append,
      decodeUtf8_lead hlead (by omega), decodeUtf8_next hlo hhi (by dsimp only; omega),
      decodeUtf8_next (by dsimp only; omega) (by dsimp only; omega) (by dsimp only; omega),
      decodeUtf8_last (by dsimp only; omega) (by dsimp only; omega) rfl]
    refine congrArg (· :: decodeUtf8 none r) (ofNat_toNat_of_eq ?_)
    dsimp only
    rw [if_neg (by decide), if_neg (by decide)]
    omega

theorem decodeUtf8_flatMap_utf8 (s : List Char) : decodeUtf8 none (s.flatMap utf8) = s := by
  induction s with
  | nil => rfl
  | cons c s ih => rw [List.flatMap_cons, decodeUtf8_utf8, ih]

/-! ## Percent signs -/

theorem hexValue?_hexDigit {d : Nat} (h : d < 16) :
    Text.hexValue? (Text.hexDigit d).toUpper = some d := by
  have hall : ∀ d < 16, Text.hexValue? (Text.hexDigit d).toUpper = some d := by decide
  exact hall d h

theorem isUnreserved_hexDigit {d : Nat} (h : d < 16) :
    isUnreserved (Text.hexDigit d).toUpper = true := by
  have hall : ∀ d < 16, isUnreserved (Text.hexDigit d).toUpper = true := by decide
  exact hall d h

theorem percent_eq (b : Nat) : percent b =
    ['%', (Text.hexDigit (b / 16 % 16)).toUpper, (Text.hexDigit (b % 16)).toUpper] := rfl

theorem unescapeBytes_percent {b : Nat} (h : b < 256) (r : List Char) :
    unescapeBytes (percent b ++ r) = b :: unescapeBytes r := by
  rw [percent_eq]
  change unescapeBytes ('%' :: _ :: _ :: r) = _
  rw [unescapeBytes, hexValue?_hexDigit (Nat.mod_lt _ (by decide)),
    hexValue?_hexDigit (Nat.mod_lt _ (by decide))]
  dsimp only
  congr 1
  omega

theorem unescapeBytes_cons {c : Char} (h : c ≠ '%') (r : List Char) :
    unescapeBytes (c :: r) = c.toNat :: unescapeBytes r := by
  rw [unescapeBytes]
  rintro a b r' rfl
  exact absurd rfl h

theorem unescapeBytes_flatMap_percent {bs : List Nat} (h : ∀ b ∈ bs, b < 256) (r : List Char) :
    unescapeBytes (bs.flatMap percent ++ r) = bs ++ unescapeBytes r := by
  induction bs with
  | nil => rfl
  | cons b bs ih =>
    obtain ⟨hb, hbs⟩ := List.forall_mem_cons.mp h
    rw [List.flatMap_cons, List.append_assoc, unescapeBytes_percent hb, ih hbs, List.cons_append]

/-! ## Encoded texts -/

theorem forall_ascii {P : Char → Prop} (h : ∀ n < 128, P (Char.ofNat n)) {c : Char}
    (hc : c.toNat < 128) : P c := by
  have hcode := h c.toNat hc
  rwa [Char.ofNat_toNat] at hcode

theorem toNat_lt_of_isAlphanum {c : Char} (h : c.isAlphanum = true) : c.toNat < 128 := by
  have hlast {last : Char} (hle : c.val ≤ last.val) (hlt : last.toNat < 128) : c.toNat < 128 :=
    Nat.lt_of_le_of_lt (UInt32.le_iff_toNat_le.mp hle) hlt
  rcases Bool.or_eq_true_iff.mp h with h | hdigit
  · rcases Bool.or_eq_true_iff.mp h with hupper | hlower
    · exact hlast (of_decide_eq_true hupper).2 (by decide)
    · exact hlast (of_decide_eq_true (Bool.and_eq_true_iff.mp hlower).2) (by decide)
  · exact hlast (of_decide_eq_true (Bool.and_eq_true_iff.mp hdigit).2) (by decide)

theorem toNat_lt_of_isUnreserved {c : Char} (h : isUnreserved c = true) : c.toNat < 128 := by
  simp only [isUnreserved, Bool.or_eq_true, decide_eq_true_eq] at h
  rcases h with (((h | rfl) | rfl) | rfl) | rfl
  · exact toNat_lt_of_isAlphanum h
  all_goals decide

theorem mem_percent {b : Nat} {c : Char} (h : c ∈ percent b) : c = '%' ∨ isUnreserved c = true := by
  rw [percent_eq] at h
  simp only [List.mem_cons, List.not_mem_nil, or_false] at h
  rcases h with rfl | rfl | rfl
  · exact .inl rfl
  · exact .inr (isUnreserved_hexDigit (Nat.mod_lt _ (by decide)))
  · exact .inr (isUnreserved_hexDigit (Nat.mod_lt _ (by decide)))

/-- What an encoded text consists of. -/
theorem mem_encodeField {s : List Char} {c : Char} (h : c ∈ encodeField s) :
    isUnreserved c = true ∨ c = '+' ∨ c = '%' := by
  obtain ⟨d, -, hd⟩ := List.mem_flatMap.mp h
  split at hd
  next hsafe =>
    obtain rfl := List.mem_singleton.mp hd
    exact .inl hsafe
  split at hd
  · exact .inr (.inl (List.mem_singleton.mp hd))
  · obtain ⟨b, -, hb⟩ := List.mem_flatMap.mp hd
    rcases mem_percent hb with rfl | hsafe
    · exact .inr (.inr rfl)
    · exact .inl hsafe

theorem notMem_encodeField {sep : Char} (h : isUnreserved sep = false) (hplus : sep ≠ '+')
    (hpercent : sep ≠ '%') (s : List Char) : sep ∉ encodeField s := by
  intro hmem
  rcases mem_encodeField hmem with hsafe | rfl | rfl
  · rw [hsafe] at h
    cases h
  · exact hplus rfl
  · exact hpercent rfl

/-- A text of ASCII characters is one run. -/
theorem unescape_of_ascii {s : List Char} (h : ∀ c ∈ s, c.toNat < 128) :
    unescape s = decodeUtf8 none (unescapeBytes s) := by
  have hruns : asciiRuns s = if s = [] then [] else [(true, s)] := by
    induction s with
    | nil => rfl
    | cons c r ih =>
      obtain ⟨hc, hr⟩ := List.forall_mem_cons.mp h
      have hascii : c.val < 128 := UInt32.lt_iff_toNat_lt.mpr hc
      rw [asciiRuns, ih hr]
      cases r <;> simp [hascii]
  rw [unescape, hruns]
  cases s <;> simp [unescapeBytes, decodeUtf8]

theorem map_plus_eq_self {s : List Char} (h : '+' ∉ s) :
    (s.map fun c => if c = '+' then ' ' else c) = s := by
  conv_rhs => rw [← List.map_id s]
  exact List.map_congr_left fun c hc => if_neg (ne_of_mem_of_not_mem hc h)

/-- What stands for a character is read as its bytes. -/
theorem unescapeBytes_encodeChar (c : Char) (r : List Char) :
    unescapeBytes (((if isUnreserved c then [c] else if c = ' ' then ['+'] else
      (utf8 c).flatMap percent).map fun c => if c = '+' then ' ' else c) ++ r) =
      utf8 c ++ unescapeBytes r := by
  split
  next hsafe =>
    have hascii := toNat_lt_of_isUnreserved hsafe
    have hplus : c ≠ '+' := by
      rintro rfl
      exact absurd hsafe (by decide)
    have hpercent : c ≠ '%' := by
      rintro rfl
      exact absurd hsafe (by decide)
    rw [List.map_singleton, if_neg hplus, List.singleton_append, unescapeBytes_cons hpercent, utf8,
      if_pos hascii, List.singleton_append]
  split
  next hspace =>
    subst hspace
    exact unescapeBytes_cons (by decide) r
  next =>
    have hplus : '+' ∉ (utf8 c).flatMap percent := fun hmem => by
      obtain ⟨b, -, hb⟩ := List.mem_flatMap.mp hmem
      rcases mem_percent hb with h | h <;> revert h <;> decide
    rw [map_plus_eq_self hplus, unescapeBytes_flatMap_percent (utf8_lt c)]

theorem unescapeBytes_encodeField (s : List Char) :
    unescapeBytes ((encodeField s).map fun c => if c = '+' then ' ' else c) = s.flatMap utf8 := by
  induction s with
  | nil => rfl
  | cons c s ih =>
    rw [encodeField, List.flatMap_cons, List.map_append, unescapeBytes_encodeChar,
      List.flatMap_cons]
    exact congrArg _ ih

/-- **An encoded text is decoded to itself.** -/
theorem decodeField_encodeField (s : List Char) : decodeField (encodeField s) = s := by
  have hascii : ∀ c ∈ (encodeField s).map fun c => if c = '+' then ' ' else c, c.toNat < 128 := by
    intro c hc
    obtain ⟨d, hd, rfl⟩ := List.mem_map.mp hc
    split
    · decide
    · rcases mem_encodeField hd with hsafe | rfl | rfl
      · exact toNat_lt_of_isUnreserved hsafe
      · decide
      · decide
  rw [decodeField, unescape_of_ascii hascii, unescapeBytes_encodeField, decodeUtf8_flatMap_utf8]

end Gleaner.Url
