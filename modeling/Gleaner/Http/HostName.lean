import Gleaner.Text.Basic
import Gleaner.Text.Case
import Gleaner.Text.Direction

/-! # Names of hosts

A request goes to a host by a name in ASCII. Names in other scripts have a form in ASCII and are
shown in their own letters. Which texts are names, and what their forms are, is for rules to say
that are given from outside (`NameRules`), because the tables behind them are another library's. The
rules at hand, `NameRules.standard`, write the labels of a name in Punycode. They take fewer signs
than the tables have: no combining marks, and none whose place in the label matters. -/

namespace Gleaner.Http

/-- Rules for names of hosts. -/
structure NameRules where
  /-- The form in ASCII of a text in small letters, if it is a name. -/
  toAscii : List Char → Option (List Char)
  /-- The name behind a form in ASCII. If there is none, this is an error of some kind. -/
  ofAscii : List Char → Except String (List Char)

/-! ## Punycode

The characters above ASCII come in increasing order behind those in ASCII. Each says how many
steps of a walk lie between it and the one before, over all characters at all places. -/

namespace Punycode

/-- The sign of a digit. -/
def digitSign (d : Nat) : Char := Char.ofNat (if d < 26 then 0x61 + d else 0x16 + d)

/-- The digit of a sign. -/
def digitValue? (c : Char) : Option Nat :=
  let n := c.toLower.toNat
  if 0x61 ≤ n ∧ n ≤ 0x7a then some (n - 0x61)
  else if 0x30 ≤ n ∧ n ≤ 0x39 then some (n - 0x16)
  else none

/-- The digits below this one are the last of a number. -/
def threshold (k bias : Nat) : Nat := max 1 (min 26 (k - bias))

theorem threshold_bounds (k bias : Nat) : 1 ≤ threshold k bias ∧ threshold k bias ≤ 26 := by
  unfold threshold
  omega

/-- A number is brought down, by steps that are counted. -/
def shrink (delta k : Nat) : Nat × Nat :=
  if 455 < delta then shrink (delta / 35) (k + 36) else (delta, k)
termination_by delta
decreasing_by exact Nat.div_lt_self (by omega) (by omega)

/-- The bias behind a number of steps, which was written at some place. -/
def adapt (delta place : Nat) (isFirst : Bool) : Nat :=
  let delta := if isFirst then delta / 700 else delta / 2
  let (delta, k) := shrink (delta + delta / place) 0
  k + 36 * delta / (delta + 38)

/-- The digits of a number of steps. -/
def digits (bias k q : Nat) : List Char :=
  let t := threshold k bias
  if q < t then [digitSign q]
  else digitSign (t + (q - t) % (36 - t)) :: digits bias (k + 36) ((q - t) / (36 - t))
termination_by q
decreasing_by
  obtain ⟨hpos, hle⟩ := threshold_bounds k bias
  exact Nat.lt_of_le_of_lt (Nat.div_le_self _ _) (by omega)

/-- A text on the way to its written form. -/
structure Writing where
  written : List Char
  /-- The steps since the last character that was written. -/
  delta : Nat
  bias : Nat
  /-- How many characters there are already. -/
  place : Nat

/-- Goes past a character, which is written if it is the one whose turn it is. -/
def Writing.pass (basic turn : Nat) (w : Writing) (c : Char) : Writing :=
  if c.toNat < turn then { w with delta := w.delta + 1 }
  else if c.toNat = turn then
    { written := w.written ++ digits w.bias 36 w.delta
      delta := 0
      bias := adapt w.delta (w.place + 1) (w.place = basic)
      place := w.place + 1 }
  else w

/-- Writes a text in ASCII. -/
def encode (s : List Char) : List Char :=
  let basic := s.filter (·.val < 128)
  let turns := ((s.filter (128 ≤ ·.val)).map Char.toNat).mergeSort.eraseDups
  let start : Writing := ⟨basic ++ (if basic = [] then [] else ['-']), 0, 72, basic.length⟩
  let (w, _) := turns.foldl (fun (w, n) turn =>
    let w := { w with delta := w.delta + (turn - n) * (w.place + 1) }
    let w := s.foldl (Writing.pass basic.length turn) w
    ({ w with delta := w.delta + 1 }, turn + 1)) (start, 128)
  w.written

/-- Reads a number of steps, and what follows it. -/
def takeSteps (bias : Nat) : List Char → Nat → Nat → Nat → Option (Nat × List Char)
  | [], _, _, _ => none
  | c :: rest, k, weight, steps => do
    let d ← digitValue? c
    let t := threshold k bias
    if d < t then some (steps + d * weight, rest)
    else takeSteps bias rest (k + 36) (weight * (36 - t)) (steps + d * weight)

theorem length_of_takeSteps {bias : Nat} {s : List Char} {k weight steps : Nat}
    {r : Nat × List Char} (h : takeSteps bias s k weight steps = some r) :
    r.2.length < s.length := by
  induction s generalizing k weight steps with
  | nil => cases h
  | cons c rest ih =>
    obtain ⟨d, -, h⟩ := Option.bind_eq_some_iff.mp h
    dsimp only at h
    split at h
    · cases h
      exact Nat.lt_succ_self _
    · exact Nat.lt_succ_of_lt (ih h)

/-- Puts the characters into a text that the rest of a written form says. -/
def insertAll (bias turn start : Nat) (read : List Char) (s : List Char) : Option (List Char) :=
  if s = [] then some read
  else match h : takeSteps bias s 36 1 start with
    | none => none
    | some (steps, rest) =>
      let turn := turn + steps / (read.length + 1)
      let place := steps % (read.length + 1)
      if Nat.isValidChar turn then
        insertAll (adapt (steps - start) (read.length + 1) (start = 0)) turn (place + 1)
          (read.insertIdx place (Char.ofNat turn)) rest
      else none
termination_by s.length
decreasing_by exact length_of_takeSteps h

/-- Reads a text from its form in ASCII. -/
def decode (s : List Char) : Option (List Char) :=
  let (basic, rest) := (Text.cutAtLast? '-' s).getD ([], s)
  if basic.all (·.val < 128) then insertAll 72 128 0 basic rest else none

example : encode "müller".toList = "mller-kva".toList := by decide +kernel

example : decode "mller-kva".toList = some "müller".toList := by decide +kernel

end Punycode

/-! ## Labels -/

namespace NameRules

/-- What stands in front of a label in Punycode. -/
def mark : List Char := "xn--".toList

/-- The signs that end a label. -/
def isDot (c : Char) : Bool := ['.', '\u3002', '\uff0e', '\uff61'].contains c

/-- Small letters and digits above ASCII that may stand in a label, with capitals between them. -/
def labelTable : Text.CodeSet := .ofText
  "df-f6 f8-131 135-13e 142-148 14b-17e 180-1c3 1ce-1f0 1f5-2af 2b9-2c1 2c6-2d1 2ec 2ee 371-373 377
  37b-37d 390 3ac-3ce 3d7-3ef 3f3 3f8-481 48b-52f 559 560-586 588 5d0-5ea 5ef-5f2 620-63f 641-64a
  66e-66f 671-674 679-6d3 6d5 6e5-6e6 6ee-6ef 6fa-6ff 710 712-72f 74d-7a5 7b1 7c0-7ea 7f4-7f5
  800-815 81a 824 828 840-858 860-86a 870-887 889-88e 8a0-8c9 904-939 93d 950 960-961 966-96f
  971-980 985-98c 98f-990 993-9a8 9aa-9b0 9b2 9b6-9b9 9bd 9ce 9e0-9e1 9e6-9f1 9fc a05-a0a a0f-a10
  a13-a28 a2a-a30 a32 a35 a38-a39 a5c a66-a6f a72-a74 a85-a8d a8f-a91 a93-aa8 aaa-ab0 ab2-ab3
  ab5-ab9 abd ad0 ae0-ae1 ae6-aef af9 b05-b0c b0f-b10 b13-b28 b2a-b30 b32-b33 b35-b39 b3d b5f-b61
  b66-b6f b71 b83 b85-b8a b8e-b90 b92-b95 b99-b9a b9c b9e-b9f ba3-ba4 ba8-baa bae-bb9 bd0 be6-bef
  c05-c0c c0e-c10 c12-c28 c2a-c39 c3d c58-c5a c5d c60-c61 c66-c6f c80 c85-c8c c8e-c90 c92-ca8 caa-
  cb3 cb5-cb9 cbd cdd-cde ce0-ce1 ce6-cef cf1-cf2 d04-d0c d0e-d10 d12-d3a d3d d4e d54-d56 d5f-d61
  d66-d6f d7a-d7f d85-d96 d9a-db1 db3-dbb dbd dc0-dc6 de6-def e01-e30 e32 e40-e46 e50-e59 e81-e82
  e84 e86-e8a e8c-ea3 ea5 ea7-eb0 eb2 ebd ec0-ec4 ec6 ed0-ed9 ede-edf f00 f0b f20-f29 f40-f42
  f44-f47 f49-f4c f4e-f51 f53-f56 f58-f5b f5d-f68 f6a-f6c f88-f8c 1000-102a 103f-1049 1050-1055
  105a-105d 1061 1065-1066 106e-1070 1075-1081 108e 1090-1099 10d0-10fa 10fd-10ff 1200-1248
  124a-124d 1250-1256 1258 125a-125d 1260-1288 128a-128d 1290-12b0 12b2-12b5 12b8-12be 12c0
  12c2-12c5 12c8-12d6 12d8-1310 1312-1315 1318-135a 1380-138f 1401-166c 166f-167f 1681-169a
  16a0-16ea 16f1-16f8 1700-1711 171f-1731 1740-1751 1760-176c 176e-1770 1780-17b3 17d7 17dc
  17e0-17e9 1810-1819 1820-1878 1880-1884 1887-18a8 18aa 18b0-18f5 1900-191e 1946-196d 1970-1974
  1980-19ab 19b0-19c9 19d0-19d9 1a00-1a16 1a20-1a54 1a80-1a89 1a90-1a99 1aa7 1b05-1b33 1b45-1b4c
  1b50-1b59 1b83-1ba0 1bae-1be5 1c00-1c23 1c40-1c49 1c4d-1c7d 1ce9-1cec 1cee-1cf3 1cf5-1cf6 1cfa
  1d00-1d2b 1d2f 1d3b 1d4e 1d6b-1d77 1d79-1d9a 1e01-1e99 1e9c-1f15 1f20-1f45 1f50-1f57 1f60-1f70
  1f72 1f74 1f76 1f78 1f7a 1f7c 1fb0-1fb1 1fb6 1fc6 1fd0-1fd2 1fd6-1fd7 1fe0-1fe2 1fe4-1fe7 1ff6
  214e 2184 2c30-2c7b 2c81-2ce4 2cec-2cee 2cf3 2d00-2d25 2d27 2d2d 2d30-2d67 2d80-2d96 2da0-2da6
  2da8-2dae 2db0-2db6 2db8-2dbe 2dc0-2dc6 2dc8-2dce 2dd0-2dd6 2dd8-2dde 2e2f 3005-3007 303c
  3041-3096 309d-309e 30a1-30fa 30fc-30fe 3105-312f 31a0-31bf 31f0-31ff 3400-4dbf 4e00-a48c
  a4d0-a4fd a500-a60c a610-a62b a641-a66e a67f-a69b a6a0-a6e5 a717-a71f a723-a76f a771-a788
  a78c-a7ca a7d1 a7d3 a7d5-a7d9 a7f6-a7f7 a7fa-a801 a803-a805 a807-a80a a80c-a822 a840-a873
  a882-a8b3 a8d0-a8d9 a8f2-a8f7 a8fb a8fd-a8fe a900-a925 a930-a946 a984-a9b2 a9cf-a9d9 a9e0-a9e4
  a9e6-a9fe aa00-aa28 aa40-aa42 aa44-aa4b aa50-aa59 aa60-aa76 aa7a aa7e-aaaf aab1 aab5-aab6
  aab9-aabd aac0 aac2 aadb-aadd aae0-aaea aaf2-aaf4 ab01-ab06 ab09-ab0e ab11-ab16 ab20-ab26
  ab28-ab2e ab30-ab5a ab60-ab68 abc0-abe2 abf0-abf9 ac00-d7a3 fa0e-fa0f fa11 fa13-fa14 fa1f fa21
  fa23-fa24 fa27-fa29 fe73 10000-1000b 1000d-10026 10028-1003a 1003c-1003d 1003f-1004d 10050-1005d
  10080-100fa 10280-1029c 102a0-102d0 10300-1031f 1032d-10340 10342-10349 10350-10375 10380-1039d
  103a0-103c3 103c8-103cf 10428-1049d 104a0-104a9 104d8-104fb 10500-10527 10530-10563 10597-105a1
  105a3-105b1 105b3-105b9 105bb-105bc 10600-10736 10740-10755 10760-10767 10780 10800-10805 10808
  1080a-10835 10837-10838 1083c 1083f-10855 10860-10876 10880-1089e 108e0-108f2 108f4-108f5
  10900-10915 10920-10939 10980-109b7 109be-109bf 10a00 10a10-10a13 10a15-10a17 10a19-10a35
  10a60-10a7c 10a80-10a9c 10ac0-10ac7 10ac9-10ae4 10b00-10b35 10b40-10b55 10b60-10b72 10b80-10b91
  10c00-10c48 10cc0-10cf2 10d00-10d23 10d30-10d39 10e80-10ea9 10eb0-10eb1 10f00-10f1c 10f27
  10f30-10f45 10f70-10f81 10fb0-10fc4 10fe0-10ff6 11003-11037 11066-1106f 11071-11072 11075
  11083-110af 110d0-110e8 110f0-110f9 11103-11126 11136-1113f 11144 11147 11150-11172 11176
  11183-111b2 111c1-111c4 111d0-111da 111dc 11200-11211 11213-1122b 11280-11286 11288 1128a-1128d
  1128f-1129d 1129f-112a8 112b0-112de 112f0-112f9 11305-1130c 1130f-11310 11313-11328 1132a-11330
  11332-11333 11335-11339 1133d 11350 1135d-11361 11400-11434 11447-1144a 11450-11459 1145f-11461
  11480-114af 114c4-114c5 114c7 114d0-114d9 11580-115ae 115d8-115db 11600-1162f 11644 11650-11659
  11680-116aa 116b8 116c0-116c9 11700-1171a 11730-11739 11740-11746 11800-1182b 118c0-118e9
  118ff-11906 11909 1190c-11913 11915-11916 11918-1192f 1193f 11941 11950-11959 119a0-119a7
  119aa-119d0 119e1 119e3 11a00 11a0b-11a32 11a3a 11a50 11a5c-11a89 11a9d 11ab0-11af8 11c00-11c08
  11c0a-11c2e 11c40 11c50-11c59 11c72-11c8f 11d00-11d06 11d08-11d09 11d0b-11d30 11d46 11d50-11d59
  11d60-11d65 11d67-11d68 11d6a-11d89 11d98 11da0-11da9 11ee0-11ef2 11fb0 12000-12399 12480-12543
  12f90-12ff0 13000-1342e 14400-14646 16800-16a38 16a40-16a5e 16a60-16a69 16a70-16abe 16ac0-16ac9
  16ad0-16aed 16b00-16b2f 16b40-16b43 16b50-16b59 16b63-16b77 16b7d-16b8f 16e60-16e7f 16f00-16f4a
  16f50 16f93-16f9f 16fe0-16fe1 16fe3 17000-187f7 18800-18cd5 18d00-18d08 1aff0-1aff3 1aff5-1affb
  1affd-1affe 1b000-1b122 1b150-1b152 1b164-1b167 1b170-1b2fb 1bc00-1bc6a 1bc70-1bc7c 1bc80-1bc88
  1bc90-1bc99 1df00-1df1e 1e100-1e12c 1e137-1e13d 1e140-1e149 1e14e 1e290-1e2ad 1e2c0-1e2eb
  1e2f0-1e2f9 1e7e0-1e7e6 1e7e8-1e7eb 1e7ed-1e7ee 1e7f0-1e7fe 1e800-1e8c4 1e922-1e943 1e94b
  1e950-1e959 20000-2a6df 2a700-2b738 2b740-2b81d 2b820-2cea1 2ceb0-2ebe0 30000-3134a"

/-- Whether a character may stand in a label. -/
def isLabelChar (c : Char) : Bool :=
  if c.val < 128 then c = '-' || c.isDigit || c.isLower
  else labelTable.contains c && Text.lowerChar c = c

/-- Whether a label runs one way: if anything in it runs from right to left, then its first character
does, and nothing runs the other way. -/
def runsOneWay (label : List Char) : Bool :=
  !label.any (Text.direction? · = some .rightToLeft) ||
    (label.head?.bind Text.direction? = some .rightToLeft &&
      !label.any (Text.direction? · = some .leftToRight))

/-- Refuses what is no label. -/
def checkLabel (label : List Char) : Except String Unit :=
  if label = [] ∨ label.head? = some '-' ∨ label.getLast? = some '-' ∨
      (label.drop 2).take 2 = ['-', '-'] then .error "IDNAError"
  else if !label.all isLabelChar then .error "InvalidCodepoint"
  else if runsOneWay label then .ok ()
  else .error "IDNABidiError"

/-- A label in its own letters. -/
def shownLabel (label : List Char) : Except String (List Char) := do
  let label := label.map Char.toLower
  if mark.isPrefixOf label then
    let rest := label.drop mark.length
    if rest = [] ∨ rest.getLast? = some '-' then throw "IDNAError"
    match Punycode.decode rest with
    | none => throw "IDNAError"
    | some shown =>
      checkLabel shown
      return shown
  else
    checkLabel label
    return label

/-- A label in ASCII. -/
def sentLabel (label : List Char) : Except String (List Char) := do
  let sent ← if label.all (·.val < 128) then (do let _ ← shownLabel label; return label)
    else (do checkLabel label; return mark ++ Punycode.encode label)
  if sent.length > 63 then throw "IDNAError"
  return sent

/-- The labels of a name, whether or not there is a dot behind the last one, each put into a form. -/
def mapLabels (f : List Char → Except String (List Char)) (name : List Char) :
    Except String (List Char) := do
  let labels := name.splitOnP isDot
  let last := labels.getLast?
  let labels ← (if last = some [] then labels.dropLast else labels).mapM f
  if labels = [] then throw "IDNAError"
  return Text.join ['.'] (if last = some [] then labels ++ [[]] else labels)

/-- The rules at hand. -/
def standard : NameRules where
  toAscii name := (mapLabels sentLabel name).toOption.filter fun sent =>
    sent.length ≤ if sent.getLast? = some '.' then 254 else 253
  ofAscii := mapLabels shownLabel

end NameRules

end Gleaner.Http
