import Gleaner.Text.Property

/-! # Case of Unicode 14

Lower and upper case of texts. A character's lower case is one character except for the capital
dotted I; upper case may be longer. A capital sigma at the end of a word takes its final form. -/

namespace Gleaner.Text

/-- A map that shifts runs of code points: every `step`-th one from `first` to `last` moves by
`shift`. -/
structure CaseMap where
  /-- First and last code point, step and shift of each run, in increasing order. -/
  runs : Array (Nat × Nat × Nat × Int)

namespace CaseMap

/-- Reads `first-last/step±shift` entries. -/
def ofText (text : String) : CaseMap where
  runs := ((tableEntries text).filterMap fun entry =>
    match splitOn '/' entry with
    | [range, step :: sign :: shift] =>
      match splitOn '-' range with
      | [a, z] =>
        let n := Int.ofNat (hexNumber shift)
        some (hexNumber a, hexNumber z, hexNumber [step], if sign = '-' then -n else n)
      | _ => none
    | _ => none).toArray

/-- The image of a code point, if the map moves it. -/
def image? (m : CaseMap) (x : Nat) : Option Nat := do
  let i := lastAtMost (fun i => (m.runs.getD i (0, 0, 1, 0)).1) x 0 m.runs.size
  let (a, z, step, shift) ← m.runs[i]?
  if a ≤ x ∧ x ≤ z ∧ (x - a) % step = 0 then some (Int.toNat (x + shift)) else none

end CaseMap

/-- Reads `code=code.code` entries. -/
def expansionsOfText (text : String) : List (Nat × List Char) :=
  (tableEntries text).filterMap fun entry =>
    match splitOn '=' entry with
    | [a, img] => some (hexNumber a, (splitOn '.' img).map (Char.ofNat ∘ hexNumber))
    | _ => none

/-- Lower case above ASCII, one character to one. -/
def lowerTable : CaseMap := .ofText
  "c0-d6/1+20 d8-de/1+20 100-12e/2+1 132-136/2+1 139-147/2+1 14a-176/2+1 178-178/1-79
  179-17d/2+1 181-181/1+d2 182-184/2+1 186-186/1+ce 187-187/1+1 189-18a/1+cd 18b-18b/1+1
  18e-18e/1+4f 18f-18f/1+ca 190-190/1+cb 191-191/1+1 193-193/1+cd 194-194/1+cf 196-196/1+d3
  197-197/1+d1 198-198/1+1 19c-19c/1+d3 19d-19d/1+d5 19f-19f/1+d6 1a0-1a4/2+1 1a6-1a6/1+da
  1a7-1a7/1+1 1a9-1a9/1+da 1ac-1ac/1+1 1ae-1ae/1+da 1af-1af/1+1 1b1-1b2/1+d9 1b3-1b5/2+1
  1b7-1b7/1+db 1b8-1b8/1+1 1bc-1bc/1+1 1c4-1c4/1+2 1c5-1c5/1+1 1c7-1c7/1+2 1c8-1c8/1+1
  1ca-1ca/1+2 1cb-1db/2+1 1de-1ee/2+1 1f1-1f1/1+2 1f2-1f4/2+1 1f6-1f6/1-61 1f7-1f7/1-38
  1f8-21e/2+1 220-220/1-82 222-232/2+1 23a-23a/1+2a2b 23b-23b/1+1 23d-23d/1-a3 23e-23e/1+2a28
  241-241/1+1 243-243/1-c3 244-244/1+45 245-245/1+47 246-24e/2+1 370-372/2+1 376-376/1+1
  37f-37f/1+74 386-386/1+26 388-38a/1+25 38c-38c/1+40 38e-38f/1+3f 391-3a1/1+20 3a3-3ab/1+20
  3cf-3cf/1+8 3d8-3ee/2+1 3f4-3f4/1-3c 3f7-3f7/1+1 3f9-3f9/1-7 3fa-3fa/1+1 3fd-3ff/1-82
  400-40f/1+50 410-42f/1+20 460-480/2+1 48a-4be/2+1 4c0-4c0/1+f 4c1-4cd/2+1 4d0-52e/2+1
  531-556/1+30 10a0-10c5/1+1c60 10c7-10c7/1+1c60 10cd-10cd/1+1c60 13a0-13ef/1+97d0
  13f0-13f5/1+8 1c90-1cba/1-bc0 1cbd-1cbf/1-bc0 1e00-1e94/2+1 1e9e-1e9e/1-1dbf 1ea0-1efe/2+1
  1f08-1f0f/1-8 1f18-1f1d/1-8 1f28-1f2f/1-8 1f38-1f3f/1-8 1f48-1f4d/1-8 1f59-1f5f/2-8
  1f68-1f6f/1-8 1f88-1f8f/1-8 1f98-1f9f/1-8 1fa8-1faf/1-8 1fb8-1fb9/1-8 1fba-1fbb/1-4a
  1fbc-1fbc/1-9 1fc8-1fcb/1-56 1fcc-1fcc/1-9 1fd8-1fd9/1-8 1fda-1fdb/1-64 1fe8-1fe9/1-8
  1fea-1feb/1-70 1fec-1fec/1-7 1ff8-1ff9/1-80 1ffa-1ffb/1-7e 1ffc-1ffc/1-9 2126-2126/1-1d5d
  212a-212a/1-20bf 212b-212b/1-2046 2132-2132/1+1c 2160-216f/1+10 2183-2183/1+1 24b6-24cf/1+1a
  2c00-2c2f/1+30 2c60-2c60/1+1 2c62-2c62/1-29f7 2c63-2c63/1-ee6 2c64-2c64/1-29e7 2c67-2c6b/2+1
  2c6d-2c6d/1-2a1c 2c6e-2c6e/1-29fd 2c6f-2c6f/1-2a1f 2c70-2c70/1-2a1e 2c72-2c72/1+1
  2c75-2c75/1+1 2c7e-2c7f/1-2a3f 2c80-2ce2/2+1 2ceb-2ced/2+1 2cf2-2cf2/1+1 a640-a66c/2+1
  a680-a69a/2+1 a722-a72e/2+1 a732-a76e/2+1 a779-a77b/2+1 a77d-a77d/1-8a04 a77e-a786/2+1
  a78b-a78b/1+1 a78d-a78d/1-a528 a790-a792/2+1 a796-a7a8/2+1 a7aa-a7aa/1-a544 a7ab-a7ab/1-a54f
  a7ac-a7ac/1-a54b a7ad-a7ad/1-a541 a7ae-a7ae/1-a544 a7b0-a7b0/1-a512 a7b1-a7b1/1-a52a
  a7b2-a7b2/1-a515 a7b3-a7b3/1+3a0 a7b4-a7c2/2+1 a7c4-a7c4/1-30 a7c5-a7c5/1-a543
  a7c6-a7c6/1-8a38 a7c7-a7c9/2+1 a7d0-a7d0/1+1 a7d6-a7d8/2+1 a7f5-a7f5/1+1 ff21-ff3a/1+20
  10400-10427/1+28 104b0-104d3/1+28 10570-1057a/1+27 1057c-1058a/1+27 1058c-10592/1+27
  10594-10595/1+27 10c80-10cb2/1+40 118a0-118bf/1+20 16e40-16e5f/1+20 1e900-1e921/1+22"

/-- Upper case above ASCII, one character to one. -/
def upperTable : CaseMap := .ofText
  "b5-b5/1+2e7 e0-f6/1-20 f8-fe/1-20 ff-ff/1+79 101-12f/2-1 131-131/1-e8 133-137/2-1
  13a-148/2-1 14b-177/2-1 17a-17e/2-1 17f-17f/1-12c 180-180/1+c3 183-185/2-1 188-188/1-1
  18c-18c/1-1 192-192/1-1 195-195/1+61 199-199/1-1 19a-19a/1+a3 19e-19e/1+82 1a1-1a5/2-1
  1a8-1a8/1-1 1ad-1ad/1-1 1b0-1b0/1-1 1b4-1b6/2-1 1b9-1b9/1-1 1bd-1bd/1-1 1bf-1bf/1+38
  1c5-1c5/1-1 1c6-1c6/1-2 1c8-1c8/1-1 1c9-1c9/1-2 1cb-1cb/1-1 1cc-1cc/1-2 1ce-1dc/2-1
  1dd-1dd/1-4f 1df-1ef/2-1 1f2-1f2/1-1 1f3-1f3/1-2 1f5-1f5/1-1 1f9-21f/2-1 223-233/2-1
  23c-23c/1-1 23f-240/1+2a3f 242-242/1-1 247-24f/2-1 250-250/1+2a1f 251-251/1+2a1c
  252-252/1+2a1e 253-253/1-d2 254-254/1-ce 256-257/1-cd 259-259/1-ca 25b-25b/1-cb
  25c-25c/1+a54f 260-260/1-cd 261-261/1+a54b 263-263/1-cf 265-265/1+a528 266-266/1+a544
  268-268/1-d1 269-269/1-d3 26a-26a/1+a544 26b-26b/1+29f7 26c-26c/1+a541 26f-26f/1-d3
  271-271/1+29fd 272-272/1-d5 275-275/1-d6 27d-27d/1+29e7 280-280/1-da 282-282/1+a543
  283-283/1-da 287-287/1+a52a 288-288/1-da 289-289/1-45 28a-28b/1-d9 28c-28c/1-47 292-292/1-db
  29d-29d/1+a515 29e-29e/1+a512 345-345/1+54 371-373/2-1 377-377/1-1 37b-37d/1+82 3ac-3ac/1-26
  3ad-3af/1-25 3b1-3c1/1-20 3c2-3c2/1-1f 3c3-3cb/1-20 3cc-3cc/1-40 3cd-3ce/1-3f 3d0-3d0/1-3e
  3d1-3d1/1-39 3d5-3d5/1-2f 3d6-3d6/1-36 3d7-3d7/1-8 3d9-3ef/2-1 3f0-3f0/1-56 3f1-3f1/1-50
  3f2-3f2/1+7 3f3-3f3/1-74 3f5-3f5/1-60 3f8-3f8/1-1 3fb-3fb/1-1 430-44f/1-20 450-45f/1-50
  461-481/2-1 48b-4bf/2-1 4c2-4ce/2-1 4cf-4cf/1-f 4d1-52f/2-1 561-586/1-30 10d0-10fa/1+bc0
  10fd-10ff/1+bc0 13f8-13fd/1-8 1c80-1c80/1-186e 1c81-1c81/1-186d 1c82-1c82/1-1864
  1c83-1c84/1-1862 1c85-1c85/1-1863 1c86-1c86/1-185c 1c87-1c87/1-1825 1c88-1c88/1+89c2
  1d79-1d79/1+8a04 1d7d-1d7d/1+ee6 1d8e-1d8e/1+8a38 1e01-1e95/2-1 1e9b-1e9b/1-3b 1ea1-1eff/2-1
  1f00-1f07/1+8 1f10-1f15/1+8 1f20-1f27/1+8 1f30-1f37/1+8 1f40-1f45/1+8 1f51-1f57/2+8
  1f60-1f67/1+8 1f70-1f71/1+4a 1f72-1f75/1+56 1f76-1f77/1+64 1f78-1f79/1+80 1f7a-1f7b/1+70
  1f7c-1f7d/1+7e 1fb0-1fb1/1+8 1fbe-1fbe/1-1c25 1fd0-1fd1/1+8 1fe0-1fe1/1+8 1fe5-1fe5/1+7
  214e-214e/1-1c 2170-217f/1-10 2184-2184/1-1 24d0-24e9/1-1a 2c30-2c5f/1-30 2c61-2c61/1-1
  2c65-2c65/1-2a2b 2c66-2c66/1-2a28 2c68-2c6c/2-1 2c73-2c73/1-1 2c76-2c76/1-1 2c81-2ce3/2-1
  2cec-2cee/2-1 2cf3-2cf3/1-1 2d00-2d25/1-1c60 2d27-2d27/1-1c60 2d2d-2d2d/1-1c60 a641-a66d/2-1
  a681-a69b/2-1 a723-a72f/2-1 a733-a76f/2-1 a77a-a77c/2-1 a77f-a787/2-1 a78c-a78c/1-1
  a791-a793/2-1 a794-a794/1+30 a797-a7a9/2-1 a7b5-a7c3/2-1 a7c8-a7ca/2-1 a7d1-a7d1/1-1
  a7d7-a7d9/2-1 a7f6-a7f6/1-1 ab53-ab53/1-3a0 ab70-abbf/1-97d0 ff41-ff5a/1-20 10428-1044f/1-28
  104d8-104fb/1-28 10597-105a1/1-27 105a3-105b1/1-27 105b3-105b9/1-27 105bb-105bc/1-27
  10cc0-10cf2/1-40 118c0-118df/1-20 16e60-16e7f/1-20 1e922-1e943/1-22"

/-- Characters whose upper case is more than one character. -/
def upperExpansions : List (Nat × List Char) := expansionsOfText
  "df=53.53 149=2bc.4e 1f0=4a.30c 390=399.308.301 3b0=3a5.308.301 587=535.552 1e96=48.331
  1e97=54.308 1e98=57.30a 1e99=59.30a 1e9a=41.2be 1f50=3a5.313 1f52=3a5.313.300
  1f54=3a5.313.301 1f56=3a5.313.342 1f80=1f08.399 1f81=1f09.399 1f82=1f0a.399 1f83=1f0b.399
  1f84=1f0c.399 1f85=1f0d.399 1f86=1f0e.399 1f87=1f0f.399 1f88=1f08.399 1f89=1f09.399
  1f8a=1f0a.399 1f8b=1f0b.399 1f8c=1f0c.399 1f8d=1f0d.399 1f8e=1f0e.399 1f8f=1f0f.399
  1f90=1f28.399 1f91=1f29.399 1f92=1f2a.399 1f93=1f2b.399 1f94=1f2c.399 1f95=1f2d.399
  1f96=1f2e.399 1f97=1f2f.399 1f98=1f28.399 1f99=1f29.399 1f9a=1f2a.399 1f9b=1f2b.399
  1f9c=1f2c.399 1f9d=1f2d.399 1f9e=1f2e.399 1f9f=1f2f.399 1fa0=1f68.399 1fa1=1f69.399
  1fa2=1f6a.399 1fa3=1f6b.399 1fa4=1f6c.399 1fa5=1f6d.399 1fa6=1f6e.399 1fa7=1f6f.399
  1fa8=1f68.399 1fa9=1f69.399 1faa=1f6a.399 1fab=1f6b.399 1fac=1f6c.399 1fad=1f6d.399
  1fae=1f6e.399 1faf=1f6f.399 1fb2=1fba.399 1fb3=391.399 1fb4=386.399 1fb6=391.342
  1fb7=391.342.399 1fbc=391.399 1fc2=1fca.399 1fc3=397.399 1fc4=389.399 1fc6=397.342
  1fc7=397.342.399 1fcc=397.399 1fd2=399.308.300 1fd3=399.308.301 1fd6=399.342
  1fd7=399.308.342 1fe2=3a5.308.300 1fe3=3a5.308.301 1fe4=3a1.313 1fe6=3a5.342
  1fe7=3a5.308.342 1ff2=1ffa.399 1ff3=3a9.399 1ff4=38f.399 1ff6=3a9.342 1ff7=3a9.342.399
  1ffc=3a9.399 fb00=46.46 fb01=46.49 fb02=46.4c fb03=46.46.49 fb04=46.46.4c fb05=53.54
  fb06=53.54 fb13=544.546 fb14=544.535 fb15=544.53b fb16=54e.546 fb17=544.53d"

/-- The lower case of one character, as one character. -/
def lowerChar (c : Char) : Char :=
  if c.val < 128 then c.toLower
  else if c.toNat = 0x130 then 'i'
  else match lowerTable.image? c.toNat with
    | some n => Char.ofNat n
    | none => c

/-- The upper case of one character, which may be several. -/
def upperChar (c : Char) : List Char :=
  if c.val < 128 then [c.toUpper]
  else match upperExpansions.lookup c.toNat with
    | some cs => cs
    | none => match upperTable.image? c.toNat with
      | some n => [Char.ofNat n]
      | none => [c]

/-- Whether the nearest character that counts is cased. -/
def nextIsCased (s : List Char) : Bool :=
  match s.dropWhile isCaseIgnorable with
  | [] => false
  | c :: _ => isCased c

/-- Lower case of a text whose characters before it are `before`, nearest first. -/
def lowerFrom (before : List Char) : List Char → List Char
  | [] => []
  | c :: r =>
    let image :=
      if c = 'Σ' then if nextIsCased before && !nextIsCased r then ['ς'] else ['σ']
      else if c.toNat = 0x130 then ['i', Char.ofNat 0x307]
      else [lowerChar c]
    image ++ lowerFrom (c :: before) r

/-- Lower case of a text. -/
def lower (s : List Char) : List Char := lowerFrom [] s

/-- Upper case of a text. -/
def upper (s : List Char) : List Char := s.flatMap upperChar

/-- Lower case of the letters A to Z alone. -/
def asciiLower (s : List Char) : List Char := s.map Char.toLower

end Gleaner.Text
