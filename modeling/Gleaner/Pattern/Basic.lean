import Gleaner.Text.Case

/-! # Patterns

The form of a search pattern after it has been read: what each part matches, with the case rule in
force at that place written into the part, and how letters are compared by such a rule. Code points
are numbers, since a pattern can name one that is no character. -/

namespace Gleaner.Pattern

/-- How letters are compared: as they are, with ASCII case put aside, or with all case put aside. -/
inductive Fold where
  | exact
  | ascii
  | full
  deriving DecidableEq, Repr

/-- A class of characters with a name of its own. -/
inductive CharClass where
  | digit
  | space
  | word
  deriving DecidableEq, Repr

/-- One member of a set of characters. -/
inductive SetItem where
  | code (n : Nat)
  | range (first last : Nat)
  | named (c : CharClass) (ascii negated : Bool)
  deriving DecidableEq, Repr

/-- A place in the text. -/
inductive Anchor where
  | start
  | lineStart
  | finish
  | lineEnd
  | textEnd
  | boundary (ascii negated : Bool)
  deriving DecidableEq, Repr

/-- Which number of repetitions is tried first, and whether another may be tried later. -/
inductive Greed where
  | greedy
  | lazy
  | possessive
  deriving DecidableEq, Repr

/-- A pattern. -/
inductive Node where
  | seq (parts : List Node)
  | alt (branches : List Node)
  | set (negated : Bool) (items : List SetItem) (fold : Fold)
  | any (withLineEnds : Bool)
  | anchor (a : Anchor)
  | group (index : Nat) (body : Node)
  | loop (greed : Greed) (least : Nat) (most : Option Nat) (body : Node)
  | look (negated : Bool) (body : Node)
  | behind (negated : Bool) (width : Nat) (body : Node)
  | atomic (body : Node)
  | back (index : Nat) (fold : Fold)
  | ifGroup (index : Nat) (yes no : Node)
  deriving Inhabited, Repr

/-- Why a text is no pattern. -/
inductive Fault where
  | malformed
  /-- The flags of the whole pattern ask for two readings of characters. -/
  | conflictingFlags
  | repeatTooLarge
  deriving DecidableEq, Repr

/-- Sums and products of widths stop here. -/
def widthLimit : Nat := 18446744073709551616

/-- Least and greatest length of a match. -/
abbrev Width := Nat × Nat

mutual

/-- The lengths a part can match, given those of the groups before it. -/
def Node.width (groups : List (Nat × Width)) : Node → Width
  | .seq parts => seqWidth groups parts
  | .alt branches => altWidth groups branches
  | .set .. | .any _ => (1, 1)
  | .anchor _ | .look .. | .behind .. => (0, 0)
  | .group _ body | .atomic body => body.width groups
  | .loop _ least most body =>
    let (lo, hi) := body.width groups
    (min widthLimit (lo * least), min widthLimit (hi * most.getD widthLimit))
  | .back index _ => (groups.lookup index).getD (0, 0)
  | .ifGroup _ yes no =>
    let (a, b) := yes.width groups
    let (c, d) := no.width groups
    (min a c, max b d)

/-- The lengths a sequence can match. -/
def seqWidth (groups : List (Nat × Width)) : List Node → Width
  | [] => (0, 0)
  | n :: ns =>
    let (a, b) := n.width groups
    let (c, d) := seqWidth groups ns
    (min widthLimit (a + c), min widthLimit (b + d))

/-- The lengths one of several branches can match. -/
def altWidth (groups : List (Nat × Width)) : List Node → Width
  | [] => (0, 0)
  | [n] => n.width groups
  | n :: ns =>
    let (a, b) := n.width groups
    let (c, d) := altWidth groups ns
    (min a c, max b d)

end

/-! ## Letters with case put aside

When case does not matter, a character is compared by its lower case. A few lower-case letters
share one upper case and count as the same letter: they are each other's twins. -/

/-- Lower-case letters with the other lower-case letters that have the same upper case. -/
def twinTable : List (Nat × List Char) := Text.expansionsOfText
  "69=131 73=17f b5=3bc 131=69 17f=73 345=3b9.1fbe 390=1fd3 3b0=1fe3 3b2=3d0 3b5=3f5 3b8=3d1
  3b9=345.1fbe 3ba=3f0 3bc=b5 3c0=3d6 3c1=3f1 3c2=3c3 3c3=3c2 3c6=3d5 3d0=3b2 3d1=3b8 3d5=3c6
  3d6=3c0 3f0=3ba 3f1=3c1 3f5=3b5 432=1c80 434=1c81 43e=1c82 441=1c83 442=1c84.1c85 44a=1c86
  463=1c87 1c80=432 1c81=434 1c82=43e 1c83=441 1c84=442.1c85 1c85=442.1c84 1c86=44a 1c87=463
  1c88=a64b 1e61=1e9b 1e9b=1e61 1fbe=345.3b9 1fd3=390 1fe3=3b0 a64b=1c88 fb05=fb06 fb06=fb05"

/-- A lower-case letter and its twins. -/
def twins (n : Nat) : List Nat := n :: ((twinTable.lookup n).getD []).map Char.toNat

/-- The lower case of a code point. -/
def lowerCode (n : Nat) : Nat :=
  if n.isValidChar then (Text.lowerChar (Char.ofNat n)).toNat else n

/-- The code points whose lower case is the given one. -/
def lowerPreimages (n : Nat) : List Nat :=
  let upper := if 97 ≤ n ∧ n ≤ 122 then [n - 32] else []
  let dotted := if n = 105 then [0x130] else []
  let moved := Text.lowerTable.runs.toList.filterMap fun (first, last, step, shift) =>
    let m := Int.toNat (n - shift)
    if first ≤ m ∧ m ≤ last ∧ (m - first) % step = 0 then some m else none
  (if lowerCode n = n then [n] else []) ++ upper ++ dotted ++ moved

/-- Whether a code point lies in a range, case put aside. -/
def inRangeFolded (fold : Fold) (first last n : Nat) : Bool :=
  match fold with
  | .exact => first ≤ n && n ≤ last
  | .ascii =>
    let upper := if 97 ≤ n ∧ n ≤ 122 then [n - 32] else []
    (n :: upper).any fun m => first ≤ m && m ≤ last
  | .full => ((twins n).flatMap lowerPreimages).any fun m => first ≤ m && m ≤ last

/-- A code point as it is compared. -/
def foldCode (fold : Fold) (n : Nat) : Nat :=
  match fold with
  | .exact => n
  | .ascii => if 65 ≤ n ∧ n ≤ 90 then n + 32 else n
  | .full => lowerCode n

end Gleaner.Pattern
