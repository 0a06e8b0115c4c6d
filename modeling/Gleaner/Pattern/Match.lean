import Gleaner.Pattern.Basic
import Gleaner.Text.Basic

/-! # Matching patterns

A part of a pattern is run with a continuation for what follows it, so that a later failure sends
the search back to the latest choice. A repetition goes on only if the last turn moved, and the
fuel of its loop is the number of turns this allows. -/

namespace Gleaner.Pattern

/-- A place of the search: the position in the text and the groups matched so far. -/
structure Place where
  pos : Nat
  groups : List (Nat × Nat × Nat) := []

/-- What follows a part. -/
abbrev Rest := Place → Option Place

/-- A part: it tries its matches at a place, in order, until what follows agrees. -/
abbrev Step := Place → Rest → Option Place

/-- Whether a character belongs to a named class. -/
def CharClass.holds (ascii : Bool) (c : Char) : CharClass → Bool
  | digit => if ascii then c.isDigit else Text.isDecimal c
  | space => if ascii then c = ' ' || (9 ≤ c.toNat && c.toNat ≤ 13) else Text.isBlank c
  | word => if ascii then c = '_' || c.isAlphanum else Text.isWordChar c

/-- Whether a character, already folded, belongs to a member of a set. -/
def SetItem.holds (fold : Fold) (c : Char) : SetItem → Bool
  | .code n =>
    match fold with
    | .full => (twins (foldCode .full n)).contains c.toNat
    | _ => foldCode fold n = c.toNat
  | .range first last => inRangeFolded fold first last c.toNat
  | .named k ascii negated => k.holds ascii c != negated

/-- Whether a character belongs to a set. -/
def setHolds (negated : Bool) (items : List SetItem) (fold : Fold) (c : Char) : Bool :=
  let folded := Char.ofNat (foldCode fold c.toNat)
  items.any (·.holds fold folded) != negated

/-- Whether a word character stands at a position. -/
def wordAt (text : Array Char) (ascii : Bool) (pos : Nat) : Bool :=
  match text[pos]? with
  | some c => CharClass.word.holds ascii c
  | none => false

/-- Whether an anchor holds at a position. -/
def Anchor.holds (text : Array Char) (pos : Nat) : Anchor → Bool
  | start => pos = 0
  | lineStart => pos = 0 || text[pos - 1]? = some '\n'
  | finish => pos = text.size || (pos + 1 = text.size && text[pos]? = some '\n')
  | lineEnd => pos = text.size || text[pos]? = some '\n'
  | textEnd => pos = text.size
  | boundary ascii negated =>
    text.size ≠ 0 &&
      ((0 < pos && wordAt text ascii (pos - 1)) != wordAt text ascii pos) != negated

/-- Turns of a repetition: at least `least`, at most `most`, another one only if the last one
started elsewhere. -/
def turns (body : Step) (least : Nat) (most : Option Nat) (lazyFirst : Bool) :
    Nat → Nat → Option Nat → Step
  | 0, _, _, _, _ => none
  | fuel + 1, count, last, p, k =>
    if count < least then
      body p fun p' => turns body least most lazyFirst fuel (count + 1) last p' k
    else
      let more := fun _ : Unit =>
        if most.all (count < ·) && last ≠ some p.pos then
          body p fun p' => turns body least most lazyFirst fuel (count + 1) (some p.pos) p' k
        else none
      if lazyFirst then
        match k p with
        | some r => some r
        | none => more ()
      else
        match more () with
        | some r => some r
        | none => k p

/-- Whether the text at `pos` repeats the text from `from'` on, case folded, for `n` characters. -/
def sameText (text : Array Char) (fold : Fold) (first pos n : Nat) : Bool :=
  (List.range n).all fun i =>
    match text[first + i]?, text[pos + i]? with
    | some a, some b => foldCode fold a.toNat = foldCode fold b.toNat
    | _, _ => false

mutual

/-- Runs a part of a pattern. -/
def Node.run (text : Array Char) : Node → Step
  | .seq parts => seqRun text parts
  | .alt branches => altRun text branches
  | .set negated items fold => fun p k =>
    match text[p.pos]? with
    | some c => if setHolds negated items fold c then k { p with pos := p.pos + 1 } else none
    | none => none
  | .any withLineEnds => fun p k =>
    match text[p.pos]? with
    | some c => if withLineEnds || c ≠ '\n' then k { p with pos := p.pos + 1 } else none
    | none => none
  | .anchor a => fun p k => if a.holds text p.pos then k p else none
  | .group index body => fun p k =>
    body.run text p fun p' => k { p' with groups := (index, p.pos, p'.pos) :: p'.groups }
  | .loop greed least most body => fun p k =>
    let fuel := least + (text.size - p.pos) + 2
    match greed with
    | .greedy => turns (body.run text) least most false fuel 0 none p k
    | .lazy => turns (body.run text) least most true fuel 0 none p k
    | .possessive =>
      match turns (body.run text) least most false fuel 0 none p some with
      | some p' => k p'
      | none => none
  | .look negated body => fun p k =>
    match body.run text p some with
    | some p' => if negated then none else k { p' with pos := p.pos }
    | none => if negated then k p else none
  | .behind negated width body => fun p k =>
    let found := if width ≤ p.pos then body.run text { p with pos := p.pos - width } some else none
    match found with
    | some p' => if negated then none else k { p' with pos := p.pos }
    | none => if negated then k p else none
  | .atomic body => fun p k =>
    match body.run text p some with
    | some p' => k p'
    | none => none
  | .back index fold => fun p k =>
    match p.groups.lookup index with
    | some (first, last) =>
      if sameText text fold first p.pos (last - first) then
        k { p with pos := p.pos + (last - first) }
      else none
    | none => none
  | .ifGroup index yes no => fun p k =>
    if (p.groups.lookup index).isSome then yes.run text p k else no.run text p k

/-- Runs a sequence. -/
def seqRun (text : Array Char) : List Node → Step
  | [] => fun p k => k p
  | n :: ns => fun p k => n.run text p fun p' => seqRun text ns p' k

/-- Runs branches, the first that agrees with what follows. -/
def altRun (text : Array Char) : List Node → Step
  | [] => fun _ _ => none
  | n :: ns => fun p k =>
    match n.run text p k with
    | some r => some r
    | none => altRun text ns p k

end

/-- The first match that starts at `start` or later, within `n` more starts. -/
def searchFrom (text : Array Char) (node : Node) : Nat → Nat → Option (Nat × Place)
  | 0, _ => none
  | n + 1, start =>
    match node.run text { pos := start } some with
    | some p => some (start, p)
    | none => searchFrom text node n (start + 1)

/-- The leftmost match: the whole text's and the groups' first and last positions. -/
def search (node : Node) (text : List Char) : Option (List (Nat × Nat × Nat)) :=
  let chars := text.toArray
  (searchFrom chars node (chars.size + 1) 0).map fun (start, p) => (0, start, p.pos) :: p.groups

/-- The text between two positions. -/
def between (text : List Char) (first last : Nat) : List Char := (text.drop first).take (last - first)

end Gleaner.Pattern
