import Gleaner.Template.Written
import Gleaner.Text.Property

/-! # Templates

A template is a text with fields in braces. `expand` puts the values of the named fields in their
places; a brace that stands for itself is written twice. A field may look into its value, ask for a
text in quotes and lay the value out: `{url[0]!r:>4}`. -/

namespace Gleaner.Template

/-- The values that the fields of a template can name. -/
abbrev Names := List (String × Value)

/-- The number that a text of digits stands for. -/
def indexOf? (s : List Char) : Except TemplateFault (Option Nat) := do
  match ← readNumber? s with
  | (n, []) => return n
  | _ => return none

/-! ## Looking into a value -/

/-- A part of a number that is a number again. -/
def numberPart? (v : Value) (name : String) : Option Value :=
  match v, name with
  | .int i, "real" | .int i, "numerator" => some (.int i)
  | .int _, "imag" => some (.int 0)
  | .int _, "denominator" => some (.int 1)
  | .bool b, "real" | .bool b, "numerator" => some (.int (if b then 1 else 0))
  | .bool _, "imag" => some (.int 0)
  | .bool _, "denominator" => some (.int 1)
  | .float d, "real" => some (.float d)
  | .float _, "imag" => some (.float (.zero false))
  | _, _ => none

/-- A named part of a value. -/
def partNamed (v : Value) (name : String) : Except TemplateFault Value :=
  match numberPart? v name with
  | some part => .ok part
  | none => .error (.noAttribute v.kindName name)

/-- The item of a value by its number. -/
def itemAt (v : Value) (i : Nat) : Except TemplateFault Value :=
  match v with
  | .str s =>
    match s.toList[i]? with
    | some c => .ok (.str c.toString)
    | none => .error (.outOfRange "string")
  | .list items =>
    match items[i]? with
    | some v => .ok v
    | none => .error (.outOfRange "list")
  | .dict _ => .error (.unknownKey i)
  | v => .error (.wrongKind s!"'{v.kindName}' object is not subscriptable")

/-- The item of a value by its name. -/
def itemNamed (v : Value) (name : String) : Except TemplateFault Value :=
  match v with
  | .str _ => .error (.wrongKind "string indices must be integers, not 'str'")
  | .list _ => .error (.wrongKind "list indices must be integers or slices, not str")
  | .dict entries =>
    match entries.lookup name with
    | some v => .ok v
    | none => .error (.unknownName name)
  | v => .error (.wrongKind s!"'{v.kindName}' object is not subscriptable")

/-- Follows the steps into a value, at most `n` of them: `.name` and `[item]`. -/
def follow : Nat → Value → List Char → Except TemplateFault Value
  | 0, v, _ => .ok v
  | _, v, [] => .ok v
  | n + 1, v, '.' :: r => do
    let name := r.takeWhile fun c => c ≠ '.' ∧ c ≠ '['
    if name = [] then .error (.malformed "Empty attribute in format string")
    else follow n (← partNamed v (.ofList name)) (r.drop name.length)
  | n + 1, v, '[' :: r => do
    let name := r.takeWhile (· ≠ ']')
    if name.length = r.length then .error (.malformed "Missing ']' in format string")
    else
      let index ← indexOf? name
      if name = [] then .error (.malformed "Empty attribute in format string")
      else
        let item ← match index with
          | some i => itemAt v i
          | none => itemNamed v (.ofList name)
        follow n item (r.drop (name.length + 1))
  | _, _, _ =>
    .error (.malformed "Only '.' or '[' may follow ']' in format field specifier")

/-- The value of a field's name. -/
def fieldValue (names : Names) (field : List Char) : Except TemplateFault Value := do
  let first := field.takeWhile fun c => c ≠ '.' ∧ c ≠ '['
  let rest := field.drop first.length
  match ← indexOf? first with
  | some i => .error (.unknownPosition i)
  | none =>
    if first = [] then .error (.unknownPosition 0)
    else match names.lookup (.ofList first) with
      | some v => follow rest.length v rest
      | none => .error (.unknownName (.ofList first))

/-- A value in the form that a conversion asks for. -/
def convert (v : Value) : Option Char → Except TemplateFault Value
  | none => .ok v
  | some 'r' => .ok (.str v.quoted)
  | some 's' => .ok (.str v.display)
  | some 'a' => .ok (.str (.ofList (v.quoted.toList.flatMap fun c =>
      if c.toNat < 128 then [c] else Text.codeEscape c)))
  | some c =>
    .error (.malformed (
      if 32 < c.toNat ∧ c.toNat < 127 then s!"Unknown conversion specifier {c}"
      else "Unknown conversion specifier \\x" ++ .ofList (Nat.toDigits 16 c.toNat)))

/-! ## Reading a template -/

/-- The name at the front of a field, the sign that ends it and what follows. A bracket hides the
signs up to its closing one. -/
def readName (hidden : Bool) : List Char → Except TemplateFault (List Char × Char × List Char)
  | [] => .error (.malformed "expected '\x7d' before end of string")
  | c :: r =>
    if hidden then do
      let (name, sign, rest) ← readName (c ≠ ']') r
      return (c :: name, sign, rest)
    else if c = '\x7b' then .error (.malformed "unexpected '\x7b' in field name")
    else if c = '\x7d' || c = ':' || c = '!' then .ok ([], c, r)
    else do
      let (name, sign, rest) ← readName (c = '[') r
      return (c :: name, sign, rest)

/-- The layout at the front of a text, up to the brace that closes the field, and what follows.
`depth` counts the open braces. -/
def readSpec : Nat → List Char → Except TemplateFault (List Char × List Char)
  | _, [] => .error (.malformed "unmatched '\x7b' in format spec")
  | depth, c :: r =>
    if c = '\x7d' then
      match depth with
      | 0 => .ok ([], r)
      | depth + 1 => do
        let (spec, rest) ← readSpec depth r
        return (c :: spec, rest)
    else do
      let (spec, rest) ← readSpec (if c = '\x7b' then depth + 1 else depth) r
      return (c :: spec, rest)

/-- A field as it is written: its name, the conversion, the layout, and what follows. -/
structure Field where
  name : List Char
  conversion : Option Char := none
  spec : List Char := []
  rest : List Char

/-- Reads a field whose opening brace has been read. -/
def readField (s : List Char) : Except TemplateFault Field := do
  let (name, sign, r) ← readName false s
  if sign = '\x7d' then return { name, rest := r }
  else if sign = ':' then
    let (spec, rest) ← readSpec 0 r
    return { name, spec, rest }
  else match r with
    | [] => .error (.malformed "end of string while looking for conversion specifier")
    | [_] => .error (.malformed "unmatched '\x7b' in format spec")
    | c :: d :: r =>
      if d = '\x7d' then return { name, conversion := some c, rest := r }
      else if d = ':' then
        let (spec, rest) ← readSpec 0 r
        return { name, conversion := some c, spec, rest }
      else .error (.malformed "expected ':' after conversion specifier")

/-- Expands a template, reading at most `fuel` signs. `depth` says how deep fields may stand inside
layouts. -/
def expandWithin (names : Names) (depth : Nat) : Nat → List Char → Except TemplateFault (List Char)
  | 0, _ => .ok []
  | fuel + 1, s =>
    let isBrace := fun c => c = '\x7b' || c = '\x7d'
    let text := s.takeWhile fun c => !isBrace c
    match s.drop text.length with
    | [] => .ok text
    | [c] => .error (.malformed s!"Single '{c}' encountered in format string")
    | c :: d :: r =>
      if c = d then do return text ++ c :: (← expandWithin names depth fuel r)
      else if c = '\x7d' then .error (.malformed "Single '\x7d' encountered in format string")
      else do
        let field ← readField (d :: r)
        let value ← convert (← fieldValue names field.name) field.conversion
        let spec ←
          if !field.spec.any isBrace then pure field.spec
          else match depth with
            | 0 => .error (.malformed "Max string recursion exceeded")
            | depth + 1 => expandWithin names depth (fuel + 1) field.spec
        return text ++ (← write value spec) ++ (← expandWithin names depth fuel field.rest)
termination_by fuel => (depth, fuel)

/-- A template with its fields replaced by the values they name. -/
def expand (names : Names) (template : String) : Except TemplateFault String :=
  (expandWithin names 1 (template.length + 1) template.toList).map String.ofList

end Gleaner.Template
