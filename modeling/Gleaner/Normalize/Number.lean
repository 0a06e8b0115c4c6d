import Gleaner.Error
import Gleaner.Log.Event
import Gleaner.Number.Numeral
import Gleaner.Text.Basic

/-! # Normalized numbers

Numbers and amounts of money that are read out of texts. -/

namespace Gleaner.Normalize

/-! ## Numbers in texts

Finds the first number in a text and reads it as a double or, through a double, as a whole number.
Numbers stay numbers, and nothing becomes the default. -/

/-- A run of digits with an optional fraction, at the start of a text. -/
def leadingNumeral? (s : List Char) : Option (List Char) :=
  let whole := s.takeWhile Text.isDecimal
  if whole = [] then none
  else match s.dropWhile Text.isDecimal with
    | '.' :: r =>
      let places := r.takeWhile Text.isDecimal
      some (if places = [] then whole else whole ++ '.' :: places)
    | _ => some whole

/-- The first unsigned numeral of a text. -/
def firstNumeral? : List Char → Option (List Char)
  | [] => none
  | c :: r =>
    match leadingNumeral? (c :: r) with
    | some n => some n
    | none => firstNumeral? r

/-- The first numeral of a text, with a minus sign if one stands directly before it. -/
def firstSigned? : List Char → Option (List Char)
  | [] => none
  | c :: r =>
    match if c = '-' then leadingNumeral? r else none with
    | some n => some ('-' :: n)
    | none =>
      match leadingNumeral? (c :: r) with
      | some n => some n
      | none => firstSigned? r

/-- Whether a number is read as a whole number or as a double. -/
inductive NumberKind where
  | whole
  | real
  deriving DecidableEq, Repr

/-- A double as a whole number, rounded toward zero. -/
def truncate : Double → Except Error Int
  | .finite negative m e => .ok (Double.truncate negative m e)
  | .infinite _ => .error .infinityToInt
  | .nan => .error .nanToInt

/-- What is done to a number. -/
structure NumberRule where
  kind : NumberKind := .real
  default : Value := .none

namespace NumberRule

/-- A double in the form that the rule asks for. -/
def ofDouble (rule : NumberRule) (d : Double) : Except Error Value :=
  match rule.kind with
  | .real => .ok (.float d)
  | .whole => (truncate d).map .int

/-- A whole number in the form that the rule asks for. -/
def ofInt (rule : NumberRule) (i : Int) : Except Error Value :=
  match rule.kind with
  | .whole => .ok (.int i)
  | .real =>
    match Double.ofInt? i with
    | some d => .ok (.float d)
    | none => .error .intTooLarge

/-- Reads the first number of a text without its grouping commas. -/
def ofText (rule : NumberRule) (s : List Char) : Except Error Value :=
  match firstSigned? ((Text.trim s).filter (· ≠ ',')) with
  | none => .ok rule.default
  | some n => rule.ofDouble ((Numeral.readDouble? n).getD .nan)

/-- Normalizes a value. -/
def normalize (rule : NumberRule) : Value → Except Error Value
  | .none => .ok rule.default
  | .int i => rule.ofInt i
  | .float d => rule.ofDouble d
  | v => rule.ofText v.display.toList

end NumberRule

/-! ## Prices

Reads an amount of money. A currency symbol or a code of three capitals is taken out of the text
first; then the separators are brought to one form, and the first number left is the amount. -/

/-- Currency symbols with their codes, in the order in which they are looked for. -/
def currencySymbols : List (String × String) :=
  [("$", "USD"), ("€", "EUR"), ("£", "GBP"), ("¥", "JPY"), ("₹", "INR"), ("kr", "SEK"),
   ("CHF", "CHF")]

/-- A capital letter from A to Z. -/
def isCapital (c : Char) : Bool := 'A' ≤ c && c ≤ 'Z'

/-- The first three capitals in a row. -/
def firstCode? : List Char → Option (List Char)
  | a :: b :: c :: r =>
    if isCapital a && isCapital b && isCapital c then some [a, b, c] else firstCode? (b :: c :: r)
  | _ => none

/-- The text without its codes of three capitals, found from the left. -/
def dropCodes : List Char → List Char
  | a :: b :: c :: r =>
    if isCapital a && isCapital b && isCapital c then dropCodes r else a :: dropCodes (b :: c :: r)
  | s => s

/-- The first symbol of the table that occurs in a text, and its code. -/
def findSymbol? (s : List Char) : Option (List Char × String) :=
  (currencySymbols.find? fun (symbol, _) => Text.occursIn symbol.toList s).map
    fun (symbol, code) => (symbol.toList, code)

/-- Whether a text is digits, a comma and two digits. -/
def isDecimalComma (s : List Char) : Bool :=
  match Text.cutAt ',' s with
  | (whole, some cents) =>
    whole ≠ [] && whole.all Text.isDecimal && cents.length = 2 && cents.all Text.isDecimal
  | _ => false

/-- The separators of a text in one form: no grouping, and a point before the fraction. -/
def unifySeparators (thousands : List Char) (s : List Char) : List Char :=
  match Text.lastIndex? ',' s, Text.lastIndex? '.' s with
  | some comma, some point =>
    if comma > point then (s.filter (· ≠ '.')).map fun c => if c = ',' then '.' else c
    else Text.replace thousands [] s
  | _, some _ => Text.replace thousands [] s
  | _, none =>
    if isDecimalComma s then s.map fun c => if c = ',' then '.' else c
    else Text.replace thousands [] s

/-- How prices are read. -/
structure PriceRule where
  /-- The currency of prices that name none. -/
  currency : Option String := none
  /-- Whether the amount alone is the answer. -/
  amountOnly : Bool := true
  thousands : String := ","

namespace PriceRule

/-- The currency a text names, or else the configured one, and the text without it. -/
def takeCurrency (rule : PriceRule) (s : List Char) : Option String × List Char :=
  let (currency, s) := match findSymbol? s with
    | some (symbol, code) => (some code, Text.replace symbol [] s)
    | none => (rule.currency, s)
  let currency := match currency, firstCode? s with
    | none, some code => some (.ofList code)
    | c, _ => c
  (currency, Text.trim (dropCodes s))

/-- The currency and the amount of a text. -/
def read? (rule : PriceRule) (s : List Char) : Option (Option String × Double) :=
  let (currency, s) := rule.takeCurrency s
  match firstNumeral? (unifySeparators rule.thousands.toList s) with
  | some n => (Numeral.readDouble? n).map fun d => (currency, d)
  | none => none

/-- Normalizes a value. A text without a number is reported. -/
def normalize (rule : PriceRule) (v : Value) : Traced Log.Entry Value :=
  if v.isNone then pure .none
  else
    let text := Text.trim v.display.toList
    if text = [] then pure .none
    else match rule.read? text with
      | none => ⟨[⟨.debug, "Could not parse price: " ++ v.display, []⟩], .ok .none⟩
      | some (currency, amount) =>
        if rule.amountOnly then pure (.float amount)
        else pure (.dict [("amount", .float amount), ("currency", .ofText? currency),
          ("original", .str v.display)])

end PriceRule

end Gleaner.Normalize
