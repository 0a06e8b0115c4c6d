import Gleaner.Error
import Gleaner.Number.Numeral
import Gleaner.Text.Case
import Gleaner.Value

/-! # Settings

What callers can set for all scrapers at once, and where it is read from. -/

namespace Gleaner

/-! ## Values and defaults -/

/-- The name under which pages are requested by default. -/
def defaultUserAgent : String :=
  "Mozilla/5.0 (X11; Linux x86_64) AppleWebKit/537.36 " ++
    "(KHTML, like Gecko) Chrome/121.0.0.0 Safari/537.36 scraperx"

/-- The settings. -/
structure Settings where
  appName : String := "scraperx"
  debug : Bool := false
  logLevel : String := "INFO"
  logToFile : Bool := false
  logsPath : String := "./logs"
  /-- The name of the rules by which markup is read. -/
  htmlParser : String := "lxml"
  /-- In seconds. -/
  timeout : Double := .ofDecimal false 30 0
  userAgent : String := defaultUserAgent
  followRedirects : Bool := true
  verifyCertificates : Bool := true
  dropEmptyRecords : Bool := true
  strictFilters : Bool := false
  /-- The budget of a crawl whose caller gives none. -/
  pageBudget : Value := .int (-1)

namespace Settings

/-- The settings under their public names. -/
def table (s : Settings) : List (String × Value) :=
  [("app_name", .str s.appName), ("debug", .bool s.debug), ("log_level", .str s.logLevel),
   ("log_to_file", .bool s.logToFile), ("logs_path", .str s.logsPath),
   ("html_parser", .str s.htmlParser), ("http_timeout", .float s.timeout),
   ("http_user_agent", .str s.userAgent), ("http_follow_redirects", .bool s.followRedirects),
   ("http_verify_ssl", .bool s.verifyCertificates),
   ("drop_empty_records", .bool s.dropEmptyRecords), ("strict_filters", .bool s.strictFilters),
   ("default_max_pages", s.pageBudget)]

/-- The text of a value that should be one. -/
def textOf (old : String) : Value → String
  | .str s => s
  | _ => old

/-- One setting changed as it is, without a check. What only counts as true or false is taken so;
without rules for markup, any rules for pages will do. -/
def assign (s : Settings) (name : String) (v : Value) : Settings :=
  match name with
  | "app_name" => { s with appName := textOf s.appName v }
  | "debug" => { s with debug := v.isTruthy }
  | "log_level" => { s with logLevel := textOf s.logLevel v }
  | "log_to_file" => { s with logToFile := v.isTruthy }
  | "logs_path" => { s with logsPath := textOf s.logsPath v }
  | "html_parser" => { s with htmlParser := textOf "html" v }
  | "http_timeout" =>
    match v with
    | .float d => { s with timeout := d }
    | .int i => { s with timeout := (Double.ofInt? i).getD s.timeout }
    | _ => s
  | "http_user_agent" => { s with userAgent := textOf s.userAgent v }
  | "http_follow_redirects" => { s with followRedirects := v.isTruthy }
  | "http_verify_ssl" => { s with verifyCertificates := v.isTruthy }
  | "drop_empty_records" => { s with dropEmptyRecords := v.isTruthy }
  | "strict_filters" => { s with strictFilters := v.isTruthy }
  | "default_max_pages" => { s with pageBudget := v }
  | _ => s

/-- A relative path without detours. -/
def plainPath (path : String) : String :=
  let steps := (path.splitOn "/").filter fun p => p ≠ "" && p ≠ "."
  let kept := steps.foldl (fun kept p =>
    match kept with
    | q :: rest => if p = ".." ∧ q ≠ ".." then rest else p :: kept
    | [] => [p]) []
  if kept = [] then "." else "/".intercalate kept.reverse

end Settings

end Gleaner

namespace Gleaner.Settings

/-! ## Reading settings

Settings come from three places: what the caller passes, the environment, and a file of the same
form; the first place that has a setting decides. Every value is checked against its field, and all
faults are reported together. -/

/-- The value of a word for true or false, in any case. -/
def truthOf? (s : String) : Option Bool :=
  let word := String.ofList (Text.asciiLower s.toList)
  if ["0", "off", "f", "false", "n", "no"].contains word then some false
  else if ["1", "on", "t", "true", "y", "yes"].contains word then some true
  else none

/-- A value as a whole number, if it is a double without fraction. -/
def wholeOf? : Double → Option Int
  | .finite negative m e =>
    let (n, d) := Double.ratio m e
    if n % d = 0 then some (Double.truncate negative m e) else none
  | _ => none

/-- Reads a text. -/
def readText : Value → Except String String
  | .str s => .ok s
  | _ => .error "string_type"

/-- Reads true or false. -/
def readTruth : Value → Except String Bool
  | .bool b => .ok b
  | .str s => (truthOf? s).elim (.error "bool_parsing") .ok
  | .int i => ofNumber i
  | .float d => (wholeOf? d).elim (.error "bool_type") ofNumber
  | _ => .error "bool_type"
where
  /-- One and zero. A number of 64 bits is at least looked at. -/
  ofNumber (i : Int) : Except String Bool :=
    if i = 0 then .ok false
    else if i = 1 then .ok true
    else if -9223372036854775808 ≤ i ∧ i < 9223372036854775808 then .error "bool_parsing"
    else .error "bool_type"

/-- Reads one of some words. -/
def readChoice (choices : List String) : Value → Except String String
  | .str s => if choices.contains s then .ok s else .error "literal_error"
  | _ => .error "literal_error"

/-- A text without its underscores, which stand alone and inside it. -/
def dropUnderscores? (s : List Char) : Option (List Char) :=
  let doubled := (s.zip (s.drop 1)).any fun (a, b) => a = '_' && b = '_'
  if s.head? = some '_' || s.getLast? = some '_' || doubled then none
  else some (s.filter (· ≠ '_'))

/-- Reads a double written in ASCII. -/
def doubleOf? (s : String) : Option Double := do
  let s ← dropUnderscores? (Text.trim s.toList)
  if s.all fun c => c.val < 128 && !Text.isBlank c then Numeral.readDouble? s else none

/-- Reads a positive number. -/
def readPositive (v : Value) : Except String Double := do
  let d ← match v with
    | .float d => .ok d
    | .int i => (Double.ofInt? i).elim (.error "float_type") .ok
    | .bool b => .ok (Double.nearest false b.toNat 1)
    | .str s => (doubleOf? s).elim (.error "float_parsing") .ok
    | _ => .error "float_type"
  if d.isPositive then return d else .error "greater_than"

/-- Reads a whole number; zeros after a point do not matter. -/
def wholeText? (s : String) : Option Int := do
  let (negative, body) := Numeral.takeSign (Text.trim s.toList)
  let whole := body.takeWhile (· ≠ '.')
  let places := body.drop (whole.length + 1)
  let digits ← dropUnderscores? whole
  if digits ≠ [] ∧ digits.all Char.isDigit ∧ places.all (· = '0') then
    let n : Int := Numeral.digitsValue digits
    some (if negative then -n else n)
  else none

/-- Reads a whole number. -/
def readWhole : Value → Except String Int
  | .int i => .ok i
  | .bool b => .ok b.toNat
  | .str s =>
    if s.length > Numeral.digitLimit then .error "int_parsing_size"
    else (wholeText? s).elim (.error "int_parsing") .ok
  | .float (.finite negative m e) =>
    (wholeOf? (.finite negative m e)).elim (.error "int_from_float") .ok
  | .float _ => .error "finite_number"
  | _ => .error "int_type"

/-- Reads the budget of a crawl: one page at least, or minus one for no limit. -/
def readBudget (v : Value) : Except String Value := do
  let i ← readWhole v
  if i = -1 ∨ 1 ≤ i then return .int i else .error "value_error"

/-- The levels of the console. -/
def logLevels : List String := ["DEBUG", "INFO", "WARNING", "ERROR", "CRITICAL"]

/-- The rules for markup that can be chosen. -/
def parserNames : List String := ["lxml", "html.parser", "html5lib"]

/-- One setting read from a value. A name that is no setting changes nothing. -/
def readField (s : Settings) (name : String) (v : Value) : Except String Settings :=
  match name with
  | "app_name" => (readText v).map fun x => { s with appName := x }
  | "debug" => (readTruth v).map fun x => { s with debug := x }
  | "log_level" => (readChoice logLevels v).map fun x => { s with logLevel := x }
  | "log_to_file" => (readTruth v).map fun x => { s with logToFile := x }
  | "logs_path" => (readText v).map fun x => { s with logsPath := x }
  | "html_parser" => (readChoice parserNames v).map fun x => { s with htmlParser := x }
  | "http_timeout" => (readPositive v).map fun x => { s with timeout := x }
  | "http_user_agent" => (readText v).map fun x => { s with userAgent := x }
  | "http_follow_redirects" => (readTruth v).map fun x => { s with followRedirects := x }
  | "http_verify_ssl" => (readTruth v).map fun x => { s with verifyCertificates := x }
  | "drop_empty_records" => (readTruth v).map fun x => { s with dropEmptyRecords := x }
  | "strict_filters" => (readTruth v).map fun x => { s with strictFilters := x }
  | "default_max_pages" => (readBudget v).map fun x => { s with pageBudget := x }
  | _ => .ok s

/-- The public names of the settings. -/
def names : List String := (Settings.table {}).map (·.1)

/-- Variables, the last one of a name deciding. -/
abbrev Variables := List (String × String)

/-- The name of a setting in the environment. -/
def variablePrefix : String := "scraperx_"

/-- The variable of a setting, whatever the case of its name. -/
def assigned? (vars : Variables) (name : String) : Option String :=
  (vars.reverse.find? fun (k, _) =>
    String.ofList (Text.lower k.toList) = variablePrefix ++ name).map (·.2)

/-- Where settings come from. -/
structure Sources where
  passed : List (String × Value) := []
  environment : Variables := []
  file : Variables := []

/-- The value of a setting, from the first place that has one. -/
def Sources.value? (src : Sources) (name : String) : Option Value :=
  src.passed.lookup name <|> ((assigned? src.environment name).map .str) <|>
    ((assigned? src.file name).map .str)

/-- The settings, or what is wrong with them: fields with their faults. -/
def readAll (src : Sources) : Except Error Settings :=
  let (s, faults) := names.foldl (fun (s, faults) name =>
    match src.value? name with
    | none => (s, faults)
    | some v =>
      match readField s name v with
      | .ok s => (s, faults)
      | .error fault => (s, faults ++ [(name, fault)])) (({} : Settings), [])
  if faults = [] then .ok s
  else .error (.invalidSettings (faults.mergeSort fun a b => decide (a.1 ≤ b.1)))

end Gleaner.Settings
