import Gleaner.Markup.Fragment

/-! # Reading pages

Reads markup as a whole page. A missing `html`, `head` or `body` is added where its content begins,
some elements end when another one begins, and a tag that is out of place is passed over. -/

namespace Gleaner.Markup.Page

/-- Headings. -/
def headings : List String := ["h1", "h2", "h3", "h4", "h5", "h6"]

/-- Elements that end a paragraph or the like and preformatted text. -/
def blockStarts : List String := ["dd", "dl", "dt", "fieldset", "form", "li", "table", "ul"]

/-- Elements that belong into the body and end the head. -/
def bodyContent : List String :=
  ["a", "abbr", "acronym", "address", "b", "bdo", "big", "blockquote", "body", "br", "center",
   "cite", "code", "dd", "dfn", "dir", "div", "dl", "dt", "em", "fieldset", "font", "form",
   "frameset", "h1", "h2", "h3", "h4", "h5", "h6", "hr", "i", "iframe", "img", "kbd", "li",
   "listing", "map", "menu", "ol", "p", "pre", "q", "s", "samp", "small", "span", "strike",
   "strong", "sub", "sup", "table", "tt", "u", "ul", "var", "xmp"]

/-- Elements that end a paragraph. -/
def paragraphEnds : List String :=
  ["address", "blockquote", "body", "caption", "center", "col", "colgroup", "dd", "dir", "div",
   "dl", "dt", "fieldset", "form", "frameset", "h1", "h2", "h3", "h4", "h5", "h6", "head", "hr",
   "li", "listing", "menu", "ol", "p", "pre", "table", "tbody", "td", "tfoot", "th", "title", "tr",
   "ul", "xmp"]

/-- For an open element, the elements whose start ends it. -/
def endedBy : List (String × List String) :=
  [("a", ["a", "fieldset", "table", "td", "th"]),
   ("address", ["dd", "dl", "dt", "form", "li", "ul"]), ("b", ["center", "p", "td", "th"]),
   ("big", ["p"]), ("caption", ["col", "colgroup", "tbody", "tfoot", "thead", "tr"]),
   ("col", ["col", "colgroup", "tbody", "tfoot", "thead", "tr"]),
   ("colgroup", ["colgroup", "tbody", "tfoot", "thead", "tr"]), ("dd", ["dt"]),
   ("dir", ["dd", "dl", "dt", "form", "ul"]), ("dl", ["form", "li"]), ("dt", ["dd", "dl"]),
   ("font", ["center", "td", "th"]), ("form", ["form"]), ("head", bodyContent), ("hr", ["form"]),
   ("i", ["center"]), ("legend", ["fieldset"]), ("li", ["li"]), ("link", ["body", "frameset"]), ("listing", blockStarts),
   ("menu", ["dd", "dl", "dt", "form", "ul"]), ("ol", ["form"]),
   ("option", ["optgroup", "option"]), ("p", paragraphEnds), ("pre", blockStarts), ("s", ["p"]),
   ("script", ["noscript"]), ("small", ["p"]), ("span", ["td", "th"]), ("strike", ["p"]),
   ("style", ["body", "frameset"]), ("tbody", ["tbody", "tfoot"]),
   ("td", ["tbody", "td", "tfoot", "th", "tr"]), ("tfoot", ["tbody"]),
   ("th", ["tbody", "td", "tfoot", "th", "tr"]), ("thead", ["tbody", "tfoot"]),
   ("title", ["body", "frameset"]), ("tr", ["tbody", "tfoot", "tr"]), ("tt", ["p"]),
   ("u", ["p", "td", "th"]), ("ul", ["address", "form", "menu", "ol", "pre"]), ("xmp", blockStarts)]

/-- Whether the start of an element ends an open one. -/
def ends (opening before : String) : Bool :=
  if headings.contains before then ["fieldset", "form", "li", "p", "table"].contains opening
  else ((endedBy.lookup before).getD []).contains opening

/-- How strongly an open element resists the end tag of an element around it. -/
def resistance (name : String) : Nat :=
  ([("div", 150), ("td", 160), ("th", 160), ("tr", 170), ("thead", 180), ("tbody", 180),
    ("tfoot", 180), ("table", 190), ("head", 200), ("body", 200), ("html", 220)].lookup name).getD 100

/-- Elements that never have content. -/
def emptyElements : List String :=
  ["area", "base", "basefont", "br", "col", "frame", "hr", "img", "input", "isindex", "link",
   "meta", "param"]

/-- Elements that belong into the head. -/
def headContent : List String := ["script", "style", "meta", "link", "title", "base"]

/-- Elements whose text is read up to their end tag. -/
def rawTextElements : List String := ["script", "style", "xmp", "iframe", "noembed", "noframes"]

/-- Elements whose text is read up to their end tag with references replaced. -/
def referenceTextElements : List String := ["title", "textarea"]

/-- The open elements, innermost first, and what the page has had so far. -/
structure State where
  stack : List String := []
  begun : Bool := false
  hadHead : Bool := false
  hadBody : Bool := false
  /-- How many tags of the page's frame were passed over; as many end tags will be. -/
  passedOver : Nat := 0

namespace State

/-- Opens an element. -/
def enter (st : State) (name : String) : State :=
  { st with
    stack := name :: st.stack, begun := true
    hadHead := st.hadHead || name = "head" || name = "body"
    hadBody := st.hadBody || name = "body" }

/-- Closes elements that the start of another one ends. -/
def closeFor (opening : String) : List String → List String × List Event
  | [] => ([], [])
  | e :: rest =>
    if ends opening e then
      let (left, events) := closeFor opening rest
      (left, .closed e :: events)
    else (e :: rest, [])

/-- Ends what the start of an element ends. -/
def autoClose (st : State) (opening : String) : State × List Event :=
  let (left, events) := closeFor opening st.stack
  ({ st with stack := left }, events)

/-- Opens the frame that an element needs around it. -/
def implied (st : State) (opening : String) : State × List Event :=
  if opening = "html" then (st, [])
  else
    let (st, events) := if st.stack = [] then (st.enter "html", [Event.opened "html" []])
      else (st, [])
    if opening = "head" ∨ opening = "body" then (st, events)
    else if st.stack.length ≤ 1 ∧ headContent.contains opening then
      if st.hadHead then (st, events)
      else (st.enter "head", events ++ [.opened "head" []])
    else if ["noframes", "frame", "frameset"].contains opening then (st, events)
    else if st.hadBody ∨ st.stack.contains "body" ∨ st.stack.contains "head" then (st, events)
    else (st.enter "body", events ++ [.opened "body" []])

/-- Whether a start tag of the page's frame is out of place. -/
def isMisplaced (st : State) (name : String) : Bool :=
  (name = "html" && st.stack ≠ []) || (name = "head" && st.stack.length ≠ 1) ||
    (name = "body" && st.stack.contains "body")

/-- A start tag. The last component says whether the element is open now. -/
def start (st : State) (tag : Tag) : State × List Event × Bool :=
  let (st, closing) := st.autoClose tag.name
  let (st, opening) := st.implied tag.name
  let before := closing ++ opening
  if st.isMisplaced tag.name then
    ({ st with passedOver := st.passedOver + 1 }, before, false)
  else
    let attrs := firstValues tag.attrs
    let entered := st.enter tag.name
    if tag.selfClosing || emptyElements.contains tag.name then
      ({ entered with stack := st.stack }, before ++ [.single tag.name attrs], false)
    else (entered, before ++ [.opened tag.name attrs], true)

/-- The open elements that an end tag closes, innermost first, if it closes any: those up to the
nearest of its name, none of which may resist more. -/
def closing? (name : String) : List String → Option (List String)
  | [] => none
  | e :: rest =>
    if e = name then some [e]
    else if resistance e > resistance name then none
    else (closing? name rest).map (e :: ·)

/-- An end tag. -/
def finish (st : State) (name : String) : State × List Event :=
  if st.passedOver > 0 ∧ ["html", "body", "head"].contains name then
    ({ st with passedOver := st.passedOver - 1 }, [])
  else match closing? name st.stack with
    | some closed => ({ st with stack := st.stack.drop closed.length }, closed.map .closed)
    | none => (st, [])

/-- Text. Blanks stand where they are, but not before anything else; other text needs a body. -/
def text (st : State) (s : List Char) : State × List Event :=
  if st.stack.head?.all fun e => e = "html" || e = "head" then
    let blanks := s.takeWhile isSpace
    let rest := s.dropWhile isSpace
    let shown := if blanks = [] || !st.begun then [] else [Event.chars blanks]
    if rest = [] then (st, shown)
    else
      let (st, closing) := if st.stack.head? = some "head" then st.autoClose "p" else (st, [])
      let (st, opening) := st.implied "p"
      (st, shown ++ closing ++ opening ++ [.chars rest])
  else (st, [.chars s])

end State

/-- A name or a quoted text of a document type, and the rest. -/
def quotedPart? (s : List Char) : Option (List Char × List Char) :=
  match skipSpace s with
  | q :: r =>
    if q = '"' ∨ q = '\x27' then some (r.takeWhile (· ≠ q), (r.dropWhile (· ≠ q)).tail) else none
  | [] => none

/-- A document type as it is written: its name and its identifiers. -/
def doctypeText (inside : List Char) : List Char :=
  let s := skipSpace inside
  let name := s.takeWhile (!isSpace ·)
  let after := skipSpace (s.dropWhile (!isSpace ·))
  let quote := fun t : List Char => '"' :: t ++ ['"']
  match (after.take 6).map Char.toLower, quotedPart? (after.drop 6) with
  | ['p', 'u', 'b', 'l', 'i', 'c'], some (pub, rest) =>
    name ++ " PUBLIC ".toList ++ quote pub ++
      match quotedPart? rest with
      | some (system, _) => ' ' :: quote system
      | none => []
  | ['s', 'y', 's', 't', 'e', 'm'], some (system, _) => name ++ " SYSTEM ".toList ++ quote system
  | _, _ => name

/-- A comment after `<!--`: up to `-->`, `--!>` or the end. -/
def comment (s : List Char) : List Char × List Char :=
  match s with
  | '>' :: rest => ([], rest)
  | '-' :: '>' :: rest => ([], rest)
  | _ =>
    match Fragment.breakAt
        (fun t => "-->".toList.isPrefixOf t || "--!>".toList.isPrefixOf t) s with
    | (inside, some rest) => (inside, (rest.dropWhile (· ≠ '>')).tail)
    | (inside, none) => (inside, [])

/-- A text up to the next `>`, or to the end. -/
def upToClose (s : List Char) : List Char × List Char :=
  (s.takeWhile (· ≠ '>'), (s.dropWhile (· ≠ '>')).tail)

/-- Whether the end tag of an element begins here. -/
def endsElement (name : String) (s : List Char) : Bool :=
  let mark := '<' :: '/' :: name.toList
  mark.isPrefixOf (s.map Char.toLower |>.take mark.length) &&
    match s.drop mark.length with
    | c :: _ => isSpace c || c = '/' || c = '>'
    | [] => false

/-- Whether a `<` begins markup. -/
def beginsMarkup (s : List Char) : Bool :=
  match s with
  | '<' :: '/' :: _ :: _ => true
  | '<' :: c :: _ => c.isAlpha || c = '!' || c = '?'
  | _ => false

/-- A declaration after `<!`: a comment, a document type, or anything else as a comment. -/
def declaration (s : List Char) : List Event × List Char :=
  match s with
  | '-' :: '-' :: r =>
    let (inside, rest) := comment r
    ([.apart .comment inside], rest)
  | _ =>
    let (inside, rest) := upToClose s
    if (inside.take 7).map Char.toLower = "doctype".toList then
      ([.apart .doctype (doctypeText (inside.drop 7))], rest)
    else ([.apart .comment inside], rest)

/-- The events of a text within `fuel` steps. `raw` is the element whose text is being read. -/
def eventsWithin : Nat → State → Option String → List Char → List Event
  | 0, _, _, _ => []
  | _, st, _, [] => st.stack.map .closed
  | fuel + 1, st, some raw, s =>
    let (inside, rest) := Fragment.breakAt (endsElement raw) s
    let shown := if referenceTextElements.contains raw then expand false inside else inside
    (if shown = [] then [] else [.chars shown]) ++
      eventsWithin fuel st none (rest.getD [])
  | fuel + 1, st, none, s =>
    if beginsMarkup s then
      match s with
      | '<' :: '!' :: r =>
        let (events, rest) := declaration r
        events ++ eventsWithin fuel st none rest
      | '<' :: '?' :: r =>
        let (inside, rest) := upToClose r
        .apart .comment ('?' :: inside) :: eventsWithin fuel st none rest
      | '<' :: '/' :: c :: r =>
        let (_, rest) := upToClose (c :: r)
        if c.isAlpha then
          let (st, events) := st.finish (lowerName ((c :: r).takeWhile isTagNameChar))
          events ++ eventsWithin fuel st none rest
        else if c = '>' then eventsWithin fuel st none r
        else .apart .comment (upToClose (c :: r)).1 :: eventsWithin fuel st none rest
      | _ =>
        match readTag? true s.tail with
        | none => st.stack.map .closed
        | some (tag, rest) =>
          let (st, events, isOpen) := st.start tag
          let reads := isOpen &&
            (rawTextElements.contains tag.name || referenceTextElements.contains tag.name)
          events ++ eventsWithin fuel st (if reads then some tag.name else none) rest
    else
      let (more, rest) := Fragment.breakAt beginsMarkup s.tail
      let (st, events) := st.text (expand false (s.take 1 ++ more))
      events ++ eventsWithin fuel st none (rest.getD [])

/-- Line ends in one form. -/
def unifyLineEnds : List Char → List Char
  | [] => []
  | '\r' :: '\n' :: r => '\n' :: unifyLineEnds r
  | '\r' :: r => '\n' :: unifyLineEnds r
  | c :: r => c :: unifyLineEnds r

/-- The nodes of a page. -/
def parse (markup : String) : List Node :=
  let s := unifyLineEnds markup.toList
  Node.ofEvents (eventsWithin (s.length + 4) {} none s)

end Gleaner.Markup.Page
