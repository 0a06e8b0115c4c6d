import Gleaner.Text.Property

/-! # Markup trees

A document is a list of nodes; an element has a name, attributes in the order of its source, and
child nodes. `Node.render` writes a node as markup, with attributes sorted by name, and `Node.text`
gives the text that a reader sees. -/

namespace Gleaner.Markup

/-- Elements whose text is no part of the text around them. -/
def apartElements : List String := ["rt", "rp", "style", "script", "template"]

/-- What a run of characters in a document is. -/
inductive TextKind where
  /-- Text that a reader sees. -/
  | plain
  /-- The text inside an element of `apartElements`. -/
  | apart (element : String)
  | comment
  | cdata
  | doctype
  | instruction
  | declaration
  deriving DecidableEq, Repr

/-- A node of a document. -/
inductive Node where
  | element (name : String) (attrs : List (String × String)) (children : List Node)
  | text (kind : TextKind) (content : String)
  deriving Inhabited, Repr

/-- Elements that are written without an end tag when they are empty. -/
def voidElements : List String :=
  ["area", "base", "br", "col", "embed", "hr", "img", "input", "keygen", "link", "menuitem", "meta",
   "param", "source", "track", "wbr", "basefont", "bgsound", "command", "frame", "image", "isindex",
   "nextid", "spacer"]

/-- Elements whose text is written as it is. -/
def rawElements : List String := ["script", "style"]

namespace Node

/-- Whether a node is an element. -/
def isElement : Node → Bool
  | element .. => true
  | text .. => false

/-- The name of an element. -/
def name : Node → String
  | element name .. => name
  | text .. => ""

/-- The attributes of an element. -/
def attrs : Node → List (String × String)
  | element _ attrs _ => attrs
  | text .. => []

/-- The child nodes of an element. -/
def children : Node → List Node
  | element _ _ children => children
  | text .. => []

/-- The value of an attribute. -/
def attr? (n : Node) (name : String) : Option String := n.attrs.lookup name

/-! ## Writing markup -/

/-- A character with the signs of markup escaped. -/
def escapeChar : Char → List Char
  | '&' => "&amp;".toList
  | '<' => "&lt;".toList
  | '>' => "&gt;".toList
  | c => [c]

/-- A text with the signs of markup escaped. -/
def escape (s : List Char) : List Char := s.flatMap escapeChar

/-- An attribute's value in quotes: double quotes, unless the value holds some and no single
quote. -/
def quoteAttr (s : List Char) : List Char :=
  let v := escape s
  if v.contains '"' then
    if v.contains '\x27' then
      '"' :: (v.flatMap fun c => if c = '"' then "&quot;".toList else [c]) ++ ['"']
    else '\x27' :: v ++ ['\x27']
  else '"' :: v ++ ['"']

/-- The name of the encoding in a content type replaced. -/
def withEncoding : Bool → List Char → List Char
  | _, [] => []
  | atStart, c :: r =>
    let key := "charset=".toList
    if atStart && key.isPrefixOf (c :: r) then
      key ++ "utf-8".toList ++ withEncodingRest ((c :: r).drop key.length)
    else c :: withEncoding (c = ';' || c = ' ' || ('\t' ≤ c && c ≤ '\r')) r
where
  /-- What follows the name of the encoding. -/
  withEncodingRest (s : List Char) : List Char := s.dropWhile (· ≠ ';')

/-- The attributes as they are written. A `meta` element names the encoding of the output. -/
def writtenAttrs (name : String) (attrs : List (String × String)) : List (String × String) :=
  if name ≠ "meta" then attrs
  else if (attrs.lookup "charset").isSome then
    attrs.map fun (k, v) => if k = "charset" then (k, "utf-8") else (k, v)
  else if (attrs.lookup "http-equiv").any (·.toList.map Char.toLower = "content-type".toList) then
    attrs.map fun (k, v) =>
      if k = "content" then (k, .ofList (withEncoding true v.toList)) else (k, v)
  else attrs

/-- The start tag up to its closing sign. -/
def openTag (name : String) (attrs : List (String × String)) : List Char :=
  let sorted := (writtenAttrs name attrs).mergeSort fun a b => decide (a.1 ≤ b.1)
  '<' :: name.toList ++ sorted.flatMap fun (k, v) => ' ' :: k.toList ++ '=' :: quoteAttr v.toList

/-- A run of characters as it is written inside an element. -/
def renderText (parent : String) (kind : TextKind) (content : List Char) : List Char :=
  match kind with
  | .comment => "<!--".toList ++ content ++ "-->".toList
  | .cdata => "<![CDATA[".toList ++ content ++ "]]>".toList
  | .doctype => "<!DOCTYPE ".toList ++ content ++ ">\n".toList
  | .instruction => "<?".toList ++ content ++ ">".toList
  | .declaration => "<?".toList ++ content ++ "?>".toList
  | .plain | .apart _ => if rawElements.contains parent then content else escape content

mutual

/-- A node as markup, inside an element of the given name. -/
def renderIn (parent : String) : Node → List Char
  | element name attrs children =>
    if children.isEmpty && voidElements.contains name then openTag name attrs ++ ['/', '>']
    else
      openTag name attrs ++ '>' :: renderAll name children ++ '<' :: '/' :: name.toList ++ ['>']
  | text kind content => renderText parent kind content.toList

/-- Nodes as markup, inside an element of the given name. -/
def renderAll (parent : String) : List Node → List Char
  | [] => []
  | n :: ns => n.renderIn parent ++ renderAll parent ns

end

/-! ## The text a reader sees -/

mutual

/-- The characters of the wanted kinds below a node, in order. -/
def textOf (wanted : TextKind → Bool) : Node → List Char
  | element _ _ children => textOfAll wanted children
  | text kind content => if wanted kind then content.toList else []

/-- The characters of the wanted kinds below nodes, in order. -/
def textOfAll (wanted : TextKind → Bool) : List Node → List Char
  | [] => []
  | n :: ns => n.textOf wanted ++ textOfAll wanted ns

end

/-- Whether text of a kind belongs to the text of an element. -/
def isTextOf (element : String) (kind : TextKind) : Bool :=
  if apartElements.contains element then kind = .apart element
  else kind = .plain || kind = .cdata

end Node

end Gleaner.Markup
