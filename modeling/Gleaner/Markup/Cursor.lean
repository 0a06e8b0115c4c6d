import Gleaner.Markup.Node

/-! # Places in a document

A cursor is a node together with the way to it from the top of the document: the document itself,
or a child of another cursor at an index. Its ancestors, siblings and descendants are cursors
again, and two cursors of one document are the same place when their paths agree. -/

namespace Gleaner.Markup

/-- A node and the way to it. -/
inductive Cursor where
  | document (nodes : List Node)
  | child (parent : Cursor) (index : Nat) (node : Node)
  deriving Inhabited

namespace Cursor

/-- The indices on the way from the document, the last one first. -/
def path : Cursor → List Nat
  | document _ => []
  | child parent index _ => index :: parent.path

/-- Whether a cursor is the document itself. -/
def isDocument : Cursor → Bool
  | document _ => true
  | child .. => false

/-- The nodes below a cursor, one level down. -/
def nodes : Cursor → List Node
  | document nodes => nodes
  | child _ _ node => node.children

/-- The name of the node. The document has a name of its own, which no markup can have. -/
def name : Cursor → String
  | document _ => "[document]"
  | child _ _ node => node.name

/-- The attributes of the node. -/
def attrs : Cursor → List (String × String)
  | document _ => []
  | child _ _ node => node.attrs

/-- The value of an attribute. -/
def attr? (c : Cursor) (name : String) : Option String := c.attrs.lookup name

/-- Whether the node has an attribute. -/
def hasAttr (c : Cursor) (name : String) : Bool := (c.attr? name).isSome

/-- The cursor one level up. -/
def parent? : Cursor → Option Cursor
  | document _ => none
  | child parent _ _ => some parent

/-- The cursors above, the nearest first. -/
def ancestors : Cursor → List Cursor
  | document _ => []
  | child parent _ _ => parent :: parent.ancestors

/-- Cursors at nodes that follow each other below a parent, from an index on. -/
def enumerate (parent : Cursor) : Nat → List Node → List Cursor
  | _, [] => []
  | i, n :: ns => child parent i n :: enumerate parent (i + 1) ns

/-- The cursors one level down, texts included. -/
def contents (c : Cursor) : List Cursor := enumerate c 0 c.nodes

/-- Whether the node is an element. -/
def isElement : Cursor → Bool
  | document _ => false
  | child _ _ node => node.isElement

/-- The elements one level down. -/
def elements (c : Cursor) : List Cursor := c.contents.filter isElement

mutual

/-- An element below a parent and the elements below it, in document order. -/
def within (parent : Cursor) (i : Nat) : Node → List Cursor
  | .element name attrs children =>
    let c := child parent i (.element name attrs children)
    c :: withinAll c 0 children
  | .text .. => []

/-- The elements among nodes that follow each other, and those below them, in document order. -/
def withinAll (parent : Cursor) : Nat → List Node → List Cursor
  | _, [] => []
  | i, n :: ns => within parent i n ++ withinAll parent (i + 1) ns

end

/-- The elements below a cursor, in document order. -/
def descendants (c : Cursor) : List Cursor := withinAll c 0 c.nodes

/-- The elements beside a cursor, itself included. -/
def family (c : Cursor) : List Cursor :=
  match c.parent? with
  | some parent => parent.elements
  | none => []

/-- The index below the parent. -/
def index : Cursor → Nat
  | document _ => 0
  | child _ index _ => index

/-- The elements before a cursor under the same parent, the nearest first. -/
def earlier (c : Cursor) : List Cursor := (c.family.filter (·.index < c.index)).reverse

/-- The elements after a cursor under the same parent, the nearest first. -/
def later (c : Cursor) : List Cursor := c.family.filter (c.index < ·.index)

/-- Whether two cursors of a document are the same place. -/
def isSame (a b : Cursor) : Bool := a.path = b.path

/-- The cursor of the document that holds this one. -/
def top : Cursor → Cursor
  | document nodes => document nodes
  | child parent _ _ => parent.top

/-- The characters of the wanted kinds below a cursor, in order. -/
def textOf (wanted : TextKind → Bool) (c : Cursor) : List Char := Node.textOfAll wanted c.nodes

/-- The text that a reader sees. -/
def text (c : Cursor) : String := .ofList (c.textOf (Node.isTextOf c.name))

/-- The markup of the node and all below it. -/
def markup : Cursor → String
  | document nodes => .ofList (Node.renderAll "" nodes)
  | child _ _ node => .ofList (node.renderIn "")

/-- The top-level elements: what is right below the body of a document, or right below the cursor
if there is no body. -/
def topLevel (c : Cursor) : List Cursor :=
  if c.isDocument then
    match c.descendants.find? (·.name = "body") with
    | some body => body.elements
    | none => c.elements
  else c.elements

end Cursor

end Gleaner.Markup
