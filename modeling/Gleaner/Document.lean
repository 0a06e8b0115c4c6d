import Gleaner.Css.Match
import Gleaner.Error
import Gleaner.Markup.Page

/-! # Documents

A document is markup read by one of two parsers, together with the address it came from. What is
found in it are cursors, which know their place. -/

namespace Gleaner

open Markup (Cursor)

/-- The rules by which markup is read. -/
inductive MarkupRules where
  /-- As a whole page: what is missing around the content is added. -/
  | page
  /-- As it is. -/
  | fragment
  deriving DecidableEq, Repr

namespace MarkupRules

/-- The rules of a name. -/
def ofName? : String → Option MarkupRules
  | "lxml" | "lxml-html" | "html" | "fast" | "permissive" => some page
  | "html.parser" | "strict" => some fragment
  | _ => none

/-- Reads markup. -/
def parse : MarkupRules → String → List Markup.Node
  | page, markup => Markup.Page.parse markup
  | fragment, markup => Markup.Fragment.parse markup

end MarkupRules

/-- A document. -/
structure Document where
  nodes : List Markup.Node
  /-- The name of the rules it was read by. -/
  parser : String
  /-- Where it came from. -/
  url : Option String := none

namespace Document

/-- Reads a document by the rules of a name. -/
def parse (parser : String) (markup : String) (url : Option String := none) :
    Except Error Document :=
  match MarkupRules.ofName? parser with
  | some rules => .ok ⟨rules.parse markup, parser, url⟩
  | none => .error .unknownParser

/-- The place of the document itself. -/
def root (d : Document) : Cursor := .document d.nodes

/-- What a document is, for people who look for faults. -/
def describe (d : Document) : String :=
  let url := match d.url with
    | some url => Text.quoted url
    | none => "None"
  s!"DOMParser(url={url}, parser={Text.quoted d.parser})"

end Document

/-- The failure of a selector that cannot be read. -/
def cssError (css : String) : Css.Fault → Error
  | .malformed => .malformedSelector css .badCss
  | .unsupported => .unsupportedCss

/-- The elements below a place that a selector describes, in document order. -/
def select (css : String) (c : Cursor) : Except Error (List Cursor) :=
  match Css.parse css with
  | .ok s => .ok (s.select c)
  | .error fault => .error (cssError css fault)

/-- The first of the elements that a selector describes. -/
def selectFirst (css : String) (c : Cursor) : Except Error (Option Cursor) :=
  (select css c).map List.head?

end Gleaner
