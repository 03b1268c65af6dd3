import Snippet.Node

/-!
The syntax tree of a template, as a parser of templates produces it. Beside the six kinds of the
grammar a tree may hold nodes that are built already, and elements of a host's own kinds.
-/

namespace Snippet

inductive ElementKind where
  | text
  | choice
  | tabstop
  | placeholder
  | var
  | snippet
deriving DecidableEq, Repr

namespace ElementKind

def all : List ElementKind :=
  [text, choice, tabstop, placeholder, var, snippet]

def tag : ElementKind → String
  | text => "text"
  | choice => "choice"
  | tabstop => "tabstop"
  | placeholder => "placeholder"
  | var => "variable"
  | snippet => "snippet"

def ofTag? (s : String) : Option ElementKind :=
  all.find? fun k => k.tag = s

def typeName : ElementKind → String
  | text => "TextAst"
  | choice => "ChoiceAst"
  | tabstop => "TabstopAst"
  | placeholder => "PlaceholderAst"
  | var => "VariableAst"
  | snippet => "SnippetAst"

end ElementKind

inductive Element where
  /-- Literal text, its escapes resolved. -/
  | text (content : String)
  | choice (position : Nat) (items : List String)
  /-- An empty numbered insertion point. -/
  | tabstop (position : Nat) (transform : Option TransformSpec)
  /-- A numbered insertion point with content to start with. -/
  | placeholder (position : Nat) (transform : Option TransformSpec) (children : List Element)
  | var (name : String) (transform : Option TransformSpec)
  /-- The body of a template, or of one nested in it. -/
  | snippet (children : List Element)
  /-- A host's own variety of text, which conversion does not know. -/
  | ownText (content : String)
  /-- A host's own variety of template body, which conversion does not know. -/
  | ownSnippet (children : List Element)
  /-- An element of a kind of the host's, which conversion does not know. -/
  | custom (kind : String)
  | built (id : NodeId)
deriving Inhabited

namespace Element

def textContent? : Element → Option String
  | text content => some content
  | ownText content => some content
  | _ => none

/-- The text that is all there is in a list of elements. -/
def loneText? : List Element → Option String
  | [e] => e.textContent?
  | _ => none

/-- What follows the element still sees the text that came last: the element's own, or that at the
end of a nested template. -/
def passesText : Element → Bool
  | text _ => true
  | ownText _ => true
  | snippet _ => true
  | ownSnippet _ => true
  | _ => false

def position? : Element → Option Nat
  | choice position _ => some position
  | tabstop position _ => some position
  | placeholder position _ _ => some position
  | _ => none

def inGrammar : Element → Bool
  | ownText _ => false
  | ownSnippet _ => false
  | custom _ => false
  | built _ => false
  | _ => true

def tag : Element → String
  | text _ => ElementKind.text.tag
  | choice _ _ => ElementKind.choice.tag
  | tabstop _ _ => ElementKind.tabstop.tag
  | placeholder _ _ _ => ElementKind.placeholder.tag
  | var _ _ => ElementKind.var.tag
  | snippet _ => ElementKind.snippet.tag
  | ownText _ => ElementKind.text.tag
  | ownSnippet _ => ElementKind.snippet.tag
  | custom kind => kind
  | built _ => ""

def typeName : Element → String
  | text _ => ElementKind.text.typeName
  | choice _ _ => ElementKind.choice.typeName
  | tabstop _ _ => ElementKind.tabstop.typeName
  | placeholder _ _ _ => ElementKind.placeholder.typeName
  | var _ _ => ElementKind.var.typeName
  | snippet _ => ElementKind.snippet.typeName
  | ownText _ => "SubText"
  | ownSnippet _ => "SubSnippet"
  | custom _ => "SyntaxNode"
  | built _ => "OutputNode"

end Element

end Snippet
