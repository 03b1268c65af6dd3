import Snippet.Conversion.Context
import Snippet.Element.Basic
import Snippet.Store.Positions

/-!
Conversion of a syntax tree into nodes. The first occurrence of a position to be completed becomes
its primary node; a later tabstop or placeholder of that position is a mirror, which has the lines of
the primary node. Siblings are converted in order and then compacted, and a variable behind a line
break and white space is wrapped so that it keeps its indentation.
-/

namespace Snippet

structure Workspace where
  store : Store
  registry : Registry
  lastText : Option Lines
  journal : List Event

/-- A step of a conversion. What it has done before an error stays done. -/
abbrev Conversion := EStateM Error Workspace

/-- What an element becomes: a node, or the nodes of a template body in a row. -/
inductive Built where
  | one (id : NodeId)
  | many (ids : List NodeId)
deriving DecidableEq, Repr

namespace Conversion

def note (events : List Event) : Conversion Unit :=
  modify fun w => { w with journal := w.journal ++ events }

def add (node : Node) (position : Option Int) : Conversion NodeId :=
  modifyGet fun w =>
    let (id, store) := w.store.add node position
    (id, { w with store })

/-- What the next sibling sees as the text before it. -/
def setLastText (lines : Option Lines) : Conversion Unit :=
  modify fun w => { w with lastText := lines }

def register (position : Int) (id : NodeId) : Conversion Unit := do
  note ((← get).registry.registerEvents position id)
  modify fun w => { w with registry := w.registry.register position id }

def transform (settings : Settings) (spec : Option TransformSpec) : Conversion LineTransform := do
  note (spec.toList.map .transformMade)
  match settings.transform spec with
  | .ok f => return f
  | .error e => throw e

def mirror? (settings : Settings) (position : Int) (spec : Option TransformSpec) :
    Conversion (Option NodeId) := do
  match (← get).registry.lookup position with
  | none => return none
  | some primary =>
      note [.mirrored position]
      let f ← transform settings spec
      return some (← add (.computed (.copy f) [primary]) none)

/-- Indents the continuation lines of a variable's node where it stands behind white space. -/
def wrapIndent (id : NodeId) (name : String) (lastText : Option Lines) : Conversion NodeId :=
  match Indent.forVariable? name lastText with
  | none => return id
  | some indent => add (.wrap id indent) none

/-- The node of a variable: read from the environment, made by a resolver, or empty. -/
def variableNode (settings : Settings) (name : String) (spec : Option TransformSpec) :
    Conversion NodeId := do
  if settings.knows name then
    let f ← transform settings spec
    wrapIndent (← add (.computed (.ofVariable name f) []) none) name (← get).lastText
  else match settings.resolvers.lookup name with
    | some f => wrapIndent (← add (.computed f []) none) name (← get).lastText
    | none =>
        note [.unknownVariable name]
        add (.text [""]) none

/-- The node of a placeholder's body that is no lone text. -/
def bodyNode (settings : Settings) (position : Int) (children : List NodeId) :
    Conversion NodeId := do
  let group ← add (.group children) none
  note ((← get).store.classifyEvents position group)
  modifyGet fun w =>
    let (id, store) := w.store.classify settings.policy.assembler position group
    (id, { w with store })

/-- The nodes that an element contributes to its siblings. -/
def spliced (s : Store) : Built → List NodeId
  | .many ids => ids
  | .one id =>
      match s.node? id with
      | some (.row members) => members
      | _ => [id]

/-- Compacts the positions of siblings, and gives the siblings back. -/
def compact (ids : List NodeId) : Conversion (List NodeId) := do
  note ((← get).store.compactionEvents ids)
  modify fun w => { w with store := w.store.compact ids }
  return ids

/-- Siblings start without a text before them, and are compacted in the end. -/
def asSiblings (convertAll : Conversion (List NodeId)) : Conversion (List NodeId) := do
  setLastText none
  compact (← convertAll)

mutual

/-- The node of an element, or the nodes of a template body. -/
def convert (settings : Settings) : Element → Conversion Built
  | .text content => do
      let lines := Lines.ofText content
      setLastText (some lines)
      return .one (← add (.text lines) none)
  | .choice position items =>
      return .one (← add (.choice (items.map Lines.ofText) 0) (some position))
  | .tabstop position spec => do
      match ← mirror? settings position spec with
      | some id => return .one id
      | none =>
          let id ← add (.tabstop none none) (some position)
          register position id
          return .one id
  | .placeholder position spec children => do
      match ← mirror? settings position spec with
      | some id => return .one id
      | none =>
          let id ← match Element.loneText? children with
            | some content => add (.tabstop (some content) none) (some position)
            | none =>
                let ids ← asSiblings (convertAll settings children)
                bodyNode settings position ids
          register position id
          return .one id
  | .var name spec => return .one (← variableNode settings name spec)
  | .snippet children => return .many (← asSiblings (convertAll settings children))
  | .ownText content => throw (.unknownKind (Element.ownText content).tag)
  | .ownSnippet children => throw (.unknownKind (Element.ownSnippet children).tag)
  | .custom kind => throw (.unknownKind kind)
  | .built id => return .one id

/-- The nodes of elements in a row, not yet compacted. -/
def convertAll (settings : Settings) : List Element → Conversion (List NodeId)
  | [] => return []
  | e :: es => do
      let built ← convert settings e
      let ids := spliced (← get).store built
      if !e.passesText then setLastText none
      return ids ++ (← convertAll settings es)

end

def siblings (settings : Settings) (es : List Element) : Conversion (List NodeId) :=
  asSiblings (convertAll settings es)

end Conversion

end Snippet
