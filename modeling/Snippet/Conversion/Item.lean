import Snippet.Conversion.Run
import Snippet.Element.Data

/-!
Conversion of whatever a host hands over. Elements are converted; anything else passes as it is: a
list of items is spliced into a row of siblings, and plain data stays among the nodes. An element
that came through a list unconverted has its position like a node, but cannot be given another one.
-/

namespace Snippet

/-- Tells elements apart that look alike. The host numbers the trees that it hands over, and a child
has the label of its parent with its own place behind it. -/
abbrev Label := List Nat

/-- What a host hands over, or gets back. -/
inductive Item where
  | node (id : NodeId)
  | element (label : Label) (e : Element)
  | list (items : List Item)
  | data (d : Data)
deriving Inhabited

namespace Item

def nodes (ids : List NodeId) : Item := list (ids.map node)

/-- The item lets the next sibling see the text that came last. -/
def passesText : Item → Bool
  | element _ e => e.passesText
  | _ => false

def children (label : Label) (es : List Element) : List Item :=
  es.mapIdx fun i e => match e with
    | .built id => node id
    | e => element (label ++ [i]) e

/-- The items that an item contributes to a row of siblings. -/
def contributed : Item → List Item
  | list items => items
  | data (.list ds) => ds.map data
  | i => [i]

def ofBuilt (s : Store) : Built → Item
  | .many ids => nodes ids
  | .one id =>
      match s.node? id with
      | some (.row members) => nodes members
      | _ => node id

/-- The identity of an item that can have a position. -/
abbrev Key := NodeId ⊕ Label

def keyed (s : Store) : Item → Key × Option Int
  | node id => (.inl id, s.position? id)
  | element label e => (.inr label, e.position?.map Int.ofNat)
  | _ => (.inr [], none)

def typeName? (label : Label) : Item → Option String
  | element l e => if l = label then some e.typeName else none
  | _ => none

end Item

namespace Conversion

/-- Converts an element; anything else stays. -/
def convertItem (settings : Settings) : Item → Conversion Item
  | .node id => do return Item.ofBuilt (← get).store (.one id)
  | .element _ e => do
      let built ← convert settings e
      return Item.ofBuilt (← get).store built
  | item => return item

/-- Items in a row, not yet compacted. -/
def convertItems (settings : Settings) : List Item → Conversion (List Item)
  | [] => return []
  | item :: items => do
      let converted ← convertItem settings item
      if !item.passesText then setLastText none
      return converted.contributed ++ (← convertItems settings items)

/-- Gives new positions one by one, up to an element, whose position is fixed. -/
def renumberItems (items : List Item) : List (Positions.Change Item.Key) → Conversion Unit
  | [] => return ()
  | c :: cs => do
      note [.renumbered c.old c.new]
      match c.what with
      | .inl id =>
          modify fun w => { w with store := w.store.setPosition id (some c.new) }
          renumberItems items cs
      | .inr label =>
          let title := (items.findSome? (·.typeName? label)).getD ""
          throw (.invalidData title [⟨.frozen, [.field "position"]⟩])

/-- Compacts the positions of items in a row, and gives the items back. -/
def compactItems (items : List Item) : Conversion (List Item) := do
  let store := (← get).store
  renumberItems items (Positions.changes (items.map (·.keyed store)))
  return items

/-- The items that items in a row become, compacted. -/
def siblingItems (settings : Settings) (items : List Item) : Conversion (List Item) := do
  setLastText none
  compactItems (← convertItems settings items)

end Conversion

def toItem [Pattern.CharacterNames] (given : Option Context) (o : Options) (item : Item) (s : Store) :
    Except Error (Run Item) :=
  (Context.choose given o).map fun c => c.run s fun settings =>
    Conversion.convertItem settings item

end Snippet
