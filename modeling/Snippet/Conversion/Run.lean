import Snippet.Conversion.Basic

/-!
Running a conversion on a store and a context. Both go on from where the conversion stopped, also
where it stopped with an error.
-/

namespace Snippet

/-- The outcome of a conversion, and what it leaves behind. -/
structure Run (α : Type) where
  outcome : Except Error α
  store : Store
  context : Context
  events : List Event

def Context.run {α : Type} (c : Context) (s : Store) (m : Settings → Conversion α) : Run α :=
  let leave (outcome : Except Error α) (w : Workspace) : Run α :=
    ⟨outcome, w.store, { c with registry := w.registry, lastText := w.lastText }, w.journal⟩
  match m c.settings ⟨s, c.registry, c.lastText, []⟩ with
  | .ok a w => leave (.ok a) w
  | .error e w => leave (.error e) w

def toNode [Pattern.CharacterNames] (given : Option Context) (o : Options) (e : Element) (s : Store) :
    Except Error (Run Built) :=
  (Context.choose given o).map fun c => c.run s fun settings => Conversion.convert settings e

/-- The nodes of an element in a row, also where it is a single node. -/
def compileSnippet [Pattern.CharacterNames] (given : Option Context) (o : Options) (e : Element) (s : Store) :
    Except Error (Run (List NodeId)) :=
  (Context.choose given o).map fun c => c.run s fun settings => do
    let built ← Conversion.convert settings e
    return Conversion.spliced (← get).store built

end Snippet
