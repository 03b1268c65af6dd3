import Snippet.Element.Basic

/-!
Properties of syntax trees at every depth.
-/

namespace Snippet.Element

mutual

/-- The tree has the six kinds of the grammar only. -/
def grammatical : Element → Bool
  | placeholder _ _ children => grammaticalAll children
  | snippet children => grammaticalAll children
  | e => e.inGrammar

def grammaticalAll : List Element → Bool
  | [] => true
  | e :: es => grammatical e && grammaticalAll es

end

mutual

/-- Something in the element can be edited: an insertion point, a choice, or a mirror of one. What
stands in the body of a placeholder does not count apart from the placeholder. -/
def hasField : Element → Bool
  | choice _ _ => true
  | tabstop _ _ => true
  | placeholder _ _ _ => true
  | snippet children => hasFieldAmong children
  | _ => false

def hasFieldAmong : List Element → Bool
  | [] => false
  | e :: es => hasField e || hasFieldAmong es

end

mutual

/-- The nodes that stand in a tree ready made, where conversion comes to them. -/
def supplied : Element → List NodeId
  | placeholder _ _ children => suppliedAll children
  | snippet children => suppliedAll children
  | built id => [id]
  | _ => []

def suppliedAll : List Element → List NodeId
  | [] => []
  | e :: es => supplied e ++ suppliedAll es

end

mutual

/-- In a tree of the grammar no node stands ready. -/
theorem supplied_eq_nil (e : Element) (hg : e.grammatical) : e.supplied = [] := by
  cases e with
  | placeholder position spec children => exact suppliedAll_eq_nil children hg
  | snippet children => exact suppliedAll_eq_nil children hg
  | built id => cases hg
  | _ => rfl

theorem suppliedAll_eq_nil (es : List Element) (hg : grammaticalAll es) : suppliedAll es = [] := by
  cases es with
  | nil => rfl
  | cons e es =>
    rw [grammaticalAll, Bool.and_eq_true] at hg
    rw [suppliedAll, supplied_eq_nil e hg.1, suppliedAll_eq_nil es hg.2, List.nil_append]

end

/-- In a tree of the grammar the only lone text is a text. -/
theorem eq_text_of_loneText? {es : List Element} {content : String} (hg : grammaticalAll es)
    (h : loneText? es = some content) : es = [text content] := by
  match es with
  | [] => cases h
  | [text t] =>
    rw [loneText?, textContent?] at h
    rw [Option.some.inj h]
  | [ownText t] => simp [grammaticalAll, grammatical, inGrammar] at hg
  | [choice _ _] => cases h
  | [tabstop _ _] => cases h
  | [placeholder _ _ _] => cases h
  | [var _ _] => cases h
  | [snippet _] => cases h
  | [ownSnippet _] => cases h
  | [custom _] => cases h
  | [built _] => cases h
  | _ :: _ :: _ => cases h

end Snippet.Element
