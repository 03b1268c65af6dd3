/-!
What validation finds wrong with data, and where.
-/

namespace Snippet

/-- The ways in which a child can be read: as a record by its tag, or as an element that is made already, of
the syntax or one that is built. -/
inductive Branch where
  | tagged
  | syntaxNode
  | outputNode
deriving DecidableEq, Repr

/-- The branches in the order in which they are tried. -/
def Branch.all : List Branch :=
  [tagged, syntaxNode, outputNode]

/-- One step down from the root of the data. Below a child, `branch` names the way in which it is read, and
`tag` the kind that it is read as. -/
inductive Step where
  | field (name : String)
  | index (i : Nat)
  | branch (b : Branch)
  | tag (name : String)
deriving DecidableEq, Repr

inductive IssueKind where
  | notRecord
  | missing
  | wrongKind
  | notText
  | notList
  /-- The data is no integer, for the reason that the reader of integers gives. -/
  | noInteger (reason : String)
  | negative
  | childNotRecord
  | kindMissing
  | kindUnknown
  | notInstance
  | frozen
deriving DecidableEq, Repr

/-- The name that reports give the kind of an issue. -/
def IssueKind.name : IssueKind → String
  | notRecord => "model_type"
  | missing => "missing"
  | wrongKind => "literal_error"
  | notText => "string_type"
  | notList => "tuple_type"
  | noInteger reason => reason
  | negative => "greater_than_equal"
  | childNotRecord => "model_attributes_type"
  | kindMissing => "union_tag_not_found"
  | kindUnknown => "union_tag_invalid"
  | notInstance => "is_instance_of"
  | frozen => "frozen_instance"

/-- An issue and the way from the root to it. -/
structure Issue where
  kind : IssueKind
  location : List Step
deriving DecidableEq, Repr

/-- The issue as seen from one level up. -/
def Issue.below (step : Step) (i : Issue) : Issue :=
  { i with location := step :: i.location }

end Snippet
