import Snippet.Conversion.Policy

/-!
What a conversion knows and remembers. Its settings are fixed: the host's policies, its resolvers,
and the names that count as variables. Its memory grows: the primary node of each position, and the
text that came last.
-/

namespace Snippet

/-- The fixed part of a context. -/
structure Settings where
  policy : Policy
  /-- Functions of the host for names that the environment does not have. -/
  resolvers : List (String × ValueFunction)
  /-- The names that are read from the environment, captures apart. -/
  known : List String

namespace Settings

def knows (s : Settings) (name : String) : Bool :=
  isVariable s.known name

def transform (s : Settings) : Option TransformSpec → Except Error LineTransform
  | none => .ok .ok
  | some spec => s.policy.transforms spec

end Settings

/-- The primary node of each position, in the order of their registration. -/
abbrev Registry := List (Int × NodeId)

namespace Registry

def register (position : Int) (id : NodeId) (r : Registry) : Registry :=
  if (r.lookup position).isSome then r else r ++ [(position, id)]

def registerEvents (position : Int) (id : NodeId) (r : Registry) : List Event :=
  match r.lookup position with
  | some primary => if primary = id then [] else [.primaryKept position]
  | none => []

end Registry

structure Context where
  settings : Settings
  registry : Registry
  lastText : Option Lines

structure Options where
  policy : Option Policy
  resolvers : Option (List (String × ValueFunction))
  known : List String
  environment : Option Environment

namespace Options

def none : Options := ⟨.none, .none, [], .none⟩

def any (o : Options) : Bool :=
  o.policy.isSome || o.resolvers.isSome || !o.known.isEmpty || o.environment.isSome

end Options

namespace Context

variable [Pattern.CharacterNames]

def fresh (o : Options) : Context where
  settings := {
    policy := o.policy.getD Policy.standard
    resolvers := o.resolvers.getD []
    known := standardVariables ++ o.known ++
      (match o.environment with
        | some e => e.recognised
        | .none => []) }
  registry := []
  lastText := .none

/-- The context to convert with: the one that is given, or else a fresh one with the options. -/
def choose (given : Option Context) (o : Options) : Except Error Context :=
  match given with
  | .none => .ok (fresh o)
  | some c => if o.any then .error .contextAndOptions else .ok c

end Context

end Snippet
