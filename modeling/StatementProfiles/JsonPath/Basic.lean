import StatementProfiles.Json.Basic

/-!
# The path language

A `Query` selects nodes of a document. Its segments are applied one after another: each takes the nodes found so far
and looks for others among their children or descendants, by selectors. Selectors may filter by conditions, which hold
queries and function calls of their own.
-/

namespace StatementProfiles

namespace JsonPath

/-- Where a query starts: at the root of the document, or at the node under test. -/
inductive Origin where
  | top
  | current
deriving DecidableEq, Repr, Inhabited

/-- A step to at most one node. -/
inductive Step where
  | name (name : String)
  | index (i : Int)
deriving DecidableEq, Repr, Inhabited

/-- How two operands are compared. -/
inductive Relation where
  | eq
  | ne
  | lt
  | le
  | gt
  | ge
deriving DecidableEq, Repr, Inhabited

/-- The functions of the language. -/
inductive Function where
  | length
  | count
  | value
  | matchWhole
  | search
  | isIn
  | isNotIn
  | anyOf
  | noneOf
  | subsetOf
deriving DecidableEq, Repr, Inhabited

namespace Function

/-- The functions in a list. -/
def all : List Function :=
  [.length, .count, .value, .matchWhole, .search, .isIn, .isNotIn, .anyOf, .noneOf, .subsetOf]

/-- The name of a function. -/
def name : Function → String
  | .length => "length"
  | .count => "count"
  | .value => "value"
  | .matchWhole => "match"
  | .search => "search"
  | .isIn => "in"
  | .isNotIn => "nin"
  | .anyOf => "any_of"
  | .noneOf => "none_of"
  | .subsetOf => "subset_of"

/-- The function with a name. -/
def ofName? (s : String) : Option Function := all.find? fun f => f.name == s

/-- The number of arguments. -/
def arity : Function → Nat
  | .length | .count | .value => 1
  | _ => 2

/-- Whether results of the function can be compared; the others hold or do not. -/
def isComparable : Function → Bool
  | .length | .count | .value => true
  | _ => false

end Function

mutual

/-- A way to look for nodes at one node. -/
inductive Selector where
  | name (name : String)
  | wildcard
  | index (i : Int)
  | slice (start stop step : Option Int)
  | filter (condition : Condition)

/-- A way to look for nodes at several nodes. -/
inductive Segment where
  | child (selectors : List Selector)
  | descendant (selectors : List Selector)

/-- A condition on a node. -/
inductive Condition where
  | either (a b : Condition)
  | both (a b : Condition)
  | negated (a : Condition)
  | compare (relation : Relation) (left right : Operand)
  | holds (test : Test)

/-- A query or a call that holds or does not. -/
inductive Test where
  | query (origin : Origin) (segments : List Segment)
  | call (function : Function) (arguments : List Argument)

/-- What can be compared. -/
inductive Operand where
  | literal (value : Json)
  | single (origin : Origin) (steps : List Step)
  | call (function : Function) (arguments : List Argument)

/-- An argument of a call. -/
inductive Argument where
  | literal (value : Json)
  | test (test : Test)
  | condition (condition : Condition)

end

/-- A query from the root of a document. -/
structure Query where
  segments : List Segment

end JsonPath

end StatementProfiles
