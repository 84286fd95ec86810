import StatementProfiles.JsonPath.Basic
import StatementProfiles.Regex.Reader

/-!
# What a query selects

`Query.select` gives the nodes of a document that a query finds, in order. Children are visited in the order of the
array or of the member names. Several selectors of one segment concatenate: first all that the first selector finds,
then all that the second finds. A descendant segment looks at the node itself and at every array and object below it,
a node before what is below it.
-/

namespace StatementProfiles

namespace JsonPath

/-- A node of a document. The node under test in a condition is told apart from the nodes that queries find from it. -/
structure Node where
  value : Json
  underTest : Bool
deriving Inhabited

/-- A node that is not under test. -/
def Node.of (j : Json) : Node := ⟨j, false⟩

/-- What a query or a call gives. A query that found nothing and a call without a result give nothing. -/
inductive Found where
  | nothing
  /-- The result of a call, or of a condition on the node under test. -/
  | computed (value : Json)
  /-- One node. -/
  | node (n : Node)
  /-- The nodes of a selector that may find several. -/
  | nodes (ns : List Node)

namespace Found

/-- One node that is not under test. -/
def one (j : Json) : Found := .node (.of j)

/-- Several nodes that are not under test. -/
def several (js : List Json) : Found := .nodes (js.map .of)

/-- The nodes and results in a list. -/
def toList : Found → List Json
  | .nothing => []
  | .computed j => [j]
  | .node n => [n.value]
  | .nodes ns => ns.map (·.value)

/-- The nodes in a list. -/
def nodesOnly : Found → List Node
  | .node n => [n]
  | .nodes ns => ns
  | _ => []

/-- Two findings as one. A result cannot be joined with anything. -/
def append : Found → Found → Found
  | .nothing, g => g
  | .computed _, _ => .nothing
  | _, .computed _ => .nothing
  | f, .nothing => f
  | f, g => .nodes (f.nodesOnly ++ g.nodesOnly)

/-- The findings of a function at each node. -/
def flatMap (f : Node → Found) : Found → Found
  | .node n => f n
  | .nodes ns => .nodes (ns.flatMap fun n => (f n).nodesOnly)
  | _ => .nothing

/-- The value, when there is exactly one. -/
def value? : Found → Option Json
  | .computed j => some j
  | .node n => some n.value
  | _ => none

/-- Whether a node was found. -/
def isPresent : Found → Bool
  | .node _ => true
  | .nodes ns => !ns.isEmpty
  | _ => false

/-- Whether the result is true. -/
def isTrue : Found → Bool
  | .computed (.bool b) => b
  | _ => false

end Found

/-! ## Selectors without conditions -/

/-- The member of an object. -/
def atName (name : String) (j : Json) : Found :=
  match j.member? name with
  | some v => .one v
  | none => .nothing

/-- The item of an array; a negative index counts from the end. -/
def atIndex (i : Int) (j : Json) : Found :=
  match j.asArray? with
  | none => .nothing
  | some items =>
    let at? := if 0 ≤ i then some i.toNat else if -i ≤ items.length then some (items.length - (-i).toNat) else none
    match at?.bind fun k => items[k]? with
    | some v => .one v
    | none => .nothing

/-- The children of a node. -/
def atAll (j : Json) : Found := if j.children.isEmpty then .nothing else .several j.children

/-- A bound of a slice, counted from the start of an array of `length` items. -/
def fromStart (length i : Int) : Int := if 0 ≤ i then i else length + i

/-- A number between two bounds. -/
def between (low high i : Int) : Int := min (max i low) high

/-- The items from one index on, upwards, below a bound. -/
def upwards (items : List Json) (upper step : Nat) : Nat → Nat → List Json
  | 0, _ => []
  | fuel + 1, i =>
    if i < upper then items[i]?.toList ++ upwards items upper step fuel (i + step) else []

/-- The items from one index on, downwards, above a bound. -/
def downwards (items : List Json) (lower step : Int) : Nat → Int → List Json
  | 0, _ => []
  | fuel + 1, i =>
    if lower < i then items[i.toNat]?.toList ++ downwards items lower step fuel (i - step) else []

/-- The items of a slice. A step of zero finds none; a negative step goes downwards. -/
def sliceItems (items : List Json) (start stop step : Option Int) : List Json :=
  let length : Int := items.length
  let by' := step.getD 1
  if by' > 0 then
    let lower := between 0 length (fromStart length (start.getD 0))
    let upper := between 0 length (fromStart length (stop.getD length))
    upwards items upper.toNat by'.toNat items.length lower.toNat
  else if by' < 0 then
    let upper := between (-1) (length - 1) (fromStart length (start.getD (length - 1)))
    let lower := between (-1) (length - 1) (fromStart length (stop.getD (-length - 1)))
    downwards items lower (-by') items.length upper
  else []

/-- The items of a slice of an array. -/
def atSlice (start stop step : Option Int) (j : Json) : Found :=
  match j.asArray? with
  | some items => .several (sliceItems items start stop step)
  | none => .nothing

mutual

/-- The arrays and objects at and below a node, a node before what is below it. -/
def containers : Json → List Json
  | .array items => .array items :: containersOfItems items
  | .object members => .object members :: containersOfMembers members
  | _ => []
termination_by structural j => j

/-- The arrays and objects at and below several items. -/
def containersOfItems : List Json → List Json
  | [] => []
  | j :: js => containers j ++ containersOfItems js
termination_by structural js => js

/-- The arrays and objects at and below several members. -/
def containersOfMembers : List (String × Json) → List Json
  | [] => []
  | (_, j) :: js => containers j ++ containersOfMembers js
termination_by structural ms => ms

end

/-- A node and the arrays and objects below it, when it is an array or object itself. -/
def selfAndBelow (n : Node) : Found :=
  if n.value.isContainer then .nodes (n :: ((containers n.value).drop 1).map .of) else .nothing

/-! ## Comparisons and functions -/

/-- Equality in conditions: numbers are equal when they differ by less than the gap above one. -/
def looselyEqual : Json → Json → Bool
  | .number a, .number b => a.toReal.close b.toReal
  | a, b => a.same b

/-- The order in conditions: of two numbers or two texts. -/
def isLess : Json → Json → Bool
  | .number a, .number b => a.toReal.lt b.toReal
  | .string a, .string b => decide (a < b)
  | _, _ => false

/-- Equality of operands: two missing ones are equal. -/
def operandsEqual : Option Json → Option Json → Bool
  | some a, some b => looselyEqual a b
  | none, none => true
  | _, _ => false

/-- The order of operands: both have to be there. -/
def operandsLess : Option Json → Option Json → Bool
  | some a, some b => isLess a b
  | _, _ => false

/-- Whether two operands are in a relation. -/
def Relation.holds (a b : Option Json) : Relation → Bool
  | .eq => operandsEqual a b
  | .ne => !operandsEqual a b
  | .lt => operandsLess a b
  | .gt => operandsLess b a
  | .le => operandsLess a b || operandsEqual a b
  | .ge => operandsLess b a || operandsEqual a b

/-- The length of a text in characters, of an array in items, of an object in members. -/
def lengthOf : Json → Found
  | .string s => .computed (.int s.length)
  | .array items => .computed (.int items.length)
  | .object members => .computed (.int members.length)
  | _ => .nothing

/-- The text of an expression with its dots written out: a dot stands for any character that ends no line. Behind a
backslash and between brackets it stands for itself; `inSet` says that a bracket is open. -/
def withoutDots (inSet : Bool) : List Char → List Char
  | [] => []
  | '\\' :: c :: rest => '\\' :: c :: withoutDots inSet rest
  | '[' :: rest => '[' :: withoutDots true rest
  | ']' :: rest => ']' :: withoutDots false rest
  | '.' :: rest => (if inSet then ['.'] else "[^\\n\\r]".toList) ++ withoutDots inSet rest
  | c :: rest => c :: withoutDots inSet rest

/-- The text of an expression in a condition; one for a whole text is held between its start and end. -/
def expressionText (whole : Bool) (source : String) : String :=
  let body := withoutDots false source.toList
  String.ofList (if whole then "^(?:".toList ++ body ++ ")$".toList else body)

/-- Whether a text matches an expression; one that cannot be read matches nothing. -/
def matchesExpression (whole : Bool) (text source : Option Json) : Bool :=
  match text, source with
  | some (.string s), some (.string e) =>
    match Regex.parse? (expressionText whole e) with
    | some r => r.occursIn s
    | none => false
  | _, _ => false

/-- The result of a function on two sets of values, or null when they are no arrays. -/
def onArrays (f : List Json → List Json → Bool) (a b : Json) : Json :=
  match a, b with
  | .array as, .array bs => .bool (f as bs)
  | _, _ => .null

/-- The result of a function of membership on two values. -/
def membership (f : Function) (a b : Json) : Json :=
  match f with
  | .isIn => match b with
    | .array bs => .bool (a.isAmong bs)
    | _ => .null
  | .isNotIn => match b with
    | .array bs => .bool (!a.isAmong bs)
    | _ => .null
  | .anyOf => onArrays (fun as bs => as.any (·.isAmong bs)) a b
  | .noneOf => onArrays (fun as bs => as.all fun x => !x.isAmong bs) a b
  | .subsetOf => onArrays (fun as bs => as.all (·.isAmong bs)) a b
  | _ => .null

/-- The result of a call with the findings of its arguments. -/
def apply (f : Function) (arguments : List Found) : Found :=
  match f, arguments with
  | .length, [.nodes ns] => .computed (.int ns.length)
  | .length, [x] => match x.value? with
    | some j => lengthOf j
    | none => .nothing
  | .count, [.nothing] => .nothing
  | .count, [x] => .computed (.int x.toList.length)
  | .value, [.nodes [n]] => .node n
  | .value, [.nodes _] => .nothing
  | .value, [x] => x
  | .matchWhole, [a, b] => .computed (.bool (matchesExpression true a.value? b.value?))
  | .search, [a, b] => .computed (.bool (matchesExpression false a.value? b.value?))
  | f, arguments =>
    match arguments.flatMap Found.toList with
    | [a, b] => .computed (membership f a b)
    | _ => .computed .null

/-! ## Queries -/

/-- One step from a node. -/
def Step.apply (j : Json) : Step → Found
  | .name key => atName key j
  | .index i => atIndex i j

/-- The node where a query starts. -/
def start (top current : Json) : Origin → Node
  | .top => .of top
  | .current => ⟨current, true⟩

mutual

/-- What a selector finds at a node. A filter looks at the children of a node, but of the node under test it says
whether the condition holds there. -/
def Selector.select (top : Json) : Selector → Node → Found
  | .name key, n => atName key n.value
  | .wildcard, n => atAll n.value
  | .index i, n => atIndex i n.value
  | .slice start stop step, n => atSlice start stop step n.value
  | .filter c, n =>
    if n.underTest then .computed (.bool (Condition.satisfied top c n.value))
    else if n.value.isContainer then .several (n.value.children.filter fun child => Condition.satisfied top c child)
    else .nothing
termination_by structural s => s

/-- What was found before with what further selectors find at the nodes, selector by selector. -/
def selectAll (top : Json) : List Selector → Found → Found → Found
  | [], _, done => done
  | s :: rest, found, done => selectAll top rest found (done.append (found.flatMap (Selector.select top s)))
termination_by structural ss => ss

/-- What a segment finds from the nodes found before it. -/
def Segment.apply (top : Json) : Segment → Found → Found
  | .child selectors, found => selectAll top selectors found .nothing
  | .descendant selectors, found => selectAll top selectors (found.flatMap selfAndBelow) .nothing
termination_by structural s => s

/-- What the segments find one after another. -/
def walk (top : Json) : List Segment → Found → Found
  | [], found => found
  | s :: rest, found => walk top rest (Segment.apply top s found)
termination_by structural ss => ss

/-- Whether a condition is satisfied at a node. -/
def Condition.satisfied (top : Json) : Condition → Json → Bool
  | .either a b, j => Condition.satisfied top a j || Condition.satisfied top b j
  | .both a b, j => Condition.satisfied top a j && Condition.satisfied top b j
  | .negated a, j => !Condition.satisfied top a j
  | .compare relation left right, j => relation.holds (Operand.value? top left j) (Operand.value? top right j)
  | .holds t, j => Test.satisfied top t j
termination_by structural c => c

/-- Whether a test is satisfied at a node: a query finds a node, a call is true. -/
def Test.satisfied (top : Json) : Test → Json → Bool
  | .query origin segments, j => (walk top segments (.node (start top j origin))).isPresent
  | .call f arguments, j =>
    let result := JsonPath.apply f (argumentsFound top arguments j)
    if f.isComparable then result.isPresent else result.isTrue
termination_by structural t => t

/-- What a test gives as an argument. -/
def Test.found (top : Json) : Test → Json → Found
  | .query origin segments, j => walk top segments (.node (start top j origin))
  | .call f arguments, j => JsonPath.apply f (argumentsFound top arguments j)
termination_by structural t => t

/-- The value of an operand at a node. -/
def Operand.value? (top : Json) : Operand → Json → Option Json
  | .literal v, _ => some v
  | .single origin steps, j =>
    (steps.foldl (fun found s => found.flatMap fun n => s.apply n.value) (Found.node (start top j origin))).value?
  | .call f arguments, j => (JsonPath.apply f (argumentsFound top arguments j)).value?
termination_by structural o => o

/-- What an argument gives. -/
def Argument.found (top : Json) : Argument → Json → Found
  | .literal v, _ => .computed v
  | .test t, j => Test.found top t j
  | .condition c, j => .computed (.bool (Condition.satisfied top c j))
termination_by structural a => a

/-- What the arguments give. -/
def argumentsFound (top : Json) : List Argument → Json → List Found
  | [], _ => []
  | a :: rest, j => Argument.found top a j :: argumentsFound top rest j
termination_by structural as => as

end

/-- The nodes of a document that a query finds. -/
def Query.select (q : Query) (document : Json) : List Json := (walk document q.segments (.one document)).toList

end JsonPath

end StatementProfiles
