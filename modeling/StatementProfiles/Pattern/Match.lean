import StatementProfiles.Pattern.Basic

/-!
# Matching a sequence of templates

`Pattern.run p s` reads a prefix of `s` from left to right, greedily and without going back. It succeeds and leaves the
rest; or it is under way: `s` ran out while more was expected; or it fails. `Pattern.canAppend` is the question that an
occurrence asks before it records a template.
-/

namespace StatementProfiles

/-- How a match ends. -/
inductive Outcome where
  /-- The pattern is satisfied by a prefix of the sequence. -/
  | success
  /-- The sequence ended while the pattern expected more. -/
  | underway
  /-- The sequence cannot be produced. -/
  | failure
deriving DecidableEq, Repr, Inhabited

/-- The name of an outcome. -/
def Outcome.name : Outcome → String
  | .success => "success"
  | .underway => "partial"
  | .failure => "failure"

/-- An outcome with the part of the sequence that was not read. -/
structure Match where
  outcome : Outcome
  remainder : List String
deriving DecidableEq, Repr, Inhabited

namespace Match

/-- A success that leaves `rest`. -/
def succeed (rest : List String) : Match := ⟨.success, rest⟩

/-- A match under way that has read everything. -/
def expectMore : Match := ⟨.underway, []⟩

/-- A failure; nothing of the sequence counts as read. -/
def fail (s : List String) : Match := ⟨.failure, s⟩

/-- Whether the pattern was satisfied by a prefix. -/
def isSuccess (m : Match) : Bool := m.outcome == .success

/-- Whether more was expected. -/
def isUnderway (m : Match) : Bool := m.outcome == .underway

/-- Whether the sequence cannot be produced. -/
def isFailure (m : Match) : Bool := m.outcome == .failure

/-- A success that leaves nothing. -/
def isComplete (m : Match) : Bool := m.isSuccess && m.remainder.isEmpty

end Match

namespace Pattern

/-- Further repetitions on what is left, as long as each reads something. One that starts and is under way keeps the
whole under way, with the remainder that it started on. -/
def repeatOn (run : List String → Match) (rest : List String) : Match :=
  let m := run rest
  match m.outcome with
  | .success =>
    if _h : m.remainder.length < rest.length then repeatOn run m.remainder else .succeed rest
  | .underway => if rest.isEmpty then .succeed rest else ⟨.underway, rest⟩
  | .failure => .succeed rest
termination_by rest.length

/-- Repetitions of a pattern, given what it does with a sequence. A first repetition that reads nothing ends it. -/
def repeatRun (run : List String → Match) (atLeastOnce : Bool) (s : List String) : Match :=
  let first := run s
  match first.outcome with
  | .failure => if atLeastOnce then .fail s else .succeed s
  | .underway => if !atLeastOnce && s.isEmpty then .succeed s else .expectMore
  | .success =>
    if first.remainder.length = s.length then .succeed first.remainder else repeatOn run first.remainder

/-- The better of two successes: the one that leaves less, the first on a tie. -/
def shorter (best : Option (List String)) (rest : List String) : Option (List String) :=
  match best with
  | none => some rest
  | some b => if rest.length < b.length then some rest else some b

mutual

/-- The match of a pattern with a sequence. -/
def run : Pattern → List String → Match
  | .leaf id, s =>
    match s with
    | [] => .expectMore
    | head :: tail => if head = id then .succeed tail else .fail s
  | .sequence children, s => runSequence children s s
  | .alternates children, s => runAlternates children s none false
  | .oneOrMore child, s => repeatRun (run child) true s
  | .zeroOrMore child, s => repeatRun (run child) false s
  | .optional child, s =>
    if s.isEmpty then .succeed s
    else
      let m := run child s
      match m.outcome with
      | .failure => .succeed s
      | _ => m
termination_by structural p => p

/-- The children one after another on what is left of `whole`. -/
def runSequence : List Pattern → (whole rest : List String) → Match
  | [], _, rest => .succeed rest
  | p :: ps, whole, rest =>
    let m := run p rest
    match m.outcome with
    | .success => runSequence ps whole m.remainder
    | .underway => .expectMore
    | .failure => .fail whole
termination_by structural ps => ps

/-- The best success of the children, given the best of those before them and whether one was under way. -/
def runAlternates : List Pattern → List String → (best : Option (List String)) → (underway : Bool) → Match
  | [], s, best, underway =>
    match best with
    | some rest => .succeed rest
    | none => if underway then .expectMore else .fail s
  | p :: ps, s, best, underway =>
    let m := run p s
    match m.outcome with
    | .success => runAlternates ps s (shorter best m.remainder) underway
    | .underway => runAlternates ps s best true
    | .failure => runAlternates ps s best underway
termination_by structural ps => ps

end

/-- Whether `next` may follow what is recorded: the longer sequence is complete or under way. -/
def canAppend (p : Pattern) (recorded : List String) (next : String) : Bool :=
  let m := p.run (recorded ++ [next])
  m.isComplete || m.isUnderway

end Pattern

end StatementProfiles
