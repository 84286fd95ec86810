import StatementProfiles.Text.Word

/-!
# Regular expressions

A `Regex` matches pieces of a text. `Regex.ends` gives, from a list of places in the text, all places where a match that
started there may end; what matters here is only whether there is a match (`Regex.occursIn`).
-/

namespace StatementProfiles

/-- How a place lies to a word: at an edge of it, at none, at its start or end, or behind or in front of no character of
a word. -/
inductive WordEdge where
  | any
  | none
  | start
  | finish
  | notBehind
  | notInFront
deriving DecidableEq, Repr, Inhabited

/-- Whether an edge is there, by whether characters of words stand in front of the place and at it. -/
def WordEdge.holds (before here : Bool) : WordEdge → Bool
  | .any => before != here
  | .none => before == here
  | .start => !before && here
  | .finish => before && !here
  | .notBehind => !before
  | .notInFront => !here

/-- A condition on a place in a text. Where ends of lines are paired, a carriage return with a line feed is one end. -/
inductive Anchor where
  | textStart
  | textEnd
  | lineStart (paired : Bool)
  | lineEnd (paired : Bool)
  | word (edge : WordEdge) (letters : CharSet)
deriving Repr, Inhabited

/-- A regular expression. -/
inductive Regex where
  | empty
  | char (set : CharSet)
  | anchor (a : Anchor)
  /-- A part that is kept apart in a match. -/
  | group (r : Regex)
  | both (first second : Regex)
  | either (a b : Regex)
  | times (r : Regex) (least : Nat) (most : Option Nat)
deriving Repr, Inhabited

namespace Regex

/-- The character in front of a place. -/
def before? (text : Array Char) (i : Nat) : Option Char := if i = 0 then none else text[i - 1]?

/-- Whether a line starts at a place. -/
def startsLine (text : Array Char) (i : Nat) (paired : Bool) : Bool :=
  match before? text i with
  | none => true
  | some c => c == '\n' || (paired && c == '\r' && text[i]? != some '\n')

/-- Whether a line ends at a place. -/
def endsLine (text : Array Char) (i : Nat) (paired : Bool) : Bool :=
  match text[i]? with
  | none => true
  | some c => if paired then c == '\r' || (c == '\n' && before? text i != some '\r') else c == '\n'

/-- Whether a condition holds at a place. -/
def holdsAt (text : Array Char) (i : Nat) : Anchor → Bool
  | .textStart => i == 0
  | .textEnd => i == text.size
  | .lineStart paired => startsLine text i paired
  | .lineEnd paired => endsLine text i paired
  | .word edge letters => edge.holds ((before? text i).any letters.contains) (text[i]?.any letters.contains)

/-- A function on lists of places applied some times. -/
def iterate (step : List Nat → List Nat) : Nat → List Nat → List Nat
  | 0, places => places
  | n + 1, places => iterate step n (step places)

/-- The places of `seen` and those that at most `n` applications reach from `newest`, the last that were seen. -/
def closure (step : List Nat → List Nat) : Nat → List Nat → List Nat → List Nat
  | 0, seen, _ => seen
  | n + 1, seen, newest =>
    let next := ((step newest).filter fun i => !seen.contains i).eraseDups
    if next.isEmpty then seen else closure step n (seen ++ next) next

/-- The places where matches end that start at one of `places`. More repetitions than the text has places reach nothing
new. -/
def ends (text : Array Char) : Regex → List Nat → List Nat
  | .empty, places => places
  | .char set, places => places.filterMap fun i =>
    match text[i]? with
    | some c => if set.contains c then some (i + 1) else none
    | none => none
  | .anchor a, places => places.filter fun i => holdsAt text i a
  | .group r, places => ends text r places
  | .both first second, places => ends text second (ends text first places)
  | .either a b, places => (ends text a places ++ ends text b places).eraseDups
  | .times r least most, places =>
    let start := (iterate (fun ps => (ends text r ps).eraseDups) (min least (text.size + 1)) places).eraseDups
    let further := match most with
      | some m => min (m - least) (text.size + 1)
      | none => text.size + 1
    closure (ends text r) further start start

/-- Whether some part of the text matches. -/
def occursIn (r : Regex) (text : String) : Bool :=
  let cs := text.toList.toArray
  !(ends cs r (List.range (cs.size + 1))).isEmpty

end Regex

end StatementProfiles
