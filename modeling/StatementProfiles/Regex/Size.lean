import StatementProfiles.Regex.Basic
import StatementProfiles.Text.OctetPath

/-!
# The size of a regular expression

An expression stands for two automata over the UTF-8 octets of a text: one reads forwards and marks where groups start
and end, one reads backwards and has no groups. A repetition counts as often as it may be needed, so that a short
expression can be large. `Regex.isAffordable` says that both automata are within a bound.

A place of an automaton takes 32 octets, a way that needs no octet of the text takes 4, and one range of octets at a
place that branches takes 8.
-/

namespace StatementProfiles

/-! ## Sets of characters -/

namespace OctetPath

/-- The ranges of a path behind those that it shares with an earlier path. -/
def beyond : OctetPath → OctetPath → OctetPath
  | r :: earlier, s :: path => if r = s then beyond earlier path else s :: path
  | _, path => path

/-- How many ranges paths in order have that are not shared with the path in front of them. -/
def unshared (earlier : OctetPath) : List OctetPath → Nat
  | [] => 0
  | path :: rest => (beyond earlier path).length + unshared path rest

/-- The tails of paths in order, together where the first range is the same. -/
def branches : List OctetPath → List (OctetRange × List OctetPath)
  | [] => []
  | [] :: rest => branches rest
  | (r :: tail) :: rest =>
    match branches rest with
    | (s, tails) :: others => if r = s then (r, tail :: tails) :: others else (r, [tail]) :: (s, tails) :: others
    | [] => [(r, [tail])]

/-- The places from which paths of at most `n` ranges go on, each given by what is left of the paths there. -/
def places : Nat → List OctetPath → List (List OctetPath)
  | 0, _ => []
  | n + 1, paths =>
    if paths.all (·.isEmpty) then [] else paths :: (branches paths).flatMap fun (_, tails) => places n tails

end OctetPath

namespace CharSet

/-- The size of an automaton for spans of ASCII characters: one place that branches, and its end. -/
def asciiSize (spans : List Span) : Nat := 64 + 8 * spans.length

/-- The size of an automaton for a single character: a place for each octet. -/
def singleSize (paths : List OctetPath) : Nat := 32 * (paths.flatMap id).length

/-- The size of an automaton for spans of characters, in the simple cases or from the paths of their octets. -/
def sizeOfSpans (ofPaths : List OctetPath → Nat) (spans : List Span) : Nat :=
  let paths := spans.flatMap OctetPath.ofSpan
  match spans with
  | [] => 32
  | [s] =>
    if s.first = s.last then singleSize paths else if s.last < 128 then asciiSize spans else ofPaths paths
  | _ => if spans.all fun s => s.last < 128 then asciiSize spans else ofPaths paths

/-- The size of the automaton that reads backwards: paths share where they start, and each has a way to its end. -/
def backwardSize (s : CharSet) : Nat :=
  sizeOfSpans (fun paths => 64 + 4 * paths.length + 32 * OctetPath.unshared [] paths) s.spans

/-- The size of the automaton that reads forwards: places from which the same is left are one. -/
def forwardSize (s : CharSet) : Nat :=
  sizeOfSpans (fun paths => (OctetPath.places 4 paths).eraseDups.foldl
    (fun n place => n + 32 + 8 * (OctetPath.branches place).length) 32) s.spans

end CharSet

/-! ## Expressions -/

namespace Regex

/-- Whether an expression matches without a character. -/
def isOptional : Regex → Bool
  | .empty => true
  | .char _ => false
  | .anchor _ => true
  | .group r => r.isOptional
  | .both a b => a.isOptional && b.isOptional
  | .either a b => a.isOptional || b.isOptional
  | .times r least _ => least == 0 || r.isOptional

/-- Whether an expression matches no character. -/
def isBare : Regex → Bool
  | .empty => true
  | .char _ => false
  | .anchor _ => true
  | .group r => r.isBare
  | .both a b => a.isBare && b.isBare
  | .either a b => a.isBare && b.isBare
  | .times r _ most => r.isBare || most == some 0

/-- The set of an expression for one character. -/
def set? : Regex → Option CharSet
  | .char s => some s
  | .either a b => a.set?.bind fun s => b.set?.map fun t => .union s t
  | _ => none

/-- Whether an expression has alternatives. -/
def isEither : Regex → Bool
  | .either _ _ => true
  | _ => false

/-- The size of a repetition of what has a size of its own. What matches no character is needed once at most. -/
def timesSize (r : Regex) (size least : Nat) (most : Option Nat) : Nat :=
  let least := if r.isBare then min least 1 else least
  let most := if r.isBare then some (min (most.getD 1) 1) else most
  match most with
  | none =>
    if least = 0 then (if r.isOptional then size + 112 else size + 40) else least * size + 40
  | some most =>
    if most = 0 then 32
    else if least = most then least * size
    else if least = 0 ∧ most = 1 then size + 72
    else (if least = 0 then 32 else least * size) + 32 + (most - least) * (size + 40)

/-- The size of an automaton of an expression, by the size of a set of characters and of the marks of a group. -/
def size (ofSet : CharSet → Nat) (ofGroup : Nat) : Regex → Nat
  | .empty => 32
  | .char s => ofSet s
  | .anchor _ => 32
  | .group r => r.size ofSet ofGroup + ofGroup
  | .both a b => a.size ofSet ofGroup + b.size ofSet ofGroup
  | .either a b =>
    match (Regex.either a b).set? with
    | some s => ofSet s
    | none =>
      let within (r : Regex) (n : Nat) : Nat := if r.isEither && r.set?.isNone then n - 64 else n + 4
      within a (a.size ofSet ofGroup) + within b (b.size ofSet ofGroup) + 64
  | .times r least most => timesSize r (r.size ofSet ofGroup) least most

/-- The greatest size of an automaton: ten times 1024 times 1024 octets. -/
def greatestSize : Nat := 10485760

/-- Whether both automata of an expression are small enough. No set takes 128 times 1024 octets, so that most
expressions are small enough whatever their sets are. -/
def isAffordable (r : Regex) : Bool :=
  r.size (fun _ => 131072) 64 ≤ greatestSize
    || (r.size CharSet.backwardSize 0 ≤ greatestSize && r.size CharSet.forwardSize 64 ≤ greatestSize)

end Regex

end StatementProfiles
