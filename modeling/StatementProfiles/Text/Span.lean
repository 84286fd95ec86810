import StatementProfiles.Text.CharSet

/-!
# Sets of characters as spans

`CharSet.spans` lists the characters of a set as spans of code points, in order and with gaps between them. Code points
that are no characters may lie in the spans of a complement.
-/

namespace StatementProfiles

/-- The code points from `first` to `last`. -/
structure Span where
  first : Nat
  last : Nat
deriving DecidableEq, Repr, Inhabited

namespace Span

/-- The span of one code point. -/
def single (n : Nat) : Span := ⟨n, n⟩

/-- Whether a code point lies in one of the spans. -/
def holdAny (spans : List Span) (n : Nat) : Bool := spans.any fun s => s.first ≤ n && n ≤ s.last

/-- Spans in order, behind a span that starts no later: those that touch are one. -/
def joinFrom (s : Span) : List Span → List Span
  | [] => [s]
  | t :: rest => if t.first ≤ s.last + 1 then joinFrom ⟨s.first, max s.last t.last⟩ rest else s :: joinFrom t rest

/-- The same code points as spans in order, with gaps between them. -/
def ordered (spans : List Span) : List Span :=
  match spans.mergeSort fun s t => s.first ≤ t.first with
  | [] => []
  | s :: rest => joinFrom s rest

/-- The code points from `n` on that lie in none of the spans, which are in order. -/
def gapsFrom (n : Nat) : List Span → List Span
  | [] => if n ≤ 0x10FFFF then [⟨n, 0x10FFFF⟩] else []
  | s :: rest => if n < s.first then ⟨n, s.first - 1⟩ :: gapsFrom (s.last + 1) rest else gapsFrom (s.last + 1) rest

/-- The code points between spans in order. -/
def gaps (spans : List Span) : List Span := gapsFrom 0 spans

/-- The code points in spans of both lists. -/
def common (a b : List Span) : List Span := gaps (ordered (gaps a ++ gaps b))

/-- The spans with the variants of their characters in letter case. -/
def anyCase (spans : List Span) : List Span :=
  let folded := CaseShift.pairs.filterMap fun (n, m) => if holdAny spans n then some (single m) else none
  let targets := ordered (spans ++ folded)
  ordered (targets ++ CaseShift.pairs.filterMap fun (n, m) => if holdAny targets m then some (single n) else none)

end Span

/-- The code points of a stretch. -/
def Stretch.spans (s : Stretch) : List Span :=
  if s.step = 1 then [⟨s.first, s.last⟩] else s.elements.map Span.single

/-- The characters of a set as spans in order. -/
def CharSet.spans : CharSet → List Span
  | .range first last => if first ≤ last then [⟨first.toNat, last.toNat⟩] else []
  | .stretches parts => Span.ordered (parts.flatMap Stretch.spans)
  | .none => []
  | .union a b => Span.ordered (a.spans ++ b.spans)
  | .inter a b => Span.common a.spans b.spans
  | .complement a => Span.gaps a.spans
  | .anyCase a => Span.anyCase a.spans

end StatementProfiles
