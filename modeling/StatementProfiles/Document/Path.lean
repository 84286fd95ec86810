import StatementProfiles.Json.Basic
import StatementProfiles.Text.Blank

/-!
# Paths into documents

A path is a list of segments. A segment names a member of an object, or, written in digits, an item of an array.
`Json.get?` looks a path up, `Json.set` and `Json.push` write at it and make objects on the way where none stand,
`Json.remove` takes out a member.
-/

namespace StatementProfiles

/-- Segments from the root of a document. -/
abbrev Path := List String

namespace Path

/-- The greatest array index that a segment may write. -/
def greatestIndex : Nat := 0xffffffffffffffff

/-- The number of decimal digits, at least one, as an index. -/
def indexOfDigits? (cs : List Char) : Option Nat :=
  if cs.isEmpty || !cs.all Text.isDigit then none
  else
    let n := Text.digitsValue cs
    if n ≤ greatestIndex then some n else none

/-- The array index that a segment writes: decimal digits, with a plus sign in front or not. -/
def index? (segment : String) : Option Nat :=
  match segment.toList with
  | '+' :: rest => indexOfDigits? rest
  | cs => indexOfDigits? cs

end Path

namespace Json

/-- The value at a path. -/
def get? : Json → Path → Option Json
  | j, [] => some j
  | .object members, s :: rest =>
    match Members.find? members s with
    | some j => get? j rest
    | none => none
  | .array items, s :: rest =>
    match Path.index? s with
    | some i => match items[i]? with
      | some j => get? j rest
      | none => none
    | none => none
  | _, _ :: _ => none

/-- Whether there is a value at a path. -/
def contains (j : Json) (path : Path) : Bool := (j.get? path).isSome

/-- The index of the item that a segment addresses in an array. -/
def itemIndex? (items : List Json) (segment : String) : Option Nat :=
  (Path.index? segment).filter fun i => i < items.length

/-- The document with the value at a path changed by `f`. A missing value counts as null; a value on the way that has
no such part gives way to an object. -/
def update (f : Json → Json) : Path → Json → Json
  | [], j => f j
  | s :: rest, .object members =>
    .object (Members.insert members s (update f rest ((Members.find? members s).getD .null)))
  | s :: rest, .array items =>
    match itemIndex? items s with
    | some i => .array (items.modify i (update f rest))
    | none => .object [(s, update f rest .null)]
  | s :: rest, _ => .object [(s, update f rest .null)]

/-- The document with `value` at the path. -/
def set (j : Json) (path : Path) (value : Json) : Json := update (fun _ => value) path j

/-- A value behind those of a list; a single value becomes the first of a list, null the empty list. -/
def append (value : Json) : Json → Json
  | .array items => .array (items ++ [value])
  | .null => .array [value]
  | other => .array [other, value]

/-- The document with `value` behind those at the path. -/
def push (j : Json) (path : Path) (value : Json) : Json := update (append value) path j

/-- The document without the member at a path; items of arrays stay. -/
def eraseAt : Path → Json → Json
  | [], j => j
  | [s], .object members => .object (Members.erase members s)
  | s :: rest, .object members =>
    match Members.find? members s with
    | some j => .object (Members.replace members s (eraseAt rest j))
    | none => .object members
  | s :: next :: rest, .array items =>
    match itemIndex? items s with
    | some i => .array (items.modify i (eraseAt (next :: rest)))
    | none => .array items
  | _ :: _, j => j

/-- The document without the value at a path. Nothing remains of it when the path is empty; a path without a value
takes out nothing. -/
def remove (j : Json) (path : Path) : Json :=
  if path.isEmpty then .empty
  else if j.contains path then eraseAt path j
  else j

/-! ## Merging -/

mutual

/-- Two values as one: objects member by member, and anything else as in the overlay. -/
def merge : (base overlay : Json) → Json
  | .object base, .object overlay => .object (mergeMembers base overlay)
  | _, overlay => overlay
termination_by structural _ overlay => overlay

/-- Members with those of an overlay merged in. -/
def mergeMembers : (base : List (String × Json)) → (overlay : List (String × Json)) → List (String × Json)
  | base, [] => base
  | base, (k, v) :: rest =>
    mergeMembers (Members.insert base k (merge ((Members.find? base k).getD .null) v)) rest
termination_by structural _ overlay => overlay

end

end Json

end StatementProfiles
