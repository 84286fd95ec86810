import StatementProfiles.Pattern.Basic
import StatementProfiles.Registry.Catalog

/-!
# Grammars of declared patterns

`Catalog.grammar` unfolds the pattern with an IRI: its operator over the unfoldings of the patterns and the leaves of
the templates that it names. A name stands for a pattern first, and otherwise for a template, which must be of the same
profile. A pattern that leads back to itself has no grammar; the fault tells the way (`StructuralFault.cycle`). Finished
grammars are handed on, and no pattern is unfolded twice.
-/

namespace StatementProfiles

/-- Finished grammars by the IRI of their patterns. -/
abbrev Grammars := Members Pattern

/-- A result that is worked out along with the grammars that are finished by then. -/
abbrev Unfolding := StateT Grammars (Except Error)

/-- The operator over what its references give, in their order. -/
def PatternOperator.build {m : Type → Type} [Monad m] (grammarOf : Reference → m Pattern) :
    PatternOperator → m Pattern
  | .sequence rs => return .sequence (← rs.mapM grammarOf)
  | .alternates rs => return .alternates (← rs.mapM grammarOf)
  | .optional r => return .optional (← grammarOf r)
  | .oneOrMore r => return .oneOrMore (← grammarOf r)
  | .zeroOrMore r => return .zeroOrMore (← grammarOf r)

namespace Catalog

/-- The leaf of a template that a pattern names. -/
def leaf (c : Catalog) (entry : PatternEntry) (id : String) : Except Error Pattern :=
  match c.template? id with
  | some t =>
    if t.profileId = some entry.profileId then .ok (.leaf id)
    else .error (.structural (.foreignTemplate entry.definition.id id))
  | none => .error (.structural (.unknownReference entry.definition.id id))

/-- The grammar of a reference, given how patterns are unfolded. -/
def child (c : Catalog) (unfold : String → Unfolding Pattern) (entry : PatternEntry) (r : Reference) :
    Unfolding Pattern :=
  if (c.pattern? r.id).isSome then unfold r.id else liftM (c.leaf entry r.id)

/-- The number of patterns that are not on a path. -/
def unvisited (c : Catalog) (path : List String) : Nat := c.patterns.entries.countP fun row => row.1 ∉ path

/-- A path that goes on to a pattern leaves fewer unvisited. -/
theorem unvisited_lt (c : Catalog) {path : List String} {id : String} {entry : PatternEntry}
    (hid : c.pattern? id = some entry) (hp : id ∉ path) : c.unvisited (path ++ [id]) < c.unvisited path := by
  obtain ⟨before, after, he⟩ := List.append_of_mem (Members.mem_of_find? hid)
  have hle : ∀ rows : Members PatternEntry,
      rows.countP (fun row => row.1 ∉ path ++ [id]) ≤ rows.countP fun row => row.1 ∉ path := fun rows =>
    List.countP_mono_left fun row _ h =>
      decide_eq_true fun hr => of_decide_eq_true h (List.mem_append_left _ hr)
  have hbefore := hle before
  have hafter := hle after
  have hgone : decide (id ∉ path ++ [id]) = false := by simp
  have hthere : decide (id ∉ path) = true := by simp [hp]
  simp only [unvisited, he, List.countP_append, List.countP_cons, hgone, hthere]
  simp only [if_true, Bool.false_eq_true, if_false]
  omega

/-- The unfolding of a pattern that is reached by a path of patterns. -/
def unfold (c : Catalog) (path : List String) (id : String) : Unfolding Pattern := fun done =>
  match done.find? id with
  | some p => .ok (p, done)
  | none =>
    if path.contains id then .error (.structural (.cycle (path ++ [id])))
    else match _hid : c.pattern? id with
      | none => .error (.structural (.unknownPattern id))
      | some entry => match entry.definition.operator with
        | .error e => .error e
        | .ok operator =>
          (operator.build (c.child (fun next => c.unfold (path ++ [id]) next) entry) done).map
            fun (p, done) => (p, done.insert id p)
termination_by c.unvisited path
decreasing_by exact c.unvisited_lt ‹_› fun h => ‹¬_› (List.contains_iff_mem.mpr h)

/-- The grammar of the pattern with an IRI, given the finished ones. -/
def grammar (c : Catalog) (done : Grammars) (id : String) : Except Error (Pattern × Grammars) := c.unfold [] id done

end Catalog

end StatementProfiles
