/-!
# Patterns over statement templates

A `Pattern` says which sequences of template ids an occurrence may record. Its text (`Pattern.render`) and the ids it
mentions (`Pattern.templateIds`) are read off the tree.
-/

namespace StatementProfiles

/-- A grammar over template ids. -/
inductive Pattern where
  /-- Exactly one statement of the template with this id. -/
  | leaf (id : String)
  /-- The children one after another. -/
  | sequence (children : List Pattern)
  /-- One of the children. -/
  | alternates (children : List Pattern)
  /-- The child at least once. -/
  | oneOrMore (child : Pattern)
  /-- The child any number of times. -/
  | zeroOrMore (child : Pattern)
  /-- The child at most once. -/
  | optional (child : Pattern)
deriving Repr, Inhabited

namespace Pattern

/-- Induction on a pattern, with the hypothesis for every child. -/
@[elab_as_elim, induction_eliminator]
theorem inductOn {motive : Pattern → Prop} (leaf : ∀ id, motive (.leaf id))
    (sequence : ∀ cs, (∀ c ∈ cs, motive c) → motive (.sequence cs))
    (alternates : ∀ cs, (∀ c ∈ cs, motive c) → motive (.alternates cs))
    (oneOrMore : ∀ c, motive c → motive (.oneOrMore c)) (zeroOrMore : ∀ c, motive c → motive (.zeroOrMore c))
    (optional : ∀ c, motive c → motive (.optional c)) (p : Pattern) : motive p :=
  @Pattern.rec motive (fun cs => ∀ c ∈ cs, motive c) leaf sequence alternates oneOrMore zeroOrMore optional
    (fun _ h => absurd h List.not_mem_nil)
    (fun _ _ hp hps _ hc => (List.mem_cons.mp hc).elim (fun e => e ▸ hp) (hps _)) p

mutual

/-- The ids of the leaves from left to right. -/
def leaves : Pattern → List String
  | .leaf id => [id]
  | .sequence children => leavesOfAll children
  | .alternates children => leavesOfAll children
  | .oneOrMore child => leaves child
  | .zeroOrMore child => leaves child
  | .optional child => leaves child
termination_by structural p => p

/-- The ids of the leaves of several patterns. -/
def leavesOfAll : List Pattern → List String
  | [] => []
  | p :: ps => leaves p ++ leavesOfAll ps
termination_by structural ps => ps

end

/-- The list without repetitions, every element at its first place. -/
def firstSeen : List String → List String
  | [] => []
  | x :: xs => x :: (firstSeen xs).filter (· ≠ x)

/-- The template ids that occur, in the order of their first occurrence. -/
def templateIds (p : Pattern) : List String := firstSeen p.leaves

mutual

/-- The text of a pattern: a leaf is its id, an operator its name with the children in parentheses. -/
def render : Pattern → String
  | .leaf id => id
  | .sequence children => "sequence(" ++ ", ".intercalate (renderAll children) ++ ")"
  | .alternates children => "alternates(" ++ ", ".intercalate (renderAll children) ++ ")"
  | .oneOrMore child => "oneOrMore(" ++ render child ++ ")"
  | .zeroOrMore child => "zeroOrMore(" ++ render child ++ ")"
  | .optional child => "optional(" ++ render child ++ ")"
termination_by structural p => p

/-- The texts of several patterns. -/
def renderAll : List Pattern → List String
  | [] => []
  | p :: ps => render p :: renderAll ps
termination_by structural ps => ps

end

end Pattern

end StatementProfiles
