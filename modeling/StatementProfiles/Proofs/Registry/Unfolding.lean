import Mathlib.Logic.Relation
import StatementProfiles.Proofs.Pattern.Language
import StatementProfiles.Proofs.Registry.Table
import StatementProfiles.Proofs.Result
import StatementProfiles.Registry.Grammar

/-!
# Unfolding a pattern from nothing

`Catalog.expand` unfolds a pattern as `Catalog.unfold` does, without a store of finished grammars. Every fact about an
unfolding that succeeds goes by one induction (`Catalog.expand_induction`), with the operator of a definition over the
unfoldings of what it names in each step (`Catalog.expand_eq_ok_iff`). What is on the path matters for cycles only
(`Catalog.expand_of_disjoint`), and a pattern has an unfolding when everything that it leads to is there, of the right
profile, and free of cycles (`Catalog.closed_of_expand`, `Catalog.exists_expand_of_closed`).
-/

namespace StatementProfiles

/-! ## Operators over patterns -/

namespace Pattern

/-- The patterns directly below the root. -/
def parts : Pattern → List Pattern
  | .leaf _ => []
  | .sequence cs | .alternates cs => cs
  | .oneOrMore c | .zeroOrMore c | .optional c => [c]

theorem nodes_eq (p : Pattern) : p.nodes = p :: p.parts.flatMap nodes := by
  cases p <;> simp [nodes, parts]

end Pattern

namespace PatternOperator

/-- The pattern is the operator over patterns that stand in a relation to its references, in their order. -/
inductive Over (R : Reference → Pattern → Prop) : PatternOperator → Pattern → Prop
  | sequence {rs : List Reference} {ps : List Pattern} : List.Forall₂ R rs ps → Over R (.sequence rs) (.sequence ps)
  | alternates {rs : List Reference} {ps : List Pattern} :
      List.Forall₂ R rs ps → Over R (.alternates rs) (.alternates ps)
  | optional {r : Reference} {p : Pattern} : R r p → Over R (.optional r) (.optional p)
  | oneOrMore {r : Reference} {p : Pattern} : R r p → Over R (.oneOrMore r) (.oneOrMore p)
  | zeroOrMore {r : Reference} {p : Pattern} : R r p → Over R (.zeroOrMore r) (.zeroOrMore p)

section Over

variable {R S : Reference → Pattern → Prop} {operator : PatternOperator} {p : Pattern}

theorem Over.forall₂ (h : operator.Over R p) : List.Forall₂ R operator.children p.parts := by
  cases h with
  | sequence h | alternates h => exact h
  | optional h | oneOrMore h | zeroOrMore h => exact .cons h .nil

theorem Over.imp (hi : ∀ r ∈ operator.children, ∀ q, R r q → S r q) (h : operator.Over R p) : operator.Over S p := by
  cases h with
  | sequence h | alternates h =>
    constructor
    exact ((List.forall₂_and_left _ _).mpr ⟨fun _ hr => hr, h⟩).imp fun r q hr => hi r hr.1 q hr.2
  | optional h | oneOrMore h | zeroOrMore h =>
    constructor
    exact hi _ (List.mem_singleton_self _) _ h

theorem Over.leaves_eq (h : operator.Over R p) : p.leaves = p.parts.flatMap Pattern.leaves := by
  cases h <;> simp [Pattern.leaves, Pattern.parts]

end Over

section Build

variable {f : Reference → Except Error Pattern} {operator : PatternOperator} {p : Pattern}

theorem build_eq_ok_iff : operator.build f = .ok p ↔ operator.Over (fun r q => f r = .ok q) p := by
  cases operator with
  | sequence rs | alternates rs =>
    refine ⟨fun h => ?_, fun h => ?_⟩
    · obtain ⟨ps, hps, hp⟩ := bind_eq_ok_iff.mp h
      cases hp
      constructor
      exact mapM_eq_ok_iff.mp hps
    · cases h with
      | _ h => exact bind_eq_ok_iff.mpr ⟨_, mapM_eq_ok_iff.mpr h, rfl⟩
  | optional r | oneOrMore r | zeroOrMore r =>
    refine ⟨fun h => ?_, fun h => ?_⟩
    · obtain ⟨q, hq, hp⟩ := bind_eq_ok_iff.mp h
      cases hp
      constructor
      exact hq
    · cases h with
      | _ h => exact bind_eq_ok_iff.mpr ⟨_, h, rfl⟩

/-- An operator that cannot be built has a reference without a pattern. -/
theorem exists_error_of_build {e : Error} (h : operator.build f = .error e) :
    ∃ r ∈ operator.children, f r = .error e := by
  cases operator with
  | sequence rs | alternates rs =>
    rcases bind_eq_error_iff.mp h with h | ⟨_, _, h⟩
    · exact exists_error_of_mapM h
    · cases h
  | optional r | oneOrMore r | zeroOrMore r =>
    rcases bind_eq_error_iff.mp h with h | ⟨_, _, h⟩
    · exact ⟨r, List.mem_singleton_self r, h⟩
    · cases h

theorem exists_build (h : ∀ r ∈ operator.children, ∃ q, f r = .ok q) : ∃ p, operator.build f = .ok p := by
  cases hb : operator.build f with
  | ok p => exact ⟨p, rfl⟩
  | error e =>
    obtain ⟨r, hr, he⟩ := exists_error_of_build hb
    obtain ⟨q, hq⟩ := h r hr
    rw [hq] at he
    cases he

end Build

end PatternOperator

/-- The pattern has one operator, and that has children. -/
def PatternDefinition.WellFormed (d : PatternDefinition) : Prop :=
  ∃ operator, d.operator = .ok operator ∧ operator.children ≠ []

namespace Catalog

variable {c : Catalog}

/-! ## What patterns lead to -/

/-- The pattern with an IRI is declared with an operator. -/
def Declares (c : Catalog) (id : String) (entry : PatternEntry) (operator : PatternOperator) : Prop :=
  c.pattern? id = some entry ∧ entry.definition.operator = .ok operator

/-- A pattern names another one. -/
def Leads (c : Catalog) (id next : String) : Prop :=
  ∃ entry operator, c.Declares id entry operator ∧ (∃ r ∈ operator.children, r.id = next) ∧ (c.pattern? next).isSome

/-- A pattern leads to another one in some number of steps, or is that one. -/
abbrev Reaches (c : Catalog) : String → String → Prop := Relation.ReflTransGen c.Leads

/-- The IRI is that of a template of the pattern's own profile. -/
def IsOwnTemplate (c : Catalog) (entry : PatternEntry) (id : String) : Prop :=
  ∃ t, c.template? id = some t ∧ t.profileId = some entry.profileId

theorem leaf_eq_ok_iff {entry : PatternEntry} {id : String} {p : Pattern} :
    c.leaf entry id = .ok p ↔ c.IsOwnTemplate entry id ∧ p = .leaf id := by
  unfold leaf IsOwnTemplate
  cases c.template? id with
  | none => simp
  | some t => by_cases h : t.profileId = some entry.profileId <;> simp [h, eq_comm]

/-- The pattern that a reference stands for: that of another pattern, in the given relation to its IRI, or else the leaf
of a template. -/
def Denotes (c : Catalog) (R : String → Pattern → Prop) (entry : PatternEntry) (r : Reference) (q : Pattern) : Prop :=
  ((c.pattern? r.id).isSome ∧ R r.id q) ∨ (c.pattern? r.id = none ∧ c.IsOwnTemplate entry r.id ∧ q = .leaf r.id)

theorem denotes_imp {R S : String → Pattern → Prop} {id : String} {entry : PatternEntry} {operator : PatternOperator}
    {p : Pattern} (hd : c.Declares id entry operator) (hi : ∀ next q, c.Leads id next → R next q → S next q)
    (h : operator.Over (c.Denotes R entry) p) : operator.Over (c.Denotes S entry) p := by
  refine h.imp fun r hr q hq => hq.imp_left fun ⟨hp, hR⟩ => ⟨hp, hi _ _ ⟨entry, operator, hd, ⟨r, hr, rfl⟩, hp⟩ hR⟩

/-! ## Unfolding without a store of finished grammars -/

/-- The grammar of a reference, given how patterns are unfolded. -/
def expandChild (c : Catalog) (expand : String → Except Error Pattern) (entry : PatternEntry) (r : Reference) :
    Except Error Pattern :=
  if (c.pattern? r.id).isSome then expand r.id else c.leaf entry r.id

/-- The unfolding of a pattern that is reached by a path of patterns, with every pattern unfolded anew. -/
def expand (c : Catalog) (path : List String) (id : String) : Except Error Pattern :=
  if path.contains id then .error (.structural (.cycle (path ++ [id])))
  else match _hid : c.pattern? id with
    | none => .error (.structural (.unknownPattern id))
    | some entry => match entry.definition.operator with
      | .error e => .error e
      | .ok operator => operator.build (c.expandChild (fun next => c.expand (path ++ [id]) next) entry)
termination_by c.unvisited path
decreasing_by exact c.unvisited_lt ‹_› fun h => ‹¬_› (List.contains_iff_mem.mpr h)

/-- The unfolding without what its termination needs. -/
theorem expand_eq (path : List String) (id : String) : c.expand path id =
    if path.contains id then .error (.structural (.cycle (path ++ [id])))
    else match c.pattern? id with
      | none => .error (.structural (.unknownPattern id))
      | some entry => match entry.definition.operator with
        | .error e => .error e
        | .ok operator => operator.build (c.expandChild (c.expand (path ++ [id])) entry) := by
  rw [expand]
  congr 1
  split
  · next h => simp only [h]
  · next h => simp only [h]

theorem expandChild_eq_ok_iff {f : String → Except Error Pattern} {entry : PatternEntry} {r : Reference} {q : Pattern} :
    c.expandChild f entry r = .ok q ↔ c.Denotes (fun next q => f next = .ok q) entry r q := by
  unfold expandChild Denotes
  cases c.pattern? r.id <;> simp [leaf_eq_ok_iff]

theorem build_expandChild_eq_ok_iff {f : String → Except Error Pattern} {entry : PatternEntry}
    {operator : PatternOperator} {p : Pattern} :
    operator.build (c.expandChild f entry) = .ok p ↔
      operator.Over (c.Denotes (fun next q => f next = .ok q) entry) p := by
  simp only [PatternOperator.build_eq_ok_iff, expandChild_eq_ok_iff]

theorem expand_of_declares {path : List String} {id : String} {entry : PatternEntry} {operator : PatternOperator}
    (hp : id ∉ path) (hd : c.Declares id entry operator) :
    c.expand path id = operator.build (c.expandChild (c.expand (path ++ [id])) entry) := by
  rw [expand_eq, if_neg (by simpa using hp), hd.1]
  dsimp only
  rw [hd.2]

/-- A pattern has an unfolding when it is not on the path, and that is its operator over the unfoldings of what it
names. -/
theorem expand_eq_ok_iff {path : List String} {id : String} {p : Pattern} :
    c.expand path id = .ok p ↔ id ∉ path ∧ ∃ entry operator, c.Declares id entry operator ∧
      operator.Over (c.Denotes (fun next q => c.expand (path ++ [id]) next = .ok q) entry) p := by
  simp only [← build_expandChild_eq_ok_iff]
  by_cases hp : id ∈ path
  · rw [expand_eq, if_pos (List.contains_iff_mem.mpr hp)]
    exact ⟨fun h => (nomatch h), fun h => absurd hp h.1⟩
  refine ⟨fun h => ⟨hp, ?_⟩, fun ⟨_, entry, operator, hd, ho⟩ => (expand_of_declares hp hd).trans ho⟩
  rw [expand_eq, if_neg fun hc => hp (List.contains_iff_mem.mp hc)] at h
  split at h
  · cases h
  · next entry hid =>
    split at h
    · cases h
    · next operator ho => exact ⟨entry, operator, ⟨hid, ho⟩, h⟩

/-- Induction on an unfolding that succeeds: what holds of an operator over unfoldings when it holds of these. -/
@[elab_as_elim]
theorem expand_induction {motive : List String → String → Pattern → Prop}
    (step : ∀ path id entry operator p, id ∉ path → c.Declares id entry operator →
      operator.Over
        (c.Denotes (fun next q => c.expand (path ++ [id]) next = .ok q ∧ motive (path ++ [id]) next q) entry) p →
      motive path id p)
    {path : List String} {id : String} {p : Pattern} (h : c.expand path id = .ok p) : motive path id p := by
  induction path, id using expand.induct c generalizing p with
  | case1 path id hp => exact absurd (List.contains_iff_mem.mp hp) (expand_eq_ok_iff.mp h).1
  | case2 path id _ hid | case3 path id _ entry hid e he =>
    obtain ⟨-, entry', operator', hd, -⟩ := expand_eq_ok_iff.mp h
    simp_all [Declares]
  | case4 path id _ entry hid operator hop ih =>
    obtain ⟨hp, entry, operator, hd, ho⟩ := expand_eq_ok_iff.mp h
    exact step path id entry operator p hp hd (denotes_imp hd (fun next q _ hq => ⟨hq, ih next hq⟩) ho)

/-! ## Cycles -/

/-- What names another pattern and has an unfolding hands its path on to the other. -/
theorem exists_expand_of_leads {path : List String} {id next : String} {p : Pattern} (h : c.expand path id = .ok p)
    (hl : c.Leads id next) : ∃ q, c.expand (path ++ [id]) next = .ok q := by
  obtain ⟨-, entry, operator, hd, ho⟩ := expand_eq_ok_iff.mp h
  obtain ⟨entry', operator', hd', ⟨r, hr, rfl⟩, hnext⟩ := hl
  obtain rfl : entry' = entry := Option.some.inj (hd'.1.symm.trans hd.1)
  obtain rfl : operator' = operator := Except.ok.inj (hd'.2.symm.trans hd.2)
  obtain ⟨q, -, hq | hq⟩ := exists_right_of_mem ho.forall₂ hr
  · exact ⟨q, hq.2⟩
  · rw [hq.1] at hnext
    cases hnext

/-- An unfolding leads to nothing on its path. -/
theorem not_mem_of_reaches {path : List String} {id next : String} {p : Pattern} (h : c.expand path id = .ok p)
    (hr : c.Reaches id next) : next ∉ path := by
  induction hr using Relation.ReflTransGen.head_induction_on generalizing path p with
  | refl => exact (expand_eq_ok_iff.mp h).1
  | head hl _ ih =>
    obtain ⟨q, hq⟩ := exists_expand_of_leads h hl
    exact fun hmem => ih hq (List.mem_append_left _ hmem)

theorem exists_expand_of_reaches {path : List String} {id next : String} {p : Pattern} (h : c.expand path id = .ok p)
    (hr : c.Reaches id next) : ∃ path' q, c.expand path' next = .ok q := by
  induction hr using Relation.ReflTransGen.head_induction_on generalizing path p with
  | refl => exact ⟨path, p, h⟩
  | head hl _ ih =>
    obtain ⟨q, hq⟩ := exists_expand_of_leads h hl
    exact ih hq

/-- What an unfolding leads to lies on no cycle. -/
theorem acyclic_of_reaches {path : List String} {id next : String} {p : Pattern} (h : c.expand path id = .ok p)
    (hr : c.Reaches id next) : ¬Relation.TransGen c.Leads next next := by
  obtain ⟨path', q, hq⟩ := exists_expand_of_reaches h hr
  intro hcycle
  obtain ⟨other, hl, hback⟩ := Relation.TransGen.head'_iff.mp hcycle
  obtain ⟨q', hq'⟩ := exists_expand_of_leads hq hl
  exact not_mem_of_reaches hq' hback (by simp)

/-- The path tells cycles and nothing else: an unfolding is the same on every path that it does not lead back to. -/
theorem expand_of_disjoint {path : List String} {id : String} {p : Pattern} (h : c.expand path id = .ok p) :
    ∀ path', (∀ q ∈ path', ¬c.Reaches id q) → c.expand path' id = .ok p := by
  refine expand_induction (fun path id entry operator p _ hd ho path' hpath => ?_) h
  -- The next pattern is not led back to anything on the new path: neither to `id`, where the given unfolding would have
  -- met a cycle, nor to what `id` does not lead to.
  refine expand_eq_ok_iff.mpr ⟨fun hmem => hpath id hmem .refl, entry, operator, hd, denotes_imp hd ?_ ho⟩
  rintro next q hl ⟨hq, ih⟩
  refine ih (path' ++ [id]) fun x hx hr => ?_
  rcases List.mem_append.mp hx with hx | hx
  · exact hpath x hx (.head hl hr)
  · exact not_mem_of_reaches hq hr (List.mem_append_right _ hx)

theorem expand_nil_of_expand {path : List String} {id : String} {p : Pattern} (h : c.expand path id = .ok p) :
    c.expand [] id = .ok p :=
  expand_of_disjoint h [] fun _ hq => absurd hq List.not_mem_nil

/-! ## Which patterns have an unfolding -/

/-- Every pattern has one operator, and that has children. -/
def WellFormed (c : Catalog) : Prop := ∀ id entry, c.pattern? id = some entry → entry.definition.WellFormed

theorem wellFormed_empty : empty.WellFormed := fun _ _ h => (nomatch h)

theorem WellFormed.extend (h : c.WellFormed) {ts : List Template} {entries : List PatternEntry}
    (he : ∀ entry ∈ entries, entry.definition.WellFormed) : (c.extend ts entries).WellFormed := by
  intro id entry hid
  rcases Table.find?_extend_cases hid with hmem | hid
  · obtain ⟨entry', hentry, heq⟩ := List.mem_map.mp hmem
    cases heq
    exact he entry hentry
  · exact h id entry hid

/-- What a pattern leads to is there, of the right profile, and free of cycles. -/
structure Closed (c : Catalog) (id : String) : Prop where
  known : (c.pattern? id).isSome
  /-- Every reference is to a pattern, or to a template of the profile of the pattern that has it. -/
  references : ∀ next, c.Reaches id next → ∀ entry operator, c.Declares next entry operator →
    ∀ r ∈ operator.children, (c.pattern? r.id).isSome ∨ c.IsOwnTemplate entry r.id
  acyclic : ∀ next, c.Reaches id next → ¬Relation.TransGen c.Leads next next

theorem Closed.of_leads {id next : String} (h : c.Closed id) (hl : c.Leads id next) : c.Closed next where
  known := by
    obtain ⟨_, _, _, _, hnext⟩ := hl
    exact hnext
  references := fun q hq => h.references q (.head hl hq)
  acyclic := fun q hq => h.acyclic q (.head hl hq)

theorem closed_of_expand {path : List String} {id : String} {p : Pattern} (h : c.expand path id = .ok p) :
    c.Closed id where
  known := by
    obtain ⟨-, entry, operator, hd, -⟩ := expand_eq_ok_iff.mp h
    rw [hd.1]
    rfl
  references := by
    intro next hr entry operator hd r hmem
    obtain ⟨path', q, hq⟩ := exists_expand_of_reaches h hr
    obtain ⟨-, entry', operator', hd', ho⟩ := expand_eq_ok_iff.mp hq
    obtain rfl : entry' = entry := Option.some.inj (hd'.1.symm.trans hd.1)
    obtain rfl : operator' = operator := Except.ok.inj (hd'.2.symm.trans hd.2)
    obtain ⟨_, -, hr⟩ := exists_right_of_mem ho.forall₂ hmem
    exact hr.imp (fun h => h.1) fun h => h.2.1
  acyclic := fun _ hr => acyclic_of_reaches h hr

theorem exists_expand_of_closed (hc : c.WellFormed) {path : List String} {id : String} (h : c.Closed id)
    (hpath : ∀ q ∈ path, ¬c.Reaches id q) : ∃ p, c.expand path id = .ok p := by
  induction path, id using expand.induct c with
  | case1 path id hp => exact absurd .refl (hpath id (List.contains_iff_mem.mp hp))
  | case2 path id _ hid =>
    have hk := h.known
    rw [hid] at hk
    cases hk
  | case3 path id _ entry hid e he =>
    obtain ⟨operator, ho, -⟩ := hc id entry hid
    rw [ho] at he
    cases he
  | case4 path id hp entry hid operator ho ih =>
    rw [expand_of_declares (fun hmem => hp (List.contains_iff_mem.mpr hmem)) ⟨hid, ho⟩]
    refine PatternOperator.exists_build fun r hr => ?_
    unfold expandChild
    by_cases hpat : (c.pattern? r.id).isSome
    · have hl : c.Leads id r.id := ⟨entry, operator, ⟨hid, ho⟩, ⟨r, hr, rfl⟩, hpat⟩
      rw [if_pos hpat]
      refine ih r.id (h.of_leads hl) fun q hq hback => ?_
      rcases List.mem_append.mp hq with hq | hq
      · exact hpath q hq (.head hl hback)
      · rw [List.mem_singleton.mp hq] at hback
        exact h.acyclic id .refl (.head' hl hback)
    · rw [if_neg hpat]
      have hown := (h.references id .refl entry operator ⟨hid, ho⟩ r hr).resolve_left hpat
      exact ⟨.leaf r.id, leaf_eq_ok_iff.mpr ⟨hown, rfl⟩⟩

/-! ## What an unfolding is made of -/

/-- Operators have children, and leaves are templates. -/
structure Filled (c : Catalog) (p : Pattern) : Prop where
  nodes : ∀ n ∈ p.nodes, n ≠ .sequence [] ∧ n ≠ .alternates []
  leaves : ∀ id ∈ p.leaves, (c.template? id).isSome

theorem filled_of_expand (hc : c.WellFormed) {path : List String} {id : String} {p : Pattern}
    (h : c.expand path id = .ok p) : c.Filled p := by
  refine expand_induction (fun path id entry operator p _ hd ho => ?_) h
  have hparts : ∀ q ∈ p.parts, c.Filled q := by
    intro q hq
    obtain ⟨r, -, ⟨-, -, hf⟩ | ⟨-, ⟨t, ht, -⟩, rfl⟩⟩ := exists_left_of_mem ho.forall₂ hq
    · exact hf
    · refine ⟨fun n hn => ?_, fun id hid => ?_⟩
      · rw [Pattern.nodes, List.mem_singleton] at hn
        subst hn
        simp
      · rw [Pattern.leaves, List.mem_singleton] at hid
        rw [hid, ht]
        rfl
  obtain ⟨operator', ho', hne⟩ := hc id entry hd.1
  obtain rfl : operator' = operator := Except.ok.inj (ho'.symm.trans hd.2)
  have hlength := ho.forall₂.length_eq
  constructor
  · intro n hn
    rw [Pattern.nodes_eq, List.mem_cons, List.mem_flatMap] at hn
    rcases hn with rfl | ⟨q, hq, hn⟩
    · constructor <;> rintro rfl <;> simp_all [Pattern.parts]
    · exact (hparts q hq).nodes n hn
  · intro id hid
    rw [ho.leaves_eq, List.mem_flatMap] at hid
    obtain ⟨q, hq, hid⟩ := hid
    exact (hparts q hq).leaves id hid

/-! ## Faults -/

theorem structural_of_operator_error {d : PatternDefinition} {e : Error} (h : d.operator = .error e) :
    ∃ fault, e = .structural fault := by
  unfold PatternDefinition.operator at h
  split at h <;> cases h <;> exact ⟨_, rfl⟩

theorem structural_of_leaf_error {entry : PatternEntry} {id : String} {e : Error} (h : c.leaf entry id = .error e) :
    ∃ fault, e = .structural fault := by
  unfold leaf at h
  split at h
  · split at h <;> cases h
    exact ⟨_, rfl⟩
  · cases h
    exact ⟨_, rfl⟩

/-- A pattern without an unfolding has a fault of structure. -/
theorem structural_of_expand_error {path : List String} {id : String} {e : Error} (h : c.expand path id = .error e) :
    ∃ fault, e = .structural fault := by
  induction path, id using expand.induct c generalizing e with
  | case1 path id hp =>
    rw [expand_eq, if_pos hp] at h
    cases h
    exact ⟨_, rfl⟩
  | case2 path id hp hid =>
    simp only [expand_eq, if_neg hp, hid] at h
    cases h
    exact ⟨_, rfl⟩
  | case3 path id hp entry hid e' he =>
    simp only [expand_eq, if_neg hp, hid, he] at h
    cases h
    exact structural_of_operator_error he
  | case4 path id hp entry hid operator ho ih =>
    rw [expand_of_declares (fun hmem => hp (List.contains_iff_mem.mpr hmem)) ⟨hid, ho⟩] at h
    obtain ⟨r, -, h⟩ := PatternOperator.exists_error_of_build h
    unfold expandChild at h
    split at h
    · exact ih r.id h
    · exact structural_of_leaf_error h

end Catalog

end StatementProfiles
