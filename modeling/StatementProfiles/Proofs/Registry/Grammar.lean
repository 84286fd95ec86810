import Mathlib.Data.List.Permutation
import StatementProfiles.Proofs.Registry.Unfolding

/-!
# The grammar of a pattern

Finished grammars that are sound (`Catalog.Sound`) change nothing: unfolding with them gives the tree or the fault that
unfolding from nothing gives, and leaves sound ones behind (`Catalog.unfold_agrees`). **So the grammar of a pattern is
its exact unfolding** (`Catalog.grammar_unfolds_exactly`).
-/

namespace StatementProfiles

namespace Catalog

variable {c : Catalog}

/-! ## Finished grammars -/

/-- Every finished grammar is what unfolding its pattern anew gives. -/
def Sound (c : Catalog) (done : Grammars) : Prop := ∀ id p, done.find? id = some p → c.expand [] id = .ok p

theorem sound_nil : c.Sound [] := fun _ _ h => (nomatch h)

theorem Sound.insert {done : Grammars} (h : c.Sound done) {id : String} {p : Pattern} (hp : c.expand [] id = .ok p) :
    c.Sound (done.insert id p) := by
  intro id' p' h'
  by_cases hid : id' = id
  · subst hid
    rw [Members.find?_insert_self] at h'
    rw [← Option.some.inj h', hp]
  · rw [Members.find?_insert_of_ne _ _ hid] at h'
    exact h id' p' h'

variable {α β : Type}

/-- An answer that goes by finished grammars is the same as one that goes by none, and leaves sound ones behind. -/
inductive Agrees (c : Catalog) {α : Type} : Except Error (α × Grammars) → Except Error α → Prop
  | ok {a : α} {done : Grammars} : c.Sound done → Agrees c (.ok (a, done)) (.ok a)
  | error {e : Error} : Agrees c (.error e) (.error e)

theorem Agrees.map_fst {x : Except Error (α × Grammars)} {y : Except Error α} (h : c.Agrees x y) :
    x.map Prod.fst = y := by
  cases h <;> rfl

theorem Agrees.sound {x : Except Error (α × Grammars)} {y : Except Error α} (h : c.Agrees x y) {a : α} {done : Grammars}
    (hx : x = .ok (a, done)) : c.Sound done := by
  cases h with
  | ok hd =>
    cases hx
    exact hd
  | error => cases hx

theorem Agrees.bind {x : Except Error (α × Grammars)} {y : Except Error α}
    {f : α × Grammars → Except Error (β × Grammars)} {g : α → Except Error β} (h : c.Agrees x y)
    (hf : ∀ a done, c.Sound done → c.Agrees (f (a, done)) (g a)) : c.Agrees (x >>= f) (y >>= g) := by
  cases h with
  | ok hd => exact hf _ _ hd
  | error => exact .error

theorem Agrees.mapM {f : α → Unfolding β} {g : α → Except Error β} {as : List α} {done : Grammars} (hd : c.Sound done)
    (h : ∀ a ∈ as, ∀ done, c.Sound done → c.Agrees (f a done) (g a)) : c.Agrees (as.mapM f done) (as.mapM g) := by
  induction as generalizing done with
  | nil => exact .ok hd
  | cons a as ih =>
    rw [List.mapM_cons, List.mapM_cons]
    refine (h a List.mem_cons_self done hd).bind fun b done hd => ?_
    exact (ih hd fun a ha => h a (List.mem_cons_of_mem _ ha)).bind fun bs done hd => .ok hd

theorem Agrees.build {f : Reference → Unfolding Pattern} {g : Reference → Except Error Pattern}
    {operator : PatternOperator} {done : Grammars} (hd : c.Sound done)
    (h : ∀ r ∈ operator.children, ∀ done, c.Sound done → c.Agrees (f r done) (g r)) :
    c.Agrees (operator.build f done) (operator.build g) := by
  cases operator with
  | sequence rs | alternates rs => exact (Agrees.mapM hd h).bind fun ps done hd => .ok hd
  | optional r | oneOrMore r | zeroOrMore r =>
    exact (h r (List.mem_singleton_self r) done hd).bind fun p done hd => .ok hd

theorem Agrees.child {f : String → Unfolding Pattern} {g : String → Except Error Pattern} {entry : PatternEntry}
    {r : Reference} {done : Grammars} (hd : c.Sound done)
    (h : (c.pattern? r.id).isSome → c.Agrees (f r.id done) (g r.id)) :
    c.Agrees (c.child f entry r done) (c.expandChild g entry r) := by
  unfold Catalog.child expandChild
  by_cases hp : (c.pattern? r.id).isSome
  · rw [if_pos hp, if_pos hp]
    exact h hp
  · rw [if_neg hp, if_neg hp]
    cases c.leaf entry r.id with
    | ok p => exact .ok hd
    | error e => exact .error

theorem Agrees.map {x : Except Error (α × Grammars)} {y : Except Error α} {f : α × Grammars → α × Grammars}
    (h : c.Agrees x y) (hf : ∀ a done, y = .ok a → c.Sound done → (f (a, done)).1 = a ∧ c.Sound (f (a, done)).2) :
    c.Agrees (x.map f) y := by
  cases h with
  | @ok a done hd =>
    have h := hf a done rfl hd
    have he : f (a, done) = (a, (f (a, done)).2) := Prod.ext h.1 rfl
    rw [Except.map, he]
    exact .ok h.2
  | error => exact .error

/-- The unfolding without what its termination needs. -/
theorem unfold_eq (path : List String) (id : String) (done : Grammars) : c.unfold path id done =
    match done.find? id with
    | some p => .ok (p, done)
    | none =>
      if path.contains id then .error (.structural (.cycle (path ++ [id])))
      else match c.pattern? id with
        | none => .error (.structural (.unknownPattern id))
        | some entry => match entry.definition.operator with
          | .error e => .error e
          | .ok operator =>
            (operator.build (c.child (c.unfold (path ++ [id])) entry) done).map
              fun (p, done) => (p, done.insert id p) := by
  rw [unfold]
  cases done.find? id with
  | some p => rfl
  | none =>
    dsimp only
    congr 1
    split <;> next h => exact h ▸ rfl

/-- Finished grammars change nothing, neither the tree nor the fault. -/
theorem unfold_agrees {path : List String} {id : String} {done : Grammars} (hd : c.Sound done)
    (hpath : ∀ q ∈ path, Relation.TransGen c.Leads q id) : c.Agrees (c.unfold path id done) (c.expand path id) := by
  induction path, id, done using unfold.induct c with
  | case1 path id done p hp =>
    have hfresh := hd id p hp
    -- Nothing on the path is led back to, as all of it leads here: a finished grammar hides no cycle.
    rw [unfold_eq, hp, expand_of_disjoint hfresh path fun q hq hr =>
      acyclic_of_reaches hfresh .refl (Relation.TransGen.trans_right hr (hpath q hq))]
    exact .ok hd
  | case2 path id done hnone hp =>
    simp only [unfold_eq, expand_eq, hnone, hp, if_true]
    exact .error
  | case3 path id done hnone hp hid =>
    simp only [unfold_eq, expand_eq, hnone, if_neg hp, hid]
    exact .error
  | case4 path id done hnone hp entry hid e he =>
    simp only [unfold_eq, expand_eq, hnone, if_neg hp, hid, he]
    exact .error
  | case5 path id done hnone hp entry hid operator ho ih =>
    have hpath' : ∀ next, c.Leads id next → ∀ q ∈ path ++ [id], Relation.TransGen c.Leads q next := by
      intro next hl q hq
      rcases List.mem_append.mp hq with hq | hq
      · exact (hpath q hq).tail hl
      · exact List.mem_singleton.mp hq ▸ .single hl
    have hbuild : c.Agrees (operator.build (c.child (c.unfold (path ++ [id])) entry) done)
        (operator.build (c.expandChild (c.expand (path ++ [id])) entry)) :=
      Agrees.build hd fun r hr done hd => Agrees.child hd fun hp =>
        ih r.id done hd (hpath' r.id ⟨entry, operator, ⟨hid, ho⟩, ⟨r, hr, rfl⟩, hp⟩)
    have hexpand := expand_of_declares (fun hmem => hp (List.contains_iff_mem.mpr hmem)) ⟨hid, ho⟩
    rw [hexpand]
    simp only [unfold_eq, hnone, if_neg hp, hid, ho]
    exact hbuild.map fun p done hp hd => ⟨rfl, hd.insert (expand_nil_of_expand (hexpand.trans hp))⟩

theorem grammar_agrees {done : Grammars} (hd : c.Sound done) (id : String) :
    c.Agrees (c.grammar done id) (c.expand [] id) :=
  unfold_agrees hd fun _ hq => absurd hq List.not_mem_nil

/-- What a pattern's grammar is does not depend on the finished ones. -/
theorem map_fst_grammar {done : Grammars} (hd : c.Sound done) (id : String) :
    (c.grammar done id).map Prod.fst = c.expand [] id :=
  (grammar_agrees hd id).map_fst

theorem sound_of_grammar {done done' : Grammars} (hd : c.Sound done) {id : String} {p : Pattern}
    (h : c.grammar done id = .ok (p, done')) : c.Sound done' :=
  (grammar_agrees hd id).sound h

/-! ## The grammar of a pattern -/

/-- The pattern with an IRI has a grammar. -/
def HasGrammar (c : Catalog) (id : String) (p : Pattern) : Prop := ∃ done, c.grammar [] id = .ok (p, done)

theorem hasGrammar_iff {id : String} {p : Pattern} : c.HasGrammar id p ↔ c.expand [] id = .ok p := by
  rw [← map_fst_grammar sound_nil, map_eq_ok_iff]
  exact ⟨fun ⟨done, h⟩ => ⟨_, h, rfl⟩, fun ⟨(p, done), h, hp⟩ => ⟨done, hp ▸ h⟩⟩

/-- **The grammar of a pattern is its exact unfolding.** There is one when the pattern is known, all references that it
leads to are to patterns or to templates of the referring pattern's profile, and nothing that it leads to leads back to
itself; there is a fault of structure otherwise. The grammar is the pattern's operator over the grammars of the patterns
and the leaves of the templates that the pattern names, in their order, and no part of it is without children or without
its template. -/
theorem grammar_unfolds_exactly (c : Catalog) (hc : c.WellFormed) (id : String) :
    ((∃ p, c.HasGrammar id p) ↔ c.Closed id) ∧
    (¬c.Closed id → ∃ fault, c.grammar [] id = .error (.structural fault)) ∧
    ∀ p, c.HasGrammar id p →
      (∃ entry operator, c.Declares id entry operator ∧ operator.Over (c.Denotes c.HasGrammar entry) p) ∧
        c.Filled p := by
  have hclosed : (∃ p, c.HasGrammar id p) ↔ c.Closed id := by
    simp only [hasGrammar_iff]
    exact ⟨fun ⟨p, h⟩ => closed_of_expand h, fun h => exists_expand_of_closed hc h fun _ hq => (nomatch hq)⟩
  refine ⟨hclosed, fun hn => ?_, fun p hp => ?_⟩
  · cases hg : c.grammar [] id with
    | ok result => exact absurd (hclosed.mp ⟨result.1, result.2, hg⟩) hn
    | error e =>
      have he := map_fst_grammar (c := c) sound_nil id
      rw [hg] at he
      obtain ⟨fault, rfl⟩ := structural_of_expand_error he.symm
      exact ⟨fault, rfl⟩
  · rw [hasGrammar_iff] at hp
    obtain ⟨-, entry, operator, hd, ho⟩ := expand_eq_ok_iff.mp hp
    refine ⟨⟨entry, operator, hd, denotes_imp hd (fun next q _ hq => ?_) ho⟩, filled_of_expand hc hp⟩
    exact hasGrammar_iff.mpr (expand_nil_of_expand hq)

/-- A profile in which two patterns name a third one, and another pattern names itself. -/
def courses : Catalog :=
  let entry (id : String) (f : PatternDefinition → PatternDefinition) : PatternEntry :=
    ⟨f ⟨id, false, none, [], [], none, none, none, none, none⟩, "u:courses", none⟩
  let reading : Template :=
    ⟨"u:reading", [], some "u:courses", none, none, none, ⟨[], [], [], []⟩, [], false, false, []⟩
  empty.extend [reading] [
    entry "u:unit" fun d => { d with sequence := some [.bare "u:readings", .bare "u:test"] },
    entry "u:test" fun d => { d with optional := some (.bare "u:readings") },
    entry "u:readings" fun d => { d with oneOrMore := some (.bare "u:reading") },
    entry "u:endless" fun d => { d with alternates := some [.bare "u:reading", .bare "u:endless"] }]

theorem grammar_unfolds_exactly_in_courses :
    courses.WellFormed ∧
    (courses.Closed "u:unit" ∧
      courses.HasGrammar "u:unit"
        (.sequence [.oneOrMore (.leaf "u:reading"), .optional (.oneOrMore (.leaf "u:reading"))])) ∧
    ¬courses.Closed "u:endless" ∧ ∃ fault, courses.grammar [] "u:endless" = .error (.structural fault) := by
  have hw : courses.WellFormed := by
    refine wellFormed_empty.extend ?_
    simp [PatternDefinition.WellFormed, PatternDefinition.operator, PatternDefinition.operators,
      PatternOperator.children]
  have hunit : courses.HasGrammar "u:unit"
      (.sequence [.oneOrMore (.leaf "u:reading"), .optional (.oneOrMore (.leaf "u:reading"))]) :=
    hasGrammar_iff.mpr (by cbv)
  have hendless : courses.expand [] "u:endless" = .error (.structural (.cycle ["u:endless", "u:endless"])) := by cbv
  have hopen : ¬courses.Closed "u:endless" := by
    intro h
    obtain ⟨p, hp⟩ := (grammar_unfolds_exactly courses hw "u:endless").1.mpr h
    rw [hasGrammar_iff, hendless] at hp
    cases hp
  exact ⟨hw, ⟨(grammar_unfolds_exactly courses hw "u:unit").1.mp ⟨_, hunit⟩, hunit⟩, hopen,
    (grammar_unfolds_exactly courses hw "u:endless").2.1 hopen⟩

end Catalog

end StatementProfiles
