import Mathlib.Computability.Language
import StatementProfiles.Pattern.Basic

/-!
# The language of a pattern

`Pattern.language` is the set of words that a pattern describes, said without the matcher: a leaf is a word of one
letter, a sequence concatenates, a choice unites, and the repetitions are plus, star and option. Words are made of the
ids of the leaves (`mem_leaves_of_mem_language`), and a pattern without empty choices has a word (`exists_word`).
-/

namespace StatementProfiles

namespace Pattern

open Computability

/-! ## Nodes -/

mutual

/-- The pattern and all patterns inside it. -/
def nodes : Pattern → List Pattern
  | .leaf id => [.leaf id]
  | .sequence children => .sequence children :: nodesOfAll children
  | .alternates children => .alternates children :: nodesOfAll children
  | .oneOrMore child => .oneOrMore child :: nodes child
  | .zeroOrMore child => .zeroOrMore child :: nodes child
  | .optional child => .optional child :: nodes child
termination_by structural p => p

/-- The nodes of several patterns. -/
def nodesOfAll : List Pattern → List Pattern
  | [] => []
  | p :: ps => nodes p ++ nodesOfAll ps
termination_by structural ps => ps

end

@[simp] theorem nodesOfAll_eq (ps : List Pattern) : nodesOfAll ps = ps.flatMap nodes := by
  induction ps with
  | nil => rfl
  | cons p ps ih =>
    rw [List.flatMap_cons, ← ih]
    rfl

theorem nodes_sequence (cs : List Pattern) : (sequence cs).nodes = sequence cs :: cs.flatMap nodes :=
  congrArg _ (nodesOfAll_eq cs)

theorem nodes_alternates (cs : List Pattern) : (alternates cs).nodes = alternates cs :: cs.flatMap nodes :=
  congrArg _ (nodesOfAll_eq cs)

@[simp] theorem leavesOfAll_eq (ps : List Pattern) : leavesOfAll ps = ps.flatMap leaves := by
  induction ps with
  | nil => rfl
  | cons p ps ih =>
    rw [List.flatMap_cons, ← ih]
    rfl

theorem leaves_sequence (cs : List Pattern) : (sequence cs).leaves = cs.flatMap leaves := leavesOfAll_eq cs

theorem leaves_alternates (cs : List Pattern) : (alternates cs).leaves = cs.flatMap leaves := leavesOfAll_eq cs

theorem self_mem_nodes (p : Pattern) : p ∈ p.nodes := by
  cases p <;> exact List.mem_cons_self

theorem mem_nodes_sequence {c : Pattern} {cs : List Pattern} (hc : c ∈ cs) : c ∈ (sequence cs).nodes := by
  rw [nodes_sequence, List.mem_cons, List.mem_flatMap]
  exact .inr ⟨c, hc, self_mem_nodes c⟩

theorem mem_nodes_alternates {c : Pattern} {cs : List Pattern} (hc : c ∈ cs) : c ∈ (alternates cs).nodes := by
  rw [nodes_alternates, List.mem_cons, List.mem_flatMap]
  exact .inr ⟨c, hc, self_mem_nodes c⟩

theorem mem_nodes_oneOrMore (c : Pattern) : c ∈ (oneOrMore c).nodes := List.mem_cons_of_mem _ (self_mem_nodes c)

theorem mem_nodes_zeroOrMore (c : Pattern) : c ∈ (zeroOrMore c).nodes := List.mem_cons_of_mem _ (self_mem_nodes c)

theorem mem_nodes_optional (c : Pattern) : c ∈ (optional c).nodes := List.mem_cons_of_mem _ (self_mem_nodes c)

/-- Nodes of a node are nodes. -/
theorem nodes_trans {p q t : Pattern} (hq : q ∈ p.nodes) (ht : t ∈ q.nodes) : t ∈ p.nodes := by
  induction p with
  | leaf id =>
    rw [List.mem_singleton.mp hq] at ht
    exact ht
  | sequence cs ih | alternates cs ih =>
    simp only [nodes_sequence, nodes_alternates, List.mem_cons, List.mem_flatMap] at hq ⊢
    rcases hq with rfl | ⟨c, hc, hq⟩
    · simpa only [nodes_sequence, nodes_alternates, List.mem_cons, List.mem_flatMap] using ht
    · exact .inr ⟨c, hc, ih c hc hq⟩
  | oneOrMore c ih | zeroOrMore c ih | optional c ih =>
    rcases List.mem_cons.mp hq with rfl | hq
    · exact ht
    · exact List.mem_cons_of_mem _ (ih hq)

/-- The leaves of a node are leaves, in the same order. -/
theorem leaves_sublist {p q : Pattern} (hq : q ∈ p.nodes) : q.leaves.Sublist p.leaves := by
  induction p with
  | leaf id => rw [List.mem_singleton.mp hq]
  | sequence cs ih | alternates cs ih =>
    simp only [nodes_sequence, nodes_alternates, List.mem_cons, List.mem_flatMap] at hq
    rcases hq with rfl | ⟨c, hc, hq⟩
    · exact List.Sublist.refl _
    · simp only [leaves_sequence, leaves_alternates, List.flatMap]
      exact (ih c hc hq).trans (List.sublist_flatten_of_mem (List.mem_map_of_mem hc))
  | oneOrMore c ih | zeroOrMore c ih | optional c ih =>
    rcases List.mem_cons.mp hq with rfl | hq
    · exact List.Sublist.refl _
    · exact ih hq

/-- The choices of the later children of a sequence are choices of the sequence. -/
theorem choice_mem_nodes_cons {c : Pattern} {cs ds : List Pattern} (h : alternates ds ∈ (sequence cs).nodes) :
    alternates ds ∈ (sequence (c :: cs)).nodes := by
  simp only [nodes_sequence, List.mem_cons, List.flatMap_cons, List.mem_append] at h ⊢
  rcases h with h | h
  · cases h
  · exact .inr (.inr h)

/-- Every choice inside the pattern has a child. -/
def ChoicesNonempty (p : Pattern) : Prop := ∀ cs, alternates cs ∈ p.nodes → cs ≠ []

/-- Whether this is a choice among nothing. -/
def isEmptyChoice : Pattern → Bool
  | .alternates [] => true
  | _ => false

instance (p : Pattern) : Decidable p.ChoicesNonempty :=
  decidable_of_iff (∀ q ∈ p.nodes, q.isEmptyChoice = false) (by
    constructor
    · rintro h cs hcs rfl
      exact absurd (h _ hcs) (by decide)
    · intro h q hq
      unfold isEmptyChoice
      split
      · exact absurd rfl (h _ hq)
      · rfl)

theorem ChoicesNonempty.of_mem {p q : Pattern} (hp : p.ChoicesNonempty) (hq : q ∈ p.nodes) : q.ChoicesNonempty :=
  fun cs hcs => hp cs (nodes_trans hq hcs)

theorem ChoicesNonempty.rest {c : Pattern} {cs : List Pattern} (h : (sequence (c :: cs)).ChoicesNonempty) :
    (sequence cs).ChoicesNonempty :=
  fun ds hds => h ds (choice_mem_nodes_cons hds)

/-! ## Words -/

mutual

/-- The words of a pattern. -/
def language : Pattern → Language String
  | .leaf id => {[id]}
  | .sequence children => languageOfSequence children
  | .alternates children => languageOfAlternates children
  | .oneOrMore child => language child * (language child)∗
  | .zeroOrMore child => (language child)∗
  | .optional child => 1 + language child
termination_by structural p => p

/-- The words of several patterns one after another. -/
def languageOfSequence : List Pattern → Language String
  | [] => 1
  | p :: ps => language p * languageOfSequence ps
termination_by structural ps => ps

/-- The words of any of several patterns. -/
def languageOfAlternates : List Pattern → Language String
  | [] => 0
  | p :: ps => language p + languageOfAlternates ps
termination_by structural ps => ps

end

theorem language_leaf (id : String) : (leaf id).language = {[id]} := rfl

theorem language_sequence_nil : (sequence []).language = 1 := rfl

theorem language_sequence_cons (c : Pattern) (cs : List Pattern) :
    (sequence (c :: cs)).language = c.language * (sequence cs).language := rfl

theorem language_alternates_nil : (alternates []).language = 0 := rfl

theorem language_alternates_cons (c : Pattern) (cs : List Pattern) :
    (alternates (c :: cs)).language = c.language + (alternates cs).language := rfl

theorem language_oneOrMore (c : Pattern) : (oneOrMore c).language = c.language * c.language∗ := rfl

theorem language_zeroOrMore (c : Pattern) : (zeroOrMore c).language = c.language∗ := rfl

theorem language_optional (c : Pattern) : (optional c).language = 1 + c.language := rfl

/-- The empty word belongs to an option. -/
theorem nil_mem_one_add (L : Language String) : [] ∈ 1 + L := (Language.mem_add _ _ _).mpr (.inl Language.nil_mem_one)

theorem mem_one_add {L : Language String} {w : List String} (h : w ∈ L) : w ∈ 1 + L :=
  (Language.mem_add _ _ _).mpr (.inr h)

/-- The other words of an option are those of its language. -/
theorem mem_of_mem_one_add {L : Language String} {w : List String} (hw : w ≠ []) (h : w ∈ 1 + L) : w ∈ L := by
  rcases (Language.mem_add _ _ _).mp h with h | h
  · exact absurd ((Language.mem_one w).mp h) hw
  · exact h

theorem mem_language_alternates {cs : List Pattern} {w : List String} :
    w ∈ (alternates cs).language ↔ ∃ c ∈ cs, w ∈ c.language := by
  induction cs with
  | nil => simp [language_alternates_nil]
  | cons c cs ih =>
    rw [language_alternates_cons, Language.mem_add, ih]
    simp

/-- The words of the repetitions of a language are made of its words. -/
theorem exists_mem_of_mem_kstar {L : Language String} {w : List String} {x : String} (hw : w ∈ L∗) (hx : x ∈ w) :
    ∃ u ∈ L, x ∈ u := by
  obtain ⟨us, rfl, hus⟩ := Language.mem_kstar.mp hw
  obtain ⟨u, hu, hxu⟩ := List.mem_flatten.mp hx
  exact ⟨u, hus u hu, hxu⟩

theorem mem_leaves_of_mem_language {p : Pattern} {w : List String} (hw : w ∈ p.language) :
    ∀ x ∈ w, x ∈ p.leaves := by
  induction p generalizing w with
  | leaf id => rw [language_leaf] at hw; rw [Set.mem_singleton_iff.mp hw]; exact fun _ h => h
  | sequence cs ih =>
    rw [leaves_sequence]
    induction cs generalizing w with
    | nil =>
      rw [language_sequence_nil, Language.mem_one] at hw
      simp [hw]
    | cons c cs ihs =>
      obtain ⟨u, hu, v, hv, rfl⟩ := Language.mem_mul.mp hw
      intro x hx
      rw [List.flatMap_cons]
      rcases List.mem_append.mp hx with hx | hx
      · exact List.mem_append_left _ (ih c List.mem_cons_self hu x hx)
      · exact List.mem_append_right _ (ihs (fun c' hc' => ih c' (List.mem_cons_of_mem _ hc')) hv x hx)
  | alternates cs ih =>
    obtain ⟨c, hc, hw⟩ := mem_language_alternates.mp hw
    intro x hx
    rw [leaves_alternates, List.mem_flatMap]
    exact ⟨c, hc, ih c hc hw x hx⟩
  | oneOrMore c ih =>
    obtain ⟨u, hu, v, hv, rfl⟩ := Language.mem_mul.mp hw
    intro x hx
    rcases List.mem_append.mp hx with hx | hx
    · exact ih hu x hx
    · obtain ⟨u', hu', hx⟩ := exists_mem_of_mem_kstar hv hx
      exact ih hu' x hx
  | zeroOrMore c ih =>
    rw [language_zeroOrMore] at hw
    intro x hx
    obtain ⟨u, hu, hx⟩ := exists_mem_of_mem_kstar hw hx
    exact ih hu x hx
  | optional c ih =>
    rw [language_optional] at hw
    intro x hx
    exact ih (mem_of_mem_one_add (List.ne_nil_of_mem hx) hw) x hx

/-- The children of a sequence have a word together when each has one. -/
theorem exists_word_sequence {cs : List Pattern} (h : ∀ c ∈ cs, ∃ w, w ∈ c.language) :
    ∃ w, w ∈ (sequence cs).language := by
  induction cs with
  | nil => exact ⟨[], Language.nil_mem_one⟩
  | cons c cs ih =>
    obtain ⟨u, hu⟩ := h c List.mem_cons_self
    obtain ⟨v, hv⟩ := ih fun c' hc' => h c' (List.mem_cons_of_mem _ hc')
    exact ⟨u ++ v, Language.append_mem_mul hu hv⟩

/-- A pattern without empty choices has a word. -/
theorem exists_word {p : Pattern} (hp : p.ChoicesNonempty) : ∃ w, w ∈ p.language := by
  induction p with
  | leaf id => exact ⟨[id], rfl⟩
  | sequence cs ih => exact exists_word_sequence fun c hc => ih c hc (hp.of_mem (mem_nodes_sequence hc))
  | alternates cs ih =>
    obtain ⟨c, hc⟩ := List.exists_mem_of_ne_nil cs (hp cs (self_mem_nodes _))
    obtain ⟨w, hw⟩ := ih c hc (hp.of_mem (mem_nodes_alternates hc))
    exact ⟨w, mem_language_alternates.mpr ⟨c, hc, hw⟩⟩
  | oneOrMore c ih =>
    obtain ⟨w, hw⟩ := ih (hp.of_mem (mem_nodes_oneOrMore c))
    exact ⟨w ++ [], Language.append_mem_mul hw (Language.nil_mem_kstar _)⟩
  | zeroOrMore c _ => exact ⟨[], Language.nil_mem_kstar _⟩
  | optional c _ => exact ⟨[], nil_mem_one_add _⟩

end Pattern

end StatementProfiles
