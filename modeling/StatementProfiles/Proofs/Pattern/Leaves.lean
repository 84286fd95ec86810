import StatementProfiles.Proofs.Pattern.Soundness

/-!
# The templates of a pattern

`Pattern.templateIds` lists the ids of the leaves once each (`nodup_templateIds`, `mem_templateIds`), in the order of
their first occurrence (`pairwise_templateIds`). **The matcher reads nothing else**: what is complete or under way is a
sequence of these ids (`mem_leaves_of_isComplete`, `mem_leaves_of_isUnderway`). This holds of patterns with empty
choices too, which may have no word at all; so it is proved of the endings and not of the language.
-/

namespace StatementProfiles

namespace Pattern

open Computability

/-! ## The list of the ids -/

theorem mem_firstSeen {xs : List String} {x : String} : x ∈ firstSeen xs ↔ x ∈ xs := by
  induction xs with
  | nil => rfl
  | cons y ys ih =>
    by_cases h : x = y <;> simp [firstSeen, ih, h]

/-- The elements stand in the order of their first places. -/
theorem pairwise_firstSeen (xs : List String) : (firstSeen xs).Pairwise (xs.idxOf · < xs.idxOf ·) := by
  induction xs with
  | nil => exact .nil
  | cons x xs ih =>
    have hne : ∀ y ∈ (firstSeen xs).filter (· ≠ x), (x :: xs).idxOf y = xs.idxOf y + 1 := by
      intro y hy
      have hyx : y ≠ x := of_decide_eq_true (List.mem_filter.mp hy).2
      exact List.idxOf_cons_ne xs hyx.symm
    refine .cons (fun y hy => ?_) (List.Pairwise.imp_of_mem (fun hy hz hlt => ?_) (ih.filter _))
    · rw [hne y hy, List.idxOf_cons_self]
      exact Nat.succ_pos _
    · rw [hne _ hy, hne _ hz]
      exact Nat.succ_lt_succ hlt

theorem mem_templateIds {p : Pattern} {x : String} : x ∈ p.templateIds ↔ x ∈ p.leaves := mem_firstSeen

theorem pairwise_templateIds (p : Pattern) : p.templateIds.Pairwise (p.leaves.idxOf · < p.leaves.idxOf ·) :=
  pairwise_firstSeen p.leaves

theorem nodup_templateIds (p : Pattern) : p.templateIds.Nodup :=
  p.pairwise_templateIds.imp fun {x y} hlt (heq : x = y) => Nat.lt_irrefl _ (heq ▸ hlt)

/-! ## What the matcher reads -/

/-- The words over an alphabet. -/
def wordsOver (ids : List String) : Language String := fun w => ∀ x ∈ w, x ∈ ids

variable {ids : List String} {s u v w : List String}

theorem mem_wordsOver : w ∈ wordsOver ids ↔ ∀ x ∈ w, x ∈ ids := Iff.rfl

theorem nil_mem_wordsOver : [] ∈ wordsOver ids := mem_wordsOver.mpr (by simp)

theorem append_mem_wordsOver : u ++ v ∈ wordsOver ids ↔ u ∈ wordsOver ids ∧ v ∈ wordsOver ids :=
  List.forall_mem_append

theorem mem_wordsOver_of_mul (h : w ∈ wordsOver ids * wordsOver ids) : w ∈ wordsOver ids := by
  obtain ⟨u, hu, v, hv, rfl⟩ := Language.mem_mul.mp h
  exact append_mem_wordsOver.mpr ⟨hu, hv⟩

theorem mem_wordsOver_of_kstar (h : w ∈ (wordsOver ids)∗) : w ∈ wordsOver ids := by
  obtain ⟨ws, rfl, hws⟩ := Language.mem_kstar.mp h
  intro x hx
  obtain ⟨w, hw, hx⟩ := List.mem_flatten.mp hx
  exact hws w hw x hx

theorem mem_wordsOver_of_optional (h : w ∈ 1 + wordsOver ids) : w ∈ wordsOver ids := by
  by_cases hw : w = []
  · exact hw ▸ nil_mem_wordsOver
  · exact mem_of_mem_one_add hw h

/-- Endings on words over an alphabet may be put one behind another. -/
theorem Sound.sequence_wordsOver {cs : List Pattern} (h : ∀ c ∈ cs, ∀ s, Sound (wordsOver ids) s (c.ending s))
    (s : List String) : Sound (wordsOver ids) s ((Pattern.sequence cs).ending s) := by
  induction cs generalizing s with
  | nil => exact .skip nil_mem_wordsOver s
  | cons c cs ih =>
    obtain ⟨hc, hcs⟩ := List.forall_mem_cons.mp h
    rw [ending_sequence_cons]
    exact ((hc s).andThen ⟨[], nil_mem_wordsOver⟩ (ih hcs)).mono fun _ => mem_wordsOver_of_mul

/-- **What a pattern reads, and what it is under way on, is made of the ids of its leaves.** -/
theorem sound_leaves {p : Pattern} (hp : ∀ x ∈ p.leaves, x ∈ ids) (s : List String) :
    Sound (wordsOver ids) s (p.ending s) := by
  induction p generalizing s with
  | leaf id =>
    have hid : [id] ∈ wordsOver ids := hp
    cases s with
    | nil => exact .underway (List.cons_ne_nil id []) hid
    | cons x s =>
      rw [ending_leaf_cons]
      split
      · next h => exact .success (c := [x]) rfl (h ▸ hid)
      · exact .failure
  | sequence cs ih =>
    have hchild : ∀ c ∈ cs, ∀ x ∈ c.leaves, x ∈ ids := fun c hc x hx =>
      hp x ((leaves_sublist (mem_nodes_sequence hc)).subset hx)
    exact .sequence_wordsOver (fun c hc => ih c hc (hchild c hc)) s
  | alternates cs ih =>
    exact .alternates fun c hc => ih c hc (fun x hx => hp x ((leaves_sublist (mem_nodes_alternates hc)).subset hx)) s
  | oneOrMore c ih =>
    rw [ending_oneOrMore]
    refine ((ih hp s).andThen ⟨[], Language.nil_mem_kstar _⟩ (.zeroOrMore (ih hp))).mono fun w hw => ?_
    obtain ⟨u, hu, v, hv, rfl⟩ := Language.mem_mul.mp hw
    exact append_mem_wordsOver.mpr ⟨hu, mem_wordsOver_of_kstar hv⟩
  | zeroOrMore c ih => exact (Sound.zeroOrMore (ih hp) s).mono fun _ => mem_wordsOver_of_kstar
  | optional c ih => exact (Sound.optional (ih hp s)).mono fun _ => mem_wordsOver_of_optional

theorem mem_leaves_of_isComplete {p : Pattern} (h : (p.run s).isComplete = true) : ∀ x ∈ s, x ∈ p.leaves := by
  have hs := sound_leaves (p := p) (fun _ hx => hx) s
  rw [isComplete_run.mp h] at hs
  cases hs with
  | success hsc hc => rwa [hsc, List.append_nil]

theorem mem_leaves_of_isUnderway {p : Pattern} (h : (p.run s).isUnderway = true) : ∀ x ∈ s, x ∈ p.leaves := by
  have hs := sound_leaves (p := p) (fun _ hx => hx) s
  rw [isUnderway_run.mp h] at hs
  cases hs with
  | underway _ hw => exact (append_mem_wordsOver.mp hw).1

end Pattern

end StatementProfiles
