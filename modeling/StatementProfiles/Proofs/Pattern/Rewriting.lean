import StatementProfiles.Proofs.Pattern.Ending
import StatementProfiles.Proofs.Pattern.Record

/-!
# Patterns that are matched alike

A pattern may be written in several ways: the children of a choice in another order or twice, a choice among the
children of a choice, a sequence among those of a sequence, `zeroOrMore` as an option of `oneOrMore`, an option of an
option (`Rewriting`). `Interchangeable` is the least congruence that contains these. A leaf, a sequence and a choice
match as they end (`run_sequence`, `run_alternates`), and the ending of a choice is that of any other with the same
endings among its children (`ending_alternates_of_endings`), since two rests of one sequence that are equally long are
equal (`Chosen.unique`). **Interchangeable patterns have the same matches** (`rewriting_preserves_matching`).
-/

namespace StatementProfiles

/-- The match of a leaf, a sequence or a choice on `s` with this ending. -/
def Ending.toMatch (s : List String) : Ending → Match
  | .success rest => .succeed rest
  | .underway => .expectMore
  | .failure => .fail s

theorem Ending.andThen_assoc (e : Ending) (next after : List String → Ending) :
    (e.andThen next).andThen after = e.andThen fun rest => (next rest).andThen after := by
  cases e <;> rfl

namespace Pattern

variable {p q : Pattern} {xs ys zs cs ds : List Pattern} {s : List String} {e e' : Ending}

/-! ## Matches that are read off their endings -/

theorem runSequence_eq_toMatch (cs : List Pattern) (whole rest : List String) :
    runSequence cs whole rest = (runSequence cs whole rest).ending.toMatch whole := by
  induction cs generalizing rest with
  | nil => rfl
  | cons c cs ih =>
    rw [runSequence]
    cases h : (c.run rest).outcome with
    | success => exact ih _
    | underway => rfl
    | failure => rfl

theorem run_sequence (cs : List Pattern) (s : List String) :
    (sequence cs).run s = ((sequence cs).ending s).toMatch s := runSequence_eq_toMatch cs s s

theorem runAlternates_eq_toMatch (cs : List Pattern) (s : List String) (best : Option (List String))
    (underway : Bool) : runAlternates cs s best underway = (runAlternates cs s best underway).ending.toMatch s := by
  induction cs generalizing best underway with
  | nil =>
    cases best with
    | some rest => rfl
    | none => cases underway <;> rfl
  | cons c cs ih =>
    rw [runAlternates]
    cases h : (c.run s).outcome with
    | success => exact ih _ _
    | underway => exact ih _ _
    | failure => exact ih _ _

theorem run_alternates (cs : List Pattern) (s : List String) :
    (alternates cs).run s = ((alternates cs).ending s).toMatch s := runAlternates_eq_toMatch cs s none false

/-! ## Sequences -/

theorem ending_sequence_append (xs ys : List Pattern) (s : List String) :
    (sequence (xs ++ ys)).ending s = ((sequence xs).ending s).andThen (sequence ys).ending := by
  induction xs generalizing s with
  | nil => rfl
  | cons c xs ih =>
    have hrest : (sequence (xs ++ ys)).ending = fun r => ((sequence xs).ending r).andThen (sequence ys).ending :=
      funext ih
    rw [List.cons_append, ending_sequence_cons, ending_sequence_cons, hrest, Ending.andThen_assoc]

/-- A sequence inside a sequence hands its rest to what follows. -/
theorem ending_sequence_splice (xs ys zs : List Pattern) (s : List String) :
    (sequence (xs ++ sequence ys :: zs)).ending s = (sequence (xs ++ ys ++ zs)).ending s := by
  have hinner : (sequence (sequence ys :: zs)).ending = (sequence (ys ++ zs)).ending := by
    funext r
    rw [ending_sequence_cons, ending_sequence_append]
  rw [ending_sequence_append, hinner, ← ending_sequence_append, List.append_assoc]

theorem ending_sequence_congr (h : p.ending = q.ending) (xs ys : List Pattern) :
    (sequence (xs ++ p :: ys)).ending = (sequence (xs ++ q :: ys)).ending := by
  have hhead : (sequence (p :: ys)).ending = (sequence (q :: ys)).ending := by
    funext r
    rw [ending_sequence_cons, ending_sequence_cons, h]
  funext s
  rw [ending_sequence_append, ending_sequence_append, hhead]

/-! ## Choices -/

/-- A choice has one ending: rests of one sequence that are equally long are equal. -/
theorem Chosen.unique (h : Chosen cs s e) (h' : Chosen cs s e') : e = e' := by
  cases h with
  | @success c r hc hs hmin =>
    cases h' with
    | @success c' r' hc' hs' hmin' =>
      have hle : r.length ≤ r'.length := hmin c' hc' r' hs'
      have hle' : r'.length ≤ r.length := hmin' c hc r hs
      have hsuffix : r <:+ r' :=
        List.suffix_of_suffix_length_le (suffix_of_success hs) (suffix_of_success hs') hle
      rw [hsuffix.eq_of_length (Nat.le_antisymm hle hle')]
    | underway _ _ hno => exact absurd hs (hno c hc r)
    | failure hf => exact absurd (hs.symm.trans (hf c hc)) (by simp)
  | @underway c hc hu hno =>
    cases h' with
    | @success c' r' hc' hs' _ => exact absurd hs' (hno c' hc' r')
    | underway => rfl
    | failure hf => exact absurd (hu.symm.trans (hf c hc)) (by simp)
  | failure hf =>
    cases h' with
    | @success c' r' hc' hs' _ => exact absurd (hs'.symm.trans (hf c' hc')) (by simp)
    | @underway c' hc' hu' _ => exact absurd (hu'.symm.trans (hf c' hc')) (by simp)
    | failure => rfl

theorem ending_alternates_eq_iff : (alternates cs).ending s = e ↔ Chosen cs s e :=
  ⟨fun h => h ▸ chosen_alternates cs s, (chosen_alternates cs s).unique⟩

/-- A choice that does not fail ends as one of its children. -/
theorem Chosen.exists_child (h : Chosen cs s e) (he : e ≠ .failure) : ∃ c ∈ cs, c.ending s = e := by
  cases h with
  | success hc hs _ => exact ⟨_, hc, hs⟩
  | underway hc hu _ => exact ⟨_, hc, hu⟩
  | failure _ => exact absurd rfl he

/-- The ending is that of other children when one of them has it and they bring no ending that was not there. -/
theorem Chosen.transfer (h : Chosen cs s e) (hthere : e ≠ .failure → ∃ d ∈ ds, d.ending s = e)
    (hback : ∀ d ∈ ds, d.ending s ≠ .failure → ∃ c ∈ cs, c.ending s = d.ending s) : Chosen ds s e := by
  cases h with
  | @success c r hc hs hmin =>
    obtain ⟨d, hd, hds⟩ := hthere (by simp)
    refine .success hd hds fun d' hd' r' hr' => ?_
    obtain ⟨c', hc', hs'⟩ := hback d' hd' (by simp [hr'])
    exact hmin c' hc' r' (hs'.trans hr')
  | @underway c hc hu hno =>
    obtain ⟨d, hd, hdu⟩ := hthere (by simp)
    refine .underway hd hdu fun d' hd' r' hr' => ?_
    obtain ⟨c', hc', hs'⟩ := hback d' hd' (by simp [hr'])
    exact hno c' hc' r' (hs'.trans hr')
  | failure hf =>
    refine .failure fun d hd => Classical.byContradiction fun hne => ?_
    obtain ⟨c, hc, hce⟩ := hback d hd hne
    exact hne (hce.symm.trans (hf c hc))

/-- Which child has an ending does not matter, nor how many have it. -/
theorem ending_alternates_of_endings (h : ∀ e, (∃ c ∈ cs, c.ending s = e) ↔ ∃ d ∈ ds, d.ending s = e) :
    (alternates cs).ending s = (alternates ds).ending s := by
  have hchosen : Chosen cs s ((alternates cs).ending s) := chosen_alternates cs s
  have htransfer : Chosen ds s ((alternates cs).ending s) :=
    hchosen.transfer (fun he => (h _).mp (hchosen.exists_child he)) fun d hd _ => (h _).mpr ⟨d, hd, rfl⟩
  exact htransfer.unique (chosen_alternates ds s)

theorem ending_alternates_of_mem_iff (h : ∀ c, c ∈ cs ↔ c ∈ ds) (s : List String) :
    (alternates cs).ending s = (alternates ds).ending s :=
  ending_alternates_of_endings fun _ => exists_congr fun c => and_congr_left fun _ => h c

theorem ending_alternates_congr (h : p.ending = q.ending) (xs ys : List Pattern) (s : List String) :
    (alternates (xs ++ p :: ys)).ending s = (alternates (xs ++ q :: ys)).ending s := by
  refine ending_alternates_of_endings fun e => ?_
  simp only [List.mem_append, List.mem_cons, or_and_right, exists_or, exists_eq_left, h]

/-- A choice inside a choice competes by its best child. -/
theorem Chosen.splice (h : Chosen (xs ++ ys ++ zs) s e) : Chosen (xs ++ alternates ys :: zs) s e := by
  have hin : ∀ c ∈ ys, c ∈ xs ++ ys ++ zs := fun c hc => List.mem_append_left zs (List.mem_append_right xs hc)
  refine h.transfer (fun he => ?_) fun d hd hne => ?_
  · obtain ⟨c, hc, hce⟩ := h.exists_child he
    simp only [List.mem_append, or_assoc] at hc
    rcases hc with hc | hc | hc
    · exact ⟨c, List.mem_append_left _ hc, hce⟩
    · -- the best of all children is the best of the inner choice
      have hinner : Chosen ys s e := h.transfer (fun _ => ⟨c, hc, hce⟩) fun c' hc' _ => ⟨c', hin c' hc', rfl⟩
      exact ⟨alternates ys, List.mem_append_right xs List.mem_cons_self, ending_alternates_eq_iff.mpr hinner⟩
    · exact ⟨c, List.mem_append_right xs (List.mem_cons_of_mem _ hc), hce⟩
  · rcases List.mem_append.mp hd with hd | hd
    · exact ⟨d, List.mem_append_left zs (List.mem_append_left ys hd), rfl⟩
    · rcases List.mem_cons.mp hd with rfl | hd
      · obtain ⟨c, hc, hce⟩ := (chosen_alternates ys s).exists_child hne
        exact ⟨c, hin c hc, hce⟩
      · exact ⟨d, List.mem_append_right _ hd, rfl⟩

theorem ending_alternates_splice (xs ys zs : List Pattern) (s : List String) :
    (alternates (xs ++ alternates ys :: zs)).ending s = (alternates (xs ++ ys ++ zs)).ending s :=
  ending_alternates_eq_iff.mpr (chosen_alternates _ s).splice

/-! ## Options and repetitions -/

theorem run_optional_nil (c : Pattern) : (optional c).run [] = .succeed [] := rfl

/-- An option of something to read passes on all but failures. -/
theorem run_optional_of_ne_nil (c : Pattern) (hs : s ≠ []) :
    (optional c).run s = if (c.run s).outcome = .failure then .succeed s else c.run s := by
  have hempty : ¬s.isEmpty = true := fun h => hs (List.isEmpty_iff.mp h)
  rw [run, if_neg hempty]
  cases h : (c.run s).outcome <;> simp [h]

/-- Further repetitions never fail. -/
theorem repeatOn_outcome_ne_failure (c : Pattern) (s : List String) : (repeatOn c.run s).outcome ≠ .failure := by
  rw [repeatOn]
  cases h : (c.run s).outcome with
  | success =>
    simp only
    split
    · exact repeatOn_outcome_ne_failure c _
    · simp [Match.succeed]
  | underway =>
    simp only
    split <;> simp [Match.succeed]
  | failure => simp [Match.succeed]
termination_by s.length

theorem run_optional_optional (c : Pattern) (s : List String) : (optional (optional c)).run s = (optional c).run s := by
  by_cases hs : s = []
  · rw [hs, run_optional_nil, run_optional_nil]
  · have hnever : ((optional c).run s).outcome ≠ .failure := by
      rw [run_optional_of_ne_nil c hs]
      split
      · simp [Match.succeed]
      · assumption
    rw [run_optional_of_ne_nil _ hs, if_neg hnever]

theorem run_optional_oneOrMore (c : Pattern) (s : List String) :
    (optional (oneOrMore c)).run s = (zeroOrMore c).run s := by
  by_cases hs : s = []
  · subst hs
    rw [run_optional_nil, run, repeatRun]
    cases h : (c.run []).outcome with
    | success =>
      have hrest : (c.run []).remainder = [] :=
        List.suffix_nil.mp (suffix_of_success (Match.ending_of_success h))
      simp [hrest]
    | underway => rfl
    | failure => rfl
  · have hempty : s.isEmpty = false := List.isEmpty_eq_false_iff.mpr hs
    rw [run_optional_of_ne_nil _ hs, run, run, repeatRun, repeatRun]
    cases h : (c.run s).outcome with
    | success =>
      simp only
      split
      · simp [Match.succeed]
      · simp [repeatOn_outcome_ne_failure]
    | underway => simp [hempty, Match.expectMore]
    | failure => simp [Match.fail]

/-! ## The congruence -/

/-- A pattern written in another way. -/
inductive Rewriting : Pattern → Pattern → Prop
  /-- The children of a choice in another order. -/
  | permute {cs ds : List Pattern} : cs.Perm ds → Rewriting (.alternates cs) (.alternates ds)
  /-- A child of a choice once more. -/
  | duplicate {c : Pattern} {cs : List Pattern} : c ∈ cs → Rewriting (.alternates cs) (.alternates (c :: cs))
  /-- A choice among the children of a choice. -/
  | spliceAlternates (xs ys zs : List Pattern) :
      Rewriting (.alternates (xs ++ .alternates ys :: zs)) (.alternates (xs ++ ys ++ zs))
  /-- A sequence among the children of a sequence. -/
  | spliceSequence (xs ys zs : List Pattern) :
      Rewriting (.sequence (xs ++ .sequence ys :: zs)) (.sequence (xs ++ ys ++ zs))
  /-- Any number of times is at least once or not at all. -/
  | repetition (c : Pattern) : Rewriting (.zeroOrMore c) (.optional (.oneOrMore c))
  /-- An option of an option. -/
  | option (c : Pattern) : Rewriting (.optional (.optional c)) (.optional c)

/-- The least congruence that contains the rewritings. -/
inductive Interchangeable : Pattern → Pattern → Prop
  | rewriting {p q : Pattern} : Rewriting p q → Interchangeable p q
  | refl (p : Pattern) : Interchangeable p p
  | symm {p q : Pattern} : Interchangeable p q → Interchangeable q p
  | trans {p q t : Pattern} : Interchangeable p q → Interchangeable q t → Interchangeable p t
  | sequence (xs ys : List Pattern) {p q : Pattern} :
      Interchangeable p q → Interchangeable (.sequence (xs ++ p :: ys)) (.sequence (xs ++ q :: ys))
  | alternates (xs ys : List Pattern) {p q : Pattern} :
      Interchangeable p q → Interchangeable (.alternates (xs ++ p :: ys)) (.alternates (xs ++ q :: ys))
  | oneOrMore {p q : Pattern} : Interchangeable p q → Interchangeable (.oneOrMore p) (.oneOrMore q)
  | zeroOrMore {p q : Pattern} : Interchangeable p q → Interchangeable (.zeroOrMore p) (.zeroOrMore q)
  | optional {p q : Pattern} : Interchangeable p q → Interchangeable (.optional p) (.optional q)

theorem Rewriting.run_eq (h : Rewriting p q) (s : List String) : p.run s = q.run s := by
  cases h with
  | permute hperm =>
    rw [run_alternates, run_alternates, ending_alternates_of_mem_iff (fun _ => hperm.mem_iff)]
  | @duplicate c cs hc =>
    have hsame : ∀ c', c' ∈ cs ↔ c' ∈ c :: cs := fun c' =>
      ⟨List.mem_cons_of_mem c, fun h => (List.mem_cons.mp h).elim (fun e => e ▸ hc) id⟩
    rw [run_alternates, run_alternates, ending_alternates_of_mem_iff hsame]
  | spliceAlternates xs ys zs => rw [run_alternates, run_alternates, ending_alternates_splice]
  | spliceSequence xs ys zs => rw [run_sequence, run_sequence, ending_sequence_splice]
  | repetition c => exact (run_optional_oneOrMore c s).symm
  | option c => exact run_optional_optional c s

theorem Interchangeable.run_eq (h : Interchangeable p q) : p.run = q.run := by
  induction h with
  | rewriting h => exact funext h.run_eq
  | refl p => rfl
  | symm _ ih => exact ih.symm
  | trans _ _ ih ih' => exact ih.trans ih'
  | @sequence xs ys p q _ ih =>
    have hending : p.ending = q.ending := by
      funext s
      rw [ending, ending, ih]
    funext s
    rw [run_sequence, run_sequence, ending_sequence_congr hending]
  | @alternates xs ys p q _ ih =>
    have hending : p.ending = q.ending := by
      funext s
      rw [ending, ending, ih]
    funext s
    rw [run_alternates, run_alternates, ending_alternates_congr hending]
  | oneOrMore _ ih =>
    funext s
    rw [run, run, ih]
  | zeroOrMore _ ih =>
    funext s
    rw [run, run, ih]
  | optional _ ih =>
    funext s
    rw [run, run, ih]

theorem canAppend_of_run_eq (h : p.run = q.run) (recorded : List String) (next : String) :
    p.canAppend recorded next = q.canAppend recorded next := by
  rw [canAppend, canAppend, h]

/-- Occurrences of patterns with the same matches accept and refuse the same templates, with the same errors. -/
theorem appendAll_of_run_eq (h : p.run = q.run) (registration : Uuid) (state : MatchState) (xs : List String) :
    ((Occurrence.mk registration p state).appendAll xs).map id Occurrence.state =
      ((Occurrence.mk registration q state).appendAll xs).map id Occurrence.state := by
  induction xs generalizing state with
  | nil => rfl
  | cons x xs ih =>
    have hnext : (Occurrence.mk registration p state).canAppend x =
        (Occurrence.mk registration q state).canAppend x := canAppend_of_run_eq h state.templates x
    rw [Occurrence.appendAll, Occurrence.appendAll, Occurrence.append, Occurrence.append, hnext]
    by_cases hx : (Occurrence.mk registration q state).canAppend x = true
    · rw [if_pos hx, if_pos hx]
      exact ih _
    · rw [if_neg hx, if_neg hx]
      rfl

/-- **Rewriting a pattern is not seen by matching.** Interchangeable patterns have the same outcome and the same
remainder on every sequence and allow the same templates next. An occurrence of the one goes as an occurrence of the
other does, and is complete when the other is. -/
theorem rewriting_preserves_matching (h : Interchangeable p q) :
    (∀ s, (p.run s).outcome = (q.run s).outcome ∧ (p.run s).remainder = (q.run s).remainder) ∧
      (∀ recorded next, p.canAppend recorded next = q.canAppend recorded next) ∧
      ∀ registration state,
        (∀ xs, ((Occurrence.mk registration p state).appendAll xs).map id Occurrence.state =
          ((Occurrence.mk registration q state).appendAll xs).map id Occurrence.state) ∧
        (Occurrence.mk registration p state).isComplete = (Occurrence.mk registration q state).isComplete := by
  have hrun : p.run = q.run := h.run_eq
  refine ⟨fun s => ?_, canAppend_of_run_eq hrun, fun registration state =>
    ⟨appendAll_of_run_eq hrun registration state, ?_⟩⟩
  · rw [hrun]
    exact ⟨rfl, rfl⟩
  · show (p.run state.templates).isComplete = (q.run state.templates).isComplete
    rw [hrun]

/-- A reading that is begun, picked up again any number of times, and finished or given up. -/
def reading : Pattern :=
  .sequence [.leaf "begun", .zeroOrMore (.leaf "resumed"), .alternates [.leaf "finished", .leaf "dropped"]]

/-- The same reading with the choice the other way round and the repetition as an option. -/
def readingRewritten : Pattern :=
  .sequence [.leaf "begun", .optional (.oneOrMore (.leaf "resumed")), .alternates [.leaf "dropped", .leaf "finished"]]

theorem reading_interchangeable : Interchangeable reading readingRewritten := by
  have hrepeat : Interchangeable reading (.sequence [.leaf "begun", .optional (.oneOrMore (.leaf "resumed")),
      .alternates [.leaf "finished", .leaf "dropped"]]) :=
    .sequence [.leaf "begun"] _ (.rewriting (.repetition _))
  exact hrepeat.trans (.sequence [.leaf "begun", .optional (.oneOrMore (.leaf "resumed"))] []
    (.rewriting (.permute (.swap _ _ _))))

/-- Both readings stop at what they do not know, with the same rest. -/
theorem rewriting_preserves_matching_reading :
    Interchangeable reading readingRewritten ∧
      reading.run ["begun", "resumed", "dropped", "resumed"] = .succeed ["resumed"] ∧
      (readingRewritten.run ["begun", "resumed", "dropped", "resumed"]).remainder = ["resumed"] ∧
      readingRewritten.canAppend ["begun", "resumed"] "dropped" = true := by
  obtain ⟨hrun, hnext, -⟩ := rewriting_preserves_matching reading_interchangeable
  have hread : reading.run ["begun", "resumed", "dropped", "resumed"] = .succeed ["resumed"] := by decide +kernel
  refine ⟨reading_interchangeable, hread, ?_, ?_⟩
  · rw [← (hrun _).2, hread]
    rfl
  · rw [← hnext]
    decide +kernel

end Pattern

end StatementProfiles
