import StatementProfiles.Proofs.Pattern.Language
import StatementProfiles.Proofs.Pattern.Repetition

/-!
# What a match leaves

A success has read a word of the pattern and leaves what follows it (`exists_word_of_success`), and a failure leaves
everything. Under way nothing is left, unless the pattern is a repetition, perhaps under options (`Pattern.repeated?`),
that has made rounds: these have read words of its child, and the child is under way on what is left
(`exists_words_of_underway`). **So every match leaves a rest of the sequence, and its shape is known**
(`remainder_shape`).
-/

namespace StatementProfiles

namespace Pattern

open Computability

variable {c p : Pattern} {L : Language String} {s r : List String} {rests : List (List String)} {m : Match}

/-! ## Words that were read -/

section Words

variable (hc : ∀ {s r : List String}, c.ending s = .success r → ∃ w ∈ L, s = w ++ r)

include hc

/-- A match that leaves less has read a word that is not empty. -/
theorem exists_word_of_shorter (hs : c.ending s = .success r) (hlt : r.length < s.length) :
    ∃ w, (w ≠ [] ∧ w ∈ L) ∧ s = w ++ r := by
  obtain ⟨w, hw, rfl⟩ := hc hs
  refine ⟨w, ⟨?_, hw⟩, rfl⟩
  rintro rfl
  exact Nat.lt_irrefl _ hlt

/-- The rounds of a repetition read words one after another. -/
theorem Rounds.exists_words (h : Rounds c s rests m) :
    ∃ words : List (List String), (∀ w ∈ words, w ≠ [] ∧ w ∈ L) ∧ s = words.flatten ++ m.remainder := by
  induction h with
  | last hlast => rcases round_eq_last hlast with ⟨rfl, -⟩ | ⟨rfl, -⟩ <;> exact ⟨[], by simp, rfl⟩
  | next hr _ ih =>
    obtain ⟨words, hwords, hrest⟩ := ih
    obtain ⟨w, hw, hs⟩ := exists_word_of_shorter hc (round_eq_next hr).1 (round_eq_next hr).2
    refine ⟨w :: words, List.forall_mem_cons.mpr ⟨hw, hwords⟩, ?_⟩
    rw [List.flatten_cons, List.append_assoc, ← hrest, hs]

theorem exists_word_of_zeroOrMore (h : (zeroOrMore c).ending s = .success r) : ∃ w ∈ L∗, s = w ++ r := by
  obtain ⟨rests, hrounds⟩ := exists_rounds c s
  obtain ⟨words, hwords, hs⟩ := hrounds.exists_words hc
  rw [ending_zeroOrMore_eq_repeatOn] at h
  rw [(Match.ending_eq_success_iff.mp h).2] at hs
  exact ⟨words.flatten, Language.join_mem_kstar fun w hw => (hwords w hw).2, hs⟩

end Words

/-- **A success has read a word of the pattern**, whatever its choices are. -/
theorem exists_word_of_success (h : p.ending s = .success r) : ∃ w ∈ p.language, s = w ++ r := by
  induction p generalizing s r with
  | leaf id =>
    cases s with
    | nil => cases h
    | cons x s =>
      rw [ending_leaf_cons] at h
      split at h
      · next hx =>
        cases h
        exact ⟨[id], rfl, by rw [hx]; rfl⟩
      · cases h
  | sequence cs ih =>
    induction cs generalizing s with
    | nil =>
      cases h
      exact ⟨[], Language.nil_mem_one, rfl⟩
    | cons c cs ihs =>
      rw [ending_sequence_cons] at h
      obtain ⟨rest, hs, hr⟩ := Ending.andThen_eq_success h
      obtain ⟨u, hu, rfl⟩ := ih c List.mem_cons_self hs
      obtain ⟨v, hv, rfl⟩ := ihs (fun c' hc' => ih c' (List.mem_cons_of_mem _ hc')) hr
      exact ⟨u ++ v, Language.append_mem_mul hu hv, (List.append_assoc u v r).symm⟩
  | alternates cs ih =>
    obtain ⟨c, hc, hs⟩ := (chosen_alternates cs s).exists_child (by rw [h]; simp)
    obtain ⟨w, hw, hsw⟩ := ih c hc (hs.trans h)
    exact ⟨w, mem_language_alternates.mpr ⟨c, hc, hw⟩, hsw⟩
  | oneOrMore c ih =>
    rw [ending_oneOrMore] at h
    obtain ⟨rest, hs, hr⟩ := Ending.andThen_eq_success h
    obtain ⟨u, hu, rfl⟩ := ih hs
    obtain ⟨v, hv, rfl⟩ := exists_word_of_zeroOrMore ih hr
    exact ⟨u ++ v, Language.append_mem_mul hu hv, (List.append_assoc u v r).symm⟩
  | zeroOrMore c ih => exact exists_word_of_zeroOrMore ih h
  | optional c ih =>
    have hskip : [] ∈ (optional c).language := nil_mem_one_add _
    rw [ending_optional] at h
    split at h
    · next hs =>
      cases h
      exact ⟨[], hskip, hs⟩
    · cases he : c.ending s with
      | success r' =>
        rw [he] at h
        cases h
        obtain ⟨w, hw, hsw⟩ := ih he
        exact ⟨w, mem_one_add hw, hsw⟩
      | underway =>
        rw [he] at h
        cases h
      | failure =>
        rw [he] at h
        cases h
        exact ⟨[], hskip, rfl⟩

/-! ## What is left under way -/

/-- The child that the pattern repeats, be it under options. -/
def repeated? : Pattern → Option Pattern
  | .oneOrMore c | .zeroOrMore c => some c
  | .optional p => repeated? p
  | _ => none

/-- What rounds leave under way the child is under way on. -/
theorem Rounds.isUnderway (h : Rounds c s rests m) (hm : m.outcome = .underway) :
    (c.run m.remainder).isUnderway = true := by
  induction h with
  | last hlast =>
    rcases round_eq_last hlast with ⟨rfl, -⟩ | ⟨rfl, hu⟩
    · cases hm
    · exact isUnderway_run.mpr hu
  | next _ _ ih => exact ih hm

/-- A repetition that is under way with something left has made rounds. -/
theorem exists_words_of_repeatRun {atLeastOnce : Bool} (hm : repeatRun c.run atLeastOnce s = m)
    (hu : m.outcome = .underway) (hleft : m.remainder ≠ []) :
    ∃ words : List (List String), words ≠ [] ∧ (∀ w ∈ words, w ≠ [] ∧ w ∈ c.language) ∧
      s = words.flatten ++ m.remainder ∧ (c.run m.remainder).isUnderway = true := by
  cases he : c.ending s with
  | success r =>
    by_cases hlength : r.length = s.length
    · -- a first match that reads nothing is the end of it
      obtain ⟨ho, rfl⟩ := Match.ending_eq_success_iff.mp he
      simp only [repeatRun, ho, hlength, if_pos] at hm
      cases hm
      cases hu
    · have hlt : r.length < s.length := Nat.lt_of_le_of_ne (suffix_of_success he).length_le hlength
      obtain ⟨w, hw, hsw⟩ := exists_word_of_shorter exists_word_of_success he hlt
      obtain ⟨rests, hrounds⟩ := exists_rounds c r
      rw [← repeatRun_of_success atLeastOnce he hlength, hm] at hrounds
      obtain ⟨words, hwords, hr⟩ := hrounds.exists_words exists_word_of_success
      refine ⟨w :: words, List.cons_ne_nil w words, List.forall_mem_cons.mpr ⟨hw, hwords⟩, ?_, hrounds.isUnderway hu⟩
      rw [List.flatten_cons, List.append_assoc, ← hr, hsw]
  | underway =>
    have ho : (c.run s).outcome = .underway := Match.ending_eq_underway_iff.mp he
    simp only [repeatRun, ho] at hm
    split at hm <;> cases hm
    · cases hu
    · exact absurd rfl hleft
  | failure =>
    have ho : (c.run s).outcome = .failure := Match.ending_eq_failure_iff.mp he
    simp only [repeatRun, ho] at hm
    split at hm <;> cases hm <;> cases hu

/-- **What is left under way** is what rounds of a repetition leave. -/
theorem exists_words_of_underway (h : p.ending s = .underway) (hleft : (p.run s).remainder ≠ []) :
    ∃ c words, p.repeated? = some c ∧ words ≠ [] ∧ (∀ w ∈ words, w ≠ [] ∧ w ∈ c.language) ∧
      s = words.flatten ++ (p.run s).remainder ∧ (c.run (p.run s).remainder).isUnderway = true := by
  induction p with
  | leaf id =>
    cases s with
    | nil => exact absurd rfl hleft
    | cons x s =>
      rw [ending_leaf_cons] at h
      split at h <;> cases h
  | sequence cs =>
    rw [run_sequence, h] at hleft
    exact absurd rfl hleft
  | alternates cs =>
    rw [run_alternates, h] at hleft
    exact absurd rfl hleft
  | oneOrMore c =>
    obtain ⟨words, hwords⟩ := exists_words_of_repeatRun rfl (Match.ending_eq_underway_iff.mp h) hleft
    exact ⟨c, words, rfl, hwords⟩
  | zeroOrMore c =>
    obtain ⟨words, hwords⟩ := exists_words_of_repeatRun rfl (Match.ending_eq_underway_iff.mp h) hleft
    exact ⟨c, words, rfl, hwords⟩
  | optional p ih =>
    have hs : s ≠ [] := by
      rintro rfl
      cases h
    -- an option that is under way has passed on the match of its child
    have hrun : (optional p).run s = p.run s := by
      rw [run_optional_of_ne_nil p hs, if_neg]
      intro ho
      have hf : p.ending s = .failure := Match.ending_of_failure ho
      rw [ending_optional, if_neg hs, hf] at h
      cases h
    rw [hrun] at hleft ⊢
    rw [ending, hrun] at h
    exact ih h hleft

/-- **The shape of what a match leaves.** It is a rest of the sequence, and all of it after a failure. Under way it is
empty, unless the pattern is a repetition, perhaps under options. What such a repetition leaves, if anything, follows
one or more words of its child, and the child is under way on it. -/
theorem remainder_shape (p : Pattern) (s : List String) :
    (p.run s).remainder <:+ s ∧
      ((p.run s).isFailure = true → (p.run s).remainder = s) ∧
      ((p.run s).isUnderway = true → p.repeated? = none → (p.run s).remainder = []) ∧
      ∀ c, (p.run s).isUnderway = true → p.repeated? = some c → (p.run s).remainder ≠ [] →
        ∃ words, words ≠ [] ∧ (∀ w ∈ words, w ≠ [] ∧ w ∈ c.language) ∧
          s = words.flatten ++ (p.run s).remainder ∧ (c.run (p.run s).remainder).isUnderway = true := by
  have hfailed : (p.run s).isFailure = true → (p.run s).remainder = s := by
    intro hf
    rw [run_of_failure (isFailure_run.mp hf), Match.fail]
  refine ⟨?_, hfailed, fun hu hno => ?_, fun c hu hc hleft => ?_⟩
  · cases he : p.ending s with
    | success r =>
      rw [run_eq_succeed_iff.mpr he]
      exact suffix_of_success he
    | underway =>
      by_cases hleft : (p.run s).remainder = []
      · rw [hleft]
        exact List.nil_suffix
      · obtain ⟨_, words, -, -, -, hs, -⟩ := exists_words_of_underway he hleft
        exact ⟨words.flatten, hs.symm⟩
    | failure => rw [hfailed (isFailure_run.mpr he)]
  · by_contra hleft
    obtain ⟨c, _, hc, -⟩ := exists_words_of_underway (isUnderway_run.mp hu) hleft
    rw [hno] at hc
    cases hc
  · obtain ⟨c', words, hc', hwords⟩ := exists_words_of_underway (isUnderway_run.mp hu) hleft
    cases hc.symm.trans hc'
    exact ⟨words, hwords⟩

end Pattern

end StatementProfiles
