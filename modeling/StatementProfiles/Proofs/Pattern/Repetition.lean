import Mathlib.Data.List.Chain
import StatementProfiles.Proofs.Pattern.Rewriting

/-!
# The rounds of a repetition

A repetition goes on in rounds: a round that reads something leaves less to the next, and any other is the last
(`Pattern.round`). `Rounds c s rests m` is the course of the rounds on `s`, with what each leaves and the match at the
end. There is one from everywhere (`exists_rounds`), its rests get shorter and shorter (`Rounds.isChain`), and where it
ends with a success another round would read nothing (`Rounds.readsNothing`). **A repetition is therefore its
unrolling**: the child, and then any number of children (`repetition_unrolls`).
-/

namespace StatementProfiles

/-- What a round of a repetition comes to. -/
inductive Round where
  /-- It read something and leaves `rest` to the next round. -/
  | next (rest : List String)
  /-- It is the last, and the repetition ends with this match. -/
  | last (m : Match)

/-- The same outcome and, unless more is expected, the same rest. -/
def Match.AgreesWith (m n : Match) : Prop :=
  m.outcome = n.outcome ∧ (m.isUnderway = false → m.remainder = n.remainder)

namespace Pattern

variable {c p q : Pattern} {s r : List String} {rests : List (List String)} {m : Match}

/-! ## Matches that are not under way -/

theorem zeroOrMore_ne_failure (c : Pattern) (s : List String) : (zeroOrMore c).ending s ≠ .failure := by
  rw [ending_zeroOrMore_eq_repeatOn, ne_eq, Match.ending_eq_failure_iff]
  exact repeatOn_outcome_ne_failure c s

theorem optional_ne_failure (c : Pattern) (s : List String) : (optional c).ending s ≠ .failure := by
  rw [ending_optional]
  split
  · simp
  · cases c.ending s <;> simp

/-- A failure leaves everything. -/
theorem run_of_failure (h : p.ending s = .failure) : p.run s = .fail s := by
  cases p with
  | leaf id =>
    cases s with
    | nil => cases h
    | cons x s =>
      rw [ending_leaf_cons] at h
      split at h
      · cases h
      · next hne => simp [run, hne]
  | sequence cs => rw [run_sequence, h, Ending.toMatch]
  | alternates cs => rw [run_alternates, h, Ending.toMatch]
  | oneOrMore c =>
    -- only a child that fails at once makes a repetition fail
    rw [ending_oneOrMore] at h
    cases hc : c.ending s with
    | success r =>
      rw [hc] at h
      exact absurd h (zeroOrMore_ne_failure c r)
    | underway => rw [hc] at h; cases h
    | failure => simp [run, repeatRun, Match.ending_eq_failure_iff.mp hc]
  | zeroOrMore c => exact absurd h (zeroOrMore_ne_failure c s)
  | optional c => exact absurd h (optional_ne_failure c s)

theorem run_eq_succeed_iff : p.run s = .succeed r ↔ p.ending s = .success r := by
  rw [ending, Match.ending_eq_success_iff, Match.succeed]
  constructor
  · intro h
    rw [h]
    exact ⟨rfl, rfl⟩
  · rintro ⟨ho, hr⟩
    rw [← ho, ← hr]

/-- Patterns that end alike match alike, up to what is left under way. -/
theorem agreesWith_of_ending_eq (h : p.ending s = q.ending s) : (p.run s).AgreesWith (q.run s) := by
  cases hp : p.ending s with
  | success r =>
    rw [run_eq_succeed_iff.mpr hp, run_eq_succeed_iff.mpr (h.symm.trans hp)]
    exact ⟨rfl, fun _ => rfl⟩
  | underway =>
    have hpo : (p.run s).outcome = .underway := Match.ending_eq_underway_iff.mp hp
    have hqo : (q.run s).outcome = .underway := Match.ending_eq_underway_iff.mp (h.symm.trans hp)
    exact ⟨hpo.trans hqo.symm, fun hnot => by simp [Match.isUnderway, hpo] at hnot⟩
  | failure =>
    rw [run_of_failure hp, run_of_failure (h.symm.trans hp)]
    exact ⟨rfl, fun _ => rfl⟩

/-! ## Rounds -/

/-- A round on what is left. -/
def round (c : Pattern) (s : List String) : Round :=
  match (c.run s).outcome with
  | .success => if (c.run s).remainder.length < s.length then .next (c.run s).remainder else .last (.succeed s)
  | .underway => if s.isEmpty then .last (.succeed s) else .last ⟨.underway, s⟩
  | .failure => .last (.succeed s)

/-- A first match that reads something is followed by rounds. -/
theorem repeatRun_of_success (atLeastOnce : Bool) (hs : c.ending s = .success r) (hr : r.length ≠ s.length) :
    repeatRun c.run atLeastOnce s = repeatOn c.run r := by
  obtain ⟨ho, rfl⟩ := Match.ending_eq_success_iff.mp hs
  simp [repeatRun, ho, hr]

/-- Further repetitions are one round and what follows it. -/
theorem repeatOn_eq_round (c : Pattern) (s : List String) :
    repeatOn c.run s =
      match c.round s with
      | .next r => repeatOn c.run r
      | .last m => m := by
  rw [repeatOn, round]
  cases (c.run s).outcome with
  | success => simp only; split <;> rfl
  | underway => simp only; split <;> rfl
  | failure => rfl

/-- A match of the child reads nothing: it fails, it succeeds and leaves everything, or more is expected of nothing. -/
def ReadsNothing (c : Pattern) (s : List String) : Prop :=
  (c.run s).isFailure = true ∨ c.run s = .succeed s ∨ (c.run s).isUnderway = true ∧ s = []

/-- All that a round can come to. -/
theorem round_cases (c : Pattern) (s : List String) :
    (∃ r, c.round s = .next r ∧ c.ending s = .success r ∧ r.length < s.length) ∨
      (c.round s = .last (.succeed s) ∧ c.ReadsNothing s) ∨
      (c.round s = .last ⟨.underway, s⟩ ∧ c.ending s = .underway ∧ s ≠ []) := by
  cases ho : (c.run s).outcome with
  | success =>
    have hround : c.round s =
        if (c.run s).remainder.length < s.length then .next (c.run s).remainder else .last (.succeed s) := by
      rw [round, ho]
    have hs : c.ending s = .success (c.run s).remainder := Match.ending_of_success ho
    by_cases hlt : (c.run s).remainder.length < s.length
    · exact .inl ⟨_, hround.trans (if_pos hlt), hs, hlt⟩
    · have hrest : (c.run s).remainder = s := (suffix_of_success hs).eq_of_length_le (Nat.le_of_not_lt hlt)
      rw [hrest] at hs
      exact .inr (.inl ⟨hround.trans (if_neg hlt), .inr (.inl (run_eq_succeed_iff.mpr hs))⟩)
  | underway =>
    have hround : c.round s = if s.isEmpty then .last (.succeed s) else .last ⟨.underway, s⟩ := by rw [round, ho]
    have hu : c.ending s = .underway := Match.ending_of_underway ho
    cases s with
    | nil => exact .inr (.inl ⟨hround, .inr (.inr ⟨isUnderway_run.mpr hu, rfl⟩)⟩)
    | cons x s => exact .inr (.inr ⟨hround, hu, List.cons_ne_nil x s⟩)
  | failure =>
    have hround : c.round s = .last (.succeed s) := by rw [round, ho]
    exact .inr (.inl ⟨hround, .inl (isFailure_run.mpr (Match.ending_of_failure ho))⟩)

theorem round_eq_next (h : c.round s = .next r) : c.ending s = .success r ∧ r.length < s.length := by
  rcases round_cases c s with ⟨r', hr, hs⟩ | ⟨hr, -⟩ | ⟨hr, -⟩ <;> rw [hr] at h <;> cases h
  exact hs

theorem round_eq_last (h : c.round s = .last m) :
    (m = .succeed s ∧ c.ReadsNothing s) ∨ (m = ⟨.underway, s⟩ ∧ c.ending s = .underway) := by
  rcases round_cases c s with ⟨r, hr, -⟩ | ⟨hr, hnothing⟩ | ⟨hr, hu, -⟩ <;> rw [hr] at h <;> cases h
  · exact .inl ⟨rfl, hnothing⟩
  · exact .inr ⟨rfl, hu⟩

/-- The second is a rest of the first, and shorter. -/
def Shrinks (before after : List String) : Prop := after <:+ before ∧ after.length < before.length

theorem shrinks_of_round (h : c.round s = .next r) : Shrinks s r :=
  ⟨suffix_of_success (round_eq_next h).1, (round_eq_next h).2⟩

/-- The course of the rounds from `s` on: what each round but the last leaves to the next, and the match at the end. -/
inductive Rounds (c : Pattern) : List String → List (List String) → Match → Prop
  | last {s : List String} {m : Match} : c.round s = .last m → Rounds c s [] m
  | next {s r : List String} {rests : List (List String)} {m : Match} :
      c.round s = .next r → Rounds c r rests m → Rounds c s (r :: rests) m

/-- The rounds come to an end, which is the match of the repetitions. -/
theorem exists_rounds (c : Pattern) (s : List String) : ∃ rests, Rounds c s rests (repeatOn c.run s) := by
  rw [repeatOn_eq_round]
  cases hr : c.round s with
  | next r =>
    have hlt : r.length < s.length := (round_eq_next hr).2
    obtain ⟨rests, h⟩ := exists_rounds c r
    exact ⟨r :: rests, .next hr h⟩
  | last m => exact ⟨[], .last hr⟩
termination_by s.length

/-- Every round but the last leaves less. -/
theorem Rounds.isChain (h : Rounds c s rests m) : (s :: rests).IsChain Shrinks := by
  induction h with
  | last _ => exact .singleton _
  | next hr _ ih => exact .cons_cons (shrinks_of_round hr) ih

/-- There are no more rounds than templates to read, and the last one. -/
theorem Rounds.length_le (h : Rounds c s rests m) : rests.length ≤ s.length := by
  induction h with
  | last _ => exact Nat.zero_le _
  | next hr _ ih => exact Nat.le_trans (Nat.succ_le_succ ih) (round_eq_next hr).2

/-- After rounds that end with a success the child reads nothing more. -/
theorem Rounds.readsNothing (h : Rounds c s rests m) (hm : m.ending = .success r) : c.ReadsNothing r := by
  induction h with
  | @last s m hlast =>
    rcases round_eq_last hlast with ⟨rfl, hnothing⟩ | ⟨rfl, -⟩
    · cases hm
      exact hnothing
    · cases hm
  | next _ _ ih => exact ih hm

/-! ## Unrolling -/

/-- What `zeroOrMore` leaves is what its child reads nothing of. -/
theorem readsNothing_of_zeroOrMore (h : (zeroOrMore c).ending s = .success r) : c.ReadsNothing r := by
  obtain ⟨rests, hrounds⟩ := exists_rounds c s
  exact hrounds.readsNothing ((ending_zeroOrMore_eq_repeatOn c s).symm.trans h)

theorem readsNothing_of_oneOrMore (h : (oneOrMore c).ending s = .success r) : c.ReadsNothing r := by
  rw [ending_oneOrMore] at h
  obtain ⟨rest, -, hrest⟩ := Ending.andThen_eq_success h
  exact readsNothing_of_zeroOrMore hrest

/-- A child that reads nothing is repeated no times. -/
theorem ReadsNothing.run_zeroOrMore (h : c.ReadsNothing s) : (zeroOrMore c).run s = .succeed s := by
  rw [run_eq_succeed_iff, ending_zeroOrMore]
  rcases h with hf | hs | ⟨hu, rfl⟩
  · rw [isFailure_run.mp hf]
  · rw [run_eq_succeed_iff.mp hs]
    simp
  · rw [isUnderway_run.mp hu, if_pos rfl]

/-- At least one child is a child and then any number of them. -/
theorem ending_oneOrMore_eq_sequence (c : Pattern) (s : List String) :
    (oneOrMore c).ending s = (sequence [c, zeroOrMore c]).ending s := by
  have hlast : (sequence [zeroOrMore c]).ending = (zeroOrMore c).ending := by
    funext r
    rw [ending_sequence_cons]
    cases (zeroOrMore c).ending r <;> rfl
  rw [ending_oneOrMore, ending_sequence_cons, hlast]

/-- Any number of children is none, or a child and then any number of them. -/
theorem ending_zeroOrMore_eq_optional (c : Pattern) (s : List String) :
    (zeroOrMore c).ending s = (optional (sequence [c, zeroOrMore c])).ending s := by
  have hoption : (zeroOrMore c).ending s = (optional (oneOrMore c)).ending s := by
    rw [ending, ending, run_optional_oneOrMore]
  rw [hoption, ending_optional, ending_optional, ending_oneOrMore_eq_sequence]

/-- **A repetition is its unrolling.** When the first child reads something, rounds follow: they come to an end, each
but the last leaves less, and the last gives the match. `oneOrMore` matches like its child followed by `zeroOrMore`, and
`zeroOrMore` like an option of that. Of what a repetition leaves the child reads nothing, so `zeroOrMore` leaves all of
it. -/
theorem repetition_unrolls (p : Pattern) (s : List String) :
    (∀ atLeastOnce, (p.run s).isSuccess = true → (p.run s).remainder.length ≠ s.length →
        ∃ rests m, Rounds p (p.run s).remainder rests m ∧ rests.length ≤ (p.run s).remainder.length ∧
          (s :: (p.run s).remainder :: rests).IsChain Shrinks ∧ repeatRun p.run atLeastOnce s = m) ∧
      ((oneOrMore p).run s).AgreesWith ((sequence [p, zeroOrMore p]).run s) ∧
      ((zeroOrMore p).run s).AgreesWith ((optional (sequence [p, zeroOrMore p])).run s) ∧
      ∀ r, (oneOrMore p).run s = .succeed r ∨ (zeroOrMore p).run s = .succeed r →
        ((p.run r).isFailure = true ∨ p.run r = .succeed r ∨ (p.run r).isUnderway = true ∧ r = []) ∧
          (zeroOrMore p).run r = .succeed r := by
  refine ⟨fun atLeastOnce hs hlength => ?_, agreesWith_of_ending_eq (ending_oneOrMore_eq_sequence p s),
    agreesWith_of_ending_eq (ending_zeroOrMore_eq_optional p s), fun r hr => ?_⟩
  · have hfirst : p.ending s = .success (p.run s).remainder := Match.isSuccess_iff.mp hs
    have hsuffix : (p.run s).remainder <:+ s := suffix_of_success hfirst
    have hshrinks : Shrinks s (p.run s).remainder := ⟨hsuffix, Nat.lt_of_le_of_ne hsuffix.length_le hlength⟩
    obtain ⟨rests, hrounds⟩ := exists_rounds p (p.run s).remainder
    exact ⟨rests, _, hrounds, hrounds.length_le, .cons_cons hshrinks hrounds.isChain,
      repeatRun_of_success atLeastOnce hfirst hlength⟩
  · have hnothing : p.ReadsNothing r := by
      rcases hr with hr | hr
      · exact readsNothing_of_oneOrMore (run_eq_succeed_iff.mp hr)
      · exact readsNothing_of_zeroOrMore (run_eq_succeed_iff.mp hr)
    exact ⟨hnothing, hnothing.run_zeroOrMore⟩

/-- Under way the rests may differ: the second pause is left by the rounds and not by the sequence. -/
example :
    (oneOrMore (sequence [leaf "paused", leaf "resumed"])).run ["paused", "resumed", "paused"] =
        ⟨.underway, ["paused"]⟩ ∧
      (sequence [sequence [leaf "paused", leaf "resumed"],
        zeroOrMore (sequence [leaf "paused", leaf "resumed"])]).run ["paused", "resumed", "paused"] =
        .expectMore := by
  decide +kernel

end Pattern

end StatementProfiles
