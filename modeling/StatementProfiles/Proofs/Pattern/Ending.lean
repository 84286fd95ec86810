import StatementProfiles.Pattern.Match

/-!
# How a run of a pattern ends

`Pattern.ending` keeps of a run what its callers look at: whether it succeeds and with which rest, is under way, or
fails. The operators of patterns have equations on endings:

- a sequence hands the rest of its first child to the others (`ending_sequence_cons`);
- a choice takes the success that leaves least, else is under way if a child is (`chosen_alternates`);
- `oneOrMore` is its child and then `zeroOrMore` (`ending_oneOrMore`), which starts anew on every rest that got shorter
  (`ending_zeroOrMore`).
-/

namespace StatementProfiles

/-- How a match ends. -/
inductive Ending where
  /-- The pattern is satisfied and leaves `rest`. -/
  | success (rest : List String)
  /-- More was expected. -/
  | underway
  /-- The sequence cannot be produced. -/
  | failure

/-- What comes after a success. -/
def Ending.andThen (e : Ending) (next : List String → Ending) : Ending :=
  match e with
  | .success rest => next rest
  | e => e

@[simp] theorem Ending.andThen_success (r : List String) (next : List String → Ending) :
    (Ending.success r).andThen next = next r := rfl

@[simp] theorem Ending.andThen_underway (next : List String → Ending) : Ending.underway.andThen next = .underway := rfl

@[simp] theorem Ending.andThen_failure (next : List String → Ending) : Ending.failure.andThen next = .failure := rfl

/-- A failure is made good by reading nothing of `s`. -/
def Ending.orSkip (e : Ending) (s : List String) : Ending :=
  match e with
  | .failure => .success s
  | e => e

@[simp] theorem Ending.orSkip_success (r s : List String) : (Ending.success r).orSkip s = .success r := rfl

@[simp] theorem Ending.orSkip_underway (s : List String) : Ending.underway.orSkip s = .underway := rfl

@[simp] theorem Ending.orSkip_failure (s : List String) : Ending.failure.orSkip s = .success s := rfl

/-- The same ending with `t` behind what was to be read. -/
def Ending.extend (e : Ending) (t : List String) : Ending :=
  match e with
  | .success r => .success (r ++ t)
  | e => e

@[simp] theorem Ending.extend_success (r t : List String) : (Ending.success r).extend t = .success (r ++ t) := rfl

@[simp] theorem Ending.extend_underway (t : List String) : Ending.underway.extend t = .underway := rfl

@[simp] theorem Ending.extend_failure (t : List String) : Ending.failure.extend t = .failure := rfl

theorem Ending.andThen_eq_success {e : Ending} {next : List String → Ending} {r : List String}
    (h : e.andThen next = .success r) : ∃ rest, e = .success rest ∧ next rest = .success r := by
  cases e with
  | success rest => exact ⟨rest, rfl, h⟩
  | underway => cases h
  | failure => cases h

namespace Match

/-- The ending of a match. -/
def ending (m : Match) : Ending :=
  match m.outcome with
  | .success => .success m.remainder
  | .underway => .underway
  | .failure => .failure

@[simp] theorem ending_succeed (s : List String) : (succeed s).ending = .success s := rfl

@[simp] theorem ending_expectMore : expectMore.ending = .underway := rfl

@[simp] theorem ending_fail (s : List String) : (fail s).ending = .failure := rfl

variable {m : Match}

theorem ending_of_success (h : m.outcome = .success) : m.ending = .success m.remainder := by simp [ending, h]

theorem ending_of_underway (h : m.outcome = .underway) : m.ending = .underway := by simp [ending, h]

theorem ending_of_failure (h : m.outcome = .failure) : m.ending = .failure := by simp [ending, h]

theorem ending_eq_success_iff {r : List String} : m.ending = .success r ↔ m.outcome = .success ∧ m.remainder = r := by
  obtain ⟨o, r'⟩ := m
  cases o <;> simp [ending]

theorem ending_eq_underway_iff : m.ending = .underway ↔ m.outcome = .underway := by
  obtain ⟨o, r⟩ := m
  cases o <;> simp [ending]

theorem ending_eq_failure_iff : m.ending = .failure ↔ m.outcome = .failure := by
  obtain ⟨o, r⟩ := m
  cases o <;> simp [ending]

theorem isSuccess_iff : m.isSuccess = true ↔ m.ending = .success m.remainder := by
  obtain ⟨o, r⟩ := m
  cases o <;> simp [isSuccess, ending]

theorem isUnderway_iff : m.isUnderway = true ↔ m.ending = .underway := by
  obtain ⟨o, r⟩ := m
  cases o <;> simp [isUnderway, ending]

theorem isFailure_iff : m.isFailure = true ↔ m.ending = .failure := by
  obtain ⟨o, r⟩ := m
  cases o <;> simp [isFailure, ending]

theorem isComplete_iff : m.isComplete = true ↔ m.ending = .success [] := by
  obtain ⟨o, r⟩ := m
  cases o <;> simp [isComplete, isSuccess, ending]

end Match

namespace Pattern

/-- How the run of a pattern on a sequence ends. -/
def ending (p : Pattern) (s : List String) : Ending := (p.run s).ending

theorem isComplete_run {p : Pattern} {s : List String} : (p.run s).isComplete = true ↔ p.ending s = .success [] :=
  Match.isComplete_iff

theorem isUnderway_run {p : Pattern} {s : List String} : (p.run s).isUnderway = true ↔ p.ending s = .underway :=
  Match.isUnderway_iff

theorem isFailure_run {p : Pattern} {s : List String} : (p.run s).isFailure = true ↔ p.ending s = .failure :=
  Match.isFailure_iff

/-- A template may come next when the longer sequence is under way or complete. -/
theorem canAppend_iff {p : Pattern} {s : List String} {x : String} :
    p.canAppend s x = true ↔ p.ending (s ++ [x]) = .success [] ∨ p.ending (s ++ [x]) = .underway := by
  simp only [canAppend, Bool.or_eq_true, isComplete_run, isUnderway_run]

/-! ## Leaves and sequences -/

@[simp] theorem ending_leaf_nil (id : String) : (leaf id).ending [] = .underway := rfl

theorem ending_leaf_cons (id x : String) (s : List String) :
    (leaf id).ending (x :: s) = if x = id then .success s else .failure := by
  simp only [ending, run]
  split <;> rfl

@[simp] theorem ending_sequence_nil (s : List String) : (sequence []).ending s = .success s := rfl

/-- The whole that a sequence is read for only shows in what a failure leaves. -/
theorem ending_runSequence (cs : List Pattern) (whole rest : List String) :
    (runSequence cs whole rest).ending = (sequence cs).ending rest := by
  suffices h : ∀ whole whole', (runSequence cs whole rest).ending = (runSequence cs whole' rest).ending from h _ _
  induction cs generalizing rest with
  | nil => intro _ _; rfl
  | cons c cs ih =>
    intro whole whole'
    simp only [runSequence]
    split
    · exact ih _ _ _
    · rfl
    · rfl

theorem ending_sequence_cons (c : Pattern) (cs : List Pattern) (s : List String) :
    (sequence (c :: cs)).ending s = (c.ending s).andThen (sequence cs).ending := by
  simp only [ending, run, runSequence]
  cases h : (c.run s).outcome with
  | success => rw [Match.ending_of_success h]; exact ending_runSequence cs s _
  | underway => rw [Match.ending_of_underway h]; rfl
  | failure => rw [Match.ending_of_failure h]; rfl

/-! ## Choices -/

/-- The ending of a choice, read off the endings of its children. -/
inductive Chosen (cs : List Pattern) (s : List String) : Ending → Prop
  | success {c : Pattern} {r : List String} : c ∈ cs → c.ending s = .success r →
      (∀ c' ∈ cs, ∀ r', c'.ending s = .success r' → r.length ≤ r'.length) → Chosen cs s (.success r)
  | underway {c : Pattern} : c ∈ cs → c.ending s = .underway → (∀ c' ∈ cs, ∀ r, c'.ending s ≠ .success r) →
      Chosen cs s .underway
  | failure : (∀ c ∈ cs, c.ending s = .failure) → Chosen cs s .failure

/-- The better of two successes is one of them, and no longer than either. -/
theorem shorter_cases (best : Option (List String)) (r : List String) :
    ∃ b, shorter best r = some b ∧ (b = r ∨ best = some b) ∧ b.length ≤ r.length ∧
      ∀ b' ∈ best, b.length ≤ b'.length := by
  cases best with
  | none => exact ⟨r, rfl, .inl rfl, Nat.le_refl _, fun _ h => by cases h⟩
  | some b =>
    by_cases hlt : r.length < b.length
    · exact ⟨r, by simp [shorter, hlt], .inl rfl, Nat.le_refl _, by rintro b' ⟨⟩; omega⟩
    · exact ⟨b, by simp [shorter, hlt], .inr rfl, by omega, by rintro b' ⟨⟩; exact Nat.le_refl _⟩

/-- What `runAlternates` carries along: the best success of the children seen, and whether one of them was under way. -/
structure Tally (seen : List Pattern) (s : List String) (best : Option (List String)) (underway : Bool) : Prop where
  unmet : best = none → ∀ c ∈ seen, ∀ r, c.ending s ≠ .success r
  reached : ∀ b ∈ best, ∃ c ∈ seen, c.ending s = .success b
  least : ∀ b ∈ best, ∀ c ∈ seen, ∀ r, c.ending s = .success r → b.length ≤ r.length
  pending : underway = true ↔ ∃ c ∈ seen, c.ending s = .underway

variable {seen : List Pattern} {s r : List String} {best : Option (List String)} {underway : Bool} {c : Pattern}

theorem Tally.start (s : List String) : Tally [] s none false := by
  constructor <;> simp

/-- A child that succeeds enters the comparison. -/
theorem Tally.add_success (h : Tally seen s best underway) (hc : c.ending s = .success r) :
    Tally (seen ++ [c]) s (shorter best r) underway := by
  obtain ⟨b, hb, hmem, hr, hmin⟩ := shorter_cases best r
  rw [hb]
  refine ⟨fun e => absurd e (by simp), ?_, ?_, by simp [h.pending, or_and_right, exists_or, hc]⟩
  · rintro _ ⟨⟩
    rcases hmem with rfl | hmem
    · exact ⟨c, by simp, hc⟩
    · obtain ⟨c', hc', he⟩ := h.reached b hmem
      exact ⟨c', by simp [hc'], he⟩
  · rintro _ ⟨⟩ c' hc' r' hr'
    rcases List.mem_append.mp hc' with hc' | hc'
    · cases best with
      | none => exact absurd hr' (h.unmet rfl c' hc' r')
      | some b' => exact Nat.le_trans (hmin b' rfl) (h.least b' rfl c' hc' r' hr')
    · cases List.mem_singleton.mp hc'
      cases hc.symm.trans hr'
      exact hr

/-- A child that does not succeed leaves the comparison as it is. -/
theorem Tally.add_unmet (h : Tally seen s best underway) (hc : ∀ r, c.ending s ≠ .success r) :
    (best = none → ∀ c' ∈ seen ++ [c], ∀ r, c'.ending s ≠ .success r) ∧
      (∀ b ∈ best, ∃ c' ∈ seen ++ [c], c'.ending s = .success b) ∧
      ∀ b ∈ best, ∀ c' ∈ seen ++ [c], ∀ r, c'.ending s = .success r → b.length ≤ r.length := by
  refine ⟨fun hn c' hc' => ?_, fun b hb => ?_, fun b hb c' hc' r hr => ?_⟩
  · rcases List.mem_append.mp hc' with hc' | hc'
    · exact h.unmet hn c' hc'
    · cases List.mem_singleton.mp hc'
      exact hc
  · obtain ⟨c', hc', he⟩ := h.reached b hb
    exact ⟨c', by simp [hc'], he⟩
  · rcases List.mem_append.mp hc' with hc' | hc'
    · exact h.least b hb c' hc' r hr
    · cases List.mem_singleton.mp hc'
      exact absurd hr (hc r)

theorem Tally.add_underway (h : Tally seen s best underway) (hc : c.ending s = .underway) :
    Tally (seen ++ [c]) s best true := by
  obtain ⟨hu, hr, hl⟩ := h.add_unmet (c := c) fun r => by simp [hc]
  exact ⟨hu, hr, hl, by simp [or_and_right, exists_or, hc]⟩

theorem Tally.add_failure (h : Tally seen s best underway) (hc : c.ending s = .failure) :
    Tally (seen ++ [c]) s best underway := by
  obtain ⟨hu, hr, hl⟩ := h.add_unmet (c := c) fun r => by simp [hc]
  exact ⟨hu, hr, hl, by simp [h.pending, or_and_right, exists_or, hc]⟩

/-- Once all children are seen, the record decides. -/
theorem Tally.chosen (h : Tally seen s best underway) : Chosen seen s (runAlternates [] s best underway).ending := by
  simp only [runAlternates]
  cases best with
  | some b =>
    obtain ⟨c, hc, hb⟩ := h.reached b rfl
    exact .success hc hb (h.least b rfl)
  | none =>
    cases underway with
    | true =>
      obtain ⟨c, hc, hu⟩ := h.pending.mp rfl
      exact .underway hc hu (h.unmet rfl)
    | false =>
      refine .failure fun c hc => ?_
      cases he : c.ending s with
      | success r => exact absurd he (h.unmet rfl c hc r)
      | underway => exact absurd (h.pending.mpr ⟨c, hc, he⟩) Bool.false_ne_true
      | failure => rfl

theorem Tally.runAlternates (h : Tally seen s best underway) (cs : List Pattern) :
    Chosen (seen ++ cs) s (runAlternates cs s best underway).ending := by
  induction cs generalizing seen best underway with
  | nil => simpa using h.chosen
  | cons c cs ih =>
    rw [List.append_cons, Pattern.runAlternates]
    cases ho : (c.run s).outcome with
    | success => exact ih (h.add_success (Match.ending_of_success ho))
    | underway => exact ih (h.add_underway (Match.ending_of_underway ho))
    | failure => exact ih (h.add_failure (Match.ending_of_failure ho))

theorem chosen_alternates (cs : List Pattern) (s : List String) : Chosen cs s ((alternates cs).ending s) :=
  (Tally.start s).runAlternates cs

/-- A choice with a complete child is complete. -/
theorem ending_alternates_of_complete {cs : List Pattern} (hc : c ∈ cs) (h : c.ending s = .success []) :
    (alternates cs).ending s = .success [] := by
  have hch := chosen_alternates cs s
  generalize (alternates cs).ending s = e at hch ⊢
  cases hch with
  | success _ _ hmin => rw [List.length_eq_zero_iff.mp (Nat.le_zero.mp (hmin c hc [] h))]
  | underway _ _ hno => exact absurd h (hno c hc [])
  | failure hf => rw [hf c hc] at h; cases h

/-! ## Options and repetitions -/

theorem ending_optional (c : Pattern) (s : List String) :
    (optional c).ending s = if s = [] then .success [] else (c.ending s).orSkip s := by
  simp only [ending, run, List.isEmpty_iff]
  split
  · next h => rw [h]; rfl
  · cases h : (c.run s).outcome with
    | success => simp [Match.ending_of_success h]
    | underway => simp [Match.ending_of_underway h]
    | failure => simp [Match.ending_of_failure h]

/-- Repetitions from `rest` on, one round at a time. -/
theorem ending_repeatOn (c : Pattern) (s : List String) :
    (repeatOn c.run s).ending =
      match c.ending s with
      | .success r => if r.length < s.length then (repeatOn c.run r).ending else .success s
      | .underway => if s = [] then .success s else .underway
      | .failure => .success s := by
  rw [repeatOn]
  unfold ending
  cases h : (c.run s).outcome with
  | success => rw [Match.ending_of_success h]; simp only; split <;> rfl
  | underway => rw [Match.ending_of_underway h]; simp only [List.isEmpty_iff]; split <;> rfl
  | failure => rw [Match.ending_of_failure h]; rfl

section Rounds

variable {c : Pattern} (hc : ∀ {s r : List String}, c.ending s = .success r → r <:+ s)

include hc

/-- The first round of a repetition that may be empty is a round like the others. -/
theorem ending_repeatRun_false (s : List String) : (repeatRun c.run false s).ending = (repeatOn c.run s).ending := by
  rw [ending_repeatOn, repeatRun]
  unfold ending
  cases h : (c.run s).outcome with
  | success =>
    rw [Match.ending_of_success h]
    have hle := (hc (Match.ending_of_success h)).length_le
    by_cases heq : (c.run s).remainder.length = s.length
    · have hr := (hc (Match.ending_of_success h)).eq_of_length heq
      simp [hr]
    · simp [heq, show (c.run s).remainder.length < s.length by omega]
  | underway => rw [Match.ending_of_underway h]; cases s <;> rfl
  | failure => rw [Match.ending_of_failure h]; rfl

/-- The first round of a repetition that may not be empty decides whether there are others. -/
theorem ending_repeatRun_true (s : List String) :
    (repeatRun c.run true s).ending = (c.ending s).andThen fun r => (repeatOn c.run r).ending := by
  rw [repeatRun]
  cases h : (c.run s).outcome with
  | success =>
    have hs : c.ending s = .success (c.run s).remainder := Match.ending_of_success h
    rw [hs, Ending.andThen_success]
    by_cases heq : (c.run s).remainder.length = s.length
    · -- a round that reads nothing would read nothing again
      have hr := (hc hs).eq_of_length heq
      rw [hr] at hs
      simp [ending_repeatOn c s, hs, hr]
    · simp [heq]
  | underway => rw [ending, Match.ending_of_underway h]; rfl
  | failure => rw [ending, Match.ending_of_failure h]; rfl

theorem suffix_of_repeatOn {s r : List String} (h : (repeatOn c.run s).ending = .success r) : r <:+ s := by
  rw [ending_repeatOn] at h
  cases he : c.ending s with
  | success r' =>
    simp only [he] at h
    split at h
    · exact (suffix_of_repeatOn h).trans (hc he)
    · cases h; exact List.suffix_rfl
  | underway =>
    simp only [he] at h
    split at h <;> cases h
    exact List.suffix_rfl
  | failure => simp only [he] at h; cases h; exact List.suffix_rfl
termination_by s.length

end Rounds

/-- A success leaves a suffix of what was to be read. -/
theorem suffix_of_success {p : Pattern} {s r : List String} (h : p.ending s = .success r) : r <:+ s := by
  induction p generalizing s r with
  | leaf id =>
    cases s with
    | nil => cases h
    | cons x s =>
      rw [ending_leaf_cons] at h
      split at h <;> cases h
      exact List.suffix_cons x _
  | sequence cs ih =>
    induction cs generalizing s with
    | nil => cases h; exact List.suffix_rfl
    | cons c cs ihs =>
      rw [ending_sequence_cons] at h
      obtain ⟨rest, hs, hr⟩ := Ending.andThen_eq_success h
      exact (ihs (fun c' hc' => ih c' (List.mem_cons_of_mem _ hc')) hr).trans (ih c List.mem_cons_self hs)
  | alternates cs ih =>
    have hch := chosen_alternates cs s
    rw [h] at hch
    cases hch with
    | success hc he => exact ih _ hc he
  | oneOrMore c ih =>
    obtain ⟨rest, hs, hr⟩ := Ending.andThen_eq_success ((ending_repeatRun_true ih s).symm.trans h)
    exact (suffix_of_repeatOn ih hr).trans (ih hs)
  | zeroOrMore c ih => exact suffix_of_repeatOn ih ((ending_repeatRun_false ih s).symm.trans h)
  | optional c ih =>
    rw [ending_optional] at h
    split at h
    · cases h; exact List.nil_suffix
    · cases he : c.ending s with
      | success r' => rw [he] at h; cases h; exact ih he
      | underway => rw [he] at h; cases h
      | failure => rw [he] at h; cases h; exact List.suffix_rfl

theorem ending_zeroOrMore_eq_repeatOn (c : Pattern) (s : List String) :
    (zeroOrMore c).ending s = (repeatOn c.run s).ending := ending_repeatRun_false suffix_of_success s

/-- Repetitions start anew on a rest that got shorter. -/
theorem ending_zeroOrMore (c : Pattern) (s : List String) :
    (zeroOrMore c).ending s =
      match c.ending s with
      | .success r => if r.length < s.length then (zeroOrMore c).ending r else .success s
      | .underway => if s = [] then .success s else .underway
      | .failure => .success s := by
  simp only [ending_zeroOrMore_eq_repeatOn]
  exact ending_repeatOn c s

theorem ending_zeroOrMore_nil (c : Pattern) : (zeroOrMore c).ending [] = .success [] := by
  rw [ending_zeroOrMore]
  cases c.ending [] <;> simp

theorem ending_zeroOrMore_of_complete {c : Pattern} {s : List String} (h : c.ending s = .success []) :
    (zeroOrMore c).ending s = .success [] := by
  rw [ending_zeroOrMore, h]
  cases s with
  | nil => rfl
  | cons x s => simp [ending_zeroOrMore_nil]

theorem ending_oneOrMore (c : Pattern) (s : List String) :
    (oneOrMore c).ending s = (c.ending s).andThen (zeroOrMore c).ending := by
  rw [funext (ending_zeroOrMore_eq_repeatOn c)]
  exact ending_repeatRun_true suffix_of_success s

end Pattern

end StatementProfiles
