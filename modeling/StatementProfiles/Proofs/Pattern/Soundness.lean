import StatementProfiles.Proofs.Pattern.Ending
import StatementProfiles.Proofs.Pattern.Greedy

/-!
# The matcher is sound

A success has read a word of the pattern, and what is under way is the beginning of a word. `Sound L s e` says this of
one ending `e` on the sequence `s`; each operator of patterns keeps it (`Sound.andThen`, `Sound.zeroOrMore`, ...), hence
every pattern has it (`sound_ending`).
-/

namespace StatementProfiles

namespace Pattern

open Computability

/-- What an ending claims of the sequence, said with a language. -/
inductive Sound (L : Language String) (s : List String) : Ending → Prop
  | success {c r : List String} : s = c ++ r → c ∈ L → Sound L s (.success r)
  | underway {t : List String} : t ≠ [] → s ++ t ∈ L → Sound L s .underway
  | failure : Sound L s .failure

variable {L M : Language String} {s r : List String} {e : Ending}

theorem Sound.mono (h : Sound L s e) (hLM : ∀ w ∈ L, w ∈ M) : Sound M s e := by
  cases h with
  | success hs hc => exact .success hs (hLM _ hc)
  | underway ht hw => exact .underway ht (hLM _ hw)
  | failure => exact .failure

/-- Reading nothing is sound when the empty word belongs to the language. -/
theorem Sound.skip (h : [] ∈ L) (s : List String) : Sound L s (.success s) := .success rfl h

/-- What was read before goes in front. -/
theorem Sound.prepend {c : List String} (hc : c ∈ L) (h : Sound M r e) : Sound (L * M) (c ++ r) e := by
  cases h with
  | @success c' r' hs hc' => exact .success (by rw [hs, List.append_assoc]) (Language.append_mem_mul hc hc')
  | underway ht hw => exact .underway ht (by rw [List.append_assoc]; exact Language.append_mem_mul hc hw)
  | failure => exact .failure

/-- One reading after another. What is under way in the first needs a word of the second to end with. -/
theorem Sound.andThen {next : List String → Ending} (h : Sound L s e) (hM : ∃ w, w ∈ M)
    (hn : ∀ r, Sound M r (next r)) : Sound (L * M) s (e.andThen next) := by
  cases h with
  | @success c r hs hc => rw [hs]; exact (hn r).prepend hc
  | @underway t ht hw =>
    obtain ⟨v, hv⟩ := hM
    exact .underway (t := t ++ v) (by simp [ht]) (by rw [← List.append_assoc]; exact Language.append_mem_mul hw hv)
  | failure => exact .failure

theorem Sound.sequence {cs : List Pattern} (hw : ∀ c ∈ cs, ∃ w, w ∈ c.language)
    (h : ∀ c ∈ cs, ∀ s, Sound c.language s (c.ending s)) (s : List String) :
    Sound (sequence cs).language s ((sequence cs).ending s) := by
  induction cs generalizing s with
  | nil => exact .skip Language.nil_mem_one s
  | cons c cs ih =>
    rw [ending_sequence_cons, language_sequence_cons]
    have hw' : ∀ c' ∈ cs, ∃ w, w ∈ c'.language := fun c' hc' => hw c' (List.mem_cons_of_mem _ hc')
    exact (h c List.mem_cons_self s).andThen (exists_word_sequence hw')
      (ih hw' fun c' hc' => h c' (List.mem_cons_of_mem _ hc'))

/-- A choice answers with the ending of a child, or fails. -/
theorem Sound.alternates {cs : List Pattern} (h : ∀ c ∈ cs, Sound L s (c.ending s)) :
    Sound L s ((alternates cs).ending s) := by
  have hch := chosen_alternates cs s
  generalize (Pattern.alternates cs).ending s = e at hch ⊢
  cases hch with
  | success hc he _ => exact he ▸ h _ hc
  | underway hc he _ => exact he ▸ h _ hc
  | failure _ => exact .failure

/-- The rounds of a repetition: each reads a word, and a round under way on a rest keeps the whole under way. -/
theorem Sound.zeroOrMore {c : Pattern} (h : ∀ s, Sound L s (c.ending s)) (s : List String) :
    Sound L∗ s ((zeroOrMore c).ending s) := by
  have hstop : Sound L∗ s (.success s) := .skip (Language.nil_mem_kstar L) s
  have hs := h s
  rw [ending_zeroOrMore]
  cases he : c.ending s with
  | success r =>
    simp only
    split
    · next hlt =>
      rw [he] at hs
      cases hs with
      | success hs hc =>
        have hr := (Sound.zeroOrMore h r).prepend hc
        rw [← hs] at hr
        exact hr.mono fun w hw => by
          obtain ⟨u, hu, v, hv, rfl⟩ := Language.mem_mul.mp hw
          exact append_mem_kstar hu hv
    · exact hstop
  | underway =>
    simp only
    split
    · exact hstop
    · exact (he ▸ hs).mono fun _ hw => le_kstar (a := L) hw
  | failure => exact hstop
termination_by s.length

theorem Sound.optional {c : Pattern} (h : Sound L s (c.ending s)) : Sound (1 + L) s ((optional c).ending s) := by
  have hskip : [] ∈ 1 + L := nil_mem_one_add _
  have hs : Sound (1 + L) s (c.ending s) := h.mono fun _ => mem_one_add
  rw [ending_optional]
  split
  · next hnil => exact hnil ▸ .skip hskip []
  · cases he : c.ending s with
    | success r => rw [he] at hs; exact hs
    | underway => rw [he] at hs; exact hs
    | failure => exact .skip hskip s

/-- **Every ending of a pattern without empty choices is sound.** -/
theorem sound_ending {p : Pattern} (hp : p.ChoicesNonempty) (s : List String) : Sound p.language s (p.ending s) := by
  induction p generalizing s with
  | leaf id =>
    cases s with
    | nil => exact .underway (List.cons_ne_nil id []) rfl
    | cons x s =>
      rw [ending_leaf_cons]
      split
      · next h => exact .success (c := [x]) rfl (by rw [h]; rfl)
      · exact .failure
  | sequence cs ih =>
    have hcs : ∀ c ∈ cs, c.ChoicesNonempty := fun c hc => hp.of_mem (mem_nodes_sequence hc)
    exact .sequence (fun c hc => exists_word (hcs c hc)) (fun c hc => ih c hc (hcs c hc)) s
  | alternates cs ih =>
    refine .alternates fun c hc => (ih c hc (hp.of_mem (mem_nodes_alternates hc)) s).mono fun w hw => ?_
    exact mem_language_alternates.mpr ⟨c, hc, hw⟩
  | oneOrMore c ih =>
    have hc : ∀ s, Sound c.language s (c.ending s) := ih (hp.of_mem (mem_nodes_oneOrMore c))
    rw [ending_oneOrMore]
    exact (hc s).andThen ⟨[], Language.nil_mem_kstar _⟩ (.zeroOrMore hc)
  | zeroOrMore c ih => exact .zeroOrMore (ih (hp.of_mem (mem_nodes_zeroOrMore c))) s
  | optional c ih => exact .optional (ih (hp.of_mem (mem_nodes_optional c)) s)

/-- **Soundness.** A success has read a word, a match under way begins a word that is longer, an appended template keeps
the record the beginning of a word, and a complete match is a word. -/
theorem run_sound (p : Pattern) (hp : p.ChoicesNonempty) :
    (∀ s, (p.run s).isSuccess = true → ∃ c ∈ p.language, s = c ++ (p.run s).remainder) ∧
      (∀ s, (p.run s).isUnderway = true → ∃ t, t ≠ [] ∧ s ++ t ∈ p.language) ∧
      (∀ recorded next, p.canAppend recorded next = true → ∃ t, recorded ++ [next] ++ t ∈ p.language) ∧
      ∀ s, (p.run s).isComplete = true → s ∈ p.language := by
  have hword : ∀ s, p.ending s = .success [] → s ∈ p.language := by
    intro s hs
    cases hs ▸ sound_ending hp s with
    | success hsc hc => rwa [hsc, List.append_nil]
  have hbegin : ∀ s, p.ending s = .underway → ∃ t, t ≠ [] ∧ s ++ t ∈ p.language := by
    intro s hs
    cases hs ▸ sound_ending hp s with
    | underway ht hw => exact ⟨_, ht, hw⟩
  refine ⟨fun s hs => ?_, fun s hs => hbegin s (isUnderway_run.mp hs), fun recorded next h => ?_,
    fun s hs => hword s (isComplete_run.mp hs)⟩
  · have he : p.ending s = .success (p.run s).remainder := Match.isSuccess_iff.mp hs
    cases he ▸ sound_ending hp s with
    | success hsc hc => exact ⟨_, hc, hsc⟩
  · rcases canAppend_iff.mp h with h | h
    · exact ⟨[], by simpa using hword _ h⟩
    · obtain ⟨t, _, ht⟩ := hbegin _ h
      exact ⟨t, ht⟩

/-- Launched, paused and resumed any number of times, then completed or abandoned. -/
def lesson : Pattern :=
  .sequence [.leaf "launched", .zeroOrMore (.sequence [.leaf "paused", .leaf "resumed"]),
    .alternates [.leaf "completed", .leaf "abandoned"]]

/-- A second pause keeps a lesson under way with a rest that is not empty. -/
theorem lesson_sound :
    lesson.ChoicesNonempty ∧
      (∃ t, t ≠ [] ∧ ["launched", "paused", "resumed", "paused"] ++ t ∈ lesson.language) ∧
      ["launched", "paused", "resumed", "abandoned"] ∈ lesson.language := by
  have hc : lesson.ChoicesNonempty := by decide
  obtain ⟨-, hbegin, -, hword⟩ := run_sound lesson hc
  exact ⟨hc, hbegin _ (by decide +kernel), hword _ (by decide +kernel)⟩

end Pattern

end StatementProfiles
