import Mathlib.Data.List.Nodup
import Mathlib.Data.List.Pairwise
import StatementProfiles.Proofs.Pattern.Record
import StatementProfiles.Proofs.Pattern.Soundness

/-!
# The matcher is exact on unambiguous patterns

A pattern is `Unambiguous` when no template stands in two leaves, no choice is empty, and no child of a choice accepts
the empty sequence. On such a pattern reading greedily loses nothing: the matcher finds the longest beginning that is a
word, and it is under way exactly on the beginnings of words that are no words (`Exact`). Each operator keeps this as
long as its parts may be read greedily one after another (`Exact.andThen`), which `Greedy.lean` shows from the leaves.
-/

namespace StatementProfiles

namespace Pattern

open Computability

variable {L M : Language String} {s r : List String} {e : Ending}

/-- `k` is the longest beginning of `k ++ r` in `L`, and if anything is left no word begins with the whole. -/
structure Longest (L : Language String) (k r : List String) : Prop where
  mem : k ∈ L
  max : ∀ y, y ≠ [] → y <+: r → k ++ y ∉ L
  stuck : r ≠ [] → ¬Viable L (k ++ r)

/-- What an ending tells of the sequence when nothing is lost. -/
inductive Exact (L : Language String) : List String → Ending → Prop
  | success {k r : List String} : Longest L k r → Exact L (k ++ r) (.success r)
  | underway {s : List String} : s ∉ L → Viable L s → Exact L s .underway
  | failure {s : List String} : (∀ k, k <+: s → k ∉ L) → ¬Viable L s → Exact L s .failure

theorem Exact.complete_iff (h : Exact L s e) : e = .success [] ↔ s ∈ L := by
  cases h with
  | @success k r hl =>
    constructor
    · rintro ⟨⟩
      simpa using hl.mem
    · intro hm
      by_contra hne
      exact hl.stuck (fun hr => hne (by rw [hr])) ⟨[], by simpa using hm⟩
  | underway hs _ => simp [hs]
  | failure hs _ => simp [hs s List.prefix_rfl]

theorem Exact.viable_iff (h : Exact L s e) : e = .success [] ∨ e = .underway ↔ Viable L s := by
  cases h with
  | @success k r hl =>
    constructor
    · rintro (⟨⟨⟩⟩ | ⟨⟨⟩⟩)
      exact ⟨[], by simpa using hl.mem⟩
    · intro hm
      by_contra hne
      exact hl.stuck (fun hr => hne (.inl (by rw [hr]))) hm
  | underway _ hv => simp [hv]
  | failure _ hv => simp [hv]

theorem Exact.leaf (id : String) (s : List String) : Exact (leaf id).language s ((leaf id).ending s) := by
  cases s with
  | nil => exact .underway (fun h : [] = [id] => by simp at h) ⟨[id], rfl⟩
  | cons x s =>
    rw [ending_leaf_cons]
    split
    · next h =>
      subst h
      refine .success (k := [x]) ⟨rfl, fun y hy _ (hm : x :: y = [x]) => hy (by simpa using hm), fun hs hv => ?_⟩
      obtain ⟨t, ht⟩ := hv
      have ht : x :: (s ++ t) = [x] := ht
      exact hs (by simp at ht; exact ht.1)
    · next h =>
      refine .failure (fun k hk (hm : k = [id]) => ?_) fun ⟨t, ht⟩ => ?_
      · subst hm
        exact h (List.cons_prefix_cons.mp hk).1.symm
      · have ht : x :: (s ++ t) = [id] := ht
        simp at ht
        exact h ht.1

theorem Exact.nil (h : [] ∈ L) : Exact L [] (.success []) :=
  .success (k := []) ⟨h, fun _ hy hyn => absurd (List.prefix_nil.mp hyn) hy, fun hn => absurd rfl hn⟩

theorem Exact.sequence_nil (s : List String) : Exact (sequence []).language s (.success s) := by
  refine .success (k := []) ⟨Language.nil_mem_one, fun y hy _ hm => ?_, fun hs hv => ?_⟩
  · exact hy ((Language.mem_one y).mp hm)
  · obtain ⟨t, ht⟩ := hv
    have := (Language.mem_one _).mp ht
    simp [hs] at this

/-! ## One reading after another -/

section AndThen

variable {k : List String} (hG : Greedy L M) (hl : Longest L k r)

include hG hl

theorem Longest.mem_of_prefix {y : List String} (hy : y <+: r) (h : k ++ y ∈ L * M) : y ∈ M :=
  hG.peel hl.mem (fun _ hne hy' => hl.max _ hne (hy'.trans hy)) h

theorem Longest.mem_of_append {t : List String} (hr : r ≠ []) (h : k ++ (r ++ t) ∈ L * M) : r ++ t ∈ M := by
  refine hG.peel hl.mem (fun y hne hy hky => ?_) h
  rcases List.prefix_or_prefix_of_prefix hy (List.prefix_append r t) with hyr | ⟨t₁, rfl⟩
  · exact hl.max y hne hyr hky
  · exact hl.stuck hr ⟨t₁, by rwa [List.append_assoc]⟩

/-- After the longest beginning only the rest decides whether the whole begins a word. -/
theorem Longest.viable_rest (hr : r ≠ []) (h : Viable (L * M) (k ++ r)) : Viable M r := by
  obtain ⟨t, ht⟩ := h
  rw [List.append_assoc] at ht
  exact ⟨t, hl.mem_of_append hG hr ht⟩

/-- The rest is read like the whole. -/
theorem Longest.prepend (hM : ∃ w, w ∈ M) (h : Exact M r e) : Exact (L * M) (k ++ r) e := by
  cases h with
  | @success k₂ r₂ hl₂ =>
    rw [← List.append_assoc]
    refine .success ⟨Language.append_mem_mul hl.mem hl₂.mem, fun y hne hy hm => ?_, fun hr₂ hv => ?_⟩
    · rw [List.append_assoc] at hm
      exact hl₂.max y hne hy (hl.mem_of_prefix hG ((List.prefix_append_right_inj k₂).mpr hy) hm)
    · rw [List.append_assoc] at hv
      exact hl₂.stuck hr₂ (hl.viable_rest hG (by simp [hr₂]) hv)
  | underway hr hv =>
    obtain ⟨t, ht⟩ := hv
    refine .underway (fun hm => hr (hl.mem_of_prefix hG List.prefix_rfl hm)) ⟨t, ?_⟩
    rw [List.append_assoc]
    exact Language.append_mem_mul hl.mem ht
  | failure hr hv =>
    have hne : r ≠ [] := by
      rintro rfl
      exact hv hM
    refine .failure (fun w hw hm => ?_) fun h => hv (hl.viable_rest hG hne h)
    rcases List.prefix_or_prefix_of_prefix hw (List.prefix_append k r) with hwk | ⟨y, rfl⟩
    · exact hr [] List.nil_prefix (hG.nil_mem hl.mem hwk hm)
    · have hy := (List.prefix_append_right_inj k).mp hw
      exact hr y hy (hl.mem_of_prefix hG hy hm)

end AndThen

/-- A word of both begins with a word of `L`. -/
theorem exists_prefix_of_mem_mul {w : List String} (h : w ∈ L * M) : ∃ u, u <+: w ∧ u ∈ L := by
  obtain ⟨u, hu, v, _, rfl⟩ := Language.mem_mul.mp h
  exact ⟨u, List.prefix_append u v, hu⟩

/-- **Greedy reading of one language after another is exact.** -/
theorem Exact.andThen {next : List String → Ending} (h : Exact L s e) (hG : Greedy L M) (hM : ∃ w, w ∈ M)
    (hn : ∀ r, e = .success r → Exact M r (next r)) : Exact (L * M) s (e.andThen next) := by
  cases h with
  | success hl => exact hl.prepend hG hM (hn _ rfl)
  | underway hs hv =>
    obtain ⟨t, ht⟩ := hv
    obtain ⟨w, hw⟩ := hM
    refine .underway (hG.wait hs ⟨t, ht⟩) ⟨t ++ w, ?_⟩
    rw [← List.append_assoc]
    exact Language.append_mem_mul ht hw
  | failure hs hv =>
    refine .failure (fun k hk hm => ?_) fun ⟨t, ht⟩ => ?_
    · obtain ⟨u, huk, hu⟩ := exists_prefix_of_mem_mul hm
      exact hs u (huk.trans hk) hu
    · obtain ⟨u, hust, hu⟩ := exists_prefix_of_mem_mul ht
      rcases List.prefix_or_prefix_of_prefix hust (List.prefix_append s t) with hus | ⟨t₁, rfl⟩
      · exact hs u hus hu
      · exact hv ⟨t₁, hu⟩

/-! ## Options, repetitions and choices -/

/-- Only a sequence that is not empty is tried. -/
theorem Exact.optional (hne : s ≠ []) (h : Exact L s e) : Exact (1 + L) s (e.orSkip s) := by
  have hviable : Viable (1 + L) s → Viable L s := fun ⟨t, ht⟩ => ⟨t, mem_of_mem_one_add (by simp [hne]) ht⟩
  cases h with
  | success hl =>
    exact .success ⟨mem_one_add hl.mem,
      fun y hy hyr hm => hl.max y hy hyr (mem_of_mem_one_add (by simp [hy]) hm), fun hr hv => hl.stuck hr (hviable hv)⟩
  | underway hs hv =>
    obtain ⟨t, ht⟩ := hv
    exact .underway (fun hm => hs (mem_of_mem_one_add hne hm)) ⟨t, mem_one_add ht⟩
  | failure hs hv =>
    exact .success (k := []) ⟨nil_mem_one_add L,
      fun y hy hyr hm => hs y hyr (mem_of_mem_one_add (by simpa using hy) hm), fun _ h => hv (hviable h)⟩

/-- A repetition that cannot start a word stops. -/
theorem Exact.stop (hmax : ∀ y, y ≠ [] → y <+: s → y ∉ L) (hv : s ≠ [] → ¬Viable L s) :
    Exact L∗ s (.success s) := by
  refine .success (k := []) ⟨Language.nil_mem_kstar L, fun y hy hys hm => ?_, fun hs h => ?_⟩
  · obtain ⟨u, v, rfl, hu, hm, _⟩ := exists_first_of_mem_kstar hm hy
    exact hmax u hu ((List.prefix_append u v).trans hys) hm
  · obtain ⟨t, ht⟩ := h
    obtain ⟨u, v, huv, hu, hm, _⟩ := exists_first_of_mem_kstar ht (by simp [hs])
    rcases List.prefix_or_prefix_of_prefix (huv ▸ List.prefix_append u v) (List.prefix_append s t) with hus | ⟨t₁, rfl⟩
    · exact hmax u hu hus hm
    · exact hv hs ⟨t₁, hm⟩

theorem Exact.ne_failure (h : Exact L s e) (hnil : [] ∈ L) : e ≠ .failure := by
  rintro rfl
  cases h with
  | failure hs _ => exact hs [] List.nil_prefix hnil

/-- What reads one word and repetitions of it reads repetitions. -/
theorem Exact.kstar_of_mul (hne : s ≠ []) (h : Exact (L * L∗) s e) (he : e ≠ .failure) : Exact L∗ s e := by
  have ho := h.optional hne
  rw [Language.one_add_self_mul_kstar_eq_kstar] at ho
  cases e with
  | success r => exact ho
  | underway => exact ho
  | failure => exact absurd rfl he

/-- The rounds of a repetition. -/
theorem Exact.zeroOrMore {c : Pattern} (hx : Exchange c.language) (h : ∀ s, Exact c.language s (c.ending s))
    (s : List String) : Exact (zeroOrMore c).language s ((zeroOrMore c).ending s) := by
  show Exact c.language∗ s _
  have hs := h s
  by_cases hne : s = []
  · subst hne
    rw [ending_zeroOrMore_nil]
    exact .nil (Language.nil_mem_kstar _)
  rw [ending_zeroOrMore]
  cases he : c.ending s with
  | success r =>
    rw [he] at hs
    simp only
    split
    · next hlt =>
      have hr : Exact c.language∗ r ((Pattern.zeroOrMore c).ending r) := Exact.zeroOrMore hx h r
      have hm : Exact (c.language * c.language∗) s ((Ending.success r).andThen (Pattern.zeroOrMore c).ending) :=
        hs.andThen hx.greedy ⟨[], Language.nil_mem_kstar _⟩ fun r' hr' => by cases hr'; exact hr
      exact hm.kstar_of_mul hne (hr.ne_failure (Language.nil_mem_kstar _))
    · next hlt =>
      generalize hw : s = w at hs hlt ⊢
      cases hs with
      | @success k r hl =>
        have hk : k = [] := by
          rw [List.length_append] at hlt
          exact List.length_eq_zero_iff.mp (by omega)
        subst hk
        exact .stop hl.max hl.stuck
  | underway =>
    rw [he] at hs
    have hm : Exact (c.language * c.language∗) s (Ending.underway.andThen (Pattern.zeroOrMore c).ending) :=
      hs.andThen hx.greedy ⟨[], Language.nil_mem_kstar _⟩ fun r' hr' => by cases hr'
    simpa [hne] using hm.kstar_of_mul hne (by simp)
  | failure =>
    rw [he] at hs
    cases hs with
    | failure hs hv => exact .stop (fun y _ hy => hs y hy) fun _ => hv
termination_by s.length

theorem Exact.alternates {cs : List Pattern} (hapart : ∀ c ∈ cs, ∀ c' ∈ cs, c ≠ c' → Apart c.language c'.language)
    (hnil : ∀ c ∈ cs, [] ∉ c.language) (h : ∀ c ∈ cs, ∀ s, Exact c.language s (c.ending s)) (s : List String) :
    Exact (alternates cs).language s ((alternates cs).ending s) := by
  have hmem : ∀ {c w}, c ∈ cs → w ∈ c.language → w ∈ (Pattern.alternates cs).language := fun hc hw =>
    mem_language_alternates.mpr ⟨_, hc, hw⟩
  have hch := chosen_alternates cs s
  generalize (Pattern.alternates cs).ending s = e at hch ⊢
  cases hch with
  | @success c r hc he _ =>
    have hs := h c hc s
    rw [he] at hs
    cases hs with
    | @success k r hl =>
      -- the first letter that was read tells the child
      obtain ⟨x, hx⟩ := List.exists_mem_of_ne_nil k fun hk => hnil c hc (hk ▸ hl.mem)
      have honly : ∀ {w}, k ++ w ∈ (Pattern.alternates cs).language → k ++ w ∈ c.language := by
        intro w hw
        obtain ⟨c', hc', hw⟩ := mem_language_alternates.mp hw
        by_cases hcc : c = c'
        · rwa [hcc]
        · exact absurd (List.mem_append_left w hx) (hapart c hc c' hc' hcc k hl.mem _ hw x hx)
      refine .success ⟨hmem hc hl.mem, fun y hy hyr hm => hl.max y hy hyr (honly hm), fun hr hv => hl.stuck hr ?_⟩
      obtain ⟨t, ht⟩ := hv
      rw [List.append_assoc] at ht
      exact ⟨t, by rw [List.append_assoc]; exact honly ht⟩
  | @underway c hc he hno =>
    obtain ⟨t, ht⟩ := (h c hc s).viable_iff.mp (.inr he)
    refine .underway (fun hm => ?_) ⟨t, hmem hc ht⟩
    obtain ⟨c', hc', hw⟩ := mem_language_alternates.mp hm
    exact hno c' hc' [] ((h c' hc' s).complete_iff.mpr hw)
  | failure hf =>
    refine .failure (fun k hk hm => ?_) fun ⟨t, ht⟩ => ?_
    · obtain ⟨c, hc, hw⟩ := mem_language_alternates.mp hm
      have hs := h c hc s
      rw [hf c hc] at hs
      cases hs with
      | failure hs _ => exact hs k hk hw
    · obtain ⟨c, hc, hw⟩ := mem_language_alternates.mp ht
      have hv := (h c hc s).viable_iff.mpr ⟨t, hw⟩
      simp [hf c hc] at hv

/-! ## The empty sequence -/

theorem nil_mem_mul : [] ∈ L * M ↔ [] ∈ L ∧ [] ∈ M := by
  constructor
  · intro h
    obtain ⟨u, hu, v, hv, huv⟩ := Language.mem_mul.mp h
    obtain ⟨rfl, rfl⟩ := List.append_eq_nil_iff.mp huv
    exact ⟨hu, hv⟩
  · rintro ⟨hu, hv⟩
    exact Language.append_mem_mul hu hv

theorem andThen_ending_nil_iff {c : Pattern} {next : List String → Ending} :
    (c.ending []).andThen next = .success [] ↔ c.ending [] = .success [] ∧ next [] = .success [] := by
  constructor
  · intro h
    obtain ⟨r, hr, hn⟩ := Ending.andThen_eq_success h
    obtain rfl := List.suffix_nil.mp (suffix_of_success hr)
    exact ⟨hr, hn⟩
  · rintro ⟨hr, hn⟩
    rw [hr]
    exact hn

/-- The matcher knows of every pattern whether the empty sequence is a word. -/
theorem ending_nil_iff {p : Pattern} : p.ending [] = .success [] ↔ [] ∈ p.language := by
  induction p with
  | leaf id => exact ⟨fun h => (nomatch h), fun h : [] = [id] => by simp at h⟩
  | sequence cs ih =>
    induction cs with
    | nil => exact ⟨fun _ => Language.nil_mem_one, fun _ => rfl⟩
    | cons c cs ihs =>
      rw [ending_sequence_cons, andThen_ending_nil_iff, language_sequence_cons, nil_mem_mul, ih c List.mem_cons_self,
        ihs fun c' hc' => ih c' (List.mem_cons_of_mem _ hc')]
  | alternates cs ih =>
    rw [mem_language_alternates]
    constructor
    · intro h
      have hch := chosen_alternates cs []
      rw [h] at hch
      cases hch with
      | success hc he _ => exact ⟨_, hc, (ih _ hc).mp he⟩
    · rintro ⟨c, hc, hw⟩
      exact ending_alternates_of_complete hc ((ih c hc).mpr hw)
  | oneOrMore c ih =>
    rw [ending_oneOrMore, andThen_ending_nil_iff, language_oneOrMore, nil_mem_mul, ih, ending_zeroOrMore_nil]
    exact and_congr_right fun _ => ⟨fun _ => Language.nil_mem_kstar _, fun _ => rfl⟩
  | zeroOrMore c _ => exact ⟨fun _ => Language.nil_mem_kstar _, fun _ => ending_zeroOrMore_nil c⟩
  | optional c _ =>
    rw [ending_optional]
    exact ⟨fun _ => nil_mem_one_add _, fun _ => if_pos rfl⟩

/-! ## Unambiguous patterns -/

/-- No template stands in two leaves, no choice is empty, and every child of a choice reads something. -/
structure Unambiguous (p : Pattern) : Prop where
  leaves_nodup : p.leaves.Nodup
  choices_nonempty : p.ChoicesNonempty
  choices_read : ∀ cs, alternates cs ∈ p.nodes → ∀ c ∈ cs, [] ∉ c.language

/-- Whether this is a choice with a child that accepts the empty sequence. -/
def hasIdleChoice : Pattern → Bool
  | .alternates cs => cs.any fun c => (c.run []).isComplete
  | _ => false

theorem choices_read_iff {p : Pattern} :
    (∀ q ∈ p.nodes, q.hasIdleChoice = false) ↔ ∀ cs, alternates cs ∈ p.nodes → ∀ c ∈ cs, [] ∉ c.language := by
  have hcs : ∀ cs, (alternates cs).hasIdleChoice = false ↔ ∀ c ∈ cs, [] ∉ c.language := by
    intro cs
    simp only [hasIdleChoice, List.any_eq_false, isComplete_run, ending_nil_iff]
  refine ⟨fun h cs hm => (hcs cs).mp (h _ hm), fun h q hq => ?_⟩
  cases q with
  | alternates cs => exact (hcs cs).mpr (h cs hq)
  | _ => rfl

instance (p : Pattern) : Decidable p.Unambiguous :=
  decidable_of_iff (p.leaves.Nodup ∧ p.ChoicesNonempty ∧ ∀ q ∈ p.nodes, q.hasIdleChoice = false)
    ⟨fun ⟨hl, hn, hr⟩ => ⟨hl, hn, choices_read_iff.mp hr⟩, fun ⟨hl, hn, hr⟩ => ⟨hl, hn, choices_read_iff.mpr hr⟩⟩

theorem Unambiguous.of_mem {p q : Pattern} (hp : p.Unambiguous) (hq : q ∈ p.nodes) : q.Unambiguous where
  leaves_nodup := (leaves_sublist hq).nodup hp.leaves_nodup
  choices_nonempty := hp.choices_nonempty.of_mem hq
  choices_read := fun cs hcs => hp.choices_read cs (nodes_trans hq hcs)

theorem apart_of_disjoint {p q : Pattern} (h : ∀ x ∈ p.leaves, x ∉ q.leaves) : Apart p.language q.language :=
  fun _ hu _ hv x hxu hxv => h x (mem_leaves_of_mem_language hu x hxu) (mem_leaves_of_mem_language hv x hxv)

/-- The first child of an unambiguous sequence and the others share no template. -/
theorem Unambiguous.apart_rest {c : Pattern} {cs : List Pattern} (h : (sequence (c :: cs)).Unambiguous) :
    Apart c.language (sequence cs).language := by
  have hnd := h.leaves_nodup
  rw [leaves_sequence, List.flatMap_cons] at hnd
  exact apart_of_disjoint fun x hx hx' => List.disjoint_of_nodup_append hnd hx (by rwa [leaves_sequence] at hx')

/-- Different children of an unambiguous choice share no template. -/
theorem Unambiguous.apart_children {cs : List Pattern} (h : (alternates cs).Unambiguous) :
    ∀ c ∈ cs, ∀ c' ∈ cs, c ≠ c' → Apart c.language c'.language := by
  have hnd := h.leaves_nodup
  rw [leaves_alternates, List.nodup_flatMap] at hnd
  have : Std.Symm (Function.onFun List.Disjoint leaves) := ⟨fun _ _ hd => hd.symm⟩
  intro c hc c' hc' hne
  exact apart_of_disjoint fun x hx hx' => hnd.2.forall hc hc' hne hx hx'

theorem Unambiguous.rest {c : Pattern} {cs : List Pattern} (h : (sequence (c :: cs)).Unambiguous) :
    (sequence cs).Unambiguous := by
  have hnd := h.leaves_nodup
  rw [leaves_sequence, List.flatMap_cons] at hnd
  exact ⟨by simpa [leaves_sequence] using hnd.of_append_right, h.choices_nonempty.rest,
    fun ds hds => h.choices_read ds (choice_mem_nodes_cons hds)⟩

theorem exchange_leaf (id : String) : Exchange (leaf id).language := by
  have hsplit : ∀ {x y : List String} {a : String}, x ++ a :: y ∈ (leaf id).language → x = [] ∧ a = id ∧ y = [] := by
    intro x y a hw
    have hw : x ++ a :: y = [id] := hw
    cases x with
    | nil => simpa using hw
    | cons b x => simp at hw
  refine ⟨fun hw hw' => ?_⟩
  obtain ⟨rfl, rfl, rfl⟩ := hsplit hw
  obtain ⟨-, -, rfl⟩ := hsplit hw'
  exact hw

/-- Words of an unambiguous pattern may change over at a common template, for it stands in one leaf. -/
theorem Unambiguous.exchange {p : Pattern} (hp : p.Unambiguous) : Exchange p.language := by
  induction p with
  | leaf id => exact exchange_leaf id
  | sequence cs ih =>
    induction cs with
    | nil => exact ⟨fun hw _ => absurd ((Language.mem_one _).mp hw) (by simp)⟩
    | cons c cs ihs =>
      have hrest := ihs (fun c' hc' => ih c' (List.mem_cons_of_mem _ hc')) hp.rest
      exact (ih c List.mem_cons_self (hp.of_mem (mem_nodes_sequence List.mem_cons_self))).mul hrest hp.apart_rest
  | alternates cs ih =>
    refine ⟨fun {x y x' y' a} hw hw' => ?_⟩
    obtain ⟨c, hc, hw⟩ := mem_language_alternates.mp hw
    obtain ⟨c', hc', hw'⟩ := mem_language_alternates.mp hw'
    by_cases hcc : c = c'
    · subst hcc
      exact mem_language_alternates.mpr ⟨c, hc, (ih c hc (hp.of_mem (mem_nodes_alternates hc))).cross hw hw'⟩
    · exact absurd (by simp) (hp.apart_children c hc c' hc' hcc _ hw _ hw' a (by simp))
  | oneOrMore c ih => exact (ih (hp.of_mem (mem_nodes_oneOrMore c))).mul_kstar
  | zeroOrMore c ih => exact (ih (hp.of_mem (mem_nodes_zeroOrMore c))).kstar
  | optional c ih => exact (ih (hp.of_mem (mem_nodes_optional c))).one_add

/-- **On an unambiguous pattern every ending is exact.** -/
theorem Unambiguous.exact {p : Pattern} (hp : p.Unambiguous) (s : List String) : Exact p.language s (p.ending s) := by
  induction p generalizing s with
  | leaf id => exact .leaf id s
  | sequence cs ih =>
    induction cs generalizing s with
    | nil => exact .sequence_nil s
    | cons c cs ihs =>
      have hrest := ihs (fun c' hc' => ih c' (List.mem_cons_of_mem _ hc')) hp.rest
      have hc := ih c List.mem_cons_self (hp.of_mem (mem_nodes_sequence List.mem_cons_self))
      rw [ending_sequence_cons]
      exact (hc s).andThen hp.apart_rest.greedy (exists_word hp.rest.choices_nonempty) fun r _ => hrest r
  | alternates cs ih =>
    exact .alternates hp.apart_children (hp.choices_read cs (self_mem_nodes _))
      (fun c hc => ih c hc (hp.of_mem (mem_nodes_alternates hc))) s
  | oneOrMore c ih =>
    have hc := hp.of_mem (mem_nodes_oneOrMore c)
    rw [ending_oneOrMore]
    exact (ih hc s).andThen hc.exchange.greedy ⟨[], Language.nil_mem_kstar _⟩
      fun r _ => .zeroOrMore hc.exchange (ih hc) r
  | zeroOrMore c ih =>
    have hc := hp.of_mem (mem_nodes_zeroOrMore c)
    exact .zeroOrMore hc.exchange (ih hc) s
  | optional c ih =>
    have hc := ih (hp.of_mem (mem_nodes_optional c))
    rw [ending_optional]
    split
    · next hnil =>
      subst hnil
      exact .nil (nil_mem_one_add _)
    · next hne => exact (hc s).optional hne

/-- **Exactness.** On an unambiguous pattern the complete matches are the words, the matches that are complete or under
way are the beginnings of words, and an occurrence accepts a template exactly when the longer record can still become
a word. -/
theorem run_exact (p : Pattern) (hp : p.Unambiguous) :
    (∀ s, (p.run s).isComplete = true ↔ s ∈ p.language) ∧
      (∀ s, ((p.run s).isComplete = true ∨ (p.run s).isUnderway = true) ↔ ∃ t, s ++ t ∈ p.language) ∧
      ∀ (o : Occurrence) (x : String), o.grammar = p →
        ((o.append x).1 = .ok () ↔ ∃ t, o.templates ++ [x] ++ t ∈ p.language) := by
  refine ⟨fun s => isComplete_run.trans (hp.exact s).complete_iff, fun s => ?_, fun o x ho => ?_⟩
  · rw [isComplete_run, isUnderway_run]
    exact (hp.exact s).viable_iff
  · subst ho
    rw [Occurrence.append_fst_eq_ok_iff]
    exact canAppend_iff.trans (hp.exact _).viable_iff

/-- A paused lesson cannot be abandoned: no word begins like that, and an occurrence that paused refuses it. -/
theorem lesson_exact :
    lesson.Unambiguous ∧ (¬∃ t, ["launched", "paused", "abandoned"] ++ t ∈ lesson.language) ∧
      ["launched", "paused", "resumed", "abandoned"] ∈ lesson.language := by
  have hu : lesson.Unambiguous := by decide +kernel
  obtain ⟨hword, hbegin, -⟩ := run_exact lesson hu
  exact ⟨hu, fun h => absurd ((hbegin _).mpr h) (by decide +kernel), (hword _).mp (by decide +kernel)⟩

end Pattern

end StatementProfiles
