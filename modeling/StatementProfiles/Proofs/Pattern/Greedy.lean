import StatementProfiles.Proofs.Pattern.Language

/-!
# Languages that may be read greedily

Reading as much as possible of `L` before `M` is right when `Greedy L M`: the longest beginning in `L` is the one that
words of `L * M` begin with. Two reasons for it serve patterns in which no template occurs twice:

- the words of `L` and `M` share no letter (`Apart`, for a sequence; `Apart.greedy`);
- `M` is `L∗` and words of `L` may change over at a common letter (`Exchange`, for a repetition; `Exchange.greedy`).
-/

namespace StatementProfiles

namespace Pattern

open Computability

variable {L M : Language String}

/-- Some word begins with `s`. -/
def Viable (L : Language String) (s : List String) : Prop := ∃ t, s ++ t ∈ L

/-- No letter occurs in words of both. -/
def Apart (L M : Language String) : Prop := ∀ u ∈ L, ∀ v ∈ M, ∀ x ∈ u, x ∉ v

/-- Two words that share a letter may change over there. -/
structure Exchange (L : Language String) : Prop where
  cross : ∀ {x y x' y' : List String} {a : String}, x ++ a :: y ∈ L → x' ++ a :: y' ∈ L → x ++ a :: y' ∈ L

/-- The longest beginning in `L` may be read off before `M`. -/
structure Greedy (L M : Language String) : Prop where
  /-- After a beginning in `L` that cannot be longer the rest is in `M`. -/
  peel : ∀ {k z : List String}, k ∈ L → (∀ y, y ≠ [] → y <+: z → k ++ y ∉ L) → k ++ z ∈ L * M → z ∈ M
  /-- A word of `L` only begins with a word of both when `M` may be empty. -/
  nil_mem : ∀ {k w : List String}, k ∈ L → w <+: k → w ∈ L * M → [] ∈ M
  /-- What is a beginning in `L` but no word of it is no word of both. -/
  wait : ∀ {s : List String}, s ∉ L → Viable L s → s ∉ L * M

/-! ## Different letters -/

/-- A word of `M` whose letters stand in a word of `L` is empty. -/
theorem Apart.eq_nil {u v : List String} (h : Apart L M) (hu : u ∈ L) (hv : v ∈ M) (hvu : ∀ x ∈ v, x ∈ u) : v = [] :=
  List.eq_nil_iff_forall_not_mem.mpr fun x hx => h u hu v hv x (hvu x hx) hx

theorem Apart.greedy (h : Apart L M) : Greedy L M where
  peel := by
    intro k z hk hmax hkz
    obtain ⟨u, hu, v, hv, huv⟩ := Language.mem_mul.mp hkz
    rcases List.append_eq_append_iff.mp huv with ⟨b, rfl, rfl⟩ | ⟨a, rfl, rfl⟩
    · -- `k` goes on into `v`, by letters of `v`
      have hb : b = [] := List.eq_nil_iff_forall_not_mem.mpr fun x hx =>
        h _ hk _ hv x (List.mem_append_right _ hx) (List.mem_append_left _ hx)
      simpa [hb] using hv
    · -- `u` goes on after `k`, which is as long as can be
      have ha : a = [] := by
        by_contra hne
        exact hmax a hne (List.prefix_append a v) hu
      simpa [ha] using hv
  nil_mem := by
    intro k w hk hwk hw
    obtain ⟨u, _, v, hv, rfl⟩ := Language.mem_mul.mp hw
    exact h.eq_nil hk hv (fun x hx => hwk.subset (List.mem_append_right u hx)) ▸ hv
  wait := by
    rintro s hs ⟨t, ht⟩ hsm
    obtain ⟨u, hu, v, hv, rfl⟩ := Language.mem_mul.mp hsm
    have hnil := h.eq_nil ht hv fun x hx => List.mem_append_left t (List.mem_append_right u hx)
    rw [hnil, List.append_nil] at hs
    exact hs hu

/-! ## Repetitions -/

theorem append_mem_kstar {u v : List String} (hu : u ∈ L) (hv : v ∈ L∗) : u ++ v ∈ L∗ :=
  mul_kstar_le_kstar (a := L) (Language.append_mem_mul hu hv)

theorem mem_kstar_of_mem {u : List String} (hu : u ∈ L) : u ∈ L∗ := le_kstar (a := L) hu

theorem mem_kstar_of_mem_mul {w : List String} (hw : w ∈ L * L∗) : w ∈ L∗ := mul_kstar_le_kstar (a := L) hw

/-- A repetition that is not empty starts with a word that is not empty. -/
theorem exists_first_of_mem_kstar {w : List String} (hw : w ∈ L∗) (hne : w ≠ []) :
    ∃ u v, w = u ++ v ∧ u ≠ [] ∧ u ∈ L ∧ v ∈ L∗ := by
  obtain ⟨us, rfl, hus⟩ := Language.mem_kstar_iff_exists_nonempty.mp hw
  cases us with
  | nil => exact absurd rfl hne
  | cons u us =>
    obtain ⟨hu, hune⟩ := hus u List.mem_cons_self
    exact ⟨u, us.flatten, rfl, hune, hu, Language.join_mem_kstar fun v hv => (hus v (List.mem_cons_of_mem _ hv)).1⟩

/-- A letter of a repetition stands in one of the words that are repeated. -/
theorem exists_split_of_mem_kstar {x y : List String} {a : String} (h : x ++ a :: y ∈ L∗) :
    ∃ x₁ x₂ y₁ y₂, x = x₁ ++ x₂ ∧ y = y₁ ++ y₂ ∧ x₁ ∈ L∗ ∧ x₂ ++ a :: y₁ ∈ L ∧ y₂ ∈ L∗ := by
  obtain ⟨us, hus, hmem⟩ := Language.mem_kstar.mp h
  clear h
  induction us generalizing x with
  | nil => simp at hus
  | cons u us ih =>
    have hu : u ∈ L := hmem u List.mem_cons_self
    have hmem' : ∀ w ∈ us, w ∈ L := fun w hw => hmem w (List.mem_cons_of_mem _ hw)
    rw [List.flatten_cons] at hus
    rcases List.append_eq_append_iff.mp hus.symm with ⟨x', rfl, hx'⟩ | ⟨c, rfl, hc⟩
    · obtain ⟨x₁, x₂, y₁, y₂, rfl, rfl, hx₁, hw, hy₂⟩ := ih hx'.symm hmem'
      exact ⟨u ++ x₁, x₂, y₁, y₂, by simp, rfl, append_mem_kstar hu hx₁, hw, hy₂⟩
    · cases c with
      | nil =>
        obtain ⟨x₁, x₂, y₁, y₂, hx, rfl, _, hw, hy₂⟩ := ih (x := []) (by simpa using hc) hmem'
        obtain ⟨rfl, rfl⟩ := List.append_eq_nil_iff.mp hx.symm
        exact ⟨x, [], y₁, y₂, by simp, rfl, by simpa using mem_kstar_of_mem hu, hw, hy₂⟩
      | cons b c =>
        obtain ⟨rfl, rfl⟩ := List.cons.inj hc
        exact ⟨[], x, c, us.flatten, rfl, rfl, Language.nil_mem_kstar L, hu, Language.join_mem_kstar hmem'⟩

theorem Exchange.kstar (h : Exchange L) : Exchange L∗ := by
  refine ⟨fun {x y x' y' a} hw hw' => ?_⟩
  obtain ⟨x₁, x₂, y₁, _, rfl, _, hx₁, hu, _⟩ := exists_split_of_mem_kstar hw
  obtain ⟨_, x₂', y₁', y₂', _, rfl, _, hu', hy₂'⟩ := exists_split_of_mem_kstar hw'
  have hmid : (x₂ ++ a :: y₁') ++ y₂' ∈ L∗ := append_mem_kstar (h.cross hu hu') hy₂'
  have := Language.append_mem_mul hx₁ hmid
  rw [kstar_mul_kstar] at this
  simpa using this

theorem Exchange.mul_kstar (h : Exchange L) : Exchange (L * L∗) := by
  refine ⟨fun {x y x' y' a} hw hw' => ?_⟩
  have hm := h.kstar.cross (mem_kstar_of_mem_mul hw) (mem_kstar_of_mem_mul hw')
  obtain ⟨u, v, huv, _, hu, hv⟩ := exists_first_of_mem_kstar hm (by simp)
  rw [huv]
  exact Language.append_mem_mul hu hv

/-- A beginning in `L` of a repetition is continued to a word of `L` before the next word starts. -/
theorem Exchange.exists_next (h : Exchange L) {k z : List String} (hne : k ≠ []) (hk : Viable L k)
    (hkz : k ++ z ∈ L∗) : ∃ y₁ y₂, z = y₁ ++ y₂ ∧ k ++ y₁ ∈ L ∧ y₂ ∈ L∗ := by
  obtain ⟨t, ht⟩ := hk
  rcases List.eq_nil_or_concat k with rfl | ⟨k, a, rfl⟩
  · exact absurd rfl hne
  · simp only [List.concat_eq_append, List.append_assoc, List.singleton_append] at *
    -- the last letter of `k` stands in a word, to which `k` changes over
    obtain ⟨_, _, y₁, y₂, _, rfl, _, hu, hy₂⟩ := exists_split_of_mem_kstar hkz
    exact ⟨y₁, y₂, rfl, h.cross ht hu, hy₂⟩

theorem Exchange.greedy (h : Exchange L) : Greedy L L∗ where
  peel := by
    intro k z hk hmax hkz
    by_cases hne : k = []
    · subst hne
      exact mem_kstar_of_mem_mul hkz
    · obtain ⟨y₁, y₂, rfl, hy₁, hy₂⟩ := h.exists_next hne ⟨[], by simpa using hk⟩ (mem_kstar_of_mem_mul hkz)
      have hnil : y₁ = [] := by
        by_contra hy
        exact hmax y₁ hy (List.prefix_append y₁ y₂) hy₁
      rwa [hnil]
  nil_mem := fun _ _ _ => Language.nil_mem_kstar L
  wait := by
    intro s hs hv hsm
    by_cases hne : s = []
    · subst hne
      obtain ⟨u, hu, v, _, huv⟩ := Language.mem_mul.mp hsm
      rw [(List.append_eq_nil_iff.mp huv).1] at hu
      exact hs hu
    · obtain ⟨y₁, y₂, hy, hy₁, _⟩ := h.exists_next hne hv (z := []) (by simpa using mem_kstar_of_mem_mul hsm)
      rw [(List.append_eq_nil_iff.mp hy.symm).1, List.append_nil] at hy₁
      exact hs hy₁

/-! ## Products and options -/

/-- A letter of a word of both stands in the first part or in the second. -/
theorem exists_split_of_mem_mul {x y : List String} {a : String} (h : x ++ a :: y ∈ L * M) :
    (∃ y₁ y₂, y = y₁ ++ y₂ ∧ x ++ a :: y₁ ∈ L ∧ y₂ ∈ M) ∨ ∃ x₁ x₂, x = x₁ ++ x₂ ∧ x₁ ∈ L ∧ x₂ ++ a :: y ∈ M := by
  obtain ⟨u, hu, v, hv, huv⟩ := Language.mem_mul.mp h
  rcases List.append_eq_append_iff.mp huv with ⟨c, rfl, rfl⟩ | ⟨c, rfl, hc⟩
  · exact .inr ⟨u, c, rfl, hu, hv⟩
  · cases c with
    | nil => exact .inr ⟨x, [], by simp, by simpa using hu, by rw [List.nil_append] at hc ⊢; rwa [hc]⟩
    | cons b c =>
      obtain ⟨rfl, rfl⟩ := List.cons.inj hc
      exact .inl ⟨c, v, rfl, hu, hv⟩

theorem Exchange.mul (hL : Exchange L) (hM : Exchange M) (hLM : Apart L M) : Exchange (L * M) := by
  refine ⟨fun {x y x' y' a} hw hw' => ?_⟩
  rcases exists_split_of_mem_mul hw with ⟨y₁, _, _, hu, _⟩ | ⟨x₁, x₂, rfl, hx₁, hv⟩ <;>
    rcases exists_split_of_mem_mul hw' with ⟨y₁', y₂', rfl, hu', hy₂'⟩ | ⟨x₁', x₂', _, _, hv'⟩
  · have := Language.append_mem_mul (hL.cross hu hu') hy₂'
    simpa using this
  · exact absurd (by simp) (hLM _ hu _ hv' a (by simp))
  · exact absurd (by simp) (hLM _ hu' _ hv a (by simp))
  · rw [List.append_assoc]
    exact Language.append_mem_mul hx₁ (hM.cross hv hv')

theorem Exchange.one_add (h : Exchange L) : Exchange (1 + L) := by
  have hmem : ∀ {x y : List String} {a : String}, x ++ a :: y ∈ 1 + L → x ++ a :: y ∈ L :=
    mem_of_mem_one_add (by simp)
  exact ⟨fun hw hw' => mem_one_add (h.cross (hmem hw) (hmem hw'))⟩

end Pattern

end StatementProfiles
