import Mathlib.Data.List.Infix
import StatementProfiles.Proofs.Pattern.Ending
import StatementProfiles.Proofs.Pattern.Record

/-!
# Staying under way

One template after another a pattern may stay under way (`Going`) until it is complete (`Completes`). The templates of a
completion are accepted in order (`Completes.takes`), and on templates that are accepted in order a pattern stays under
way or is complete at some point (`Takes.going`).
-/

namespace StatementProfiles

namespace Pattern

/-- The pattern is under way on `s` and with each beginning of `t` behind it. -/
def Going (p : Pattern) (s t : List String) : Prop := ∀ u, u <+: t → p.ending (s ++ u) = .underway

/-- The pattern is under way as long as not all of `t` is there. -/
def Until (p : Pattern) (s t : List String) : Prop := ∀ u, u <+: t → u ≠ t → p.ending (s ++ u) = .underway

/-- The pattern is under way until all of `t` is there, and then complete. -/
structure Completes (p : Pattern) (s t : List String) : Prop where
  before : p.Until s t
  done : p.ending (s ++ t) = .success []

variable {p q : Pattern} {s r t u v : List String} {x : String}

/-- A beginning of two lists in a row is one of the first, or the first and one of the second. -/
theorem prefix_append_cases (h : v <+: t ++ u) : v <+: t ∨ ∃ w, v = t ++ w ∧ w <+: u := by
  refine (List.prefix_or_prefix_of_prefix h (List.prefix_append t u)).imp_right ?_
  rintro ⟨w, rfl⟩
  exact ⟨w, rfl, (List.prefix_append_right_inj t).mp h⟩

/-! ## Going on -/

theorem going_nil (h : p.ending s = .underway) : p.Going s [] := by
  intro u hu
  rw [List.prefix_nil.mp hu, List.append_nil, h]

theorem Going.ending (h : p.Going s t) : p.ending (s ++ t) = .underway := h t List.prefix_rfl

theorem Going.mono (h : p.Going s t) (hu : u <+: t) : p.Going s u := fun v hv => h v (hv.trans hu)

theorem Going.append (h : p.Going s t) (hmore : p.Going (s ++ t) u) : p.Going s (t ++ u) := by
  intro v hv
  rcases prefix_append_cases hv with hv | ⟨w, rfl, hw⟩
  · exact h v hv
  · rw [← List.append_assoc]
    exact hmore w hw

/-- What no single template leaves under way does not go on. -/
theorem Going.eq_nil (h : p.Going s t) (hstop : ∀ x, p.ending (s ++ [x]) ≠ .underway) : t = [] := by
  cases t with
  | nil => rfl
  | cons x t => exact absurd (h [x] ⟨t, rfl⟩) (hstop x)

theorem Until.going (h : p.Until s t) (ht : p.ending (s ++ t) = .underway) : p.Going s t := by
  intro u hu
  by_cases hne : u = t
  · rw [hne, ht]
  · exact h u hu hne

theorem Completes.append (hg : p.Going s t) (h : p.Completes (s ++ t) u) : p.Completes s (t ++ u) where
  before := by
    intro v hv hne
    rcases prefix_append_cases hv with hv | ⟨w, rfl, hw⟩
    · exact hg v hv
    · rw [← List.append_assoc]
      exact h.before w hw fun heq => hne (by rw [heq])
  done := by rw [← List.append_assoc, h.done]

/-- With one more template that is accepted, what goes on is still going, or complete. -/
theorem Going.concat (h : p.Going s t) (hx : p.canAppend (s ++ t) x = true) :
    p.Going s (t ++ [x]) ∨ p.Completes s (t ++ [x]) := by
  have hbefore : p.Until s (t ++ [x]) := fun u hu hne => h u ((List.prefix_concat_iff.mp hu).resolve_left hne)
  rw [canAppend_iff, List.append_assoc] at hx
  exact hx.symm.imp hbefore.going fun hdone => ⟨hbefore, hdone⟩

/-- With templates that are accepted a pattern is complete or under way. -/
theorem Takes.ending (h : p.Takes s t) (ht : t ≠ []) :
    p.ending (s ++ t) = .success [] ∨ p.ending (s ++ t) = .underway := by
  obtain ⟨u, x, rfl⟩ := (List.eq_nil_or_concat t).resolve_left ht
  have hx := canAppend_iff.mp (h u x [] (by simp))
  rwa [List.append_assoc, ← List.concat_eq_append] at hx

/-- **On templates that are accepted a pattern stays under way, or it is complete on the way.** -/
theorem Takes.going (h : p.Takes s t) (hs : p.ending s = .underway) : p.Going s t ∨ ∃ u, p.Completes s u := by
  induction t using List.reverseRecOn with
  | nil => exact .inl (going_nil hs)
  | append_singleton t x ih =>
    rcases ih fun u y v e => h u y (v ++ [x]) (by rw [e]; simp) with hgoing | hdone
    · exact (hgoing.concat (h t x [] rfl)).imp_right fun hdone => ⟨_, hdone⟩
    · exact .inr hdone

end Pattern

end StatementProfiles
