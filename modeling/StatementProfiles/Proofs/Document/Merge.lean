import StatementProfiles.Document.Path
import StatementProfiles.Proofs.Members

/-!
# What merging keeps

Of two objects a merge has the members of both; where both have one, these are merged (`Json.find?_mergeMembers`).
-/

namespace StatementProfiles

namespace Json

variable {base overlay : Members Json}

/-- A member of a merged object is that of the overlay merged into that of the base, or that of the base alone. -/
theorem find?_mergeMembers (h : overlay.keys.Nodup) (key : String) :
    Members.find? (mergeMembers base overlay) key =
      match overlay.find? key with
      | some v => some (merge ((base.find? key).getD .null) v)
      | none => base.find? key := by
  induction overlay generalizing base with
  | nil => rfl
  | cons m rest ih =>
    obtain ⟨k, v⟩ := m
    obtain ⟨hk, hrest⟩ := List.nodup_cons.mp h
    rw [mergeMembers, ih hrest, Members.find?]
    by_cases hkey : k = key
    · subst hkey
      rw [Members.find?_eq_none hk, if_pos rfl]
      exact Members.find?_insert_self _ _ _
    · rw [if_neg hkey, Members.find?_insert_of_ne _ _ (Ne.symm hkey)]

/-- A merged object has the keys of both objects and no others. -/
theorem mem_keys_mergeMembers {key : String} :
    key ∈ Members.keys (mergeMembers base overlay) ↔ key ∈ base.keys ∨ key ∈ overlay.keys := by
  induction overlay generalizing base with
  | nil => simp [mergeMembers, Members.keys]
  | cons m rest ih =>
    rw [mergeMembers, ih, Members.mem_keys_insert]
    simp only [Members.keys, List.map_cons, List.mem_cons]
    tauto

/-- A string replaces what it is merged into. -/
theorem merge_string (base : Json) (s : String) : merge base (.string s) = .string s := by
  cases base <;> rfl

end Json

end StatementProfiles
