import Mathlib.Data.List.Nodup
import StatementProfiles.Members

/-!
# The keys of members and their order

`Members.insert` puts one key beside those that are there (`Members.mem_keys_insert`), and keys that differ go on to
differ (`Members.nodup_keys_insert`). Keys in order go on to be in order (`Members.Sorted.insert`). **Members in order
are determined by what is found under each key** (`Members.Sorted.eq_of_find?_eq`), so insertions under different keys
may change places (`Members.Sorted.insert_comm`), and members in order come back from their pairs
(`Members.Sorted.ofList_eq`).
-/

namespace StatementProfiles

namespace Members

variable {α : Type}

theorem place_perm : ∀ (ms : Members α) (key : String) (new : α), (ms.place key new).Perm ((key, new) :: ms)
  | [], _, _ => .refl _
  | (k, v) :: rest, key, new => by
    unfold place
    split
    · exact .refl _
    · exact ((place_perm rest key new).cons (k, v)).trans (.swap _ _ _)

theorem insert_perm {ms : Members α} {key : String} (h : ms.find? key = none) (new : α) :
    (ms.insert key new).Perm ((key, new) :: ms) := by
  simpa [insert, contains, h] using place_perm ms key new

theorem keys_replace : ∀ (ms : Members α) (key : String) (new : α), (ms.replace key new).keys = ms.keys
  | [], _, _ => rfl
  | (k, v) :: rest, key, new => by
    unfold replace
    split
    · rfl
    · exact congrArg (k :: ·) (keys_replace rest key new)

theorem mem_keys_iff {ms : Members α} {key : String} : key ∈ ms.keys ↔ (ms.find? key).isSome := by
  induction ms with
  | nil => simp [keys]
  | cons m rest ih =>
    by_cases hk : m.1 = key
    · simp [keys, find?, hk]
    · simpa [keys, find?, hk, Ne.symm hk] using ih

/-- Under keys that differ every member is found. -/
theorem find?_of_mem {ms : Members α} (h : ms.keys.Nodup) {m : String × α} (hm : m ∈ ms) : ms.find? m.1 = some m.2 := by
  induction ms with
  | nil => cases hm
  | cons first rest ih =>
    obtain ⟨hfirst, hrest⟩ := List.nodup_cons.mp h
    rcases List.mem_cons.mp hm with rfl | hm
    · rw [find?, if_pos rfl]
    · have hne : first.1 ≠ m.1 := fun heq => hfirst (heq ▸ List.mem_map_of_mem hm)
      rw [find?, if_neg hne, ih hrest hm]

theorem mem_keys_insert {ms : Members α} {key other : String} {new : α} :
    other ∈ (ms.insert key new).keys ↔ other = key ∨ other ∈ ms.keys := by
  rw [mem_keys_iff, mem_keys_iff]
  by_cases h : other = key
  · simp [h, find?_insert_self]
  · simp [h, find?_insert_of_ne]

theorem nodup_keys_insert {ms : Members α} (h : ms.keys.Nodup) (key : String) (new : α) :
    (ms.insert key new).keys.Nodup := by
  cases hk : ms.find? key with
  | some v =>
    have hthere : ms.contains key = true := by rw [contains, hk, Option.isSome_some]
    rw [insert, if_pos hthere, keys_replace]
    exact h
  | none =>
    have hnew : key ∉ ms.keys := fun hmem => by simp [mem_keys_iff, hk] at hmem
    exact ((insert_perm hk new).map Prod.fst).nodup_iff.mpr (List.nodup_cons.mpr ⟨hnew, h⟩)

theorem mem_replace {ms : Members α} {key : String} {new : α} {m : String × α} (h : m ∈ ms.replace key new) :
    m = (key, new) ∨ m ∈ ms := by
  induction ms with
  | nil => cases h
  | cons first rest ih =>
    obtain ⟨k, v⟩ := first
    unfold replace at h
    split at h
    · next hk =>
      subst hk
      rcases List.mem_cons.mp h with h | h
      · exact .inl h
      · exact .inr (List.mem_cons_of_mem _ h)
    · rcases List.mem_cons.mp h with h | h
      · exact .inr (h ▸ List.mem_cons_self)
      · exact (ih h).imp_right (List.mem_cons_of_mem _)

theorem mem_insert {ms : Members α} {key : String} {new : α} {m : String × α} (h : m ∈ ms.insert key new) :
    m = (key, new) ∨ m ∈ ms := by
  unfold insert at h
  split at h
  · exact mem_replace h
  · exact List.mem_cons.mp ((place_perm ms key new).mem_iff.mp h)

theorem replace_replace : ∀ (ms : Members α) (key : String) (v w : α),
    (ms.replace key v).replace key w = ms.replace key w
  | [], _, _, _ => rfl
  | (k, u) :: rest, key, v, w => by
    by_cases hk : k = key
    · simp [replace, hk]
    · simp [replace, hk, replace_replace rest key v w]

theorem replace_place : ∀ {ms : Members α} {key : String}, key ∉ ms.keys → ∀ v w : α,
    (ms.place key v).replace key w = ms.place key w
  | [], key, _, v, w => by simp [place, replace]
  | (k, u) :: rest, key, h, v, w => by
    have hk : k ≠ key := fun e => h (e ▸ List.mem_cons_self)
    have hrest : key ∉ keys rest := fun hmem => h (List.mem_cons_of_mem k hmem)
    by_cases hl : key < k
    · simp [place, replace, hl]
    · simp [place, replace, hl, hk, replace_place hrest v w]

/-- The later of two insertions under a key stays. -/
theorem insert_insert_self (ms : Members α) (key : String) (v w : α) :
    (ms.insert key v).insert key w = ms.insert key w := by
  have hthere : (ms.insert key v).contains key = true := by rw [contains, find?_insert_self, Option.isSome_some]
  rw [insert, if_pos hthere]
  unfold insert
  split
  · exact replace_replace ms key v w
  · next hnot => exact replace_place (fun hmem => hnot (mem_keys_iff.mp hmem)) v w

/-- Erasing a key that is there takes out one member and leaves the others in their order. -/
theorem exists_erase_eq {ms : Members α} {key : String} {v : α} (h : ms.find? key = some v) :
    ∃ before after, ms = before ++ (key, v) :: after ∧ ms.erase key = before ++ after := by
  induction ms with
  | nil => cases h
  | cons m rest ih =>
    obtain ⟨k, w⟩ := m
    by_cases hk : k = key
    · subst hk
      rw [find?, if_pos rfl] at h
      exact ⟨[], rest, by rw [Option.some.inj h]; rfl, by rw [erase, if_pos rfl]; rfl⟩
    · rw [find?, if_neg hk] at h
      obtain ⟨before, after, hms, herase⟩ := ih h
      exact ⟨(k, w) :: before, after, by rw [hms]; rfl, by rw [erase, if_neg hk, herase]; rfl⟩

/-! ## Members in order -/

/-- The keys increase. -/
def Sorted (ms : Members α) : Prop := ms.keys.Pairwise (· < ·)

theorem sorted_nil : Sorted ([] : Members α) := List.Pairwise.nil

theorem sorted_cons {k : String} {v : α} {ms : Members α} :
    Sorted ((k, v) :: ms) ↔ (∀ key ∈ ms.keys, k < key) ∧ ms.Sorted := List.pairwise_cons

namespace Sorted

variable {ms ms' : Members α}

theorem nodup_keys (h : ms.Sorted) : ms.keys.Nodup := by
  refine List.Pairwise.imp ?_ h
  intro k l hlt heq
  rw [heq] at hlt
  exact String.lt_irrefl l hlt

theorem place (h : ms.Sorted) {key : String} (hkey : key ∉ ms.keys) (new : α) : (ms.place key new).Sorted := by
  induction ms with
  | nil => exact sorted_cons.mpr ⟨fun _ hk => (nomatch hk), sorted_nil⟩
  | cons m rest ih =>
    obtain ⟨k, v⟩ := m
    obtain ⟨hfirst, hrest⟩ := sorted_cons.mp h
    have hne : key ≠ k := fun e => hkey (e ▸ List.mem_cons_self)
    unfold Members.place
    split
    · next hlt =>
      refine sorted_cons.mpr ⟨?_, h⟩
      intro key' hkey'
      rcases List.mem_cons.mp hkey' with rfl | hkey'
      · exact hlt
      · exact String.lt_trans hlt (hfirst key' hkey')
    · next hnot =>
      have hlt : k < key := Std.lt_of_le_of_ne (String.not_lt.mp hnot) hne.symm
      refine sorted_cons.mpr ⟨?_, ih hrest fun hmem => hkey (List.mem_cons_of_mem k hmem)⟩
      intro key' hkey'
      have hperm : (Members.place rest key new).keys.Perm (key :: Members.keys rest) :=
        (place_perm rest key new).map Prod.fst
      rcases List.mem_cons.mp (hperm.mem_iff.mp hkey') with rfl | hkey'
      · exact hlt
      · exact hfirst key' hkey'

theorem insert (h : ms.Sorted) (key : String) (new : α) : (ms.insert key new).Sorted := by
  unfold Members.insert
  split
  · rw [Sorted, keys_replace]
    exact h
  · next hnot => exact h.place (fun hmem => hnot (mem_keys_iff.mp hmem)) new

/-- A key below all others is found in front or nowhere. -/
theorem find?_eq_none_of_lt {k key : String} {v : α} (h : Sorted ((k, v) :: ms)) (hlt : key < k) :
    find? ((k, v) :: ms) key = none := by
  refine find?_eq_none fun hmem => ?_
  rcases List.mem_cons.mp hmem with rfl | hmem
  · exact String.lt_irrefl _ hlt
  · exact String.lt_asymm hlt ((sorted_cons.mp h).1 key hmem)

/-- **Members in order are determined by what is found under each key.** -/
theorem eq_of_find?_eq (h : ms.Sorted) (h' : ms'.Sorted) (heq : ∀ key, ms.find? key = ms'.find? key) : ms = ms' := by
  induction ms generalizing ms' with
  | nil =>
    cases ms' with
    | nil => rfl
    | cons m' rest' =>
      have hhead := heq m'.1
      simp [find?] at hhead
  | cons m rest ih =>
    cases ms' with
    | nil =>
      have hhead := heq m.1
      simp [find?] at hhead
    | cons m' rest' =>
      obtain ⟨k, v⟩ := m
      obtain ⟨k', v'⟩ := m'
      obtain ⟨hfirst, hrest⟩ := sorted_cons.mp h
      obtain ⟨hfirst', hrest'⟩ := sorted_cons.mp h'
      -- the first keys agree: the lesser of two would be found on one side only
      have hkey : k = k' := by
        by_contra hne
        rcases String.le_total k k' with hle | hle
        · have hhead := heq k
          rw [h'.find?_eq_none_of_lt (Std.lt_of_le_of_ne hle hne)] at hhead
          simp [find?] at hhead
        · have hhead := heq k'
          rw [h.find?_eq_none_of_lt (Std.lt_of_le_of_ne hle (Ne.symm hne))] at hhead
          simp [find?] at hhead
      subst hkey
      have hvalue : v = v' := by simpa [find?] using heq k
      subst hvalue
      have htail : ∀ key, Members.find? rest key = Members.find? rest' key := by
        intro key
        by_cases hkey : k = key
        · subst hkey
          rw [find?_eq_none fun hmem => String.lt_irrefl k (hfirst k hmem),
            find?_eq_none fun hmem => String.lt_irrefl k (hfirst' k hmem)]
        · simpa [find?, hkey] using heq key
      rw [ih hrest hrest' htail]

/-- Insertions under different keys may change places. -/
theorem insert_comm (h : ms.Sorted) {key key' : String} (hne : key ≠ key') (v w : α) :
    (ms.insert key v).insert key' w = (ms.insert key' w).insert key v := by
  refine ((h.insert key v).insert key' w).eq_of_find?_eq ((h.insert key' w).insert key v) fun other => ?_
  by_cases hother : other = key
  · rw [hother, find?_insert_of_ne _ _ hne, find?_insert_self, find?_insert_self]
  · by_cases hother' : other = key'
    · rw [hother', find?_insert_self, find?_insert_of_ne _ _ hne.symm, find?_insert_self]
    · rw [find?_insert_of_ne _ _ hother', find?_insert_of_ne _ _ hother, find?_insert_of_ne _ _ hother,
        find?_insert_of_ne _ _ hother']

end Sorted

/-! ## Members of pairs -/

/-- Of pairs with different keys every one is found, before what was there already. -/
theorem find?_foldl_insert {pairs : List (String × α)} (h : (keys pairs).Nodup) (ms : Members α) (key : String) :
    find? (pairs.foldl (fun ms p => ms.insert p.1 p.2) ms) key = (find? pairs key).or (ms.find? key) := by
  induction pairs generalizing ms with
  | nil => rfl
  | cons pair pairs ih =>
    obtain ⟨k, v⟩ := pair
    obtain ⟨hk, hpairs⟩ := List.nodup_cons.mp h
    rw [List.foldl_cons, ih hpairs, find?]
    by_cases hkey : k = key
    · subst hkey
      rw [find?_eq_none hk, if_pos rfl, find?_insert_self]
      rfl
    · rw [if_neg hkey, find?_insert_of_ne _ _ (Ne.symm hkey)]

theorem find?_ofList {pairs : List (String × α)} (h : (keys pairs).Nodup) (key : String) :
    find? (ofList pairs) key = find? pairs key := by
  rw [ofList, find?_foldl_insert h, find?_nil, Option.or_none]

theorem mem_of_mem_ofList {pairs : List (String × α)} {m : String × α} (h : m ∈ ofList pairs) : m ∈ pairs := by
  have hfrom : ∀ ms : Members α, m ∈ pairs.foldl (fun ms p => ms.insert p.1 p.2) ms → m ∈ ms ∨ m ∈ pairs := by
    clear h
    induction pairs with
    | nil => exact fun _ h => .inl h
    | cons pair pairs ih =>
      intro ms h
      rcases ih _ h with h | h
      · rcases mem_insert h with rfl | h
        · exact .inr List.mem_cons_self
        · exact .inl h
      · exact .inr (List.mem_cons_of_mem _ h)
  rcases hfrom [] h with h | h
  · cases h
  · exact h

theorem sorted_ofList (pairs : List (String × α)) : (ofList pairs).Sorted := by
  have hfrom : ∀ ms : Members α, ms.Sorted → (pairs.foldl (fun ms p => ms.insert p.1 p.2) ms).Sorted := by
    induction pairs with
    | nil => exact fun _ h => h
    | cons pair pairs ih => exact fun ms h => ih _ (h.insert pair.1 pair.2)
  exact hfrom [] sorted_nil

/-- Members in order are the members of themselves. -/
theorem Sorted.ofList_eq {ms : Members α} (h : ms.Sorted) : ofList ms = ms :=
  (sorted_ofList ms).eq_of_find?_eq h (find?_ofList h.nodup_keys)

theorem find?_append (xs ys : List (String × α)) (key : String) :
    find? (xs ++ ys) key = (find? xs key).or (find? ys key) := by
  induction xs with
  | nil => rfl
  | cons m xs ih =>
    by_cases hk : m.1 = key
    · simp [find?, hk]
    · simpa [find?, hk] using ih

/-- Of members that are chosen by their keys those are found whose keys are. -/
theorem find?_filter (p : String → Bool) (ms : Members α) (key : String) :
    find? (ms.filter fun m => p m.1) key = if p key then ms.find? key else none := by
  induction ms with
  | nil => simp
  | cons m rest ih =>
    by_cases hm : p m.1
    · rw [List.filter_cons, if_pos hm, find?, find?, ih]
      by_cases hk : m.1 = key
      · rw [if_pos hk, if_pos hk, ← hk, if_pos hm]
      · rw [if_neg hk, if_neg hk]
    · rw [List.filter_cons, if_neg hm, ih, find?]
      by_cases hk : m.1 = key
      · rw [← hk, if_neg hm, if_neg hm]
      · rw [if_neg hk]

theorem find?_mapValues {β : Type} (f : α → β) (ms : Members α) (key : String) :
    (ms.mapValues f).find? key = (ms.find? key).map f := by
  induction ms with
  | nil => rfl
  | cons m rest ih =>
    by_cases hk : m.1 = key
    · simp [mapValues, find?, hk]
    · simpa [mapValues, find?, hk] using ih

end Members

end StatementProfiles
