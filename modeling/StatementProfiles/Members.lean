/-!
# Members: finite maps as key-sorted lists

JSON objects, language maps and tables are lists of `(key, value)` pairs in increasing order of their keys, no key
twice. `insert` puts a new key at its place and replaces the value of a key that is there, so the laws of look-up
(`find?_insert_self`, `find?_insert_of_ne`, `insert_of_find?`) hold of every list, sorted or not.
-/

namespace StatementProfiles

/-- Members of an object or entries of a map, in increasing order of their keys. -/
abbrev Members (α : Type) := List (String × α)

namespace Members

variable {α β : Type}

/-- The value under a key. -/
def find? : Members α → String → Option α
  | [], _ => none
  | (k, v) :: rest, key => if k = key then some v else find? rest key

/-- Whether a key is present. -/
def contains (ms : Members α) (key : String) : Bool := (ms.find? key).isSome

/-- The same members with the value of a present key replaced. -/
def replace : Members α → String → α → Members α
  | [], _, _ => []
  | (k, v) :: rest, key, new => if k = key then (k, new) :: rest else (k, v) :: replace rest key new

/-- A new member, before the first greater key. -/
def place : Members α → String → α → Members α
  | [], key, new => [(key, new)]
  | (k, v) :: rest, key, new => if key < k then (key, new) :: (k, v) :: rest else (k, v) :: place rest key new

/-- The members with `key` set to `new`. -/
def insert (ms : Members α) (key : String) (new : α) : Members α :=
  if ms.contains key then ms.replace key new else ms.place key new

/-- The members without `key`. -/
def erase : Members α → String → Members α
  | [], _ => []
  | (k, v) :: rest, key => if k = key then rest else (k, v) :: erase rest key

/-- The members that a list of pairs gives when they are inserted in turn: the last value of a key stays. -/
def ofList (pairs : List (String × α)) : Members α :=
  pairs.foldl (fun ms p => ms.insert p.1 p.2) []

/-- The keys in order. -/
def keys (ms : Members α) : List String := ms.map Prod.fst

/-- The values in the order of their keys. -/
def values (ms : Members α) : List α := ms.map Prod.snd

/-- Every value changed by one function. -/
def mapValues (f : α → β) (ms : Members α) : Members β := ms.map fun p => (p.1, f p.2)

/-! ## Laws of look-up -/

@[simp] theorem find?_nil (key : String) : find? ([] : Members α) key = none := rfl

/-- Under a key that does not occur nothing is found. -/
theorem find?_eq_none : ∀ {ms : Members α} {key : String}, key ∉ ms.keys → ms.find? key = none
  | [], _, _ => rfl
  | (k, v) :: rest, key, h => by
    have hk : k ≠ key := fun e => h (e ▸ List.mem_cons_self)
    rw [find?, if_neg hk, find?_eq_none fun hrest => h (List.mem_cons_of_mem k hrest)]

/-- What is found under a key is a member. -/
theorem mem_of_find? : ∀ {ms : Members α} {key : String} {v : α}, ms.find? key = some v → (key, v) ∈ ms
  | [], _, _, h => by simp at h
  | (k, w) :: rest, key, v, h => by
    by_cases hk : k = key
    · simp_all [find?]
    · have hr : find? rest key = some v := by simpa [find?, hk] using h
      exact List.mem_cons_of_mem _ (mem_of_find? hr)

theorem find?_replace_self : ∀ {ms : Members α} {key : String} {new : α}, ms.contains key = true →
    (ms.replace key new).find? key = some new
  | [], _, _, h => by simp [contains] at h
  | (k, v) :: rest, key, new, h => by
    by_cases hk : k = key
    · simp [replace, find?, hk]
    · have hr : contains rest key = true := by simpa [contains, find?, hk] using h
      simp [replace, find?, hk, find?_replace_self hr]

theorem find?_replace_of_ne : ∀ {ms : Members α} {key other : String} {new : α}, other ≠ key →
    (ms.replace key new).find? other = ms.find? other
  | [], _, _, _, _ => rfl
  | (k, v) :: rest, key, other, new, h => by
    by_cases hk : k = key
    · subst hk
      simp [replace, find?, Ne.symm h]
    · by_cases ho : k = other
      · subst ho
        simp [replace, find?, hk]
      · simp [replace, find?, hk, ho, find?_replace_of_ne h]

theorem find?_place_self : ∀ {ms : Members α} {key : String} {new : α}, ms.find? key = none →
    (ms.place key new).find? key = some new
  | [], _, _, _ => by simp [place, find?]
  | (k, v) :: rest, key, new, h => by
    by_cases hk : k = key
    · simp [find?, hk] at h
    · have hr : find? rest key = none := by simpa [find?, hk] using h
      by_cases hl : key < k
      · simp [place, find?, hl]
      · simp [place, find?, hl, hk, find?_place_self hr]

theorem find?_place_of_ne : ∀ {ms : Members α} {key other : String} {new : α}, other ≠ key →
    (ms.place key new).find? other = ms.find? other
  | [], _, _, _, h => by simp [place, find?, Ne.symm h]
  | (k, v) :: rest, key, other, new, h => by
    by_cases hl : key < k
    · simp [place, find?, hl, Ne.symm h]
    · by_cases ho : k = other
      · subst ho
        simp [place, find?, hl]
      · simp [place, find?, hl, ho, find?_place_of_ne h]

/-- What was put under a key is found there. -/
theorem find?_insert_self (ms : Members α) (key : String) (new : α) :
    (ms.insert key new).find? key = some new := by
  by_cases h : ms.contains key = true
  · simp [insert, h, find?_replace_self h]
  · have hn : ms.find? key = none := by simpa [contains] using h
    simp [insert, h, find?_place_self hn]

/-- Other keys keep their values. -/
theorem find?_insert_of_ne (ms : Members α) {key other : String} (new : α) (h : other ≠ key) :
    (ms.insert key new).find? other = ms.find? other := by
  by_cases hc : ms.contains key = true
  · simp [insert, hc, find?_replace_of_ne h]
  · simp [insert, hc, find?_place_of_ne h]

theorem replace_of_find? : ∀ {ms : Members α} {key : String} {v : α}, ms.find? key = some v →
    ms.replace key v = ms
  | [], _, _, h => by simp at h
  | (k, w) :: rest, key, v, h => by
    by_cases hk : k = key
    · simp_all [replace, find?]
    · have hr : find? rest key = some v := by simpa [find?, hk] using h
      simp [replace, hk, replace_of_find? hr]

/-- Putting back the value that is there changes nothing. -/
theorem insert_of_find? {ms : Members α} {key : String} {v : α} (h : ms.find? key = some v) :
    ms.insert key v = ms := by
  simp [insert, contains, h, replace_of_find? h]

end Members

end StatementProfiles
