import StatementProfiles.Proofs.Document.Path

/-!
# Writing at a path

Looking up and writing obey the laws of a lens: what was written is found, of two writes the later stays, and writing
what is there changes nothing (`Json.set_get_laws`). A write changes the values on its way (`Json.kept_iff`) and
nothing beside it: a path that parts from it at segments which do not write one array index finds what it found before.
**The exception are arrays that lack the item under the segment that is written below** (`Json.LacksItem`). Such an
array gives way to an object, and its items are lost (`Json.set_beside_path`).
-/

namespace StatementProfiles

namespace Path

/-- The two segments write one array index. -/
def SameItem (s t : String) : Prop := ∃ i, index? s = some i ∧ index? t = some i

theorem not_sameItem_of_ne {s t : String} {i k : Nat} (hs : index? s = some i) (ht : index? t = some k) (h : i ≠ k) :
    ¬SameItem s t := by
  rintro ⟨l, hsl, htl⟩
  rw [hs] at hsl
  rw [ht] at htl
  exact h (Option.some.inj (hsl.trans htl.symm))

end Path

namespace Json

variable {j v : Json} {items : List Json} {f : Json → Json} {c p q rest : Path} {s t : String} {i : Nat}

/-! ## The laws of a lens -/

/-- **Looking up and writing obey the laws of a lens**, for every document and every path. -/
theorem set_get_laws (d : Json) (p : Path) (v w : Json) :
    (d.set p v).get? p = some v ∧ (d.set p v).set p w = d.set p w ∧ (d.get? p = some v → d.set p v = d) :=
  ⟨get?_set_self d p v, update_update _ _ p d, fun h => update_of_get? h rfl⟩

/-- A statement with a poster and a video. -/
def attached : Json :=
  .object [("attachments", .array [.object [("usageType", .string "u:poster")],
    .object [("usageType", .string "u:video")]])]

/-- An item is one and the same under all spellings of its index. -/
theorem set_get_laws_attached :
    attached.get? ["attachments", "+01", "usageType"] = some (.string "u:video") ∧
      attached.set ["attachments", "+01", "usageType"] (.string "u:video") = attached := by
  have hvideo : attached.get? ["attachments", "+01", "usageType"] = some (.string "u:video") := by decide +kernel
  exact ⟨hvideo, (set_get_laws attached _ _ .null).2.2 hvideo⟩

/-! ## Beside the path -/

/-- At the path stands an array that has no item under the segment. -/
def LacksItem (j : Json) (c : Path) (s : String) : Prop :=
  ∃ items, j.get? c = some (.array items) ∧ itemIndex? items s = none

/-- What is found below a part of a value is found in an array that has the part. -/
theorem not_lacksItem_of_get? (h : j.get? (c ++ s :: rest) = some v) : ¬j.LacksItem c s := by
  rintro ⟨items, hitems, hlacks⟩
  rw [get?_append, hitems, Option.bind_some, get?_cons, get?_array_of_itemIndex?_eq_none hlacks] at h
  cases h

/-- A change below an item leaves the other items alone. -/
theorem get?_update_item (hs : itemIndex? items s = some i) (hst : ¬Path.SameItem s t) :
    (update f (s :: rest) (.array items)).get? [t] = (Json.array items).get? [t] := by
  rw [update_array_of_itemIndex? hs, get?_array, get?_array]
  cases ht : Path.index? t with
  | none => rfl
  | some k =>
    have hne : i ≠ k := by
      rintro rfl
      exact hst ⟨i, (index?_of_itemIndex? hs).1, ht⟩
    exact List.getElem?_modify_ne _ _ hne

/-- A change below one part leaves the other parts alone, unless it makes an object of an array. -/
theorem get?_update_part (hne : s ≠ t) (hst : ¬Path.SameItem s t)
    (hkeep : ∀ items, j = .array items → itemIndex? items s ≠ none) :
    (update f (s :: rest) j).get? [t] = j.get? [t] := by
  cases j with
  | array items =>
    obtain ⟨i, hi⟩ := Option.ne_none_iff_exists'.mp (hkeep items rfl)
    exact get?_update_item hi hst
  | _ => exact get?_update_of_ne f hne.symm rest rfl

/-- A change on one way leaves what is found on another, unless the ways part in an array that lacks the item. -/
theorem get?_update_of_apart (hne : s ≠ t) (hst : ¬Path.SameItem s t) (hkeep : ¬j.LacksItem c s) :
    (update f (c ++ s :: rest) j).get? (c ++ t :: q) = j.get? (c ++ t :: q) := by
  have hpart : ∀ items, (j.get? c).getD .null = .array items → itemIndex? items s ≠ none := by
    intro items hitems hlacks
    cases hc : j.get? c with
    | none =>
      rw [hc] at hitems
      cases hitems
    | some part =>
      rw [hc, Option.getD_some] at hitems
      exact hkeep ⟨items, by rw [hc, hitems], hlacks⟩
  rw [get?_append, get?_append, get?_update_append, Option.bind_some, get?_cons, get?_update_part hne hst hpart,
    ← get?_cons]
  cases j.get? c <;> rfl

/-- In an array that lacks the item a change on one way takes away what is found on another. -/
theorem get?_update_of_lacksItem (hne : s ≠ t) (hlacks : j.LacksItem c s) :
    (update f (c ++ s :: rest) j).get? (c ++ t :: q) = none := by
  obtain ⟨items, hitems, hlacks⟩ := hlacks
  rw [get?_append, get?_update_append, hitems, Option.bind_some, Option.getD_some,
    update_array_of_itemIndex?_eq_none hlacks, get?_object_cons, Members.find?_insert_of_ne _ _ hne.symm]
  rfl

/-! ## On the way -/

/-- How a value changes when it is written below its part `s`: an object gets or changes a member, an array changes an
item, and an object with one member takes the place of what is missing or has no parts. -/
inductive Kept (s : String) : Option Json → Json → Prop
  | object (members : Members Json) (x : Json) : Kept s (some (.object members)) (.object (members.insert s x))
  | array {items : List Json} {i : Nat} (x : Json) :
      itemIndex? items s = some i → Kept s (some (.array items)) (.array (items.set i x))
  | missing (x : Json) : Kept s none (.object [(s, x)])
  | scalar {j : Json} (x : Json) : j.isContainer = false → Kept s (some j) (.object [(s, x)])

/-- The values on the way of a change keep their other entries, if they are no arrays or have the item. -/
theorem kept_update {part : Option Json} (hkeep : ∀ items, part = some (.array items) → itemIndex? items s ≠ none) :
    Kept s part (update f (s :: rest) (part.getD .null)) := by
  cases part with
  | none => exact .missing _
  | some j =>
    rw [Option.getD_some]
    cases j with
    | object members => exact .object members _
    | array items =>
      obtain ⟨i, hi⟩ := Option.ne_none_iff_exists'.mp (hkeep items rfl)
      rw [update_array_of_itemIndex? hi, List.modify_eq_set]
      exact .array _ hi
    | _ => exact .scalar _ rfl

/-- An array without the item gives way to an object. -/
theorem not_kept_update (hlacks : itemIndex? items s = none) :
    ¬Kept s (some (.array items)) (update f (s :: rest) (.array items)) := by
  rw [update_array_of_itemIndex?_eq_none hlacks]
  intro h
  cases h with
  | scalar _ hscalar => cases hscalar

theorem kept_iff (d : Json) (f : Json → Json) (c : Path) (s : String) (rest : Path) :
    Kept s (d.get? c) (update f (s :: rest) ((d.get? c).getD .null)) ↔ ¬d.LacksItem c s := by
  constructor
  · rintro hkept ⟨items, hitems, hlacks⟩
    rw [hitems] at hkept
    exact not_kept_update hlacks hkept
  · intro hkeep
    exact kept_update fun items hitems hlacks => hkeep ⟨items, hitems, hlacks⟩

/-- **A write touches nothing beside its path**, unless it makes an object of an array. A path that parts from it finds
what it found before, and the values on the way keep their other entries, exactly when the array in which the paths part
or which is on the way, if there is one, has the item that is written or written below. -/
theorem set_beside_path (d : Json) (p : Path) (v : Json) :
    (∀ c s rest t q, p = c ++ s :: rest → s ≠ t → ¬Path.SameItem s t →
      (¬d.LacksItem c s → (d.set p v).get? (c ++ t :: q) = d.get? (c ++ t :: q)) ∧
      (d.LacksItem c s → (d.set p v).get? (c ++ t :: q) = none)) ∧
    ∀ c s rest, p = c ++ s :: rest →
      ∃ after, (d.set p v).get? c = some after ∧ (Kept s (d.get? c) after ↔ ¬d.LacksItem c s) := by
  constructor
  · rintro c s rest t q rfl hne hst
    exact ⟨get?_update_of_apart hne hst, get?_update_of_lacksItem hne⟩
  · rintro c s rest rfl
    exact ⟨_, get?_update_append _ c (s :: rest) d, kept_iff d _ c s rest⟩

/-- The display text of the video does not touch the poster. -/
theorem set_beside_path_attached :
    "1" ≠ "0" ∧ ¬Path.SameItem "1" "0" ∧ ¬attached.LacksItem ["attachments"] "1" ∧
      (attached.set ["attachments", "1", "display"] (.string "Tour")).get? ["attachments", "0", "usageType"] =
        some (.string "u:poster") := by
  have hst : ¬Path.SameItem "1" "0" :=
    Path.not_sameItem_of_ne (i := 1) (k := 0) (by decide +kernel) (by decide +kernel) (by decide)
  have hvideo : attached.get? (["attachments"] ++ "1" :: ["usageType"]) = some (.string "u:video") := by decide +kernel
  have hkeep : ¬attached.LacksItem ["attachments"] "1" := not_lacksItem_of_get? hvideo
  obtain ⟨hbeside, -⟩ := set_beside_path attached ["attachments", "1", "display"] (.string "Tour")
  have hposter := (hbeside ["attachments"] "1" ["display"] "0" ["usageType"] rfl (by decide) hst).1 hkeep
  refine ⟨by decide, hst, hkeep, hposter.trans ?_⟩
  decide +kernel

/-- A third attachment takes the place of the other two. -/
theorem attachments_are_lost :
    "2" ≠ "0" ∧ ¬Path.SameItem "2" "0" ∧
      attached.get? ["attachments", "0", "usageType"] = some (.string "u:poster") ∧
      (attached.set ["attachments", "2", "usageType"] (.string "u:sound")).get? ["attachments", "0", "usageType"] =
        none ∧
      attached.set ["attachments", "2", "usageType"] (.string "u:sound") =
        .object [("attachments", .object [("2", .object [("usageType", .string "u:sound")])])] := by
  have hst : ¬Path.SameItem "2" "0" :=
    Path.not_sameItem_of_ne (i := 2) (k := 0) (by decide +kernel) (by decide +kernel) (by decide)
  exact ⟨by decide, hst, by decide +kernel, by decide +kernel, by decide +kernel⟩

end Json

end StatementProfiles
