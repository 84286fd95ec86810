import StatementProfiles.Proofs.Document.Writing

/-!
# Taking out a value

Taking out what is there is a change of the container in which it stands (`Json.remove_of_get?`), and taking out what
is not there is none (`Json.remove_of_get?_eq_none`). **From an object exactly the member goes**, and all else is as it
was (`Json.remove_takes_out_member`). The exception are items of arrays: they stay.
-/

namespace StatementProfiles

namespace Json

variable {j v : Json} {p : Path} {key : String}

/-- The value without a member; only objects have members. -/
def withoutMember (key : String) : Json → Json
  | .object members => .object (Members.erase members key)
  | j => j

/-- Taking out a value changes the container in which it stands. -/
theorem eraseAt_append {part : Json} (h : j.get? p = some part) (key : String) :
    eraseAt (p ++ [key]) j = update (withoutMember key) p j := by
  induction p generalizing j with
  | nil =>
    rw [List.nil_append, update_nil]
    cases j <;> rfl
  | cons s p ih =>
    obtain ⟨next, rest, hrest⟩ : ∃ next rest, p ++ [key] = next :: rest := by
      cases p with
      | nil => exact ⟨key, [], rfl⟩
      | cons s' p => exact ⟨s', p ++ [key], rfl⟩
    rw [get?_cons] at h
    obtain ⟨child, hchild, hpart⟩ := Option.bind_eq_some_iff.mp h
    have hbelow : eraseAt (next :: rest) child = update (withoutMember key) p child := by
      rw [← hrest]
      exact ih hpart
    rw [List.cons_append, hrest]
    cases j with
    | object members =>
      rw [get?_object] at hchild
      have hthere : Members.contains members s = true := by rw [Members.contains, hchild, Option.isSome_some]
      rw [update_of_asArray? rfl]
      simp only [eraseAt, Json.members, hchild, Option.getD_some, hbelow, Members.insert, if_pos hthere]
    | array items =>
      obtain ⟨i, hi, hitem⟩ := exists_itemIndex?_of_get? hchild
      rw [update_array_of_itemIndex? hi]
      simp only [eraseAt, hi, List.modify_eq_set, hitem, Option.getD_some, hbelow]
    | _ => cases hchild

theorem remove_of_get?_eq_none (hp : p ≠ []) (h : j.get? p = none) : j.remove p = j := by
  have hempty : ¬p.isEmpty = true := fun he => hp (List.isEmpty_iff.mp he)
  have hcontains : ¬j.contains p = true := by simp [contains, h]
  rw [remove, if_neg hempty, if_neg hcontains]

theorem remove_of_get? (h : j.get? (p ++ [key]) = some v) :
    j.remove (p ++ [key]) = update (withoutMember key) p j := by
  have hempty : ¬(p ++ [key]).isEmpty = true := by simp
  have hcontains : j.contains (p ++ [key]) = true := by rw [contains, h, Option.isSome_some]
  obtain ⟨part, hpart, -⟩ := Option.bind_eq_some_iff.mp ((get?_append j p [key]).symm.trans h)
  rw [remove, if_neg hempty, if_pos hcontains, eraseAt_append hpart]

/-- A value with a part is an object or an array. -/
theorem object_or_array_of_get? (h : j.get? [key] = some v) :
    (∃ members, j = .object members ∧ Members.find? members key = some v) ∨ ∃ items, j = .array items := by
  cases j with
  | object members => exact .inl ⟨members, rfl, (get?_object members key).symm.trans h⟩
  | array items => exact .inr ⟨items, rfl⟩
  | _ => cases h

/-- **Taking out a value.** What is not there leaves the document as it is. Of an object exactly the member goes: the
others stay in their order, the object stands where it stood, and every path that parts from the way to it finds what it
found before. An item of an array stays, and so does the document. -/
theorem remove_takes_out_member (d : Json) (parent : Path) (key : String) :
    (d.get? (parent ++ [key]) = none → d.remove (parent ++ [key]) = d) ∧
    ∀ v, d.get? (parent ++ [key]) = some v →
      (∃ before after, d.get? parent = some (.object (before ++ (key, v) :: after)) ∧
        (d.remove (parent ++ [key])).get? parent = some (.object (before ++ after)) ∧
        ((Members.keys (before ++ (key, v) :: after)).Nodup →
          (d.remove (parent ++ [key])).get? (parent ++ [key]) = none) ∧
        d.remove (parent ++ [key]) = d.set parent (.object (before ++ after)) ∧
        ∀ c s rest t q, parent = c ++ s :: rest → s ≠ t → ¬Path.SameItem s t →
          (d.remove (parent ++ [key])).get? (c ++ t :: q) = d.get? (c ++ t :: q)) ∨
      ((∃ items, d.get? parent = some (.array items)) ∧ d.remove (parent ++ [key]) = d) := by
  refine ⟨remove_of_get?_eq_none (by simp), fun v h => ?_⟩
  obtain ⟨part, hpart, hv⟩ := Option.bind_eq_some_iff.mp ((get?_append d parent [key]).symm.trans h)
  rcases object_or_array_of_get? hv with ⟨members, rfl, hfind⟩ | ⟨items, rfl⟩
  · obtain ⟨before, after, hmembers, herase⟩ := Members.exists_erase_eq hfind
    have hset : d.remove (parent ++ [key]) = d.set parent (.object (before ++ after)) := by
      rw [remove_of_get? h, set]
      refine update_congr ?_
      rw [hpart, Option.getD_some, withoutMember, herase]
    have hcontainer : (d.remove (parent ++ [key])).get? parent = some (.object (before ++ after)) := by
      rw [hset, get?_set_self]
    refine .inl ⟨before, after, by rw [← hmembers, hpart], hcontainer, fun hnodup => ?_, hset, ?_⟩
    · have hgone : key ∉ Members.keys (before ++ after) := by
        rw [Members.keys, List.map_append, List.map_cons, List.nodup_middle] at hnodup
        rw [Members.keys, List.map_append]
        exact (List.nodup_cons.mp hnodup).1
      rw [get?_append, hcontainer, Option.bind_some, get?_object, Members.find?_eq_none hgone]
    · rintro c s rest t q rfl hne hst
      rw [remove_of_get? h]
      exact get?_update_of_apart hne hst (not_lacksItem_of_get? hpart)
  · refine .inr ⟨⟨items, hpart⟩, ?_⟩
    rw [remove_of_get? h]
    exact update_of_get? hpart rfl

/-- The usage type of the video goes, and the poster keeps its own. -/
theorem remove_takes_out_member_attached :
    attached.get? ["attachments", "1", "usageType"] = some (.string "u:video") ∧
      (attached.remove ["attachments", "1", "usageType"]).get? ["attachments", "1", "usageType"] = none ∧
      (attached.remove ["attachments", "1", "usageType"]).get? ["attachments", "0", "usageType"] =
        some (.string "u:poster") := by
  have hvideo : attached.get? (["attachments", "1"] ++ ["usageType"]) = some (.string "u:video") := by decide +kernel
  have hmembers : attached.get? ["attachments", "1"] = some (.object [("usageType", .string "u:video")]) := by
    decide +kernel
  have hst : ¬Path.SameItem "1" "0" :=
    Path.not_sameItem_of_ne (i := 1) (k := 0) (by decide +kernel) (by decide +kernel) (by decide)
  obtain ⟨-, htaken⟩ := remove_takes_out_member attached ["attachments", "1"] "usageType"
  rcases htaken _ hvideo with ⟨before, after, hobject, -, hgone, -, hbeside⟩ | ⟨⟨items, hitems⟩, -⟩
  · have hsplit : [("usageType", Json.string "u:video")] = before ++ ("usageType", .string "u:video") :: after :=
      Json.object.inj (Option.some.inj (hmembers.symm.trans hobject))
    have hnodup : (Members.keys (before ++ ("usageType", Json.string "u:video") :: after)).Nodup := by
      rw [← hsplit]
      decide
    refine ⟨hvideo, hgone hnodup, ?_⟩
    refine (hbeside ["attachments"] "1" [] "0" ["usageType"] rfl (by decide) hst).trans ?_
    decide +kernel
  · rw [hmembers] at hitems
    cases hitems

/-- An attachment is not taken out. -/
theorem attachment_stays :
    attached.get? ["attachments", "0"] = some (.object [("usageType", .string "u:poster")]) ∧
      attached.remove ["attachments", "0"] = attached :=
  ⟨by decide +kernel, by decide +kernel⟩

end Json

end StatementProfiles
