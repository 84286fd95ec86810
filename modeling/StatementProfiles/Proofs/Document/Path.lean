import StatementProfiles.Document.Path
import StatementProfiles.Proofs.Members

/-!
# What a change at a path leaves alone

A path is looked up in steps (`Json.get?_append`). A change at a path is seen at the path and at every beginning of it
(`Json.get?_update_append`) and nowhere else: a path that goes another way than the changed one finds what it found
before, unless the ways part in an array, where two segments may mean one item (`Json.get?_update_of_fork`). A change
that leaves the value at the path as it is leaves everything as it is (`Json.update_of_get?`). Changes on two ways that
part in an object with its keys in order may change places (`Json.update_comm`).
-/

namespace StatementProfiles

namespace Json

/-! ## One step -/

theorem get?_nil (j : Json) : j.get? [] = some j := by
  cases j <;> rfl

theorem bind_get?_nil (part : Option Json) : part.bind (·.get? []) = part := by
  cases part with
  | none => rfl
  | some j => exact get?_nil j

theorem get?_object_cons (ms : Members Json) (s : String) (rest : Path) :
    (Json.object ms).get? (s :: rest) = (ms.find? s).bind (·.get? rest) := by
  cases h : ms.find? s <;> simp [get?, h]

theorem get?_array_cons (items : List Json) (s : String) (rest : Path) :
    (Json.array items).get? (s :: rest) = ((Path.index? s).bind (items[·]?)).bind (·.get? rest) := by
  cases hi : Path.index? s with
  | none => simp [get?, hi]
  | some i => cases h : items[i]? <;> simp [get?, hi, h]

theorem get?_object (ms : Members Json) (key : String) : (Json.object ms).get? [key] = ms.find? key := by
  rw [get?_object_cons, bind_get?_nil]

theorem get?_array (items : List Json) (s : String) :
    (Json.array items).get? [s] = (Path.index? s).bind (items[·]?) := by
  rw [get?_array_cons, bind_get?_nil]

theorem get?_cons (j : Json) (s : String) (rest : Path) : j.get? (s :: rest) = (j.get? [s]).bind (·.get? rest) := by
  cases j with
  | object members => rw [get?_object, get?_object_cons]
  | array items => rw [get?_array, get?_array_cons]
  | _ => rfl

/-- Of two members with different keys the second one leaves the first. -/
theorem get?_ofPairs_fst {key other : String} (h : key ≠ other) (v w : Json) :
    (ofPairs [(key, v), (other, w)]).get? [key] = some v := by
  rw [ofPairs, get?_object]
  exact (Members.find?_insert_of_ne _ _ h).trans (Members.find?_insert_self _ _ _)

theorem index?_of_itemIndex? {items : List Json} {s : String} {i : Nat} (h : itemIndex? items s = some i) :
    Path.index? s = some i ∧ i < items.length := by
  obtain ⟨hs, hlt⟩ := Option.filter_eq_some_iff.mp h
  exact ⟨hs, of_decide_eq_true hlt⟩

theorem get?_array_of_itemIndex? {items : List Json} {s : String} {i : Nat} (h : itemIndex? items s = some i) :
    (Json.array items).get? [s] = items[i]? := by
  rw [get?_array, (index?_of_itemIndex? h).1, Option.bind_some]

theorem get?_array_of_itemIndex?_eq_none {items : List Json} {s : String} (h : itemIndex? items s = none) :
    (Json.array items).get? [s] = none := by
  rw [get?_array]
  cases hi : Path.index? s with
  | none => rfl
  | some i =>
    have hlength : items.length ≤ i := by simpa [itemIndex?, hi] using h
    exact List.getElem?_eq_none hlength

/-- A part of an array is an item. -/
theorem exists_itemIndex?_of_get? {items : List Json} {s : String} {v : Json}
    (h : (Json.array items).get? [s] = some v) : ∃ i, itemIndex? items s = some i ∧ items[i]? = some v := by
  cases hi : itemIndex? items s with
  | none =>
    rw [get?_array_of_itemIndex?_eq_none hi] at h
    cases h
  | some i =>
    rw [get?_array_of_itemIndex? hi] at h
    exact ⟨i, rfl, h⟩

/-! ## One step of a change -/

/-- The members of an object; other values have none. -/
def members : Json → Members Json
  | .object members => members
  | _ => []

theorem get?_of_asArray? {j : Json} (hj : j.asArray? = none) (s : String) : j.get? [s] = j.members.find? s := by
  cases j with
  | object members => exact get?_object members s
  | array items => cases hj
  | _ => rfl

/-- A change below a value that is no array makes an object of it, or keeps the one that it is. -/
theorem update_of_asArray? {j : Json} (hj : j.asArray? = none) (f : Json → Json) (s : String) (rest : Path) :
    update f (s :: rest) j = .object (j.members.insert s (update f rest ((j.members.find? s).getD .null))) := by
  cases j with
  | object members => rfl
  | array items => cases hj
  | _ => rfl

theorem update_array_of_itemIndex? {items : List Json} {s : String} {i : Nat} (h : itemIndex? items s = some i)
    (f : Json → Json) (rest : Path) :
    update f (s :: rest) (.array items) = .array (items.modify i (update f rest)) := by
  simp only [update, h]

/-- An array without the item gives way to an object. -/
theorem update_array_of_itemIndex?_eq_none {items : List Json} {s : String} (h : itemIndex? items s = none)
    (f : Json → Json) (rest : Path) :
    update f (s :: rest) (.array items) = .object (Members.insert [] s (update f rest .null)) := by
  simp only [update, h]
  rfl

/-- A change below a part of a value is seen there; a missing part counts as null. -/
theorem get?_update_head (f : Json → Json) (s : String) (rest : Path) (j : Json) :
    (update f (s :: rest) j).get? [s] = some (update f rest ((j.get? [s]).getD .null)) := by
  cases j with
  | array items =>
    cases hi : itemIndex? items s with
    | none =>
      rw [get?_array_of_itemIndex?_eq_none hi, update_array_of_itemIndex?_eq_none hi, get?_object,
        Members.find?_insert_self, Option.getD_none]
    | some i =>
      obtain ⟨hs, hlt⟩ := index?_of_itemIndex? hi
      have hchanged : itemIndex? (items.modify i (update f rest)) s = some i := by simp [itemIndex?, hs, hlt]
      rw [update_array_of_itemIndex? hi, get?_array_of_itemIndex? hi, get?_array_of_itemIndex? hchanged]
      simp [hlt]
  | _ => rw [update_of_asArray? rfl, get?_object, Members.find?_insert_self, get?_of_asArray? rfl]

/-- A change below one part leaves the other parts alone, except in an array. -/
theorem get?_update_of_ne (f : Json → Json) {s s' : String} (h : s' ≠ s) (rest : Path) {j : Json}
    (hj : j.asArray? = none) : (update f (s :: rest) j).get? [s'] = j.get? [s'] := by
  rw [update_of_asArray? hj, get?_object, Members.find?_insert_of_ne _ _ h, get?_of_asArray? hj]

/-! ## Whole paths -/

theorem get?_append (j : Json) (p q : Path) : j.get? (p ++ q) = (j.get? p).bind (·.get? q) := by
  induction p generalizing j with
  | nil => simp [get?_nil]
  | cons s p ih =>
    rw [List.cons_append, get?_cons, get?_cons j s p]
    cases j.get? [s] with
    | none => rfl
    | some part => exact ih part

/-- A change at a path is seen from every beginning of the path. -/
theorem get?_update_append (f : Json → Json) (p q : Path) (j : Json) :
    (update f (p ++ q) j).get? p = some (update f q ((j.get? p).getD .null)) := by
  induction p generalizing j with
  | nil => simp [get?_nil]
  | cons s p ih =>
    rw [List.cons_append, get?_cons, get?_update_head, Option.bind_some, ih, get?_cons j s p]
    cases j.get? [s] with
    | some part => rfl
    | none => cases p <;> rfl

/-- A path that goes another way than the changed one finds what it found before, unless the ways part in an array. -/
theorem get?_update_of_fork (f : Json → Json) (p : Path) {s s' : String} (h : s' ≠ s) (q q' : Path) {j : Json}
    (hj : (j.get? p).bind asArray? = none) :
    (update f (p ++ s :: q) j).get? (p ++ s' :: q') = j.get? (p ++ s' :: q') := by
  have hpart : ((j.get? p).getD .null).asArray? = none := by
    cases hp : j.get? p with
    | none => rfl
    | some part => simpa [hp] using hj
  rw [get?_append, get?_append, get?_update_append, Option.bind_some, get?_cons, get?_update_of_ne f h q hpart,
    ← get?_cons]
  cases j.get? p <;> rfl

/-! ## Changes one after another -/

theorem update_nil (f : Json → Json) (j : Json) : update f [] j = f j := by
  cases j <;> rfl

theorem update_append (f : Json → Json) (p q : Path) (j : Json) : update f (p ++ q) j = update (update f q) p j := by
  induction p generalizing j with
  | nil => rfl
  | cons s p ih =>
    have ih : update f (p ++ q) = update (update f q) p := funext ih
    cases j with
    | array items =>
      cases hi : itemIndex? items s with
      | none =>
        rw [List.cons_append, update_array_of_itemIndex?_eq_none hi, update_array_of_itemIndex?_eq_none hi, ih]
      | some i => rw [List.cons_append, update_array_of_itemIndex? hi, update_array_of_itemIndex? hi, ih]
    | _ => rw [List.cons_append, update_of_asArray? rfl, update_of_asArray? rfl, ih]

theorem update_update (f g : Json → Json) (p : Path) (j : Json) :
    update f p (update g p j) = update (fun v => f (g v)) p j := by
  induction p generalizing j with
  | nil => rfl
  | cons s p ih =>
    have ih : (fun v => update f p (update g p v)) = update (fun v => f (g v)) p := funext ih
    have hobject : ∀ (ms : Members Json) (v : Json), update f (s :: p) (.object (ms.insert s (update g p v))) =
        .object (ms.insert s (update (fun v => f (g v)) p v)) := by
      intro ms v
      rw [update_of_asArray? rfl, members, Members.find?_insert_self, Option.getD_some, Members.insert_insert_self,
        ← ih]
    cases j with
    | array items =>
      cases hi : itemIndex? items s with
      | none => rw [update_array_of_itemIndex?_eq_none hi, update_array_of_itemIndex?_eq_none hi, hobject]
      | some i =>
        have hchanged : itemIndex? (items.modify i (update g p)) s = some i := by simpa [itemIndex?] using hi
        rw [update_array_of_itemIndex? hi, update_array_of_itemIndex? hi, update_array_of_itemIndex? hchanged,
          List.modify_modify_eq, ← ih]
        rfl
    | _ => rw [update_of_asArray? rfl g, hobject, update_of_asArray? rfl]

/-- Of a change only what it makes of the value at the path matters. -/
theorem update_congr {f g : Json → Json} {p : Path} {j : Json}
    (h : f ((j.get? p).getD .null) = g ((j.get? p).getD .null)) : update f p j = update g p j := by
  induction p generalizing j with
  | nil => simpa [get?_nil, update_nil] using h
  | cons s p ih =>
    have hpart : update f p ((j.get? [s]).getD .null) = update g p ((j.get? [s]).getD .null) := by
      refine ih ?_
      have hget : (((j.get? [s]).getD .null).get? p).getD .null = (j.get? (s :: p)).getD .null := by
        rw [get?_cons j s p]
        cases j.get? [s] with
        | some part => rfl
        | none => cases p <;> rfl
      rw [hget]
      exact h
    cases j with
    | array items =>
      cases hi : itemIndex? items s with
      | none =>
        rw [get?_array_of_itemIndex?_eq_none hi, Option.getD_none] at hpart
        rw [update_array_of_itemIndex?_eq_none hi, update_array_of_itemIndex?_eq_none hi, hpart]
      | some i =>
        rw [get?_array_of_itemIndex? hi] at hpart
        have hlt : i < items.length := (index?_of_itemIndex? hi).2
        have hitem : items[i]?.getD .null = items[i] := by simp [hlt]
        rw [hitem] at hpart
        rw [update_array_of_itemIndex? hi, update_array_of_itemIndex? hi, List.modify_eq_set, List.modify_eq_set]
        simp [hlt, hpart]
    | _ =>
      rw [get?_of_asArray? rfl] at hpart
      rw [update_of_asArray? rfl, update_of_asArray? rfl, hpart]

/-- A change that leaves the value at a path as it is leaves the document as it is. -/
theorem update_of_get? {f : Json → Json} {p : Path} {j v : Json} (h : j.get? p = some v) (hf : f v = v) :
    update f p j = j := by
  induction p generalizing j with
  | nil =>
    rw [get?_nil] at h
    rw [update_nil, Option.some.inj h, hf]
  | cons s p ih =>
    rw [get?_cons] at h
    obtain ⟨part, hpart, hv⟩ := Option.bind_eq_some_iff.mp h
    have hsame : update f p part = part := ih hv
    cases j with
    | object members =>
      rw [get?_object] at hpart
      rw [update_of_asArray? rfl, Json.members, hpart, Option.getD_some, hsame, Members.insert_of_find? hpart]
    | array items =>
      obtain ⟨i, hi, hitem⟩ := exists_itemIndex?_of_get? hpart
      obtain ⟨hlt, hget⟩ := List.getElem?_eq_some_iff.mp hitem
      have hmodify : items.modify i (update f p) = items := by
        rw [List.modify_eq_set, hitem, Option.getD_some, hsame, ← hget, List.set_getElem_self]
      rw [update_array_of_itemIndex? hi, hmodify]
    | _ => cases hpart

/-! ## Changes on two ways -/

/-- The value is no array, and its keys are in order. -/
structure Tidy (j : Json) : Prop where
  asArray? : j.asArray? = none
  sorted : j.members.Sorted

theorem tidy_null : Tidy .null := ⟨rfl, Members.sorted_nil⟩

theorem tidy_object {ms : Members Json} (h : ms.Sorted) : Tidy (.object ms) := ⟨rfl, h⟩

theorem Tidy.update {j : Json} (h : j.Tidy) (f : Json → Json) (s : String) (rest : Path) :
    (update f (s :: rest) j).Tidy := by
  rw [update_of_asArray? h.asArray?]
  exact tidy_object (h.sorted.insert s _)

/-- Changes below two members of an object may change places. -/
theorem Tidy.update_comm {j : Json} (h : j.Tidy) {s s' : String} (hs : s ≠ s') (f g : Json → Json) (q q' : Path) :
    Json.update f (s :: q) (Json.update g (s' :: q') j) = Json.update g (s' :: q') (Json.update f (s :: q) j) := by
  have hfound : ∀ {k k' : String} (v : Json), k ≠ k' →
      Members.find? (j.members.insert k' v) k = j.members.find? k := fun v hk => Members.find?_insert_of_ne _ v hk
  rw [update_of_asArray? h.asArray? g, update_of_asArray? h.asArray? f, update_of_asArray? rfl, update_of_asArray? rfl,
    members, members, hfound _ hs, hfound _ hs.symm, h.sorted.insert_comm hs.symm]

/-- **Changes on two ways that part in an object may change places.** -/
theorem update_comm {j : Json} {p : Path} (h : ((j.get? p).getD .null).Tidy) {s s' : String} (hs : s ≠ s')
    (f g : Json → Json) (q q' : Path) :
    update f (p ++ s :: q) (update g (p ++ s' :: q') j) = update g (p ++ s' :: q') (update f (p ++ s :: q) j) := by
  rw [update_append g, update_append f, update_append f, update_append g, update_update, update_update]
  exact update_congr (h.update_comm hs f g q q')

/-! ## Writing -/

theorem get?_set_self (j : Json) (p : Path) (value : Json) : (j.set p value).get? p = some value := by
  have h := get?_update_append (fun _ => value) p [] j
  rw [List.append_nil] at h
  exact h.trans (by cases (j.get? p).getD .null <;> rfl)

/-- The first value at a path becomes a list. -/
theorem get?_push_self {j : Json} {p : Path} (h : j.get? p = none) (value : Json) :
    (j.push p value).get? p = some (.array [value]) := by
  have hp := get?_update_append (append value) p [] j
  rw [List.append_nil, h] at hp
  exact hp

end Json

end StatementProfiles
