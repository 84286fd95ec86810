import Mathlib.Data.List.Forall2
import StatementProfiles.Proofs.Members
import StatementProfiles.Registry.Table

/-!
# What tables hold

When rows with distinct IRIs are put into a table without entries for them, the table holds these rows beside its own
and no others (`Table.entries_extend_perm`), under their IRIs (`Table.find?_extend_of_mem`). A table that is filled from
the start lists its entries in the order in which they came (`Table.inStep_extend_empty`).
-/

namespace StatementProfiles

variable {α : Type}

namespace Table

variable {t : Table α} {rows : List (String × α)} {id : String} {a : α}

theorem extend_append (t : Table α) (rows more : List (String × α)) :
    t.extend (rows ++ more) = (t.extend rows).extend more :=
  List.foldl_append

theorem order_extend (t : Table α) (rows : List (String × α)) :
    (t.extend rows).order = t.order ++ rows.map Prod.fst := by
  induction rows generalizing t with
  | nil => exact (List.append_nil _).symm
  | cons row rows ih =>
    rw [List.map_cons, List.append_cons]
    exact ih (t.insert row.1 row.2)

theorem find?_extend_of_not_mem (h : id ∉ rows.map Prod.fst) : (t.extend rows).find? id = t.find? id := by
  induction rows generalizing t with
  | nil => rfl
  | cons row rows ih =>
    rw [List.map_cons, List.mem_cons, not_or] at h
    exact (ih (t := t.insert row.1 row.2) h.2).trans (Members.find?_insert_of_ne _ _ h.1)

theorem find?_extend_of_mem (hn : (rows.map Prod.fst).Nodup) (h : (id, a) ∈ rows) :
    (t.extend rows).find? id = some a := by
  induction rows generalizing t with
  | nil => cases h
  | cons row rows ih =>
    rw [List.map_cons, List.nodup_cons] at hn
    rcases List.mem_cons.mp h with rfl | h
    · exact (find?_extend_of_not_mem (t := t.insert id a) hn.1).trans (Members.find?_insert_self _ _ _)
    · exact ih (t := t.insert row.1 row.2) hn.2 h

/-- The order of rows with distinct IRIs does not matter for what is found. -/
theorem find?_extend_perm {more : List (String × α)} (hp : rows.Perm more) (hn : (rows.map Prod.fst).Nodup) :
    (t.extend rows).find? id = (t.extend more).find? id := by
  have hkeys : (rows.map Prod.fst).Perm (more.map Prod.fst) := hp.map Prod.fst
  by_cases hid : id ∈ rows.map Prod.fst
  · obtain ⟨⟨_, a⟩, hrow, rfl⟩ := List.mem_map.mp hid
    rw [find?_extend_of_mem hn hrow, find?_extend_of_mem (hkeys.nodup_iff.mp hn) (hp.mem_iff.mp hrow)]
  · rw [find?_extend_of_not_mem hid, find?_extend_of_not_mem fun h => hid (hkeys.mem_iff.mpr h)]

/-- What is found in a table was there or came with a row. -/
theorem find?_extend_cases (h : (t.extend rows).find? id = some a) : (id, a) ∈ rows ∨ t.find? id = some a := by
  induction rows generalizing t with
  | nil => exact .inr h
  | cons row rows ih =>
    rcases ih (t := t.insert row.1 row.2) h with h | h
    · exact .inl (List.mem_cons_of_mem _ h)
    · by_cases hid : id = row.1
      · subst hid
        rw [find?, insert, Members.find?_insert_self] at h
        exact .inl (Option.some.inj h ▸ List.mem_cons_self)
      · exact .inr ((Members.find?_insert_of_ne _ _ hid).symm.trans h)

/-- A table without entries for rows that have distinct IRIs holds them beside its own after they are put in. -/
theorem entries_extend_perm (hn : (rows.map Prod.fst).Nodup) (hnew : ∀ id ∈ rows.map Prod.fst, t.find? id = none) :
    (t.extend rows).entries.Perm (t.entries ++ rows) := by
  induction rows generalizing t with
  | nil => exact .of_eq (List.append_nil _).symm
  | cons row rows ih =>
    rw [List.map_cons, List.nodup_cons] at hn
    have hrest : ∀ id ∈ rows.map Prod.fst, (t.insert row.1 row.2).find? id = none := fun id hid =>
      (Members.find?_insert_of_ne t.entries row.2 (ne_of_mem_of_not_mem hid hn.1)).trans
        (hnew id (List.mem_cons_of_mem _ hid))
    calc (t.extend (row :: rows)).entries
      _ = ((t.insert row.1 row.2).extend rows).entries := rfl
      _ |>.Perm ((t.insert row.1 row.2).entries ++ rows) := ih hn.2 hrest
      _ |>.Perm (row :: t.entries ++ rows) := (Members.insert_perm (hnew _ List.mem_cons_self) _).append_right _
      _ |>.Perm (t.entries ++ row :: rows) := List.perm_middle.symm

/-- A table has entries under distinct IRIs and no others, and lists these entries in the order of the IRIs. -/
structure InStep (t : Table α) (ids : List String) : Prop where
  order : t.order = ids
  nodup : ids.Nodup
  keys : t.entries.keys.Perm ids
  listing : List.Forall₂ (fun id a => t.find? id = some a) ids t.inOrder

theorem InStep.size_eq {ids : List String} (h : t.InStep ids) : t.size = ids.length := by
  rw [← h.keys.length_eq, Members.keys, List.length_map]
  rfl

/-- The listing has every row in the order in which the rows came. -/
theorem inOrder_extend_empty (hn : (rows.map Prod.fst).Nodup) :
    ((empty : Table α).extend rows).inOrder = rows.map Prod.snd := by
  have hfound : ∀ row ∈ rows, ((empty : Table α).extend rows).find? row.1 = some row.2 := fun row hrow =>
    find?_extend_of_mem hn hrow
  rw [inOrder, order_extend, show (empty : Table α).order = [] from rfl, List.nil_append, List.filterMap_map,
    ← List.filterMap_eq_map]
  exact List.filterMap_congr hfound

theorem inStep_extend_empty (hn : (rows.map Prod.fst).Nodup) :
    ((empty : Table α).extend rows).InStep (rows.map Prod.fst) where
  order := order_extend empty rows
  nodup := hn
  keys := (entries_extend_perm hn fun _ _ => rfl).map Prod.fst
  listing := by
    rw [inOrder_extend_empty hn, List.forall₂_map_left_iff, List.forall₂_map_right_iff, List.forall₂_same]
    exact fun row hrow => find?_extend_of_mem hn hrow

end Table

end StatementProfiles
