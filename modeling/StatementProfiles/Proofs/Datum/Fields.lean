import StatementProfiles.Proofs.Datum.Values

/-!
# Fields that are read and written

The fields of a structure are written as a table, in which a missing value leaves its name out (`Json.present`). What is
read of such an object has a value under each name as the table has (`Datum.Slots.exists_of?_present`). So a field that
was read is read again of what is written for it, be it required, one with a default, a list that is left out when it is
empty, or optional (`Datum.Slots.required?_again` and the ones after it).
-/

namespace StatementProfiles

namespace Json

/-- The fields that have a value. -/
def present (fields : List (String × Option Json)) : List (String × Json) :=
  fields.filterMap fun field => field.2.map fun j => (field.1, j)

theorem present_nil : present [] = [] := rfl

theorem present_cons_some (name : String) (j : Json) (fields : List (String × Option Json)) :
    present ((name, some j) :: fields) = (name, j) :: present fields := rfl

theorem present_cons_map {α : Type} (name : String) (o : Option α) (write : α → Json)
    (fields : List (String × Option Json)) :
    present ((name, o.map write) :: fields) = (o.toList.map fun x => (name, write x)) ++ present fields := by
  cases o <;> rfl

theorem present_cons_ite (name : String) (isMissing : Bool) (j : Json) (fields : List (String × Option Json)) :
    present ((name, if isMissing then none else some j) :: fields) =
      (if isMissing then [] else [(name, j)]) ++ present fields := by
  cases isMissing <;> rfl

theorem keys_present_sublist (fields : List (String × Option Json)) :
    (Members.keys (present fields)).Sublist (fields.map Prod.fst) := by
  induction fields with
  | nil => exact .slnil
  | cons field fields ih =>
    obtain ⟨name, value⟩ := field
    cases value with
    | none => exact ih.cons name
    | some j => exact ih.cons_cons name

theorem find?_present {fields : List (String × Option Json)} (h : (fields.map Prod.fst).Nodup) :
    ∀ field ∈ fields, Members.find? (present fields) field.1 = field.2 := by
  induction fields with
  | nil => exact fun _ hf => nomatch hf
  | cons first fields ih =>
    obtain ⟨name, value⟩ := first
    obtain ⟨hname, hnodup⟩ := List.nodup_cons.mp h
    have hnew : name ∉ Members.keys (present fields) := fun hmem => hname ((keys_present_sublist fields).mem hmem)
    intro field hfield
    rcases List.mem_cons.mp hfield with rfl | hfield
    · cases value with
      | none => exact Members.find?_eq_none hnew
      | some j => simp [present_cons_some, Members.find?]
    · have hne : name ≠ field.1 := fun heq => hname (List.mem_map.mpr ⟨field, hfield, heq.symm⟩)
      rw [← ih hnodup field hfield]
      cases value with
      | none => rfl
      | some j => rw [present_cons_some, Members.find?, if_neg hne]

end Json

namespace Datum

theorem ofItems_eq_map (js : List Json) : ofItems js = js.map ofJson := by
  induction js with
  | nil => rfl
  | cons j js ih => rw [ofItems, ih, List.map_cons]

theorem ofMembers_eq_map (ms : List (String × Json)) : ofMembers ms = ms.map fun m => (.string m.1, ofJson m.2) := by
  induction ms with
  | nil => rfl
  | cons m ms ih => rw [ofMembers, ih, List.map_cons]

namespace Slots

/-! ## Fields of objects -/

/-- The members with known keys, as fields. -/
def ofMembers (names : List String) (ms : Members Json) : Members Datum :=
  Members.mapValues ofJson (ms.filter fun m => names.contains m.1)

theorem find?_ofMembers {names : List String} (ms : Members Json) {name : String} (h : name ∈ names) :
    (ofMembers names ms).find? name = (ms.find? name).map ofJson := by
  rw [ofMembers, Members.find?_mapValues, Members.find?_filter names.contains, if_pos (List.contains_iff_mem.mpr h)]

/-- Of members with different keys the known ones are the fields. -/
theorem known?_ofMembers {names : List String} {ms : Members Json} (h : ms.keys.Nodup) :
    known? names (Datum.ofMembers ms) = some (ofMembers names ms) := by
  induction ms with
  | nil => rfl
  | cons m ms ih =>
    obtain ⟨k, j⟩ := m
    obtain ⟨hk, hnodup⟩ := List.nodup_cons.mp h
    rw [Datum.ofMembers, known?, ih hnodup]
    simp only [text?, Option.bind_some]
    split
    · next hknown =>
      have hnew : (ofMembers names ms).contains k = false := by
        rw [Members.contains, find?_ofMembers ms (List.contains_iff_mem.mp hknown), Members.find?_eq_none hk]
        rfl
      rw [hnew, ofMembers, ofMembers, List.filter_cons, if_pos hknown]
      rfl
    · next hunknown => rw [ofMembers, ofMembers, List.filter_cons, if_neg hunknown]

theorem of?_ofJson_object {names : List String} {ms : Members Json} (h : ms.keys.Nodup) :
    of? names (.ofJson (.object ms)) = some (.named (ofMembers names ms)) := by
  have hentries : of? names (.ofJson (.object ms)) = (known? names (Datum.ofMembers ms)).map named := rfl
  rw [hentries, known?_ofMembers h]
  rfl

/-- The fields of a table are found in the object that is written of it. -/
theorem exists_of?_present (names : List String) (fields : List (String × Option Json))
    (hnames : ∀ field ∈ fields, field.1 ∈ names) (h : (fields.map Prod.fst).Nodup) :
    ∃ slots, of? names (.ofJson (.ofPairs (Json.present fields))) = some slots ∧
      ∀ field ∈ fields, slots.written? field.1 = field.2.map ofJson := by
  have hkeys : (Members.keys (Json.present fields)).Nodup := (Json.keys_present_sublist fields).nodup h
  refine ⟨_, of?_ofJson_object (Members.sorted_ofList _).nodup_keys, fun field hfield => ?_⟩
  rw [written?, find?_ofMembers _ (hnames field hfield), Members.find?_ofList hkeys,
    Json.find?_present h field hfield]

/-! ## Fields of values -/

/-- What is written for the fields are values. -/
def FromJson (slots : Slots) : Prop := ∀ name d, slots.written? name = some d → ∃ j, d = .ofJson j

/-- The fields with known names stand in the entries. -/
theorem exists_entry_of_known? {names : List String} {entries : List (Datum × Datum)} {fields : List (String × Datum)}
    (h : known? names entries = some fields) : ∀ field ∈ fields, ∃ entry ∈ entries, entry.2 = field.2 := by
  induction entries generalizing fields with
  | nil =>
    cases h
    exact fun _ hf => nomatch hf
  | cons entry entries ih =>
    obtain ⟨k, d⟩ := entry
    obtain ⟨name, -, hrest⟩ := Option.bind_eq_some_iff.mp h
    obtain ⟨found, hfound, heq⟩ := Option.bind_eq_some_iff.mp hrest
    have hlater : ∀ field ∈ found, ∃ entry ∈ (k, d) :: entries, entry.2 = field.2 := by
      intro field hfield
      obtain ⟨entry, hentry, hd⟩ := ih hfound field hfield
      exact ⟨entry, List.mem_cons_of_mem _ hentry, hd⟩
    split at heq
    · split at heq
      · cases heq
      · cases heq
        exact List.forall_mem_cons.mpr ⟨⟨(k, d), List.mem_cons_self, rfl⟩, hlater⟩
    · cases heq
      exact hlater

theorem fromJson_known? {names : List String} {ms : List (String × Json)} {fields : List (String × Datum)}
    (h : known? names (Datum.ofMembers ms) = some fields) : (named fields).FromJson := by
  intro name d hd
  obtain ⟨entry, hentry, heq⟩ := exists_entry_of_known? h _ (Members.mem_of_find? hd)
  rw [ofMembers_eq_map] at hentry
  obtain ⟨m, -, rfl⟩ := List.mem_map.mp hentry
  exact ⟨m.2, heq.symm⟩

/-- The fields of a value are values, whether they go by name or by position. -/
theorem fromJson_of? {names : List String} {j : Json} {slots : Slots} (h : of? names (.ofJson j) = some slots) :
    slots.FromJson := by
  cases j with
  | object ms =>
    obtain ⟨fields, hfields, rfl⟩ := Option.map_eq_some_iff.mp h
    exact fromJson_known? hfields
  | array items =>
    rw [ofJson, of?] at h
    split at h
    · cases h
      intro name d hd
      have hmem := List.of_mem_zip (Members.mem_of_find? hd)
      rw [ofItems_eq_map] at hmem
      obtain ⟨item, -, rfl⟩ := List.mem_map.mp hmem.2
      exact ⟨item, rfl⟩
    · cases h
  | _ => cases h

/-! ## Fields that are read again -/

variable {α : Type} {read : Datum → Option α} {write : α → Json} {s s' : Slots} {name : String}

theorem required?_again (hs : s.FromJson) (hf : Faithful read write) {x : α} (h : s.required? name read = some x)
    (hw : s'.written? name = (some (write x)).map ofJson) : s'.required? name read = some x := by
  obtain ⟨d, hd, hx⟩ := Option.bind_eq_some_iff.mp h
  obtain ⟨j, rfl⟩ := hs name d hd
  rw [required?, hw]
  exact hf.reads j x hx

/-- A field with a default is always written. -/
theorem withDefault?_again (hs : s.FromJson) (hf : Faithful read write) {fallback x : α}
    (hfallback : read (.ofJson (write fallback)) = some fallback) (h : s.withDefault? name fallback read = some x)
    (hw : s'.written? name = (some (write x)).map ofJson) : s'.withDefault? name fallback read = some x := by
  unfold withDefault? at h ⊢
  rw [hw]
  split at h
  · next d hd =>
    obtain ⟨j, rfl⟩ := hs name d hd
    exact hf.reads j x h
  · cases h
    exact hfallback

/-- A list that is left out when it is empty. -/
theorem listed_again (hs : s.FromJson) (hf : Faithful read write) {xs : List α}
    (h : s.withDefault? name [] (list? read) = some xs)
    (hw : s'.written? name = (if xs.isEmpty then none else some (.array (xs.map write))).map ofJson) :
    s'.withDefault? name [] (list? read) = some xs := by
  cases xs with
  | nil =>
    unfold withDefault?
    rw [hw]
    rfl
  | cons x xs => exact withDefault?_again hs hf.list rfl h hw

theorem optional?_ofJson {j : Json} (h : j ≠ .null) :
    Datum.optional? read (.ofJson j) = (read (.ofJson j)).map some := by
  cases j with
  | null => exact absurd rfl h
  | _ => rfl

/-- A field that is left out when it is missing, or null. -/
theorem optional?_again (hs : s.FromJson) (hf : Faithful read write) {o : Option α}
    (h : s.optional? name read = some o) (hw : s'.written? name = (o.map write).map ofJson) :
    s'.optional? name read = some o := by
  unfold optional? withDefault? at h ⊢
  rw [hw]
  cases o with
  | none => rfl
  | some x =>
    split at h
    · next d hd =>
      obtain ⟨j, rfl⟩ := hs name d hd
      have hj : j ≠ .null := by
        rintro rfl
        cases h
      rw [optional?_ofJson hj] at h
      obtain ⟨y, hy, heq⟩ := Option.map_eq_some_iff.mp h
      cases heq
      have hwritten : write x ≠ .null := fun hnull => hj (hf.null j x hy hnull)
      change Datum.optional? read (.ofJson (write x)) = some (some x)
      rw [optional?_ofJson hwritten, hf.reads j x hy]
      rfl
    · cases h

end Slots

/-! ## Structures -/

/-- A structure whose fields are read again of its table is read faithfully. -/
theorem Faithful.record {α : Type} {names : List String} {read : Slots → Option α}
    {table : α → List (String × Option Json)} (hnames : ∀ x, ∀ field ∈ table x, field.1 ∈ names)
    (hnodup : ∀ x, ((table x).map Prod.fst).Nodup)
    (hagain : ∀ s s' : Slots, ∀ x, s.FromJson → read s = some x →
      (∀ field ∈ table x, s'.written? field.1 = field.2.map ofJson) → read s' = some x) :
    Faithful (fun d => (Slots.of? names d).bind read) fun x => .ofPairs (Json.present (table x)) where
  reads j x h := by
    obtain ⟨s, hs, hx⟩ := Option.bind_eq_some_iff.mp h
    obtain ⟨s', hs', hwritten⟩ := Slots.exists_of?_present names (table x) (hnames x) (hnodup x)
    rw [hs', Option.bind_some]
    exact hagain s s' x (Slots.fromJson_of? hs) hx hwritten
  null _ _ _ heq := nomatch heq

end Datum

end StatementProfiles
