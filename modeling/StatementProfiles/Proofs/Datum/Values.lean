import StatementProfiles.Datum
import StatementProfiles.Proofs.Members

/-!
# Values that are read and written

What is read of a JSON value as any value has the keys of its objects in order (`Datum.ordered_of_value?`), and is read
again as itself (`Datum.value?_ofJson_of_ordered`). So is what is read of it as a text, a truth value, a map of texts,
and as a list of such things: reading is faithful to writing (`Datum.Faithful`).
-/

namespace StatementProfiles

namespace Json

/-! ## Ordered values -/

/-- The keys of all objects in the value are in order. -/
inductive Ordered : Json → Prop
  | null : Ordered .null
  | bool (value : Bool) : Ordered (.bool value)
  | number (value : Number) : Ordered (.number value)
  | string (value : String) : Ordered (.string value)
  | array {items : List Json} : (∀ j ∈ items, Ordered j) → Ordered (.array items)
  | object {members : Members Json} : members.Sorted → (∀ m ∈ members, Ordered m.2) → Ordered (.object members)

theorem ordered_ofPairs {pairs : List (String × Json)} (h : ∀ m ∈ pairs, m.2.Ordered) : (ofPairs pairs).Ordered :=
  .object (Members.sorted_ofList pairs) fun m hm => h m (Members.mem_of_mem_ofList hm)

end Json

namespace Datum

variable {key? : Datum → Option String}

mutual

theorem ordered_of_value? : ∀ (j : Json) {v : Json}, (ofJson j).value? key? = some v → v.Ordered
  | .null, v, h => by
    cases h
    exact .null
  | .bool b, v, h => by
    cases h
    exact .bool b
  | .number n, v, h => by
    cases h
    exact .number n
  | .string s, v, h => by
    cases h
    exact .string s
  | .array items, v, h => by
    obtain ⟨vs, hvs, rfl⟩ := Option.map_eq_some_iff.mp h
    exact .array (ordered_of_valueItems? items hvs)
  | .object members, v, h => by
    obtain ⟨vs, hvs, rfl⟩ := Option.map_eq_some_iff.mp h
    exact Json.ordered_ofPairs (ordered_of_valueEntries? members hvs)

theorem ordered_of_valueItems? : ∀ (js : List Json) {vs : List Json},
    valueItems? key? (ofItems js) = some vs → ∀ v ∈ vs, v.Ordered
  | [], vs, h => by
    cases h
    exact fun v hv => nomatch hv
  | j :: js, vs, h => by
    obtain ⟨v, hv, hrest⟩ := Option.bind_eq_some_iff.mp h
    obtain ⟨vs', hvs', rfl⟩ := Option.map_eq_some_iff.mp hrest
    exact List.forall_mem_cons.mpr ⟨ordered_of_value? j hv, ordered_of_valueItems? js hvs'⟩

theorem ordered_of_valueEntries? : ∀ (ms : List (String × Json)) {vs : List (String × Json)},
    valueEntries? key? (ofMembers ms) = some vs → ∀ m ∈ vs, m.2.Ordered
  | [], vs, h => by
    cases h
    exact fun v hv => nomatch hv
  | (k, j) :: ms, vs, h => by
    obtain ⟨key, -, h⟩ := Option.bind_eq_some_iff.mp h
    obtain ⟨v, hv, hrest⟩ := Option.bind_eq_some_iff.mp h
    obtain ⟨vs', hvs', rfl⟩ := Option.map_eq_some_iff.mp hrest
    exact List.forall_mem_cons.mpr ⟨ordered_of_value? j hv, ordered_of_valueEntries? ms hvs'⟩

end

/-- **An ordered value is read as itself.** -/
theorem value?_ofJson_of_ordered (hkey : ∀ k, key? (.string k) = some k) {v : Json} (h : v.Ordered) :
    (ofJson v).value? key? = some v := by
  induction h with
  | null | bool | number | string => rfl
  | @array items _ ih =>
    have hitems : ∀ js : List Json, (∀ j ∈ js, (ofJson j).value? key? = some j) →
        valueItems? key? (ofItems js) = some js := by
      intro js hjs
      induction js with
      | nil => rfl
      | cons j js ihs =>
        obtain ⟨hj, hjs⟩ := List.forall_mem_cons.mp hjs
        rw [ofItems, valueItems?, hj, ihs hjs]
        rfl
    rw [ofJson, value?, hitems items ih]
    rfl
  | @object members hsorted _ ih =>
    have hentries : ∀ ms : List (String × Json), (∀ m ∈ ms, (ofJson m.2).value? key? = some m.2) →
        valueEntries? key? (ofMembers ms) = some ms := by
      intro ms hms
      induction ms with
      | nil => rfl
      | cons m ms ihs =>
        obtain ⟨hm, hms⟩ := List.forall_mem_cons.mp hms
        rw [ofMembers, valueEntries?, hkey, hm, ihs hms]
        rfl
    rw [ofJson, value?, hentries members ih, Option.map_some, Json.ofPairs, hsorted.ofList_eq]

/-- Only null is read as null. -/
theorem eq_null_of_value? {j : Json} (h : (ofJson j).value? key? = some .null) : j = .null := by
  cases j with
  | null => rfl
  | bool b => cases h
  | number n => cases h
  | string s => cases h
  | array items =>
    obtain ⟨_, -, heq⟩ := Option.map_eq_some_iff.mp h
    cases heq
  | object members =>
    obtain ⟨_, -, heq⟩ := Option.map_eq_some_iff.mp h
    cases heq

/-! ## Faithful reading -/

/-- What is read of a value is read again of what is written for it, and null is written for null only. -/
structure Faithful {α : Type} (read : Datum → Option α) (write : α → Json) : Prop where
  reads : ∀ j x, read (.ofJson j) = some x → read (.ofJson (write x)) = some x
  null : ∀ j x, read (.ofJson j) = some x → write x = .null → j = .null

variable {α : Type} {read : Datum → Option α} {write : α → Json}

theorem faithful_of_total (h : ∀ x, read (.ofJson (write x)) = some x) (hnull : ∀ x, write x ≠ .null) :
    Faithful read write := ⟨fun _ x _ => h x, fun _ x _ heq => absurd heq (hnull x)⟩

theorem faithful_text : Faithful text? .string := faithful_of_total (fun _ => rfl) (fun _ h => nomatch h)

theorem faithful_flag : Faithful flag? .bool := faithful_of_total (fun _ => rfl) (fun _ h => nomatch h)

theorem faithful_json : Faithful json? fun j => j where
  reads _ _ h := value?_ofJson_of_ordered (fun _ => rfl) (ordered_of_value? _ h)
  null _ _ h heq := eq_null_of_value? (h.trans (congrArg some heq))

/-- Lists of what is read faithfully are. -/
theorem Faithful.list (h : Faithful read write) : Faithful (list? read) fun xs => .array (xs.map write) where
  reads j xs hxs := by
    obtain ⟨items, hitems, hxs⟩ := Option.bind_eq_some_iff.mp hxs
    have hback : ∀ js : List Json, ∀ xs, (ofItems js).mapM read = some xs →
        (ofItems (xs.map write)).mapM read = some xs := by
      intro js
      induction js with
      | nil =>
        intro xs hxs
        cases hxs
        rfl
      | cons j js ih =>
        intro xs hxs
        rw [ofItems, List.mapM_cons] at hxs
        obtain ⟨x, hx, htail⟩ := Option.bind_eq_some_iff.mp hxs
        obtain ⟨rest, hrest, heq⟩ := Option.bind_eq_some_iff.mp htail
        cases heq
        rw [List.map_cons, ofItems, List.mapM_cons, h.reads j x hx, ih rest hrest]
        rfl
    cases j with
    | array js =>
      cases hitems
      exact hback js xs hxs
    | _ => cases hitems
  null _ _ _ heq := nomatch heq

/-- Maps of texts come back with their keys in order. -/
theorem sorted_of_texts? {d : Datum} {ms : Members String} (h : d.texts? = some ms) : ms.Sorted := by
  obtain ⟨entries, -, h⟩ := Option.bind_eq_some_iff.mp h
  obtain ⟨pairs, -, rfl⟩ := Option.map_eq_some_iff.mp h
  exact Members.sorted_ofList pairs

theorem texts?_ofTexts {ms : Members String} (h : ms.Sorted) : texts? (.ofJson (.ofTexts ms)) = some ms := by
  have hentries : ∀ ms : List (String × String),
      ((ofMembers (Members.mapValues Json.string ms)).mapM fun (key, value) =>
        (text? key).bind fun k => (text? value).map fun v => (k, v)) = some ms := by
    intro ms
    induction ms with
    | nil => rfl
    | cons m ms ih =>
      rw [Members.mapValues, List.map_cons, ofMembers, List.mapM_cons]
      rw [Members.mapValues] at ih
      rw [ih]
      rfl
  rw [texts?, members?, Json.ofTexts, ofJson, entries?, Option.bind_some, hentries, Option.map_some, h.ofList_eq]

theorem faithful_texts : Faithful texts? .ofTexts where
  reads _ _ h := texts?_ofTexts (sorted_of_texts? h)
  null _ _ _ heq := nomatch heq

end Datum

end StatementProfiles
