import StatementProfiles.Proofs.Datum.Values
import StatementProfiles.Proofs.Document.Merge

/-!
# What shows of a base under an overlay

A path may be followed through objects alone (`Json.memberAt?`). Merging goes down such paths: where the overlay has a
value, the merged value has the one of the base merged with it (`Json.memberAt?_merge_of_some`); where it has none, the
base shows through (`Json.memberAt?_merge_of_none`), unless the overlay ends the path early with a value that is no
object (`Json.Blocks`, `Json.memberAt?_merge_of_blocks`). **So the data of both sides stay and the overlay wins**,
laying it over once more changes nothing, and the keys stay in order (`Json.merge_keeps_both`).
-/

namespace StatementProfiles

namespace Json

variable {b o v : Json} {ms : Members Json} {key : String} {q rest : Path}

/-! ## Paths through objects -/

/-- The value at a path that leads through objects only. -/
def memberAt? : Json → Path → Option Json
  | j, [] => some j
  | j, key :: rest => (j.member? key).bind fun v => memberAt? v rest

/-- On the way of the path, before its end, stands a value that is no object. -/
def Blocks (j : Json) (q : Path) : Prop :=
  ∃ p, p <+: q ∧ p ≠ q ∧ ∃ v, j.memberAt? p = some v ∧ v.isObject = false

theorem not_blocks_nil (j : Json) : ¬j.Blocks [] := by
  rintro ⟨p, hp, hne, -⟩
  exact hne (List.prefix_nil.mp hp)

theorem blocks_cons {j : Json} :
    j.Blocks (key :: rest) ↔ j.isObject = false ∨ ∃ v, j.member? key = some v ∧ v.Blocks rest := by
  constructor
  · rintro ⟨p, hp, hne, v, hv, hno⟩
    cases p with
    | nil =>
      cases hv
      exact .inl hno
    | cons k p =>
      obtain ⟨rfl, hrest⟩ := List.cons_prefix_cons.mp hp
      obtain ⟨w, hw, hv⟩ := Option.bind_eq_some_iff.mp hv
      exact .inr ⟨w, hw, p, hrest, fun heq => hne (heq ▸ rfl), v, hv, hno⟩
  · rintro (hno | ⟨w, hw, p, hp, hne, v, hv, hno⟩)
    · exact ⟨[], List.nil_prefix, (List.cons_ne_nil key rest).symm, j, rfl, hno⟩
    · refine ⟨key :: p, List.cons_prefix_cons.mpr ⟨rfl, hp⟩, fun heq => hne (List.cons.inj heq).2, v, ?_, hno⟩
      rw [memberAt?, hw, Option.bind_some, hv]

instance decidableBlocks : (j : Json) → (q : Path) → Decidable (j.Blocks q)
  | j, [] => isFalse (not_blocks_nil j)
  | j, key :: rest =>
    match h : j.member? key with
    | none => decidable_of_iff (j.isObject = false) (by simp [blocks_cons, h])
    | some v =>
      have := decidableBlocks v rest
      decidable_of_iff (j.isObject = false ∨ v.Blocks rest) (by simp [blocks_cons, h])

theorem member?_of_not_isObject {j : Json} (h : j.isObject = false) (key : String) : j.member? key = none := by
  cases j with
  | object => cases h
  | _ => rfl

theorem memberAt?_null_cons (key : String) (rest : Path) : Json.null.memberAt? (key :: rest) = none := rfl

/-- A missing member counts as null on the way as at the end. -/
theorem getD_memberAt?_getD (found : Option Json) (rest : Path) :
    ((found.getD .null).memberAt? rest).getD .null = (found.bind fun v => v.memberAt? rest).getD .null := by
  cases found with
  | some v => rfl
  | none => cases rest <;> rfl

theorem Ordered.of_member? (h : o.Ordered) (hv : o.member? key = some v) : v.Ordered := by
  cases h with
  | object _ hms => exact hms _ (Members.mem_of_find? hv)
  | _ => cases hv

/-! ## One member -/

theorem merge_of_not_isObject_left (h : b.isObject = false) (o : Json) : b.merge o = o := by
  cases b with
  | object => cases h
  | _ => cases o <;> rfl

theorem merge_of_not_isObject (b : Json) (h : o.isObject = false) : b.merge o = o := by
  cases o with
  | object => cases h
  | _ => cases b <;> rfl

/-- A member of the overlay is merged into that of the base; where an overlay that is an object has none, the member of
the base stays. -/
theorem member?_merge (ho : o.Ordered) (b : Json) (key : String) :
    (b.merge o).member? key =
      match o.member? key with
      | some v => some (((b.member? key).getD .null).merge v)
      | none => if o.isObject then b.member? key else none := by
  cases ho with
  | @object ms hsorted _ =>
    cases b with
    | object base => exact find?_mergeMembers hsorted.nodup_keys key
    | _ =>
      rw [merge_of_not_isObject_left rfl]
      cases hfound : (Json.object ms).member? key with
      | none => rfl
      | some v => exact congrArg some (merge_of_not_isObject_left rfl v).symm
  | _ => rw [merge_of_not_isObject b rfl]; rfl

/-! ## Along a path -/

/-- Where the overlay has a value, the base is merged with it there. -/
theorem memberAt?_merge_of_some (ho : o.Ordered) (b : Json) (h : o.memberAt? q = some v) :
    (b.merge o).memberAt? q = some (((b.memberAt? q).getD .null).merge v) := by
  induction q generalizing b o with
  | nil =>
    cases h
    rfl
  | cons key rest ih =>
    obtain ⟨w, hw, hv⟩ := Option.bind_eq_some_iff.mp h
    rw [memberAt?, member?_merge ho, hw, Option.bind_some, ih (ho.of_member? hw) _ hv, getD_memberAt?_getD]
    rfl

/-- What the overlay ends early with a value that is no object is gone. -/
theorem memberAt?_merge_of_blocks (ho : o.Ordered) (b : Json) (h : o.Blocks q) : (b.merge o).memberAt? q = none := by
  induction q generalizing b o with
  | nil => exact absurd h (not_blocks_nil o)
  | cons key rest ih =>
    rw [memberAt?]
    rcases blocks_cons.mp h with hno | ⟨w, hw, hblocks⟩
    · rw [merge_of_not_isObject b hno, member?_of_not_isObject hno, Option.bind_none]
    · rw [member?_merge ho, hw, Option.bind_some, ih (ho.of_member? hw) _ hblocks]

/-- What the overlay says nothing about is as in the base. -/
theorem memberAt?_merge_of_none (ho : o.Ordered) (b : Json) (h : o.memberAt? q = none) (hblocks : ¬o.Blocks q) :
    (b.merge o).memberAt? q = b.memberAt? q := by
  induction q generalizing b o with
  | nil => cases h
  | cons key rest ih =>
    rw [blocks_cons, not_or, Bool.not_eq_false] at hblocks
    obtain ⟨hobject, hblocks⟩ := hblocks
    rw [memberAt?, memberAt?, member?_merge ho]
    cases hw : o.member? key with
    | none => rw [if_pos hobject]
    | some w =>
      have hrest : w.memberAt? rest = none := by rwa [memberAt?, hw, Option.bind_some] at h
      rw [Option.bind_some, ih (ho.of_member? hw) _ hrest fun hw' => hblocks ⟨w, hw, hw'⟩]
      cases b.member? key with
      | some x => rfl
      | none =>
        cases rest with
        | nil => cases hrest
        | cons key' rest => exact memberAt?_null_cons key' rest

/-! ## Once more -/

/-- Members that have taken in those of an overlay stay as they are. -/
theorem mergeMembers_eq_self {base overlay : Members Json}
    (h : ∀ m ∈ overlay, ∃ w, base.find? m.1 = some w ∧ w.merge m.2 = w) : mergeMembers base overlay = base := by
  induction overlay with
  | nil => rfl
  | cons m overlay ih =>
    obtain ⟨⟨w, hw, hsame⟩, hrest⟩ := List.forall_mem_cons.mp h
    rw [mergeMembers, hw, Option.getD_some, hsame, Members.insert_of_find? hw, ih hrest]

/-- The overlay adds nothing the second time. -/
theorem merge_merge (ho : o.Ordered) (b : Json) : (b.merge o).merge o = b.merge o := by
  induction ho generalizing b with
  | @object ms hsorted _ ih =>
    have hmember : ∀ m ∈ ms, (b.merge (.object ms)).member? m.1 = some (((b.member? m.1).getD .null).merge m.2) := by
      intro m hm
      have hfound : (Json.object ms).member? m.1 = some m.2 := Members.find?_of_mem hsorted.nodup_keys hm
      rw [member?_merge (.object hsorted ‹_›), hfound]
    obtain ⟨base, hbase⟩ : ∃ base, b.merge (.object ms) = .object base := by
      cases b with
      | object base => exact ⟨mergeMembers base ms, rfl⟩
      | _ => exact ⟨ms, rfl⟩
    rw [hbase] at hmember ⊢
    rw [merge, mergeMembers_eq_self fun m hm => ⟨_, hmember m hm, ih m hm _⟩]
  | _ => rw [merge_of_not_isObject _ rfl, merge_of_not_isObject _ rfl]

theorem merge_self (ho : o.Ordered) : o.merge o = o := by
  have honce : Json.null.merge o = o := merge_of_not_isObject_left rfl o
  calc o.merge o = (Json.null.merge o).merge o := by rw [honce]
    _ = Json.null.merge o := merge_merge ho .null
    _ = o := honce

/-! ## Order of the keys -/

theorem Ordered.insert (h : (Json.object ms).Ordered) (key : String) (hv : v.Ordered) :
    (Json.object (ms.insert key v)).Ordered := by
  cases h with
  | object hsorted hms =>
    refine .object (hsorted.insert key v) fun m hm => ?_
    rcases Members.mem_insert hm with rfl | hm
    · exact hv
    · exact hms m hm

theorem ordered_mergeMembers {base overlay : Members Json} (hbase : (Json.object base).Ordered)
    (h : ∀ m ∈ overlay, ∀ {x : Json}, x.Ordered → (x.merge m.2).Ordered) :
    (Json.object (mergeMembers base overlay)).Ordered := by
  induction overlay generalizing base with
  | nil => exact hbase
  | cons m overlay ih =>
    obtain ⟨hm, hrest⟩ := List.forall_mem_cons.mp h
    have hthere : ((base.find? m.1).getD .null).Ordered := by
      cases hfound : base.find? m.1 with
      | none => exact .null
      | some w => exact hbase.of_member? hfound
    exact ih (hbase.insert m.1 (hm hthere)) hrest

/-- Keys in order stay in order. -/
theorem Ordered.merge (hb : b.Ordered) (ho : o.Ordered) : (b.merge o).Ordered := by
  induction ho generalizing b with
  | object hsorted hoverlay ih =>
    cases b with
    | object base => exact ordered_mergeMembers hb ih
    | _ =>
      rw [merge_of_not_isObject_left rfl]
      exact .object hsorted hoverlay
  | array hitems =>
    rw [merge_of_not_isObject b rfl]
    exact .array hitems
  | null | bool | number | string =>
    rw [merge_of_not_isObject b rfl]
    constructor

/-- **Merging keeps the data of both sides, and the overlay wins.** A value of the overlay that is no object is at its
place, and where the overlay has an object there is one. What the overlay says nothing about is as in the base, unless
the overlay has a value that is no object on the way; behind such a value there is nothing. Merging an overlay again, or
a value with itself, changes nothing, and keys in order, as all documents have them, stay in order. -/
theorem merge_keeps_both (b o : Json) (ho : o.Ordered) :
    (∀ q v, o.memberAt? q = some v → v.isObject = false → (b.merge o).memberAt? q = some v) ∧
      (∀ q v, o.memberAt? q = some v → v.isObject = true →
        ∃ w, (b.merge o).memberAt? q = some w ∧ w.isObject = true) ∧
      (∀ q, o.memberAt? q = none → ¬o.Blocks q → (b.merge o).memberAt? q = b.memberAt? q) ∧
      (∀ q, o.Blocks q → (b.merge o).memberAt? q = none) ∧
      ((b.merge o).merge o = b.merge o ∧ o.merge o = o) ∧ (b.Ordered → (b.merge o).Ordered) := by
  refine ⟨fun q v hv hno => ?_, fun q v hv hobject => ?_, fun q => memberAt?_merge_of_none ho b,
    fun q => memberAt?_merge_of_blocks ho b, ⟨merge_merge ho b, merge_self ho⟩, fun hb => hb.merge ho⟩
  · rw [memberAt?_merge_of_some ho b hv, merge_of_not_isObject _ hno]
  · refine ⟨_, memberAt?_merge_of_some ho b hv, ?_⟩
    cases v with
    | object ms => cases (b.memberAt? q).getD .null <;> rfl
    | _ => cases hobject

/-- A lesson as a template fills it in. -/
def prefilled : Json :=
  .ofPairs [("objectType", .string "Activity"),
    ("definition", .ofPairs [("type", .string "u:lesson"), ("name", .ofPairs [("en", .string "Lesson")]),
      ("extensions", .ofPairs [("u:room", .int 12)])])]

/-- A lesson with names of its own that says nothing about rooms. -/
def fractions : Json :=
  .ofPairs [("id", .string "u:fractions"),
    ("definition", .ofPairs [("name", .ofPairs [("en", .string "Fractions"), ("de", .string "Brüche")]),
      ("extensions", .null)])]

/-- The name of the lesson and its null win over what is filled in, and the type shows through. -/
theorem merge_keeps_both_fractions :
    fractions.Ordered ∧
      (fractions.memberAt? ["definition", "name", "en"] = some (.string "Fractions") ∧
        (prefilled.merge fractions).memberAt? ["definition", "name", "en"] = some (.string "Fractions")) ∧
      (∃ w, (prefilled.merge fractions).memberAt? ["definition", "name"] = some w ∧ w.isObject = true) ∧
      (fractions.memberAt? ["definition", "type"] = none ∧ ¬fractions.Blocks ["definition", "type"] ∧
        (prefilled.merge fractions).memberAt? ["definition", "type"] = some (.string "u:lesson")) ∧
      (fractions.Blocks ["definition", "extensions", "u:room"] ∧
        (prefilled.merge fractions).memberAt? ["definition", "extensions", "u:room"] = none) ∧
      (prefilled.merge fractions).merge fractions = prefilled.merge fractions := by
  have hnames : (ofPairs [("en", .string "Fractions"), ("de", .string "Brüche")]).Ordered :=
    ordered_ofPairs (by simp [Ordered.string])
  have hdefinition : (ofPairs [("name", ofPairs [("en", .string "Fractions"), ("de", .string "Brüche")]),
      ("extensions", .null)]).Ordered := ordered_ofPairs (by simp [hnames, Ordered.null])
  have hordered : fractions.Ordered := ordered_ofPairs (by simp [hdefinition, Ordered.string])
  have hname : fractions.memberAt? ["definition", "name", "en"] = some (.string "Fractions") := by decide +kernel
  have hnamed : ∃ v, fractions.memberAt? ["definition", "name"] = some v ∧ v.isObject = true :=
    ⟨.ofPairs [("en", .string "Fractions"), ("de", .string "Brüche")], by decide +kernel, rfl⟩
  have htype : fractions.memberAt? ["definition", "type"] = none := by decide +kernel
  have hopen : ¬fractions.Blocks ["definition", "type"] := by decide +kernel
  have hblocks : fractions.Blocks ["definition", "extensions", "u:room"] := by decide +kernel
  obtain ⟨hvalue, hobject, hbase, hgone, ⟨htwice, -⟩, -⟩ := merge_keeps_both prefilled fractions hordered
  obtain ⟨v, hv, hvobject⟩ := hnamed
  exact ⟨hordered, ⟨hname, hvalue _ _ hname rfl⟩, hobject _ v hv hvobject,
    ⟨htype, hopen, (hbase _ htype hopen).trans (by decide +kernel)⟩, ⟨hblocks, hgone _ hblocks⟩, htwice⟩

end Json

end StatementProfiles
