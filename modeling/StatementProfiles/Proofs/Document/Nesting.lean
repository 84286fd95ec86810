import StatementProfiles.Proofs.Document.Object

/-!
# Statements inside statements

A statement that is the object of another one is the whole document of a builder of such statements, until something
else takes its place (`Builder.Made.exists_inner`). Such documents have no id, and no further statement as their object.
**So documents keep to their kind whatever their builders are told** (`Builder.documents_of_their_kind`).
-/

namespace StatementProfiles

namespace Builder

variable {b b' : Builder} {s : Setting} {ss : List Setting} {admits : Builder → Setting → Prop}

/-- The object says that it is a statement. -/
def HoldsStatement (b : Builder) : Prop :=
  b.document.get? ["object", "objectType"] = some (.string DocumentKind.subStatement.name)

theorem not_holdsStatement_of_objectType {j : Json} {type : String} (hj : b.document.get? ["object"] = some j)
    (htype : j.get? ["objectType"] = some (.string type)) (hne : type ≠ DocumentKind.subStatement.name) :
    ¬b.HoldsStatement := by
  intro h
  rw [HoldsStatement, Json.get?_cons, hj, Option.bind_some, htype] at h
  cases h
  exact hne rfl

/-- A document that says that it is a statement inside another one is one. -/
theorem kind_of_objectType {a : Builder} (ha : a.Proper)
    (h : a.document.get? ["objectType"] = some (.string DocumentKind.subStatement.name)) : a.kind = .subStatement := by
  rw [ha.objectType] at h
  cases hk : a.kind with
  | subStatement => rfl
  | statement | attachment =>
    rw [hk] at h
    cases h
  | agent | group | activity =>
    rw [hk] at h
    have hname := Json.string.inj (Option.some.inj h)
    exact absurd hname (by decide)

/-- **A statement in the place of an object is the document of a builder**, and the outer one is no such statement
itself. -/
theorem Made.exists_inner (h : Made admits b) (hholds : b.HoldsStatement) :
    b.kind = .statement ∧ ∃ a : Builder, a.Reached ∧ a.kind = .subStatement ∧
      b.document.get? ["object"] = some a.document := by
  induction h with
  | start kind => cases kind <;> cases hholds
  | equip _ _ _ _ ih => exact ih hholds
  | @tell _ b b' s hb hargs _ ha ih =>
    have hkind : b'.kind = b.kind := (Told.nothing.tell ha).kind_eq
    rcases objectStep_of_apply hb.proper ha with ⟨-, hkeep⟩ | @⟨a, rfl, hfits, hput⟩ | ⟨-, hrefer⟩ | ⟨-, htyped⟩
    · have hbefore : b.HoldsStatement := (hkeep ["objectType"]).symm.trans hholds
      obtain ⟨hstatement, a, ha, hinner, hobject⟩ := ih hbefore
      exact ⟨hkind.trans hstatement, a, ha, hinner, (hkeep []).trans hobject⟩
    · have hreached : a.Reached := hargs a (Setting.takes_object_iff.mpr rfl)
      by_cases hactivity : a.kind = .activity
      · obtain ⟨-, htype, -⟩ := exists_mergedObject hreached.proper hactivity hb.isObject_object
        exact absurd hholds (not_holdsStatement_of_objectType hput htype (by decide))
      · rw [mergedObject_of_ne hactivity] at hput
        have hinner : a.kind = .subStatement := by
          rw [HoldsStatement, Json.get?_cons, hput, Option.bind_some] at hholds
          exact kind_of_objectType hreached.proper hholds
        rw [hinner] at hfits
        exact ⟨hkind.trans (eq_of_beq hfits), a, hreached, hinner, hput⟩
    · exact absurd hholds (not_holdsStatement_of_objectType hrefer (get?_objectType_statementRef _) (by decide))
    · obtain ⟨-, htype, -⟩ := exists_typedObject hb.isObject_object _
      exact absurd hholds (not_holdsStatement_of_objectType htyped htype (by decide))

/-- A document has no member under a key that documents of its kind may not have. -/
theorem Proper.get?_eq_none (h : b.Proper) {key : String} (hkey : key ∉ b.kind.keys) :
    b.document.get? [key] = none := by
  obtain ⟨ms, hms, -, hkeys⟩ := h.exists_members
  rw [hms, Json.get?_object]
  exact Members.find?_eq_none fun hmem => hkey (hkeys key hmem)

/-- **Documents keep to their kind.** Whatever a fresh builder is told, by settings whose documents are made in the same
way: the document has the `objectType` that it began with, and keys of its kind only. A statement inside a statement has
no statement as its object, and wherever an object says that it is a statement it has no id and holds no further
statement. -/
theorem documents_of_their_kind {kind : DocumentKind} (h : (start kind).Told ss b)
    (hargs : ∀ s ∈ ss, ∀ a, s.Takes a → a.Reached) :
    (b.kind = kind ∧ b.document.get? ["objectType"] = (start kind).document.get? ["objectType"] ∧
      b.document.get? ["objectType"] = kind.objectType?.map Json.string) ∧
    (∃ ms : Members Json, b.document = .object ms ∧ ms.keys.Nodup ∧ ∀ key ∈ ms.keys, key ∈ kind.keys) ∧
    (kind = .subStatement → b.document.get? ["object", "objectType"] ≠ some (.string "SubStatement")) ∧
    (b.document.get? ["object", "objectType"] = some (.string "SubStatement") →
      b.document.get? ["object", "id"] = none ∧
      b.document.get? ["object", "object", "objectType"] ≠ some (.string "SubStatement")) := by
  have hreached : b.Reached := h.reached (.start kind) hargs
  have hkind : b.kind = kind := h.kind_eq.trans (by cases kind <;> rfl)
  have hproper := hreached.proper
  have htype := hproper.objectType
  have hmembers := hproper.exists_members
  rw [hkind] at htype hmembers
  refine ⟨⟨hkind, ?_, htype⟩, hmembers, ?_, ?_⟩
  · have hfresh := (proper_start kind).objectType
    rw [htype, hfresh]
    cases kind <;> rfl
  · intro hsub hholds
    obtain ⟨houter, -⟩ := hreached.exists_inner hholds
    rw [hkind, hsub] at houter
    cases houter
  · intro hholds
    obtain ⟨-, a, ha, hinner, hobject⟩ := hreached.exists_inner hholds
    constructor
    · rw [Json.get?_cons, hobject, Option.bind_some]
      exact ha.proper.get?_eq_none (by rw [hinner]; decide)
    · intro hdeep
      rw [Json.get?_cons, hobject, Option.bind_some] at hdeep
      obtain ⟨houter, -⟩ := ha.exists_inner hdeep
      rw [hinner] at houter
      cases houter

/-- A statement about the statement that something was read. -/
def aboutReading : Except Error Builder := do
  let reading ← (start .subStatement).applyAll [.verb "u:read", .success true]
  (start .statement).applyAll [.object reading, .response "yes"]

theorem documents_of_their_kind_reading :
    ∃ reading b : Builder, reading.Reached ∧ (start .statement).Told [.object reading, .response "yes"] b ∧
      b.document.get? ["object", "objectType"] = some (.string "SubStatement") ∧
      b.document.contains ["object", "verb", "id"] ∧ b.document.get? ["object", "id"] = none ∧
      ∃ ms : Members Json, b.document = .object ms ∧ ms.keys.Nodup ∧
        ∀ key ∈ ms.keys, key ∈ DocumentKind.statement.keys := by
  have hdocument : aboutReading.map (fun b =>
      (b.document.get? ["object", "objectType"], b.document.contains ["object", "verb", "id"])) =
      .ok (some (.string "SubStatement"), true) := by decide +kernel
  obtain ⟨b, hb, hdocument⟩ := map_eq_ok_iff.mp hdocument
  obtain ⟨htype, hverb⟩ := Prod.mk.inj hdocument
  obtain ⟨reading, hreading, hstatement⟩ := bind_eq_ok_iff.mp hb
  have hinner : reading.Reached :=
    (Told.nothing.applyAll hreading).reached (.start .subStatement) (by simp [Setting.Takes, Setting.argument?])
  have houter : (start .statement).Told [.object reading, .response "yes"] b := Told.nothing.applyAll hstatement
  have hargs : ∀ s ∈ [Setting.object reading, Setting.response "yes"], ∀ a, s.Takes a → a.Reached := by
    refine List.forall_mem_cons.mpr ⟨fun a ha => ?_, ?_⟩
    · rw [Setting.takes_object_iff.mp ha]
      exact hinner
    · simp [Setting.Takes, Setting.argument?]
  obtain ⟨-, hkeys, -, hnested⟩ := documents_of_their_kind houter hargs
  exact ⟨reading, b, hinner, houter, htype, hverb, (hnested htype).1, hkeys⟩

end Builder

end StatementProfiles
