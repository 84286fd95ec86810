import StatementProfiles.Proofs.Document.Reach

/-!
# The last step of a builder

A statement gets the id and the timestamp that it lacks, and keeps everything else (`Builder.completes_completed`). The
completed document is returned when it has the required fields and gets nothing wrong about the template
(`Builder.build_eq_ok_iff`), and refused for the violations when it has the fields and gets something wrong
(`Builder.build_eq_violations_iff`). The mode decides only how many violations are told, so **only valid documents are
returned in either mode, and the violation that one mode tells is the first of those that the other tells**
(`Builder.build_returns_valid_documents`).
-/

namespace StatementProfiles

namespace Template

variable {t : Template} {mode : ValidationMode} {statement : Json}

/-- In either mode something is reported when something is wrong. -/
theorem isEmpty_reported (t : Template) (mode : ValidationMode) (statement : Json) :
    (t.reported mode statement).isEmpty = (t.violations statement).isEmpty := by
  cases mode with
  | failFast => cases h : t.violations statement <;> simp [reported, h]
  | collect => rfl

theorem validate_eq_ok_iff : t.validate mode statement = .ok () ↔ t.violations statement = [] := by
  unfold validate
  dsimp only
  rw [isEmpty_reported]
  split
  · next h => simpa using h
  · next h => simpa using h

theorem validate_eq_error_iff {e : Error} :
    t.validate mode statement = .error e ↔
      t.violations statement ≠ [] ∧ .violations t.id ((t.reported mode statement).map Violation.message) = e := by
  unfold validate
  dsimp only
  rw [isEmpty_reported]
  split
  · next h => simpa using fun hne => absurd (List.isEmpty_iff.mp h) hne
  · next h =>
    rw [Except.error.injEq]
    exact (and_iff_right fun hnil => h (List.isEmpty_iff.mpr hnil)).symm

end Template

namespace Builder

variable {b : Builder} {fresh : Fresh} {doc : Json}

/-! ## Members that are added -/

/-- A member that is added at the end, and its text: a statement lacks it, and it is to be generated. -/
inductive Adds (b : Builder) (fresh : Fresh) : String → String → Prop
  | id : b.kind = .statement → b.options.generateIds → ¬b.document.contains ["id"] → Adds b fresh "id" fresh.id
  | timestamp : b.kind = .statement → b.options.generateTimestamps → ¬b.document.contains ["timestamp"] →
      Adds b fresh "timestamp" fresh.timestamp

/-- The document is that of the builder with the members that are added at the end, and otherwise unchanged. -/
structure Completes (b : Builder) (fresh : Fresh) (doc : Json) : Prop where
  added : ∀ name text, b.Adds fresh name text → doc.get? [name] = some (.string text)
  kept : ∀ name, (∀ text, ¬b.Adds fresh name text) →
    ∀ rest, doc.get? (name :: rest) = b.document.get? (name :: rest)
  unchanged : (∀ name text, ¬b.Adds fresh name text) → doc = b.document

theorem fill_of_contains {isWanted : Bool} {name text : String} (h : isWanted → doc.contains [name]) :
    fill isWanted name text doc = doc := by
  cases isWanted with
  | false => rfl
  | true => simp [fill, h rfl]

theorem fill_of_not_contains {name text : String} (h : ¬doc.contains [name]) :
    fill true name text doc = doc.set [name] (.string text) := by simp [fill, h]

theorem isObject_fill (isWanted : Bool) (name text : String) (h : doc.isObject) :
    (fill isWanted name text doc).isObject := by
  unfold fill
  split
  · exact Json.isObject_update _ name [] h
  · exact h

/-- Other members stay as they are. -/
theorem get?_fill_of_ne (isWanted : Bool) {name name' : String} (hne : name' ≠ name) (text : String)
    (h : doc.isObject) (rest : Path) :
    (fill isWanted name text doc).get? (name' :: rest) = doc.get? (name' :: rest) := by
  unfold fill
  split
  · exact Json.get?_update_of_fork _ [] hne [] rest (by rw [Json.get?_nil]; exact Json.asArray?_of_isObject h)
  · rfl

theorem fill_of_not_adds_id (hk : b.kind = .statement) (h : ∀ text, ¬b.Adds fresh "id" text) :
    fill b.options.generateIds "id" fresh.id b.document = b.document :=
  fill_of_contains fun hwanted => Classical.byContradiction fun hlacks => h _ (.id hk hwanted hlacks)

theorem fill_of_not_adds_timestamp (hk : b.kind = .statement) (h : ∀ text, ¬b.Adds fresh "timestamp" text)
    (hdoc : doc.get? ["timestamp"] = b.document.get? ["timestamp"]) :
    fill b.options.generateTimestamps "timestamp" fresh.timestamp doc = doc := by
  refine fill_of_contains fun hwanted => Classical.byContradiction fun hlacks => h _ (.timestamp hk hwanted ?_)
  rwa [Json.contains, hdoc] at hlacks

theorem completed_of_ne_statement (h : b.kind ≠ .statement) (fresh : Fresh) : b.completed fresh = b.document := by
  simp [completed, h]

theorem completed_of_statement (h : b.kind = .statement) (fresh : Fresh) :
    b.completed fresh = fill b.options.generateTimestamps "timestamp" fresh.timestamp
      (fill b.options.generateIds "id" fresh.id b.document) := by
  simp [completed, h]

/-- **A statement gets the id and the timestamp that it lacks, and every document keeps the rest.** -/
theorem completes_completed (h : b.document.isObject) (fresh : Fresh) : b.Completes fresh (b.completed fresh) := by
  by_cases hk : b.kind = .statement
  · rw [completed_of_statement hk]
    have hobject := isObject_fill b.options.generateIds "id" fresh.id h
    have htime : ∀ rest, (fill b.options.generateIds "id" fresh.id b.document).get? ("timestamp" :: rest) =
        b.document.get? ("timestamp" :: rest) := get?_fill_of_ne _ (by decide) _ h
    have hother : ∀ name, name ≠ "timestamp" → ∀ rest, _ := fun name hne =>
      get?_fill_of_ne b.options.generateTimestamps hne fresh.timestamp hobject
    constructor
    · intro name text hadds
      cases hadds with
      | id _ hwanted hlacks =>
        rw [hother _ (by decide), hwanted, fill_of_not_contains hlacks]
        exact Json.get?_set_self _ _ _
      | timestamp _ hwanted hlacks =>
        rw [hwanted, fill_of_not_contains (by rwa [Json.contains, htime])]
        exact Json.get?_set_self _ _ _
    · intro name hkept rest
      by_cases hname : name = "timestamp"
      · subst hname
        rw [fill_of_not_adds_timestamp hk hkept (htime [])]
        exact htime rest
      · rw [hother name hname]
        by_cases hid : name = "id"
        · subst hid
          rw [fill_of_not_adds_id hk hkept]
        · exact get?_fill_of_ne _ hid _ h rest
    · intro hnone
      rw [fill_of_not_adds_id hk (hnone "id"), fill_of_not_adds_timestamp hk (hnone "timestamp") rfl]
  · rw [completed_of_ne_statement hk]
    refine ⟨fun name text hadds => ?_, fun _ _ _ => rfl, fun _ => rfl⟩
    cases hadds with
    | id hstatement _ _ => exact absurd hstatement hk
    | timestamp hstatement _ _ => exact absurd hstatement hk

/-! ## Documents that are returned and refused -/

/-- The builder that tells violations in a mode. -/
def inMode (b : Builder) (mode : ValidationMode) : Builder :=
  { b with options := { b.options with validation := mode } }

/-- The document has the fields that the builder's kind requires. -/
def HasFields (b : Builder) (doc : Json) : Prop := ∀ name ∈ b.kind.requiredFields, doc.contains [name]

instance (b : Builder) (doc : Json) : Decidable (b.HasFields doc) := inferInstanceAs (Decidable (∀ _ ∈ _, _))

/-- A document with all its fields is validated when there is a template. -/
theorem build_of_hasFields (h : b.HasFields (b.completed fresh)) :
    b.build fresh = match b.template with
      | none => .ok (b.completed fresh)
      | some t => (t.validate b.options.validation (b.completed fresh)).map fun _ => b.completed fresh := by
  have hfound : (b.kind.requiredFields.find? fun name => !(b.completed fresh).contains [name]) = none := by
    simpa [HasFields] using h
  cases ht : b.template <;> simp only [build, hfound, ht]

/-- A document that lacks a field is refused for it. -/
theorem exists_missingField (h : ¬b.HasFields (b.completed fresh)) :
    ∃ name ∈ b.kind.requiredFields, b.build fresh = .error (.missingField b.kind name) := by
  rw [build]
  split
  · next name hmissing => exact ⟨name, List.mem_of_find?_eq_some hmissing, rfl⟩
  · next hfound => exact absurd (by simpa [HasFields] using hfound) h

theorem build_eq_ok_iff :
    b.build fresh = .ok doc ↔
      doc = b.completed fresh ∧ b.HasFields doc ∧ ∀ t, b.template = some t → t.violations doc = [] := by
  by_cases hfields : b.HasFields (b.completed fresh)
  · rw [build_of_hasFields hfields]
    cases b.template with
    | none =>
      constructor
      · rintro ⟨⟩
        exact ⟨rfl, hfields, nofun⟩
      · rintro ⟨rfl, -, -⟩
        rfl
    | some t =>
      rw [map_eq_ok_iff]
      constructor
      · rintro ⟨⟨⟩, hvalid, rfl⟩
        exact ⟨rfl, hfields, fun t' ht' => Option.some.inj ht' ▸ Template.validate_eq_ok_iff.mp hvalid⟩
      · rintro ⟨rfl, -, hvalid⟩
        exact ⟨(), Template.validate_eq_ok_iff.mpr (hvalid t rfl), rfl⟩
  · obtain ⟨name, -, hmissing⟩ := exists_missingField hfields
    rw [hmissing]
    refine ⟨nofun, ?_⟩
    rintro ⟨rfl, hall, -⟩
    exact absurd hall hfields

theorem build_eq_violations_iff {id : String} {texts : List String} :
    b.build fresh = .error (.violations id texts) ↔
      b.HasFields (b.completed fresh) ∧ ∃ t, b.template = some t ∧ t.id = id ∧
        t.violations (b.completed fresh) ≠ [] ∧
        (t.reported b.options.validation (b.completed fresh)).map Violation.message = texts := by
  by_cases hfields : b.HasFields (b.completed fresh)
  · rw [and_iff_right hfields, build_of_hasFields hfields]
    cases b.template with
    | none => exact ⟨nofun, nofun⟩
    | some t =>
      rw [map_eq_error_iff, Template.validate_eq_error_iff, Error.violations.injEq]
      constructor
      · rintro ⟨hne, hid, htexts⟩
        exact ⟨t, rfl, hid, hne, htexts⟩
      · rintro ⟨_, ⟨⟩, hid, hne, htexts⟩
        exact ⟨hne, hid, htexts⟩
  · obtain ⟨name, -, hmissing⟩ := exists_missingField hfields
    rw [hmissing]
    exact ⟨nofun, fun h => absurd h.1 hfields⟩

/-- The mode changes nothing but how many violations are told. -/
theorem inMode_build_eq_ok_iff {mode : ValidationMode} :
    (b.inMode mode).build fresh = .ok doc ↔ b.build fresh = .ok doc := by
  rw [build_eq_ok_iff, build_eq_ok_iff]
  rfl

theorem inMode_build_eq_violations_iff {mode : ValidationMode} {id : String} {texts : List String} :
    (b.inMode mode).build fresh = .error (.violations id texts) ↔
      b.HasFields (b.completed fresh) ∧ ∃ t, b.template = some t ∧ t.id = id ∧
        t.violations (b.completed fresh) ≠ [] ∧
        (t.reported mode (b.completed fresh)).map Violation.message = texts := build_eq_violations_iff

/-- One mode tells the first of the violations that the other tells. -/
theorem failFast_eq_violations_iff {id : String} {texts : List String} :
    (b.inMode .failFast).build fresh = .error (.violations id texts) ↔
      ∃ first rest, texts = [first] ∧ (b.inMode .collect).build fresh = .error (.violations id (first :: rest)) := by
  simp only [inMode_build_eq_violations_iff, Template.reported]
  constructor
  · rintro ⟨hfields, t, ht, hid, hne, rfl⟩
    obtain ⟨v, vs, hvs⟩ := List.exists_cons_of_ne_nil hne
    refine ⟨v.message, vs.map Violation.message, ?_, hfields, t, ht, hid, hne, ?_⟩
    · rw [hvs, List.take_succ_cons, List.take_zero, List.map_cons, List.map_nil]
    · rw [hvs, List.map_cons]
  · rintro ⟨first, rest, rfl, hfields, t, ht, hid, hne, htexts⟩
    refine ⟨hfields, t, ht, hid, hne, ?_⟩
    rw [List.map_take, htexts, List.take_succ_cons, List.take_zero]

/-- **Only valid documents are returned, whatever the mode.** A builder returns the completed document, and only when it
has the required fields and gets nothing wrong about the template. When it gets something wrong, one mode tells all
violations in the order of the checks, and the other the first of them. Documents of builders are objects
(`Made.proper`). -/
theorem build_returns_valid_documents (b : Builder) (fresh : Fresh) :
    (b.document.isObject → b.Completes fresh (b.completed fresh)) ∧
    (∀ doc, b.build fresh = .ok doc ↔
      doc = b.completed fresh ∧ b.HasFields doc ∧ ∀ t, b.template = some t → t.violations doc = []) ∧
    (∀ mode doc, (b.inMode mode).build fresh = .ok doc ↔ b.build fresh = .ok doc) ∧
    (∀ id texts, (b.inMode .collect).build fresh = .error (.violations id texts) ↔
      b.HasFields (b.completed fresh) ∧ ∃ t, b.template = some t ∧ t.id = id ∧
        t.violations (b.completed fresh) ≠ [] ∧ (t.violations (b.completed fresh)).map Violation.message = texts) ∧
    ∀ id texts, (b.inMode .failFast).build fresh = .error (.violations id texts) ↔
      ∃ first rest, texts = [first] ∧ (b.inMode .collect).build fresh = .error (.violations id (first :: rest)) :=
  ⟨fun h => completes_completed h fresh, fun _ => build_eq_ok_iff,
    fun _ _ => inMode_build_eq_ok_iff, fun _ _ => inMode_build_eq_violations_iff,
    fun _ _ => failFast_eq_violations_iff⟩

/-- A template that asks for a verb and for a type of the object. -/
def readingTemplate : Template where
  id := "u:reading"
  prefLabel := []
  profileId := none
  profileVersion := none
  verb := some "u:read"
  objectActivityType := some "u:book"
  contextTypes := ⟨[], [], [], []⟩
  attachmentUsageTypes := []
  objectStatementRef := false
  contextStatementRef := false
  rules := []

/-- A statement with another verb, and with an object without a type. -/
def unread : Builder :=
  { start .statement with
    template := some readingTemplate
    document := .ofPairs [("actor", .empty), ("object", .empty), ("verb", .ofPairs [("id", .string "u:bought")])] }

/-- Both violations of the statement are told, or the first of them. -/
theorem build_returns_valid_documents_unread :
    unread.document.isObject ∧ unread.Completes ⟨"u:1", "now"⟩ (unread.completed ⟨"u:1", "now"⟩) ∧
    (unread.inMode .collect).build ⟨"u:1", "now"⟩ = .error (.violations "u:reading"
      ["verb u:bought does not match required verb u:read",
        "object activity type (absent) does not match required type u:book"]) ∧
    (unread.inMode .failFast).build ⟨"u:1", "now"⟩ = .error (.violations "u:reading"
      ["verb u:bought does not match required verb u:read"]) := by
  obtain ⟨hcompletes, -, -, hcollect, hfirst⟩ := build_returns_valid_documents unread ⟨"u:1", "now"⟩
  have hviolations : readingTemplate.violations (unread.completed ⟨"u:1", "now"⟩) =
      [.verb (some "u:bought") "u:read", .objectType none "u:book"] := by decide +kernel
  have hall := (hcollect "u:reading" _).mpr ⟨by decide +kernel, readingTemplate, rfl, rfl,
    by rw [hviolations]; exact List.cons_ne_nil _ _, rfl⟩
  rw [hviolations] at hall
  exact ⟨rfl, hcompletes rfl, hall, (hfirst _ _).mpr ⟨_, _, rfl, hall⟩⟩

end Builder

end StatementProfiles
