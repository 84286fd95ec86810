import StatementProfiles.Template.Validation

/-!
# What a template asks of statements

`TemplateRule.Holds` says when a statement keeps a rule, in terms of the values that the rule finds and of whether its
selector misses a part, and `Template.Fits` what a template asks of a statement as a whole. Neither mentions a check, an
order of checks or the list of what was found; every check reports nothing just when its clause is true
(`TemplateRule.check_eq_none_iff`, `Template.checkVerb_eq_none_iff` and those beside it). **So a statement gets nothing
wrong exactly when it fits the template** (`Template.violations_eq_nil_iff_fits`).
-/

namespace StatementProfiles

/-! ## Values that paths find -/

/-- Some path of the selector finds the value. -/
def PathSelector.Finds (s : PathSelector) (document v : Json) : Prop := ∃ a ∈ s.alternatives, v ∈ a.select document

theorem PathSelector.mem_select_iff {s : PathSelector} {document v : Json} :
    v ∈ s.select document ↔ s.Finds document v := List.mem_flatMap

namespace TemplateRule

variable {r : TemplateRule} {statement v : Json}

/-- The rule looks at the value: it is located, or the selector finds it in a located value. -/
def Finds (r : TemplateRule) (statement v : Json) : Prop :=
  match r.selector with
  | none => r.location.Finds statement v
  | some s => ∃ located, r.location.Finds statement located ∧ s.Finds located v

/-- The selector finds nothing in some located value. -/
def MissesPart (r : TemplateRule) (statement : Json) : Prop :=
  ∃ s, r.selector = some s ∧ ∃ located, r.location.Finds statement located ∧ ∀ v, ¬s.Finds located v

theorem mem_values_iff : v ∈ r.values statement ↔ r.Finds statement v := by
  unfold values Finds
  cases r.selector with
  | none => exact PathSelector.mem_select_iff
  | some s => simp only [List.mem_flatMap, PathSelector.mem_select_iff]

theorem isEmpty_values_iff : (r.values statement).isEmpty ↔ ∀ v, ¬r.Finds statement v := by
  simp only [List.isEmpty_iff, List.eq_nil_iff_forall_not_mem, mem_values_iff]

theorem hasUnmatched_iff : r.hasUnmatched statement ↔ r.MissesPart statement := by
  unfold hasUnmatched MissesPart
  cases r.selector with
  | none => simp
  | some s =>
    simp only [List.any_eq_true, PathSelector.mem_select_iff, List.isEmpty_iff, List.eq_nil_iff_forall_not_mem,
      Option.some.injEq, exists_eq_left']

/-! ## Rules -/

/-- What a rule asks of the values that it finds. A part that is missing is among no values. -/
structure ValuesHold (r : TemplateRule) (statement : Json) : Prop where
  any : ∀ allowed, r.rule.any = some allowed → ∃ v, r.Finds statement v ∧ v.isAmong allowed
  all : ∀ allowed, r.rule.all = some allowed →
    (∀ v, r.Finds statement v → v.isAmong allowed) ∧ ¬r.MissesPart statement
  none : ∀ forbidden, r.rule.none = some forbidden → ∀ v, r.Finds statement v → ¬v.isAmong forbidden

/-- The statement keeps the rule. -/
def Holds (r : TemplateRule) (statement : Json) : Prop :=
  match r.rule.presence with
  | some .included => (∃ v, r.Finds statement v) ∧ ¬r.MissesPart statement ∧ r.ValuesHold statement
  | some .excluded => ∀ v, ¬r.Finds statement v
  | some .recommended => (∀ v, ¬r.Finds statement v) ∨ r.ValuesHold statement
  | none => r.ValuesHold statement

theorem orElse_eq_none_iff {first second : Option Violation} :
    orElse first second = none ↔ first = none ∧ second = none := by cases first <;> simp [orElse]

theorem checkAny_eq_none_iff {target : String} {values : List Json} {any : Option (List Json)} :
    checkAny target values any = none ↔ ∀ allowed, any = some allowed → ∃ v ∈ values, v.isAmong allowed := by
  cases any <;> simp [checkAny]

theorem checkAll_eq_none_iff {target : String} {values : List Json} {unmatched : Bool} {all : Option (List Json)} :
    checkAll target values unmatched all = none ↔
      ∀ allowed, all = some allowed → (∀ v ∈ values, v.isAmong allowed) ∧ ¬unmatched := by
  cases all with
  | none => simp [checkAll]
  | some allowed =>
    have hoffending : (values.filter fun v => !v.isAmong allowed).isEmpty ↔ ∀ v ∈ values, v.isAmong allowed := by
      simp
    simp only [checkAll, Option.some.injEq, forall_eq', ← hoffending]
    cases (values.filter fun v => !v.isAmong allowed).isEmpty <;> cases unmatched <;> simp

theorem checkNone_eq_none_iff {target : String} {values : List Json} {excluded : Option (List Json)} :
    checkNone target values excluded = none ↔
      ∀ forbidden, excluded = some forbidden → ∀ v ∈ values, ¬v.isAmong forbidden := by
  cases excluded <;> simp [checkNone]

theorem checkValues_eq_none_iff :
    checkValues r (r.values statement) (r.hasUnmatched statement) = none ↔ r.ValuesHold statement := by
  simp only [checkValues, orElse_eq_none_iff, checkAny_eq_none_iff, checkAll_eq_none_iff, checkNone_eq_none_iff,
    mem_values_iff, hasUnmatched_iff]
  exact ⟨fun ⟨hany, hall, hnone⟩ => ⟨hany, hall, hnone⟩, fun h => ⟨h.any, h.all, h.none⟩⟩

theorem exists_finds_iff : (∃ v, r.Finds statement v) ↔ ¬(r.values statement).isEmpty := by
  rw [isEmpty_values_iff, Classical.not_forall_not]

/-- The check of a rule reports nothing just when the statement keeps the rule. -/
theorem check_eq_none_iff : r.check statement = none ↔ r.Holds statement := by
  unfold check Holds
  dsimp only
  cases r.rule.presence with
  | none => exact checkValues_eq_none_iff
  | some presence =>
    cases presence with
    | included =>
      simp only [exists_finds_iff, ← hasUnmatched_iff, ← checkValues_eq_none_iff]
      cases (r.values statement).isEmpty <;> cases r.hasUnmatched statement <;> simp
    | excluded =>
      simp only [← isEmpty_values_iff]
      cases (r.values statement).isEmpty <;> simp
    | recommended =>
      simp only [← isEmpty_values_iff, ← checkValues_eq_none_iff]
      cases (r.values statement).isEmpty <;> simp

end TemplateRule

/-! ## Texts in statements -/

namespace Json

/-- The entry is an item of the array, or the single thing that is there in place of an array. -/
def IsOrHas (there entry : Json) : Prop :=
  (∃ items, there = .array items ∧ entry ∈ items) ∨ (there.asArray? = none ∧ entry = there)

/-- One of the things at a path has the text at another. -/
def Mentions (statement : Json) (path inner : Path) (text : String) : Prop :=
  ∃ there, statement.get? path = some there ∧ ∃ entry, there.IsOrHas entry ∧ entry.get? inner = some (.string text)

end Json

namespace Template

variable {t : Template} {statement : Json} {path inner : Path} {text : String}

theorem textAt_eq_some_iff : textAt statement path = some text ↔ statement.get? path = some (.string text) := by
  rw [textAt, Option.bind_eq_some_iff]
  constructor
  · rintro ⟨j, hj, htext⟩
    cases j with
    | string s =>
      cases htext
      exact hj
    | _ => cases htext
  · intro h
    exact ⟨_, h, rfl⟩

theorem mem_asList_iff {there entry : Json} : entry ∈ asList there ↔ there.IsOrHas entry := by
  cases there <;> simp [asList, Json.IsOrHas, Json.asArray?]

theorem mem_textsAt_iff : text ∈ textsAt statement path inner ↔ statement.Mentions path inner text := by
  rw [textsAt, Json.Mentions, List.mem_filterMap]
  cases statement.get? path with
  | none => simp
  | some there =>
    simp only [Option.map_some, Option.getD_some, mem_asList_iff, textAt_eq_some_iff, Option.some.injEq,
      exists_eq_left']

/-- Nothing is told of what is missing when all that is required is there. -/
theorem ite_missingFrom_eq_none_iff {required present : List String} {v : Violation} :
    (if (missingFrom required present).isEmpty then none else some v) = none ↔ ∀ s ∈ required, s ∈ present := by
  simp [missingFrom]

/-! ## Templates -/

/-- What a template asks of a statement. -/
structure Fits (t : Template) (statement : Json) : Prop where
  verb : ∀ iri, t.verb = some iri → statement.get? ["verb", "id"] = some (.string iri)
  objectType : ∀ iri, t.objectActivityType = some iri →
    statement.get? ["object", "definition", "type"] = some (.string iri)
  contextTypes : ∀ relation, ∀ iri ∈ t.contextTypes.required relation,
    statement.Mentions ["context", "contextActivities", relation.key] ["definition", "type"] iri
  usageTypes : ∀ iri ∈ t.attachmentUsageTypes, statement.Mentions ["attachments"] ["usageType"] iri
  objectReference : t.objectStatementRef → statement.get? ["object", "objectType"] = some (.string "StatementRef")
  contextReference : t.contextStatementRef →
    statement.get? ["context", "statement", "objectType"] = some (.string "StatementRef")
  rules : ∀ r ∈ t.rules, r.Holds statement

theorem checkVerb_eq_none_iff :
    t.checkVerb statement = none ↔ ∀ iri, t.verb = some iri → statement.get? ["verb", "id"] = some (.string iri) := by
  unfold checkVerb
  cases t.verb <;> simp [textAt_eq_some_iff]

theorem checkObjectType_eq_none_iff :
    t.checkObjectType statement = none ↔
      ∀ iri, t.objectActivityType = some iri →
        statement.get? ["object", "definition", "type"] = some (.string iri) := by
  unfold checkObjectType
  cases t.objectActivityType <;> simp [textAt_eq_some_iff]

theorem checkContextTypes_eq_none_iff {relation : ContextRelation} :
    t.checkContextTypes statement relation = none ↔
      ∀ iri ∈ t.contextTypes.required relation,
        statement.Mentions ["context", "contextActivities", relation.key] ["definition", "type"] iri := by
  simp only [checkContextTypes, ite_missingFrom_eq_none_iff, mem_textsAt_iff]

theorem checkUsageTypes_eq_none_iff :
    t.checkUsageTypes statement = none ↔
      ∀ iri ∈ t.attachmentUsageTypes, statement.Mentions ["attachments"] ["usageType"] iri := by
  simp only [checkUsageTypes, ite_missingFrom_eq_none_iff, mem_textsAt_iff]

theorem checkObjectReference_eq_none_iff :
    t.checkObjectReference statement = none ↔
      (t.objectStatementRef → statement.get? ["object", "objectType"] = some (.string "StatementRef")) := by
  simp [checkObjectReference, textAt_eq_some_iff]

theorem checkContextReference_eq_none_iff :
    t.checkContextReference statement = none ↔
      (t.contextStatementRef →
        statement.get? ["context", "statement", "objectType"] = some (.string "StatementRef")) := by
  simp [checkContextReference, textAt_eq_some_iff]

theorem mem_relations (relation : ContextRelation) : relation ∈ ContextRelation.all := by cases relation <;> decide

/-- Nothing is wrong just when every check reports nothing. -/
theorem violations_eq_nil_iff : t.violations statement = [] ↔ ∀ result ∈ t.checks statement, result = none := by
  rw [violations, List.filterMap_eq_nil_iff]

/-- **A statement gets nothing wrong exactly when it fits the template.** -/
theorem violations_eq_nil_iff_fits (t : Template) (statement : Json) :
    t.violations statement = [] ↔ t.Fits statement := by
  rw [violations_eq_nil_iff, checks]
  simp only [List.forall_mem_append, List.forall_mem_cons, List.forall_mem_map, List.not_mem_nil, false_implies,
    implies_true, and_true, checkVerb_eq_none_iff, checkObjectType_eq_none_iff, checkContextTypes_eq_none_iff,
    checkUsageTypes_eq_none_iff, checkObjectReference_eq_none_iff, checkContextReference_eq_none_iff,
    TemplateRule.check_eq_none_iff]
  constructor
  · rintro ⟨⟨⟨⟨hverb, htype⟩, hcontext⟩, husage, hobject, href⟩, hrules⟩
    exact ⟨hverb, htype, fun relation => hcontext relation (mem_relations relation), husage, hobject, href, hrules⟩
  · intro h
    exact ⟨⟨⟨⟨h.verb, h.objectType⟩, fun relation _ => h.contextTypes relation⟩, h.usageTypes, h.objectReference,
      h.contextReference⟩, h.rules⟩

end Template

end StatementProfiles
