import StatementProfiles.Proofs.Registry.Naming
import StatementProfiles.Proofs.Registry.Order

/-!
# Which profiles a registry takes

A template is compiled when the paths of its rules can be read and each of its determining properties names something
(`Registry.exists_compileTemplate_iff`). A name that is no IRI names something when it is the label of one declared
concept of its kind or when a further lookup knows it (`Registry.Built.knows_iff`). **So a profile is registered exactly
when it is well formed, its IRIs are new and its templates can be read; otherwise nothing changes**
(`Registry.register_ok_iff_admits`).
-/

namespace StatementProfiles

/-! ## Rules -/

/-- The paths of a rule can be read. -/
structure Rule.Readable (rule : Rule) : Prop where
  location : ∃ s, PathSelector.parse rule.location = .ok s
  selector : ∀ text, rule.selector = some text → ∃ s, PathSelector.parse text = .ok s

theorem TemplateRule.exists_compile_iff {rule : Rule} : (∃ r, compile rule = .ok r) ↔ rule.Readable := by
  unfold compile
  constructor
  · rintro ⟨r, h⟩
    split at h
    · cases h
    · next location hlocation =>
      refine ⟨⟨location, hlocation⟩, fun text htext => ?_⟩
      rw [htext] at h
      obtain ⟨selector, hselector, -⟩ := map_eq_ok_iff.mp h
      exact ⟨selector, hselector⟩
  · rintro ⟨⟨location, hlocation⟩, hselector⟩
    rw [hlocation]
    cases htext : rule.selector with
    | none => exact ⟨_, rfl⟩
    | some text =>
      obtain ⟨selector, hselector⟩ := hselector text htext
      exact ⟨_, map_eq_ok_iff.mpr ⟨selector, hselector, rfl⟩⟩

theorem inContext_eq_ok_iff {α : Type} {context : String} {x : Except Error α} {a : α} :
    inContext context x = .ok a ↔ x = .ok a := by
  cases x <;> simp [inContext]

theorem Template.exists_compileRules_iff (template : String) (index : Nat) {rules : List Rule} :
    (∃ rs, compileRules template index rules = .ok rs) ↔ ∀ rule ∈ rules, rule.Readable := by
  induction rules generalizing index with
  | nil => exact ⟨fun _ _ h => (nomatch h), fun _ => ⟨[], rfl⟩⟩
  | cons rule rules ih =>
    rw [List.forall_mem_cons, ← TemplateRule.exists_compile_iff, ← ih (index + 1), compileRules]
    constructor
    · rintro ⟨rs, h⟩
      split at h
      · cases h
      · next r hr =>
        split at h
        · cases h
        · next more hmore => exact ⟨⟨r, inContext_eq_ok_iff.mp hr⟩, more, hmore⟩
    · rintro ⟨⟨r, hr⟩, more, hmore⟩
      rw [inContext_eq_ok_iff.mpr hr, hmore]
      exact ⟨_, rfl⟩

/-! ## Names -/

/-- The determining properties as they are written, each with the kind of concept that it names. -/
def TemplateDefinition.properties (d : TemplateDefinition) : List (ConceptKind × String) :=
  (d.verb.toList.map fun name => (.verb, name)) ++ (d.objectActivityType.toList.map fun name => (.activityType, name))
    ++ ((d.contextParentActivityType ++ d.contextGroupingActivityType ++ d.contextCategoryActivityType
      ++ d.contextOtherActivityType).map fun name => (.activityType, name))
    ++ (d.attachmentUsageType.map fun name => (.attachmentUsageType, name))

namespace Registry

/-- **Which templates can be compiled.** -/
theorem exists_compileTemplate_iff {resolver : Resolver} {p : Profile} {d : TemplateDefinition} :
    (∃ t, compileTemplate resolver p d = .ok t) ↔
      (∀ rule ∈ d.rules, rule.Readable) ∧ ∀ x ∈ d.properties, resolver.Knows x.1 x.2 := by
  rw [← Template.exists_compileRules_iff d.id 0, compileTemplate, Template.ofDefinition]
  cases Template.compileRules d.id 0 d.rules with
  | error e => simp [Except.map, Except.bind]
  | ok rules =>
    refine Template.exists_resolveNames_iff.trans ?_
    simp only [TemplateDefinition.properties, List.forall_mem_append, List.forall_mem_map, and_assoc]
    exact (and_iff_right ⟨rules, rfl⟩).symm

/-! ## Names that templates write -/

variable {r : Registry} {p : Profile} {ts : List Template}

/-- A name is a label of concepts of a kind that profiles declare, and all of these have one IRI. -/
def LabelsOne (ps : List Profile) (kind : ConceptKind) (name : String) : Prop :=
  ∃! id, ∃ q ∈ ps, ∃ c ∈ q.concepts, c.kind = kind ∧ name ∈ Members.values c.prefLabel ∧ c.id = id

theorem knows_resolverOver_iff {v : Vocabulary} {kind : ConceptKind} {name : String} (hname : isIri name = false) :
    (r.resolverOver v).Knows kind name ↔
      (v.lookup? name kind).isSome ∨ ∃ l ∈ r.lookups, (l.lookup? name kind).isSome := by
  rw [Resolver.knows_iff]
  simp only [Resolver.answer?_of_not_isIri hname]
  constructor
  · rintro ⟨l, hl, ha⟩
    rcases List.mem_append.mp hl with hl | hl
    · rcases List.mem_cons.mp hl with rfl | hl
      · exact .inl ha
      · exact .inr ⟨l, hl, ha⟩
    · rw [List.mem_singleton.mp hl] at ha
      simp [Lookup.lookup?, hname] at ha
  · rintro (ha | ⟨l, hl, ha⟩)
    · exact ⟨.vocabulary v, List.mem_append_left _ List.mem_cons_self, ha⟩
    · exact ⟨l, List.mem_append_left _ (List.mem_cons_of_mem _ hl), ha⟩

/-- Apart from templates and patterns, the concepts of a profile are those that it declares. -/
theorem mem_conceptsOf_iff {kind : ConceptKind} (ht : kind ≠ .template) (hp : kind ≠ .pattern) {c : Concept}
    (hkind : c.kind = kind) : c ∈ conceptsOf p ↔ ∃ d ∈ p.concepts, d.toConcept = c := by
  have hparts : conceptsOf p = declaredConcepts p ++ templateConcepts p ++ patternConcepts p := rfl
  have htemplate : c ∉ templateConcepts p := by
    intro hc
    obtain ⟨d, -, rfl⟩ := List.mem_map.mp hc
    exact ht hkind.symm
  have hpattern : c ∉ patternConcepts p := by
    intro hc
    obtain ⟨d, -, rfl⟩ := List.mem_map.mp hc
    exact hp hkind.symm
  rw [hparts, List.mem_append, List.mem_append, or_iff_left hpattern, or_iff_left htemplate, declaredConcepts,
    List.mem_map]

/-- A name that is no IRI is found among the concepts of a profile and of those before it when it is a label of one of
them alone. -/
theorem Built.isSome_lookup?_vocabularyWith_iff (h : r.Built ts) (ha : ∀ id ∈ p.ids, isAbsoluteIri id) {name : String}
    (hname : isIri name = false) {kind : ConceptKind} (ht : kind ≠ .template) (hp : kind ≠ .pattern) :
    ((r.vocabularyWith p).lookup? name kind).isSome ↔ LabelsOne (r.profiles ++ [p]) kind name := by
  have hmem : ∀ c, c ∈ (r.vocabularyWith p).concepts ↔ c ∈ (r.profiles ++ [p]).flatMap conceptsOf := by
    intro c
    rw [h.vocabularyWith_eq p, Vocabulary.concepts_extend]
    rfl
  have hindexed : (r.vocabularyWith p).Indexed := h.vocabularyWith_eq p ▸ Vocabulary.indexed_empty.extend _
  have hid : ∀ c ∈ (r.vocabularyWith p).concepts, c.id ≠ name := by
    rintro c hc rfl
    have hids : c.id ∈ (r.profiles ++ [p]).flatMap Profile.ids :=
      (vocabulary_ids_sublist _).subset (List.mem_map_of_mem ((hmem c).mp hc))
    rw [List.flatMap_append, List.flatMap_singleton] at hids
    have habsolute : isAbsoluteIri c.id := (List.mem_append.mp hids).elim (h.consistent.absolute c.id) (ha c.id)
    rw [isIri_of_isAbsoluteIri habsolute] at hname
    cases hname
  rw [Vocabulary.isSome_lookup?_iff hindexed hid, LabelsOne]
  refine existsUnique_congr fun id => ?_
  constructor
  · rintro ⟨c, hc, hkind, hlabel, hcid⟩
    obtain ⟨q, hq, hc⟩ := List.mem_flatMap.mp ((hmem c).mp hc)
    obtain ⟨d, hd, rfl⟩ := (mem_conceptsOf_iff ht hp hkind).mp hc
    exact ⟨q, hq, d, hd, hkind, hlabel, hcid⟩
  · rintro ⟨q, hq, d, hd, hkind, hlabel, hcid⟩
    refine ⟨d.toConcept, (hmem _).mpr (List.mem_flatMap.mpr ⟨q, hq, ?_⟩), hkind, hlabel, hcid⟩
    exact (mem_conceptsOf_iff ht hp hkind).mpr ⟨d, hd, rfl⟩

/-- A determining property names something: it is an IRI, or the label of one concept that is declared in a profile or
in those before it, or a further lookup answers it. -/
def Answers (r : Registry) (p : Profile) (kind : ConceptKind) (name : String) : Prop :=
  isIri name ∨ LabelsOne (r.profiles ++ [p]) kind name ∨ ∃ l ∈ r.lookups, (l.lookup? name kind).isSome

theorem Built.knows_iff (h : r.Built ts) (ha : ∀ id ∈ p.ids, isAbsoluteIri id) {kind : ConceptKind}
    (ht : kind ≠ .template) (hp : kind ≠ .pattern) (name : String) :
    (r.resolverOver (r.vocabularyWith p)).Knows kind name ↔ r.Answers p kind name := by
  by_cases hname : isIri name = true
  · obtain ⟨c, hc, -⟩ := Resolver.exists_resolve_of_isIri (anyIri_mem_resolverOver r (r.vocabularyWith p)) hname kind
    exact iff_of_true ⟨c, hc⟩ (.inl hname)
  · have hfalse : isIri name = false := by simpa using hname
    rw [knows_resolverOver_iff hfalse, h.isSome_lookup?_vocabularyWith_iff ha hfalse ht hp, Answers, or_iff_right hname]

/-! ## Profiles -/

/-- What a registry asks of a profile: the profile is well formed, its IRIs are new, its rules can be read and its
determining properties name something. -/
structure Admits (r : Registry) (p : Profile) : Prop where
  absolute : ∀ id ∈ p.ids, isAbsoluteIri id
  distinct : p.ids.Nodup
  unused : ∀ q ∈ r.profiles, p.ids.Disjoint q.ids
  versioned : p.versions ≠ []
  operators : ∀ d ∈ p.patterns, ∃ operator, d.operators = [operator] ∧ operator.children ≠ []
  rules : ∀ d ∈ p.templates, ∀ rule ∈ d.rules, rule.Readable
  names : ∀ d ∈ p.templates, ∀ x ∈ d.properties, r.Answers p x.1 x.2

theorem wellFormed_iff {d : PatternDefinition} :
    d.WellFormed ↔ ∃ operator, d.operators = [operator] ∧ operator.children ≠ [] := by
  unfold PatternDefinition.WellFormed PatternDefinition.operator
  cases d.operators with
  | nil => simp
  | cons operator more => cases more <;> simp

theorem kind_of_mem_properties {d : TemplateDefinition} {x : ConceptKind × String} (hx : x ∈ d.properties) :
    x.1 ≠ .template ∧ x.1 ≠ .pattern := by
  simp only [TemplateDefinition.properties, List.mem_append, List.mem_map] at hx
  rcases hx with ((⟨_, -, rfl⟩ | ⟨_, -, rfl⟩) | ⟨_, -, rfl⟩) | ⟨_, -, rfl⟩ <;> exact ⟨nofun, nofun⟩

/-- The templates of a profile can be compiled when the rules can be read and the names stand for something. -/
theorem Built.exists_compiled_iff (h : r.Built ts) (ha : ∀ id ∈ p.ids, isAbsoluteIri id) :
    (∃ ts, List.Forall₂ (fun d t => compileTemplate (r.resolverOver (r.vocabularyWith p)) p d = .ok t) p.templates ts) ↔
      ∀ d ∈ p.templates, (∀ rule ∈ d.rules, rule.Readable) ∧ ∀ x ∈ d.properties, r.Answers p x.1 x.2 := by
  rw [exists_forall₂_iff]
  refine forall₂_congr fun d _ => exists_compileTemplate_iff.trans (and_congr_right fun _ => ?_)
  refine forall₂_congr fun x hx => ?_
  obtain ⟨ht, hp⟩ := kind_of_mem_properties hx
  exact h.knows_iff ha ht hp x.2

/-- A registry accepts what it asks for. -/
theorem Built.exists_accepts_iff_admits (h : r.Built ts) : (∃ ts, r.Accepts p ts) ↔ r.Admits p := by
  constructor
  · rintro ⟨ts', hv, hdistinct, hfresh, hts⟩
    have htemplates := (h.exists_compiled_iff hv.absolute).mp ⟨ts', hts⟩
    exact
      { absolute := hv.absolute
        distinct := hdistinct
        unused := fun q hq id hid hidq => hfresh hid (List.mem_flatMap.mpr ⟨q, hq, hidq⟩)
        versioned := hv.versioned
        operators := fun d hd => wellFormed_iff.mp (hv.patterns d hd)
        rules := fun d hd => (htemplates d hd).1
        names := fun d hd => (htemplates d hd).2 }
  · intro ha
    obtain ⟨ts', hts⟩ := (h.exists_compiled_iff ha.absolute).mpr fun d hd => ⟨ha.rules d hd, ha.names d hd⟩
    have hvalid : p.Valid :=
      { absolute := ha.absolute
        versioned := ha.versioned
        distinct := (List.nodup_cons.mp ha.distinct).2
        patterns := fun d hd => wellFormed_iff.mpr (ha.operators d hd) }
    refine ⟨ts', hvalid, ha.distinct, fun id hid hidr => ?_, hts⟩
    obtain ⟨q, hq, hidq⟩ := List.mem_flatMap.mp hidr
    exact ha.unused q hq hid hidq

/-- **A registry takes exactly the well-formed profiles that conflict with no other one**, and puts them behind those
before them. Every other profile is an error and leaves the registry as it was. -/
theorem register_ok_iff_admits (calls : List Call) (p : Profile) :
    let r := after calls
    ((r.register p).1 = .ok () ↔ r.Admits p) ∧
      ((∃ r', r.register p = (.ok (), r') ∧ r'.profiles = r.profiles ++ [p]) ∨
        ∃ e, r.register p = (.error e, r)) := by
  intro r
  obtain ⟨ts, h⟩ := exists_built_after calls
  exact ⟨exists_accepts_iff.trans h.exists_accepts_iff_admits, register_profiles r p⟩

end Registry

end StatementProfiles
