import Mathlib.Algebra.GroupWithZero.Nat
import Mathlib.Data.List.Flatten
import StatementProfiles.Proofs.Concept.Lookup
import StatementProfiles.Proofs.Registry.Run

/-!
# What registries hold together

A registry keeps the same declarations in several places: the profiles themselves, the tables of templates and patterns,
the vocabulary and the counts. `Registry.Built` says that all of these come from the profiles and from nothing else; it
is kept by every step (`Registry.Built.step`). **After every run the places agree, and a profile that is refused changes
none of them** (`Registry.consistent_after`).
-/

namespace StatementProfiles

theorem Catalog.extend_extend (c : Catalog) (ts ts' : List Template) (es es' : List PatternEntry) :
    (c.extend ts es).extend ts' es' = c.extend (ts ++ ts') (es ++ es') := by
  simp only [Catalog.extend, List.map_append, Table.extend_append]

namespace Registry

/-! ## Declarations of profiles -/

/-- The definitions of templates with their profiles, in the order of registration. -/
def templateDefinitions (ps : List Profile) : List (Profile × TemplateDefinition) :=
  ps.flatMap fun p => p.templates.map fun d => (p, d)

/-- The IRIs of templates. -/
def templateIds (ps : List Profile) : List String := ps.flatMap fun p => p.templates.map TemplateDefinition.id

/-- The IRIs of patterns. -/
def patternIds (ps : List Profile) : List String := ps.flatMap fun p => p.patterns.map PatternDefinition.id

theorem vocabulary_ids_sublist (ps : List Profile) :
    ((ps.flatMap conceptsOf).map Concept.id).Sublist (ps.flatMap Profile.ids) := by
  rw [List.map_flatMap]
  refine .flatMap_right ps fun p _ => ?_
  simp [conceptsOf, Profile.ids, Profile.entries, Function.comp_def, ConceptDefinition.toConcept]

theorem templateIds_append_patternIds_sublist (p : Profile) :
    (p.templates.map TemplateDefinition.id ++ p.patterns.map PatternDefinition.id).Sublist p.ids := by
  have hids : p.ids = p.id :: (p.versions.map ProfileVersion.id ++ (p.concepts.map ConceptDefinition.id ++
      (p.templates.map TemplateDefinition.id ++ p.patterns.map PatternDefinition.id))) := by
    simp [Profile.ids, Profile.entries, Function.comp_def]
  rw [hids]
  exact ((List.sublist_append_right _ _).trans (List.sublist_append_right _ _)).cons _

theorem templateIds_sublist (ps : List Profile) : (templateIds ps).Sublist (ps.flatMap Profile.ids) :=
  .flatMap_right ps fun p _ => (List.sublist_append_left _ _).trans (templateIds_append_patternIds_sublist p)

theorem patternIds_sublist (ps : List Profile) : (patternIds ps).Sublist (ps.flatMap Profile.ids) :=
  .flatMap_right ps fun p _ => (List.sublist_append_right _ _).trans (templateIds_append_patternIds_sublist p)

theorem patternRows_ids (ps : List Profile) :
    ((ps.flatMap Catalog.entriesOf).map fun e => (e.definition.id, e)).map Prod.fst = patternIds ps := by
  simp [patternIds, Catalog.entriesOf, List.map_flatMap, Function.comp_def]

/-! ## What all places are made of -/

/-- Everything in a registry comes from its profiles, and from the given templates for their definitions. -/
structure Built (r : Registry) (ts : List Template) : Prop where
  valid : ∀ p ∈ r.profiles, p.Valid
  distinct : r.ids.Nodup
  compiled : List.Forall₂ (fun d t => ∃ resolver, IsCompiled resolver d.1 d.2 t) (templateDefinitions r.profiles) ts
  catalog : r.catalog = Catalog.empty.extend ts (r.profiles.flatMap Catalog.entriesOf)
  vocabulary : r.vocabulary = Vocabulary.empty.extend (r.profiles.flatMap conceptsOf)
  resolver : r.resolver = r.resolverOver r.vocabulary

theorem built_empty : empty.Built [] where
  valid := fun _ h => (nomatch h)
  distinct := .nil
  compiled := .nil
  catalog := rfl
  vocabulary := rfl
  resolver := rfl

/-- The vocabulary with what a profile adds is that of all profiles with this one. -/
theorem Built.vocabularyWith_eq {r : Registry} {ts : List Template} (h : r.Built ts) (p : Profile) :
    r.vocabularyWith p = Vocabulary.empty.extend ((r.profiles ++ [p]).flatMap conceptsOf) := by
  rw [vocabularyWith, h.vocabulary, ← Vocabulary.extend_append, List.flatMap_append, List.flatMap_singleton]

theorem Built.add {r : Registry} {ts ts' : List Template} (h : r.Built ts) {p : Profile} (ha : r.Accepts p ts') :
    (r.add p ts').Built (ts ++ ts') where
  valid := by
    intro q hq
    rcases List.mem_append.mp hq with hq | hq
    · exact h.valid q hq
    · exact List.mem_singleton.mp hq ▸ ha.valid
  distinct := by
    have hids : (r.add p ts').ids = r.ids ++ p.ids := by
      simp [ids, Registry.add, rebuildResolver]
    rw [hids, List.nodup_append']
    exact ⟨h.distinct, ha.distinct, ha.fresh.symm⟩
  compiled := by
    have hds : templateDefinitions (r.add p ts').profiles =
        templateDefinitions r.profiles ++ p.templates.map fun d => (p, d) := by
      simp [templateDefinitions, Registry.add, rebuildResolver]
    rw [hds]
    refine List.rel_append h.compiled (List.forall₂_map_left_iff.mpr (ha.compiled.imp fun d t ht => ?_))
    exact ⟨_, isCompiled_of_compileTemplate ht⟩
  catalog := by
    have hentries : (r.profiles ++ [p]).flatMap Catalog.entriesOf =
        r.profiles.flatMap Catalog.entriesOf ++ Catalog.entriesOf p := by simp
    change r.catalog.extend ts' (Catalog.entriesOf p) = _
    rw [h.catalog, Catalog.extend_extend, ← hentries]
    rfl
  vocabulary := h.vocabularyWith_eq p
  resolver := rfl

/-- A step keeps what everything comes from. -/
theorem Built.step {P : Lookup → Prop} {r r' : Registry} {ts : List Template} (h : r.Built ts) (hs : Step P r r') :
    ∃ ts, r'.Built ts := by
  cases hs with
  | add ha => exact ⟨_, h.add ha⟩
  | lookups => exact ⟨ts, h.valid, h.distinct, h.compiled, h.catalog, h.vocabulary, rfl⟩
  | options | grammars | passOver =>
    exact ⟨ts, h.valid, h.distinct, h.compiled, h.catalog, h.vocabulary, h.resolver⟩

theorem exists_built_after (calls : List Call) : ∃ ts, (after calls).Built ts :=
  after_induction (motive := fun r => ∃ ts, r.Built ts) ⟨[], built_empty⟩ (fun _ _ hs ⟨_, h⟩ => h.step hs)
    (brings_any calls)

/-! ## The places agree -/

/-- The places in which a registry keeps declarations agree. -/
structure Consistent (r : Registry) : Prop where
  absolute : ∀ id ∈ r.ids, isAbsoluteIri id
  distinct : r.ids.Nodup
  templates : r.catalog.templates.InStep (templateIds r.profiles)
  patterns : r.catalog.patterns.InStep (patternIds r.profiles)
  /-- A template is under its own IRI and has the IRI and the first version of the profile that defines it. -/
  template : ∀ id t, r.catalog.template? id = some t → t.id = id ∧
    ∃ p ∈ r.profiles, id ∈ p.templates.map TemplateDefinition.id ∧ t.profileId = some p.id ∧
      ∃ v, p.versions.head? = some v ∧ t.profileVersion = some v.id
  /-- A pattern is under its own IRI and has the IRI and the first version of the profile that defines it. -/
  pattern : ∀ id entry, r.catalog.pattern? id = some entry → entry.definition.id = id ∧
    ∃ p ∈ r.profiles, entry.definition ∈ p.patterns ∧ entry.profileId = p.id ∧
      ∃ v, p.versions.head? = some v ∧ entry.profileVersion = some v.id
  /-- The vocabulary has one entry for every concept, template and pattern. -/
  vocabulary : r.vocabulary.concepts = r.profiles.flatMap conceptsOf
  vocabulary_distinct : (r.vocabulary.concepts.map Concept.id).Nodup
  vocabulary_indexed : r.vocabulary.Indexed
  resolver : r.resolver = r.resolverOver r.vocabulary
  templateCount : r.metadata.templates = (r.profiles.map fun p => p.templates.length).sum
  patternCount : r.metadata.patterns = (r.profiles.map fun p => p.patterns.length).sum

theorem exists_version_of_valid {p : Profile} (h : p.Valid) :
    ∃ v, p.versions.head? = some v ∧ p.currentVersion.map ProfileVersion.id = some v.id := by
  cases hv : p.versions with
  | nil => exact absurd hv h.versioned
  | cons v vs => exact ⟨v, rfl, by rw [Profile.currentVersion, hv]; rfl⟩

namespace Built

variable {r : Registry} {ts : List Template}

theorem map_id (h : r.Built ts) : ts.map Template.id = templateIds r.profiles := by
  have hids : (templateDefinitions r.profiles).map (fun d => d.2.id) = ts.map Template.id :=
    map_eq_map_of_forall₂ h.compiled fun d t ⟨_, ht⟩ => ht.id.symm
  rw [← hids, templateDefinitions, templateIds, List.map_flatMap]
  simp [Function.comp_def]

theorem templateRows_ids (h : r.Built ts) : (ts.map fun t => (t.id, t)).map Prod.fst = templateIds r.profiles := by
  rw [← h.map_id, List.map_map]
  rfl

theorem templateRows_nodup (h : r.Built ts) : ((ts.map fun t => (t.id, t)).map Prod.fst).Nodup :=
  h.templateRows_ids ▸ (templateIds_sublist r.profiles).nodup h.distinct

theorem patternRows_nodup (h : r.Built ts) :
    (((r.profiles.flatMap Catalog.entriesOf).map fun e => (e.definition.id, e)).map Prod.fst).Nodup :=
  patternRows_ids r.profiles ▸ (patternIds_sublist r.profiles).nodup h.distinct

theorem templates_inStep (h : r.Built ts) : r.catalog.templates.InStep (templateIds r.profiles) := by
  rw [h.catalog, ← h.templateRows_ids]
  exact Table.inStep_extend_empty h.templateRows_nodup

theorem patterns_inStep (h : r.Built ts) : r.catalog.patterns.InStep (patternIds r.profiles) := by
  rw [h.catalog, ← patternRows_ids]
  exact Table.inStep_extend_empty h.patternRows_nodup

theorem template_origin (h : r.Built ts) {id : String} {t : Template} (ht : r.catalog.template? id = some t) :
    t ∈ ts ∧ t.id = id := by
  rw [h.catalog] at ht
  rcases Table.find?_extend_cases ht with hmem | hmem
  · obtain ⟨t', ht', he⟩ := List.mem_map.mp hmem
    cases he
    exact ⟨ht', rfl⟩
  · cases hmem

theorem pattern_origin (h : r.Built ts) {id : String} {entry : PatternEntry}
    (he : r.catalog.pattern? id = some entry) :
    entry ∈ r.profiles.flatMap Catalog.entriesOf ∧ entry.definition.id = id := by
  rw [h.catalog] at he
  rcases Table.find?_extend_cases he with hmem | hmem
  · obtain ⟨entry', hentry, he⟩ := List.mem_map.mp hmem
    cases he
    exact ⟨hentry, rfl⟩
  · cases hmem

/-- Patterns that were registered have one operator each, and that has children. -/
theorem wellFormed (h : r.Built ts) : r.catalog.WellFormed := by
  rw [h.catalog]
  apply Catalog.wellFormed_empty.extend
  intro entry hentry
  obtain ⟨p, hp, hentry⟩ := List.mem_flatMap.mp hentry
  obtain ⟨d, hd, rfl⟩ := List.mem_map.mp hentry
  exact (h.valid p hp).patterns d hd

theorem consistent (h : r.Built ts) : r.Consistent where
  absolute := by
    intro id hid
    obtain ⟨p, hp, hid⟩ := List.mem_flatMap.mp hid
    exact (h.valid p hp).absolute id hid
  distinct := h.distinct
  templates := h.templates_inStep
  patterns := h.patterns_inStep
  template := by
    intro id t ht
    obtain ⟨hmem, hid⟩ := h.template_origin ht
    obtain ⟨⟨p, d⟩, hd, _, hc⟩ := exists_left_of_mem h.compiled hmem
    obtain ⟨p', hp, hd⟩ := List.mem_flatMap.mp hd
    obtain ⟨d', hd', he⟩ := List.mem_map.mp hd
    cases he
    obtain ⟨v, hv, hversion⟩ := exists_version_of_valid (h.valid _ hp)
    exact ⟨hid, _, hp, List.mem_map.mpr ⟨_, hd', hc.id.symm.trans hid⟩, hc.profileId, v, hv,
      hc.profileVersion.trans hversion⟩
  pattern := by
    intro id entry he
    obtain ⟨hmem, hid⟩ := h.pattern_origin he
    obtain ⟨p, hp, hentry⟩ := List.mem_flatMap.mp hmem
    obtain ⟨d, hd, rfl⟩ := List.mem_map.mp hentry
    obtain ⟨v, hv, hversion⟩ := exists_version_of_valid (h.valid _ hp)
    exact ⟨hid, p, hp, hd, rfl, v, hv, hversion⟩
  vocabulary := by
    rw [h.vocabulary, Vocabulary.concepts_extend]
    rfl
  vocabulary_distinct := by
    rw [h.vocabulary, Vocabulary.concepts_extend]
    exact (vocabulary_ids_sublist r.profiles).nodup h.distinct
  vocabulary_indexed := by
    rw [h.vocabulary]
    exact Vocabulary.indexed_empty.extend _
  resolver := h.resolver
  templateCount := h.templates_inStep.size_eq.trans (by simp [templateIds, List.length_flatMap])
  patternCount := h.patterns_inStep.size_eq.trans (by simp [patternIds, List.length_flatMap])

theorem isIri_of_mem_vocabulary (h : r.Built ts) {c : Concept} (hc : c ∈ r.vocabulary.concepts) : isIri c.id := by
  rw [h.consistent.vocabulary] at hc
  have hid : c.id ∈ r.ids := (vocabulary_ids_sublist r.profiles).subset (List.mem_map_of_mem hc)
  exact isIri_of_isAbsoluteIri (h.consistent.absolute c.id hid)

theorem anyIri_mem (h : r.Built ts) : .anyIri ∈ r.resolver.lookups := by
  rw [h.resolver]
  exact List.mem_append_right _ (List.mem_singleton_self _)

end Built

/-- Whatever was registered, no pattern in the catalog is without an operator or without children. -/
theorem wellFormed_after (calls : List Call) : (after calls).catalog.WellFormed := by
  obtain ⟨ts, h⟩ := exists_built_after calls
  exact h.wellFormed

/-- **Whatever was registered, or refused, all places of a registry agree.** A profile that is accepted is put behind
those before it, and one that is refused leaves the whole registry as it was. -/
theorem consistent_after (calls : List Call) :
    (after calls).Consistent ∧
      ∀ p, (∃ r, (after calls).register p = (.ok (), r) ∧ r.profiles = (after calls).profiles ++ [p]) ∨
        ∃ e, (after calls).register p = (.error e, after calls) := by
  obtain ⟨ts, h⟩ := exists_built_after calls
  exact ⟨h.consistent, register_profiles (after calls)⟩

end Registry

end StatementProfiles
