import Mathlib.Data.List.Flatten
import StatementProfiles.Proofs.Registry.Consistency

/-!
# What names stand for

Templates and patterns are found by one rule (`Registry.answer_eq_ok_iff`): an IRI stands for the entry with that IRI,
and another name for the one concept of the kind that has it as a label. **So a name stands for an entry when it is the
IRI of the entry, or a label of it alone** (`Registry.template_and_pattern_names`). Concepts that a profile declares
with the kind of a template or a pattern count among those that share a label (`Registry.lesson_unnamed`).
-/

namespace StatementProfiles

namespace Registry

variable {r : Registry} {ts : List Template}

/-! ## The concepts of a vocabulary -/

/-- The concepts that a profile declares as such. -/
def declaredConcepts (p : Profile) : List Concept := p.concepts.map ConceptDefinition.toConcept

/-- The concepts of the templates of a profile. -/
def templateConcepts (p : Profile) : List Concept :=
  p.templates.map fun t => ⟨t.id, .template, t.prefLabel, [], p.currentVersion.map ProfileVersion.id⟩

/-- The concepts of the patterns of a profile. -/
def patternConcepts (p : Profile) : List Concept :=
  p.patterns.map fun q => ⟨q.id, .pattern, q.prefLabel, [], p.currentVersion.map ProfileVersion.id⟩

/-- The concepts of several profiles, those of one sort together. -/
theorem flatMap_conceptsOf_perm (ps : List Profile) :
    (ps.flatMap conceptsOf).Perm
      (ps.flatMap declaredConcepts ++ ps.flatMap templateConcepts ++ ps.flatMap patternConcepts) := by
  refine ((List.flatMap_append_perm ps declaredConcepts templateConcepts).append_right _).trans ?_ |>.symm
  exact List.flatMap_append_perm ps _ patternConcepts

/-! ## Entries of a sort -/

/-- The answer for a name, given how entries are found by their IRIs. -/
def answer {α : Type} (r : Registry) (kind : ConceptKind) (find? : String → Option α) (name : String) :
    Except Error α :=
  match r.resolver.resolve name kind with
  | .error e => .error e
  | .ok c => match find? c.id with
    | some a => .ok a
    | none => .error (.unresolved name kind)

theorem template?_eq_answer (r : Registry) (name : String) :
    r.template? name = r.answer .template r.catalog.template? name := by
  unfold template? answer
  cases r.resolver.resolve name .template with
  | error e => rfl
  | ok c =>
    dsimp only
    cases r.catalog.template? c.id <;> rfl

theorem pattern?_eq_answer (r : Registry) (name : String) :
    (r.pattern? name).map PatternEntry.definition =
      r.answer .pattern (fun id => (r.catalog.pattern? id).map PatternEntry.definition) name := by
  unfold pattern? answer
  cases r.resolver.resolve name .pattern with
  | error e => rfl
  | ok c =>
    dsimp only
    cases r.catalog.pattern? c.id <;> rfl

variable {α : Type} {kind : ConceptKind} {entries : List α} {id : α → String} {labels : α → LanguageMap}
  {find? : String → Option α}

/-- Entries are found by their IRIs, and the concepts of a kind are theirs and those that profiles declare. -/
structure Lists (r : Registry) (kind : ConceptKind) (entries : List α) (id : α → String) (labels : α → LanguageMap)
    (find? : String → Option α) : Prop where
  found : ∀ i a, find? i = some a ↔ a ∈ entries ∧ id a = i
  concept : ∀ a ∈ entries, ∃ c ∈ r.vocabulary.concepts, c.kind = kind ∧ c.id = id a ∧ c.prefLabel = labels a
  origin : ∀ c ∈ r.vocabulary.concepts, c.kind = kind → (∃ p ∈ r.profiles, c ∈ declaredConcepts p) ∨
    ∃ a ∈ entries, c.id = id a ∧ c.prefLabel = labels a
  apart : ∀ p ∈ r.profiles, ∀ c ∈ declaredConcepts p, ∀ a ∈ entries, c.id ≠ id a

/-- A name stands for an entry: it is the IRI, or it is a label of this entry, of no other one, and of no concept of the
kind that a profile declares. -/
def StandsFor (r : Registry) (kind : ConceptKind) (entries : List α) (id : α → String) (labels : α → LanguageMap)
    (name : String) (a : α) : Prop :=
  a ∈ entries ∧ (name = id a ∨
    isIri name = false ∧ name ∈ Members.values (labels a) ∧
      (∀ b ∈ entries, name ∈ Members.values (labels b) → b = a) ∧
      ∀ p ∈ r.profiles, ∀ c ∈ p.concepts, c.kind = kind → name ∉ Members.values c.prefLabel)

theorem Lists.eq_of_id (h : r.Lists kind entries id labels find?) {a b : α} (ha : a ∈ entries) (hb : b ∈ entries)
    (he : id a = id b) : a = b :=
  Option.some.inj (((h.found _ a).mpr ⟨ha, he⟩).symm.trans ((h.found _ b).mpr ⟨hb, rfl⟩))

/-- Where there are no further lookups, a name that is no IRI is looked up in the vocabulary alone. -/
theorem Built.resolve_of_not_isIri (h : r.Built ts) (hl : r.lookups = []) {name : String} (hname : isIri name = false)
    (kind : ConceptKind) :
    r.resolver.resolve name kind =
      match r.vocabulary.lookup? name kind with
      | some c => .ok c
      | none => .error (.unresolved name kind) := by
  rw [h.resolver, resolverOver, hl]
  cases hc : r.vocabulary.lookup? name kind <;>
    simp [Resolver.resolve, Resolver.withAnyIri, Resolver.answer?, Lookup.lookup?, hname, hc, Option.filter]

/-- The vocabulary answers a name with the concept of an entry exactly when the name is a label of that entry alone. -/
theorem Lists.lookup?_eq_some_iff (hlists : r.Lists kind entries id labels find?) (h : r.Built ts) {name : String}
    (hname : isIri name = false) {a : α} (ha : a ∈ entries) :
    (∃ c, r.vocabulary.lookup? name kind = some c ∧ c.id = id a) ↔ r.StandsFor kind entries id labels name a := by
  have hfresh : ∀ c ∈ r.vocabulary.concepts, c.id ≠ name := by
    rintro c hc rfl
    rw [h.isIri_of_mem_vocabulary hc] at hname
    cases hname
  have hdeclared : ∀ p ∈ r.profiles, ∀ d ∈ p.concepts, d.toConcept ∈ r.vocabulary.concepts := by
    intro p hp d hd
    rw [h.consistent.vocabulary, (flatMap_conceptsOf_perm r.profiles).mem_iff]
    refine List.mem_append_left _ (List.mem_append_left _ (List.mem_flatMap.mpr ⟨p, hp, ?_⟩))
    exact List.mem_map_of_mem hd
  have hsame : ∀ {c d}, c ∈ r.vocabulary.concepts → d ∈ r.vocabulary.concepts → c.id = d.id → c = d :=
    fun hc hd => List.inj_on_of_nodup_map h.consistent.vocabulary_distinct hc hd
  simp only [Vocabulary.lookup?_eq_some_iff h.consistent.vocabulary_indexed h.consistent.vocabulary_distinct hfresh]
  constructor
  · rintro ⟨c, ⟨⟨hc, hkind, hlabel⟩, honly⟩, hid⟩
    have hlabels : c.prefLabel = labels a := by
      rcases hlists.origin c hc hkind with ⟨p, hp, hd⟩ | ⟨b, hb, hidb, hlabelsb⟩
      · exact absurd hid (hlists.apart p hp c hd a ha)
      · rw [hlabelsb, hlists.eq_of_id hb ha (hidb.symm.trans hid)]
    refine ⟨ha, .inr ⟨hname, hlabels ▸ hlabel, fun b hb hlabelb => ?_, fun p hp d hd hkindd hlabeld => ?_⟩⟩
    · obtain ⟨d, hd, hkindd, hidd, hlabelsd⟩ := hlists.concept b hb
      have hdc : d = c := honly d hd hkindd (hlabelsd ▸ hlabelb)
      exact hlists.eq_of_id hb ha (by rw [← hidd, hdc, hid])
    · have hdc : d.toConcept = c := honly _ (hdeclared p hp d hd) hkindd hlabeld
      exact hlists.apart p hp _ (List.mem_map_of_mem hd) a ha (hdc ▸ hid)
  · rintro ⟨-, rfl | ⟨-, hlabel, honly, hnone⟩⟩
    · obtain ⟨c, hc, -, hid, -⟩ := hlists.concept a ha
      exact absurd hid (hfresh c hc)
    · obtain ⟨c, hc, hkind, hid, hlabels⟩ := hlists.concept a ha
      refine ⟨c, ⟨⟨hc, hkind, hlabels ▸ hlabel⟩, fun d hd hkindd hlabeld => ?_⟩, hid⟩
      rcases hlists.origin d hd hkindd with ⟨p, hp, hdeclared⟩ | ⟨b, hb, hidb, hlabelsb⟩
      · obtain ⟨definition, hdefinition, rfl⟩ := List.mem_map.mp hdeclared
        exact absurd hlabeld (hnone p hp definition hdefinition hkindd)
      · obtain rfl := honly b hb (hlabelsb ▸ hlabeld)
        exact hsame hd hc (hidb.trans hid.symm)

/-- The answer for an IRI is the entry with this IRI. -/
theorem Built.answer_of_isIri (h : r.Built ts) {name : String} (hname : isIri name = true) :
    r.answer kind find? name = (find? name).elim (.error (.unresolved name kind)) .ok := by
  obtain ⟨c, hc, rfl⟩ := Resolver.exists_resolve_of_isIri h.anyIri_mem hname kind
  rw [answer, hc]
  dsimp only
  cases find? c.id <;> rfl

/-- The answer for another name is the entry that goes with the concept in the vocabulary. -/
theorem Built.answer_of_not_isIri (h : r.Built ts) (hl : r.lookups = []) {name : String} (hname : isIri name = false) :
    r.answer kind find? name =
      ((r.vocabulary.lookup? name kind).bind fun c => find? c.id).elim (.error (.unresolved name kind)) .ok := by
  rw [answer, h.resolve_of_not_isIri hl hname]
  cases r.vocabulary.lookup? name kind with
  | none => rfl
  | some c =>
    rw [Option.bind_some]
    dsimp only
    cases find? c.id <;> rfl

/-- The answer for a name is an entry or the fault that the name has no meaning; the entry is what it stands for. -/
theorem exists_found (h : r.Built ts) (hl : r.lookups = []) (hlists : r.Lists kind entries id labels find?)
    (name : String) :
    ∃ found : Option α, r.answer kind find? name = found.elim (.error (.unresolved name kind)) .ok ∧
      ∀ a, found = some a ↔ r.StandsFor kind entries id labels name a := by
  by_cases hname : isIri name = true
  · refine ⟨find? name, h.answer_of_isIri hname, fun a => ?_⟩
    have hstands : r.StandsFor kind entries id labels name a ↔ a ∈ entries ∧ id a = name := by
      simp [StandsFor, hname, eq_comm]
    rw [hstands, hlists.found]
  · have hname : isIri name = false := by simpa using hname
    refine ⟨_, h.answer_of_not_isIri hl hname, fun a => ?_⟩
    rw [Option.bind_eq_some_iff]
    constructor
    · rintro ⟨c, hc, ha⟩
      obtain ⟨ha, hid⟩ := (hlists.found c.id a).mp ha
      exact (hlists.lookup?_eq_some_iff h hname ha).mp ⟨c, hc, hid.symm⟩
    · intro hstands
      obtain ⟨c, hc, hid⟩ := (hlists.lookup?_eq_some_iff h hname hstands.1).mpr hstands
      exact ⟨c, hc, (hlists.found c.id a).mpr ⟨hstands.1, hid.symm⟩⟩

/-- **Names denote what they label.** The answer for a name is the entry that the name stands for, and if there is none,
the fault that the name has no meaning. -/
theorem answer_eq_ok_iff (h : r.Built ts) (hl : r.lookups = []) (hlists : r.Lists kind entries id labels find?)
    (name : String) :
    (∀ a, r.answer kind find? name = .ok a ↔ r.StandsFor kind entries id labels name a) ∧
      ((∃ a, r.answer kind find? name = .ok a) ∨ r.answer kind find? name = .error (.unresolved name kind)) := by
  obtain ⟨found, hanswer, hfound⟩ := exists_found h hl hlists name
  rw [hanswer]
  cases found with
  | none => exact ⟨fun a => by simp [← hfound], .inr rfl⟩
  | some b => exact ⟨fun a => by simp [← hfound], .inl ⟨b, rfl⟩⟩

/-! ## Templates and patterns -/

/-- The vocabulary has the concepts that profiles declare, and besides those of their templates and patterns. -/
theorem Built.mem_vocabulary_iff (h : r.Built ts) {c : Concept} :
    c ∈ r.vocabulary.concepts ↔ c ∈ r.profiles.flatMap declaredConcepts ∨
      c ∈ r.profiles.flatMap templateConcepts ∨ c ∈ r.profiles.flatMap patternConcepts := by
  rw [h.consistent.vocabulary, (flatMap_conceptsOf_perm r.profiles).mem_iff, List.mem_append, List.mem_append, or_assoc]

/-- A concept that a profile declares has another IRI than templates and patterns. -/
theorem Built.id_ne_of_declared (h : r.Built ts) {c d : Concept} (hc : c ∈ r.profiles.flatMap declaredConcepts)
    (hd : d ∈ r.profiles.flatMap templateConcepts ∨ d ∈ r.profiles.flatMap patternConcepts) : c.id ≠ d.id := by
  have hn : (((r.profiles.flatMap declaredConcepts) ++
      (r.profiles.flatMap templateConcepts ++ r.profiles.flatMap patternConcepts)).map Concept.id).Nodup := by
    rw [← List.append_assoc, ← ((flatMap_conceptsOf_perm r.profiles).map Concept.id).nodup_iff,
      ← h.consistent.vocabulary]
    exact h.consistent.vocabulary_distinct
  rw [List.map_append, List.nodup_append] at hn
  exact hn.2.2 _ (List.mem_map_of_mem hc) _ (List.mem_map_of_mem (List.mem_append.mpr hd))

/-- Entries are listed with the concepts that go with them one by one. -/
theorem Built.lists (h : r.Built ts) {own : Profile → List Concept}
    (hown : ∀ c ∈ r.profiles.flatMap own, c.kind = kind ∧
      (c ∈ r.profiles.flatMap templateConcepts ∨ c ∈ r.profiles.flatMap patternConcepts))
    (hkind : ∀ c, c.kind = kind →
      c ∈ r.profiles.flatMap templateConcepts ∨ c ∈ r.profiles.flatMap patternConcepts → c ∈ r.profiles.flatMap own)
    (hentries : List.Forall₂ (fun c a => c.id = id a ∧ c.prefLabel = labels a) (r.profiles.flatMap own) entries)
    (hfound : ∀ i a, find? i = some a ↔ a ∈ entries ∧ id a = i) : r.Lists kind entries id labels find? where
  found := hfound
  concept a ha := by
    obtain ⟨c, hc, hid, hlabels⟩ := exists_left_of_mem hentries ha
    exact ⟨c, h.mem_vocabulary_iff.mpr (.inr (hown c hc).2), (hown c hc).1, hid, hlabels⟩
  origin c hc hk := by
    rcases h.mem_vocabulary_iff.mp hc with hc | hc
    · exact .inl (List.mem_flatMap.mp hc)
    · exact .inr (exists_right_of_mem hentries (hkind c hk hc))
  apart p hp c hc a ha := by
    obtain ⟨d, hd, hid, -⟩ := exists_left_of_mem hentries ha
    exact hid ▸ h.id_ne_of_declared (List.mem_flatMap.mpr ⟨p, hp, hc⟩) (hown d hd).2

theorem kind_of_mem_templateConcepts {ps : List Profile} {c : Concept} (hc : c ∈ ps.flatMap templateConcepts) :
    c.kind = .template := by
  obtain ⟨p, -, hc⟩ := List.mem_flatMap.mp hc
  obtain ⟨d, -, rfl⟩ := List.mem_map.mp hc
  rfl

theorem kind_of_mem_patternConcepts {ps : List Profile} {c : Concept} (hc : c ∈ ps.flatMap patternConcepts) :
    c.kind = .pattern := by
  obtain ⟨p, -, hc⟩ := List.mem_flatMap.mp hc
  obtain ⟨d, -, rfl⟩ := List.mem_map.mp hc
  rfl

/-- The templates are those that were made of the definitions. -/
theorem Built.templates_eq (h : r.Built ts) : r.templates = ts := by
  rw [templates, h.catalog]
  exact (Table.inOrder_extend_empty h.templateRows_nodup).trans (by simp [Function.comp_def])

/-- The patterns are those that the profiles define. -/
theorem Built.patterns_eq (h : r.Built ts) : r.patterns = r.profiles.flatMap Profile.patterns := by
  rw [patterns, h.catalog]
  refine (congrArg _ (Table.inOrder_extend_empty h.patternRows_nodup)).trans ?_
  simp [Catalog.entriesOf, List.map_flatMap, Function.comp_def]

theorem Built.lists_templates (h : r.Built ts) :
    r.Lists .template r.templates Template.id Template.prefLabel r.catalog.template? := by
  refine h.lists (fun c hc => ⟨kind_of_mem_templateConcepts hc, .inl hc⟩) (fun c hk hc => ?_) ?_ fun i t => ?_
  · refine hc.resolve_right fun hc => ?_
    rw [kind_of_mem_patternConcepts hc] at hk
    cases hk
  · have hconcepts : r.profiles.flatMap templateConcepts = (templateDefinitions r.profiles).map fun d =>
        ⟨d.2.id, .template, d.2.prefLabel, [], d.1.currentVersion.map ProfileVersion.id⟩ := by
      simp only [templateDefinitions, List.map_flatMap, List.map_map]
      rfl
    rw [hconcepts, h.templates_eq, List.forall₂_map_left_iff]
    refine h.compiled.imp ?_
    rintro d t ⟨_, ht⟩
    exact ⟨ht.id.symm, ht.prefLabel.symm⟩
  · constructor
    · rw [h.templates_eq]
      exact h.template_origin
    · rintro ⟨ht, rfl⟩
      obtain ⟨i, -, hi⟩ := exists_left_of_mem h.templates_inStep.listing ht
      rwa [(h.template_origin hi).2]

theorem Built.lists_patterns (h : r.Built ts) :
    r.Lists .pattern r.patterns PatternDefinition.id PatternDefinition.prefLabel
      (fun id => (r.catalog.pattern? id).map PatternEntry.definition) := by
  refine h.lists (fun c hc => ⟨kind_of_mem_patternConcepts hc, .inr hc⟩) (fun c hk hc => ?_) ?_ fun i d => ?_
  · refine hc.resolve_left fun hc => ?_
    rw [kind_of_mem_templateConcepts hc] at hk
    cases hk
  · rw [h.patterns_eq]
    refine List.rel_flatMap (List.forall₂_same.mpr fun p _ => rfl) ?_
    rintro p _ rfl
    exact List.forall₂_map_left_iff.mpr (List.forall₂_same.mpr fun d _ => ⟨rfl, rfl⟩)
  · rw [Option.map_eq_some_iff]
    constructor
    · rintro ⟨entry, hentry, rfl⟩
      obtain ⟨hmem, hid⟩ := h.pattern_origin hentry
      obtain ⟨p, hp, hmem⟩ := List.mem_flatMap.mp hmem
      obtain ⟨d, hd, rfl⟩ := List.mem_map.mp hmem
      rw [h.patterns_eq]
      exact ⟨List.mem_flatMap.mpr ⟨p, hp, hd⟩, hid⟩
    · rintro ⟨hd, rfl⟩
      obtain ⟨entry, hentry, rfl⟩ := List.mem_map.mp hd
      obtain ⟨i, -, hi⟩ := exists_left_of_mem h.patterns_inStep.listing hentry
      refine ⟨entry, ?_, rfl⟩
      rwa [(h.pattern_origin hi).2]

/-! ## Registries without further lookups -/

theorem lookups_after_register (ps : List Profile) : (after (ps.map .register)).lookups = [] := by
  have hcalls : ∀ call ∈ ps.map Call.register, call.Brings fun _ => False := by
    intro call hcall
    obtain ⟨p, -, rfl⟩ := List.mem_map.mp hcall
    trivial
  refine after_induction (motive := fun r => r.lookups = []) rfl (fun r r' hs hr => ?_) hcalls
  cases hs with
  | lookups hl => exact List.eq_nil_iff_forall_not_mem.mpr hl
  | add | options | grammars | passOver => exact hr

/-- **What names stand for.** After any registrations, a name is answered with a template exactly when it is the IRI of
this template, or no IRI and a label of this template, of no other one and of no concept of this kind that a profile
declares; otherwise it has no meaning. The same holds of patterns. -/
theorem template_and_pattern_names (ps : List Profile) (name : String) :
    let r := after (ps.map .register)
    (∀ t, r.template? name = .ok t ↔ r.StandsFor .template r.templates Template.id Template.prefLabel name t) ∧
    ((∃ t, r.template? name = .ok t) ∨ r.template? name = .error (.unresolved name .template)) ∧
    (∀ d, (r.pattern? name).map PatternEntry.definition = .ok d ↔
      r.StandsFor .pattern r.patterns PatternDefinition.id PatternDefinition.prefLabel name d) ∧
    ((∃ d, (r.pattern? name).map PatternEntry.definition = .ok d) ∨
      r.pattern? name = .error (.unresolved name .pattern)) := by
  intro r
  obtain ⟨ts, h⟩ := exists_built_after (ps.map .register)
  have hl : r.lookups = [] := lookups_after_register ps
  obtain ⟨htemplate, hfault⟩ := answer_eq_ok_iff h hl h.lists_templates name
  obtain ⟨hpattern, hfault'⟩ := answer_eq_ok_iff h hl h.lists_patterns name
  rw [← template?_eq_answer] at hfault
  simp only [← template?_eq_answer] at htemplate
  rw [← pattern?_eq_answer] at hfault'
  simp only [← pattern?_eq_answer] at hpattern
  exact ⟨htemplate, hfault, hpattern, hfault'.imp id map_eq_error_iff.mp⟩

/-- A profile with a template and, under the same label, a concept that is declared with the kind of a template. -/
def lessons : Profile :=
  { (default : Profile) with
    id := "u:lessons"
    versions := [⟨"u:lessons/1", [], none⟩]
    concepts := [{ (default : ConceptDefinition) with
      id := "u:old", kind := .template, prefLabel := [("en", "lesson")] }]
    templates := [{ (default : TemplateDefinition) with id := "u:lesson", prefLabel := [("en", "lesson")] }] }

/-- A label of one template alone may stand for nothing. -/
theorem lesson_unnamed :
    let r := after [.register lessons]
    ∃ t ∈ r.templates, isIri "lesson" = false ∧ "lesson" ∈ Members.values t.prefLabel ∧
      (∀ t' ∈ r.templates, "lesson" ∈ Members.values t'.prefLabel → t' = t) ∧
      r.template? "lesson" = .error (.unresolved "lesson" .template) := by
  intro r
  have htemplates : r.templates.map Template.prefLabel = [[("en", "lesson")]] := by decide +kernel
  obtain ⟨t, ht, hlabel⟩ := List.map_eq_singleton_iff.mp htemplates
  have hanswer : (r.template? "lesson").map Template.id = .error (.unresolved "lesson" .template) := by decide +kernel
  rw [ht]
  exact ⟨t, List.mem_singleton_self t, by decide, by rw [hlabel]; decide, fun t' ht' _ => List.mem_singleton.mp ht',
    map_eq_error_iff.mp hanswer⟩

end Registry

end StatementProfiles
