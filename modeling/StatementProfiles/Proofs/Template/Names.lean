import StatementProfiles.Proofs.Concept.Resolution
import StatementProfiles.Proofs.Result
import StatementProfiles.Template.Basic

/-!
# Names in templates

The determining properties of a template are written as IRIs or as names, and resolving puts an IRI for each of them.
It has a result when every one stands for something (`Template.exists_resolveNames_iff`), its results are IRIs where all
lookups answer with IRIs (`Template.isIri_of_resolveNames`), and it leaves IRIs as they are
(`Template.resolveNames_of_isIri`). **So a second time changes nothing**, as IRIs stand for themselves in every resolver
and names keep the answer that they have (`Resolver.resolution_stable`).
-/

namespace StatementProfiles

namespace Template

variable {resolver : Resolver} {kind : ConceptKind}

/-! ## When names stand for something -/

theorem exists_resolveName_iff {name : String} :
    (∃ id, resolveName resolver kind name = .ok id) ↔ resolver.Knows kind name := by
  simp only [resolveName, map_eq_ok_iff, Resolver.Knows]
  constructor
  · rintro ⟨_, c, hc, -⟩
    exact ⟨c, hc⟩
  · rintro ⟨c, hc⟩
    exact ⟨c.id, c, hc, rfl⟩

theorem exists_resolveName?_iff {name : Option String} :
    (∃ id, resolveName? resolver kind name = .ok id) ↔ ∀ s ∈ name.toList, resolver.Knows kind s := by
  cases name with
  | none => exact ⟨fun _ _ h => (nomatch h), fun _ => ⟨none, rfl⟩⟩
  | some s =>
    rw [Option.toList_some, List.forall_mem_singleton, ← exists_resolveName_iff]
    simp only [resolveName?, map_eq_ok_iff]
    constructor
    · rintro ⟨_, id, hid, -⟩
      exact ⟨id, hid⟩
    · rintro ⟨id, hid⟩
      exact ⟨some id, id, hid, rfl⟩

theorem exists_resolveAll_iff {names : List String} :
    (∃ ids, resolveAll resolver kind names = .ok ids) ↔ ∀ s ∈ names, resolver.Knows kind s := by
  induction names with
  | nil => exact ⟨fun _ _ h => (nomatch h), fun _ => ⟨[], rfl⟩⟩
  | cons s names ih =>
    rw [List.forall_mem_cons, ← exists_resolveName_iff, ← ih, resolveAll]
    cases resolveName resolver kind s with
    | error e => simp
    | ok id => simp [map_eq_ok_iff]

/-- A template has IRIs for all its names when each of them stands for a concept of its kind. -/
theorem exists_resolveNames_iff {t : Template} :
    (∃ t', t.resolveNames resolver = .ok t') ↔
      (∀ s ∈ t.verb.toList, resolver.Knows .verb s) ∧
      (∀ s ∈ t.objectActivityType.toList, resolver.Knows .activityType s) ∧
      (∀ s ∈ t.contextTypes.parent, resolver.Knows .activityType s) ∧
      (∀ s ∈ t.contextTypes.grouping, resolver.Knows .activityType s) ∧
      (∀ s ∈ t.contextTypes.category, resolver.Knows .activityType s) ∧
      (∀ s ∈ t.contextTypes.other, resolver.Knows .activityType s) ∧
      ∀ s ∈ t.attachmentUsageTypes, resolver.Knows .attachmentUsageType s := by
  simp only [← exists_resolveName?_iff, ← exists_resolveAll_iff]
  refine exists_bind_iff fun verb => exists_bind_iff fun objectType => exists_bind_iff fun parent =>
    exists_bind_iff fun grouping => exists_bind_iff fun category => exists_bind_iff fun other => ?_
  exact (exists_bind_iff fun usage => iff_true_intro ⟨_, rfl⟩).trans (and_iff_left trivial)

/-! ## IRIs stay -/

/-- The determining properties of a template. -/
def determining (t : Template) : List String :=
  t.verb.toList ++ t.objectActivityType.toList ++ t.contextTypes.parent ++ t.contextTypes.grouping ++
    t.contextTypes.category ++ t.contextTypes.other ++ t.attachmentUsageTypes

theorem resolveName_of_isIri (hr : .anyIri ∈ resolver.lookups) {name : String} (hname : isIri name) :
    resolveName resolver kind name = .ok name := by
  obtain ⟨c, hc, hid⟩ := Resolver.exists_resolve_of_isIri hr hname kind
  rw [resolveName, hc, ← hid]
  rfl

theorem resolveName?_of_isIri (hr : .anyIri ∈ resolver.lookups) {name : Option String}
    (hname : ∀ s ∈ name.toList, isIri s) : resolveName? resolver kind name = .ok name := by
  cases name with
  | none => rfl
  | some s =>
    rw [resolveName?, resolveName_of_isIri hr (hname s (List.mem_singleton_self s))]
    rfl

theorem resolveAll_of_isIri (hr : .anyIri ∈ resolver.lookups) {names : List String}
    (hnames : ∀ s ∈ names, isIri s) : resolveAll resolver kind names = .ok names := by
  induction names with
  | nil => rfl
  | cons s names ih =>
    obtain ⟨hs, hnames⟩ := List.forall_mem_cons.mp hnames
    rw [resolveAll, resolveName_of_isIri hr hs, ih hnames]
    rfl

/-- **A template that writes IRIs stays as it is.** -/
theorem resolveNames_of_isIri (hr : .anyIri ∈ resolver.lookups) {t : Template} (h : ∀ s ∈ t.determining, isIri s) :
    t.resolveNames resolver = .ok t := by
  simp only [determining, List.forall_mem_append] at h
  obtain ⟨⟨⟨⟨⟨⟨hverb, hobject⟩, hparent⟩, hgrouping⟩, hcategory⟩, hother⟩, husage⟩ := h
  simp only [resolveNames, resolveName?_of_isIri hr hverb, resolveName?_of_isIri hr hobject,
    resolveAll_of_isIri hr hparent, resolveAll_of_isIri hr hgrouping, resolveAll_of_isIri hr hcategory,
    resolveAll_of_isIri hr hother, resolveAll_of_isIri hr husage]
  rfl

/-! ## Names become IRIs -/

theorem isIri_of_resolveName (hr : ∀ l ∈ resolver.lookups, l.OnlyIris) {name id : String}
    (h : resolveName resolver kind name = .ok id) : isIri id := by
  obtain ⟨c, hc, rfl⟩ := map_eq_ok_iff.mp h
  exact Resolver.isIri_of_resolve hr hc

theorem isIri_of_resolveName? (hr : ∀ l ∈ resolver.lookups, l.OnlyIris) {name id : Option String}
    (h : resolveName? resolver kind name = .ok id) : ∀ s ∈ id.toList, isIri s := by
  cases name with
  | none =>
    cases h
    exact fun _ hs => (nomatch hs)
  | some name =>
    obtain ⟨id', hid, rfl⟩ := map_eq_ok_iff.mp h
    rw [Option.toList_some, List.forall_mem_singleton]
    exact isIri_of_resolveName hr hid

theorem isIri_of_resolveAll (hr : ∀ l ∈ resolver.lookups, l.OnlyIris) {names ids : List String}
    (h : resolveAll resolver kind names = .ok ids) : ∀ s ∈ ids, isIri s := by
  induction names generalizing ids with
  | nil =>
    cases h
    exact fun _ hs => (nomatch hs)
  | cons name names ih =>
    unfold resolveAll at h
    split at h
    · cases h
    · next id hid =>
      obtain ⟨ids, hids, rfl⟩ := map_eq_ok_iff.mp h
      exact List.forall_mem_cons.mpr ⟨isIri_of_resolveName hr hid, ih hids⟩

/-- Where all lookups answer with IRIs, these stand in the template afterwards. -/
theorem isIri_of_resolveNames (hr : ∀ l ∈ resolver.lookups, l.OnlyIris) {t t' : Template}
    (h : t.resolveNames resolver = .ok t') : ∀ s ∈ t'.determining, isIri s := by
  obtain ⟨verb, hverb, h⟩ := bind_eq_ok_iff.mp h
  obtain ⟨objectType, hobject, h⟩ := bind_eq_ok_iff.mp h
  obtain ⟨parent, hparent, h⟩ := bind_eq_ok_iff.mp h
  obtain ⟨grouping, hgrouping, h⟩ := bind_eq_ok_iff.mp h
  obtain ⟨category, hcategory, h⟩ := bind_eq_ok_iff.mp h
  obtain ⟨other, hother, h⟩ := bind_eq_ok_iff.mp h
  obtain ⟨usage, husage, h⟩ := bind_eq_ok_iff.mp h
  cases h
  simp only [determining, List.forall_mem_append]
  exact ⟨⟨⟨⟨⟨⟨isIri_of_resolveName? hr hverb, isIri_of_resolveName? hr hobject⟩, isIri_of_resolveAll hr hparent⟩,
    isIri_of_resolveAll hr hgrouping⟩, isIri_of_resolveAll hr hcategory⟩, isIri_of_resolveAll hr hother⟩,
    isIri_of_resolveAll hr husage⟩

end Template

namespace Resolver

/-- **Resolution is stable, and IRIs stand for themselves.** An IRI gets the first answer with that IRI, and nothing can
give it another; a name gets the first answer of all, and lookups behind that change nothing. So the IRI of an answer
leads to itself again, and names in templates are resolved once and for all. -/
theorem resolution_stable (lookups : List Lookup) (hl : ∀ l ∈ lookups, l.Provided) (x : String) (kind : ConceptKind) :
    (isIri x → ∃ c, (withAnyIri lookups).resolve x kind = .ok c ∧ c.id = x ∧ c.kind = kind ∧
      FirstAnswer (lookups ++ [.anyIri]) x kind (fun d => d.id = x) c) ∧
    (isIri x = false →
      ((∃ c, (withAnyIri lookups).resolve x kind = .ok c) ↔ ∃ l ∈ lookups, ∃ c, l.lookup? x kind = some c) ∧
      ∀ c, (withAnyIri lookups).resolve x kind = .ok c →
        c.kind = kind ∧ FirstAnswer lookups x kind (fun _ => True) c ∧
        ∀ more, (withAnyIri (lookups ++ more)).resolve x kind = .ok c) ∧
    (∀ c, (withAnyIri lookups).resolve x kind = .ok c → isIri c.id →
      ∀ kind', ∃ d, (withAnyIri lookups).resolve c.id kind' = .ok d ∧ d.id = c.id) ∧
    ((∀ l ∈ lookups, l.OnlyIris) → ∀ t t' : Template, t.resolveNames (withAnyIri lookups) = .ok t' →
      t'.resolveNames (withAnyIri lookups) = .ok t') := by
  have hanyIri := anyIri_mem_withAnyIri lookups
  have hkind : ∀ c, (withAnyIri lookups).resolve x kind = .ok c → c.kind = kind := fun c hc =>
    kind_eq_of_resolve (provided_withAnyIri hl) hc
  refine ⟨fun hi => ?iri, fun hi => ⟨exists_resolve_withAnyIri_iff hi, fun c hc => ?name⟩, fun c _ hi kind' => ?again,
    fun honly t t' ht => ?template⟩
  case iri =>
    obtain ⟨c, hc, hfirst⟩ := exists_firstAnswer_of_isIri lookups hi kind
    exact ⟨c, hc, hfirst.counts, hkind c hc, hfirst⟩
  case name =>
    have hfirst := (resolve_withAnyIri_iff hi).mp hc
    exact ⟨hkind c hc, hfirst, fun more => (resolve_withAnyIri_iff hi).mpr (hfirst.append more)⟩
  case again => exact exists_resolve_of_isIri hanyIri hi kind'
  case template =>
    exact Template.resolveNames_of_isIri hanyIri (Template.isIri_of_resolveNames (onlyIris_withAnyIri honly) ht)

/-- The verb of completing, with its label. -/
def completed : Concept := ⟨"u:completed", .verb, [("en", "completed")], [], none⟩

/-- A table that gives another verb for the IRI of completing, and a vocabulary that knows the verb. -/
def school : List Lookup :=
  [.aliases ⟨[("u:completed", .bare "u:done" .verb)]⟩, .vocabulary (Vocabulary.empty.extend [completed])]

/-- The IRI keeps its verb in spite of the table, and gets its label from the vocabulary; the label stands for the IRI,
whatever table comes behind. -/
theorem resolution_stable_school :
    (∀ l ∈ school, l.Provided) ∧ isIri "u:completed" ∧ isIri "completed" = false ∧
      (withAnyIri school).resolve "u:completed" .verb = .ok completed ∧
      (∃ c, (withAnyIri school).resolve "u:completed" .verb = .ok c ∧ c.id = "u:completed" ∧ c.kind = .verb ∧
        FirstAnswer (school ++ [.anyIri]) "u:completed" .verb (fun d => d.id = "u:completed") c) ∧
      (withAnyIri (school ++ [.aliases ⟨[("completed", .bare "u:done" .verb)]⟩])).resolve "completed" .verb =
        .ok completed := by
  have hprovided : ∀ l ∈ school, l.Provided := by
    intro l hl
    rcases List.mem_cons.mp hl with rfl | hl
    · exact .aliases _
    · rw [List.mem_singleton.mp hl]
      exact .vocabulary _
  have hiri : isIri "u:completed" := by decide
  have hname : isIri "completed" = false := by decide
  have hlabel : (withAnyIri school).resolve "completed" .verb = .ok completed := by decide +kernel
  obtain ⟨hfirst, -⟩ := resolution_stable school hprovided "u:completed" .verb
  obtain ⟨-, hlater, -⟩ := resolution_stable school hprovided "completed" .verb
  exact ⟨hprovided, hiri, hname, by decide +kernel, hfirst hiri, ((hlater hname).2 _ hlabel).2.2 _⟩

end Resolver

end StatementProfiles
