import StatementProfiles.Proofs.Registry.Cache
import StatementProfiles.Proofs.Template.Names

/-!
# The order of registration

Where the templates of a profile write IRIs, and no names that another profile may label, their compilation asks nobody
(`Registry.compileTemplate_of_writesIris`), so the profile is accepted wherever its own IRIs are new
(`Registry.Accepts.of_fresh`). What a registry then answers goes by its concepts and its declarations and not by their
order. **Two such profiles may be registered in either order** (`Registry.registration_commutes`).
-/

namespace StatementProfiles

/-! ## Templates that write IRIs -/

/-- The determining properties as they are written. -/
def TemplateDefinition.determining (d : TemplateDefinition) : List String :=
  d.verb.toList ++ d.objectActivityType.toList ++ d.contextParentActivityType ++ d.contextGroupingActivityType ++
    d.contextCategoryActivityType ++ d.contextOtherActivityType ++ d.attachmentUsageType

/-- All determining properties in a profile are IRIs. -/
def Profile.WritesIris (p : Profile) : Prop := ∀ d ∈ p.templates, ∀ name ∈ d.determining, isIri name

instance (p : Profile) : Decidable p.WritesIris :=
  inferInstanceAs (Decidable (∀ d ∈ p.templates, ∀ name ∈ d.determining, isIri name))

/-! ## Unfolding goes by look-up -/

/-- Catalogs with the same declarations under the same IRIs unfold patterns alike, faults and all. -/
theorem Catalog.expand_congr {c c' : Catalog} (hp : ∀ id, c.pattern? id = c'.pattern? id)
    (ht : ∀ id, c.template? id = c'.template? id) (path : List String) (id : String) :
    c.expand path id = c'.expand path id := by
  induction path, id using expand.induct c with
  | case1 path id hpath => rw [expand_eq, expand_eq, if_pos hpath, if_pos hpath]
  | case2 path id hpath hid =>
    rw [expand_eq, expand_eq, ← hp, hid]
  | case3 path id hpath entry hid e he =>
    rw [expand_eq, expand_eq, ← hp, hid]
    simp only [he]
  | case4 path id hpath entry hid operator hop ih =>
    have hchild : c.expandChild (c.expand (path ++ [id])) entry = c'.expandChild (c'.expand (path ++ [id])) entry := by
      funext r
      rw [expandChild, expandChild, hp, ih r.id, leaf, leaf, ht]
    rw [expand_eq, expand_eq, ← hp, hid]
    simp only [hop, hchild]

namespace Registry

/-! ## Acceptance -/

/-- A definition that writes IRIs is compiled without asking what names stand for. -/
theorem compileTemplate_of_writesIris {resolver : Resolver} (hr : .anyIri ∈ resolver.lookups) {d : TemplateDefinition}
    (hd : ∀ name ∈ d.determining, isIri name) (p : Profile) :
    compileTemplate resolver p d = Template.ofDefinition d p.id (p.currentVersion.map ProfileVersion.id) := by
  rw [compileTemplate, Template.ofDefinition]
  cases Template.compileRules d.id 0 d.rules with
  | error e => rfl
  | ok rules => exact Template.resolveNames_of_isIri hr hd

variable {r r' : Registry} {p q : Profile} {ts ts₀ us : List Template}

theorem ids_add (r : Registry) (p : Profile) (ts : List Template) : (r.add p ts).ids = r.ids ++ p.ids := by
  simp [ids, Registry.add, rebuildResolver]

theorem anyIri_mem_resolverOver (r : Registry) (v : Vocabulary) : .anyIri ∈ (r.resolverOver v).lookups :=
  List.mem_append_right _ (List.mem_singleton_self _)

/-- A profile that writes IRIs is accepted by one registry as by another when its own IRIs are new there. -/
theorem Accepts.of_fresh (h : r.Accepts p ts) (hp : p.WritesIris) (hfresh : p.ids.Disjoint r'.ids) :
    r'.Accepts p ts where
  valid := h.valid
  distinct := h.distinct
  fresh := hfresh
  compiled := by
    refine ((List.forall₂_and_left _ _).mpr ⟨fun _ hd => hd, h.compiled⟩).imp fun d t ⟨hd, ht⟩ => ?_
    rw [compileTemplate_of_writesIris (anyIri_mem_resolverOver _ _) (hp d hd)] at ht ⊢
    exact ht

/-- Two profiles that are accepted one after the other are accepted the other way round. -/
theorem Accepts.swap (h : r.Accepts p ts) (h' : (r.add p ts).Accepts q us) (hp : p.WritesIris) (hq : q.WritesIris) :
    r.Accepts q us ∧ (r.add q us).Accepts p ts := by
  have hfresh := h'.fresh
  rw [ids_add, List.disjoint_append_right] at hfresh
  refine ⟨h'.of_fresh hq hfresh.1, h.of_fresh hp ?_⟩
  rw [ids_add, List.disjoint_append_right]
  exact ⟨h.fresh, hfresh.2.symm⟩

/-- The templates of a profile that is accepted are those that it is registered with. -/
theorem Accepts.register_eq (h : r.Accepts p ts) : r.register p = (.ok (), r.add p ts) := by
  rcases register_cases r p with ⟨us, hu, he⟩ | ⟨hn, -⟩
  · have hsame : Except.ok ts = Except.ok us :=
      (mapM_eq_ok_iff.mpr h.compiled).symm.trans (mapM_eq_ok_iff.mpr hu.compiled)
    rw [he, Except.ok.inj hsame]
  · exact absurd h (hn ts)

theorem exists_accepts_iff : (r.register p).1 = .ok () ↔ ∃ ts, r.Accepts p ts := by
  refine ⟨fun h => ?_, fun ⟨ts, h⟩ => by rw [h.register_eq]⟩
  rcases register_cases r p with ⟨ts, h, -⟩ | ⟨-, e, he⟩
  · exact ⟨ts, h⟩
  · rw [he] at h
    cases h

/-- Two profiles are registered one after the other when each is accepted in its turn. -/
theorem both_registered_iff : ((r.register p).1 = .ok () ∧ ((r.register p).2.register q).1 = .ok ()) ↔
    ∃ ts us, r.Accepts p ts ∧ (r.add p ts).Accepts q us := by
  constructor
  · rintro ⟨hp, hq⟩
    obtain ⟨ts, h⟩ := exists_accepts_iff.mp hp
    rw [h.register_eq] at hq
    obtain ⟨us, h'⟩ := exists_accepts_iff.mp hq
    exact ⟨ts, us, h, h'⟩
  · rintro ⟨ts, us, h, h'⟩
    rw [h.register_eq]
    exact ⟨rfl, by rw [h'.register_eq]⟩

/-! ## Answers -/

/-- Two registries answer alike. -/
structure Alike (r r' : Registry) : Prop where
  template : ∀ name, r.template? name = r'.template? name
  pattern : ∀ name, r.pattern? name = r'.pattern? name
  grammar : ∀ id, (r.grammar id).1 = (r'.grammar id).1
  resolve : ∀ name kind, r.resolver.resolve name kind = r'.resolver.resolve name kind
  metadata : r.metadata = r'.metadata

/-- Registries with the same concepts and the same further lookups resolve names alike. -/
theorem Built.resolve_congr (h : r.Built ts) (h' : r'.Built us)
    (hconcepts : r.vocabulary.concepts.Perm r'.vocabulary.concepts) (hl : r.lookups = r'.lookups) (name : String)
    (kind : ConceptKind) : r.resolver.resolve name kind = r'.resolver.resolve name kind := by
  have hlookup := Vocabulary.lookup?_congr h.consistent.vocabulary_indexed h'.consistent.vocabulary_indexed hconcepts
    h.consistent.vocabulary_distinct name kind
  rw [h.resolver, h'.resolver, resolverOver, resolverOver, hl]
  simp only [Resolver.resolve, Resolver.withAnyIri, List.cons_append, List.findSome?_cons, Resolver.answer?,
    Lookup.lookup?, hlookup]

/-- **What a registry answers does not depend on the order of its profiles.** -/
theorem Built.alike_of_perm (h : r.Built ts) (h' : r'.Built us) (hprofiles : r.profiles.Perm r'.profiles)
    (hts : ts.Perm us) (hl : r.lookups = r'.lookups) (hfailed : r.failedFiles = r'.failedFiles)
    (hk : r.KeepsSound) (hk' : r'.KeepsSound) : r.Alike r' := by
  have hresolve : ∀ name kind, r.resolver.resolve name kind = r'.resolver.resolve name kind := by
    refine h.resolve_congr h' ?_ hl
    rw [h.consistent.vocabulary, h'.consistent.vocabulary]
    exact hprofiles.flatMap_right _
  have htemplate : ∀ id, r.catalog.template? id = r'.catalog.template? id := by
    intro id
    rw [h.catalog, h'.catalog]
    exact Table.find?_extend_perm (hts.map _) h.templateRows_nodup
  have hpattern : ∀ id, r.catalog.pattern? id = r'.catalog.pattern? id := by
    intro id
    rw [h.catalog, h'.catalog]
    exact Table.find?_extend_perm ((hprofiles.flatMap_right _).map _) h.patternRows_nodup
  refine ⟨fun name => ?_, fun name => ?_, fun id => ?_, hresolve, ?_⟩
  · simp only [template?, hresolve, htemplate]
  · simp only [pattern?, hresolve, hpattern]
  · rw [hk.grammar_eq, hk'.grammar_eq]
    exact Catalog.expand_congr hpattern htemplate [] id
  · have htemplates : r.metadata.templates = r'.metadata.templates := by
      rw [h.consistent.templateCount, h'.consistent.templateCount]
      exact (hprofiles.map _).sum_nat
    have hpatterns : r.metadata.patterns = r'.metadata.patterns := by
      rw [h.consistent.patternCount, h'.consistent.patternCount]
      exact (hprofiles.map _).sum_nat
    have hconcepts : r.metadata.concepts = r'.metadata.concepts := (hprofiles.flatMap_right _).length_eq
    exact Metadata.mk.injEq .. ▸ ⟨hprofiles.length_eq, hconcepts, htemplates, hpatterns, hfailed⟩

/-- **Profiles that write IRIs may be registered in either order.** Both succeed one after the other exactly when they
do the other way round, and the two registries answer alike. -/
theorem registration_commutes (calls : List Call) {p q : Profile} (hp : p.WritesIris) (hq : q.WritesIris) :
    let r := after calls
    ((r.register p).1 = .ok () ∧ ((r.register p).2.register q).1 = .ok () ↔
      (r.register q).1 = .ok () ∧ ((r.register q).2.register p).1 = .ok ()) ∧
    ((r.register p).1 = .ok () ∧ ((r.register p).2.register q).1 = .ok () →
      Alike ((r.register p).2.register q).2 ((r.register q).2.register p).2) := by
  intro r
  rw [both_registered_iff, both_registered_iff]
  refine ⟨⟨fun ⟨ts, us, h, h'⟩ => ⟨us, ts, h.swap h' hp hq⟩, fun ⟨us, ts, h, h'⟩ => ⟨ts, us, h.swap h' hq hp⟩⟩, ?_⟩
  rintro ⟨ts, us, h, h'⟩
  obtain ⟨hswap, hswap'⟩ := h.swap h' hp hq
  rw [h.register_eq, h'.register_eq, hswap.register_eq, hswap'.register_eq]
  obtain ⟨ts₀, hbuilt⟩ := exists_built_after calls
  have hkeeps : ∀ {a b : Profile} {as bs : List Template}, r.Accepts a as → (r.add a as).Accepts b bs →
      ((r.add a as).add b bs).KeepsSound := fun ha hb =>
    (hbuilt.add ha).keepsSound_of_step (Step.add (P := fun _ => True) hb)
      (hbuilt.keepsSound_of_step (Step.add (P := fun _ => True) ha) (keepsSound_after calls))
  refine ((hbuilt.add h).add h').alike_of_perm ((hbuilt.add hswap).add hswap') ?_ ?_ rfl rfl (hkeeps h h')
    (hkeeps hswap hswap')
  · change (r.profiles ++ [p] ++ [q]).Perm (r.profiles ++ [q] ++ [p])
    rw [List.append_assoc, List.append_assoc]
    exact List.perm_append_comm.append_left r.profiles
  · rw [List.append_assoc, List.append_assoc]
    exact List.perm_append_comm.append_left ts₀

/-- A profile whose pattern names a pattern of another profile. -/
def reports : Profile :=
  { (default : Profile) with
    id := "u:reports"
    versions := [⟨"u:reports/1", [], none⟩]
    concepts := [{ (default : ConceptDefinition) with id := "u:filed", kind := .verb, prefLabel := [("en", "filed")] }]
    templates := [{ (default : TemplateDefinition) with id := "u:report", verb := some "u:filed" }]
    patterns := [{ (default : PatternDefinition) with
      id := "u:reporting", sequence := some [.bare "u:report", .bare "u:reviewing"] }] }

/-- The profile of that other pattern; its verb has a label that the other profile uses, too. -/
def reviews : Profile :=
  { (default : Profile) with
    id := "u:reviews"
    versions := [⟨"u:reviews/1", [], none⟩]
    concepts := [{ (default : ConceptDefinition) with id := "u:sent", kind := .verb, prefLabel := [("en", "filed")] }]
    templates := [{ (default : TemplateDefinition) with id := "u:review", verb := some "u:sent" }]
    patterns := [{ (default : PatternDefinition) with id := "u:reviewing", oneOrMore := some (.bare "u:review") }] }

theorem registration_commutes_reviews :
    reports.WritesIris ∧ reviews.WritesIris ∧
      ((after []).register reviews).1 = .ok () ∧ (((after []).register reviews).2.register reports).1 = .ok () ∧
      Alike (((after []).register reports).2.register reviews).2
        (((after []).register reviews).2.register reports).2 := by
  have hreports : reports.WritesIris := by decide
  have hreviews : reviews.WritesIris := by decide
  have hboth : ((after []).register reports).1 = .ok () ∧
      (((after []).register reports).2.register reviews).1 = .ok () := by
    decide +kernel
  obtain ⟨hswap, halike⟩ := registration_commutes [] hreports hreviews
  exact ⟨hreports, hreviews, (hswap.mp hboth).1, (hswap.mp hboth).2, halike hboth⟩

end Registry

end StatementProfiles
