import Mathlib.Data.List.Permutation
import StatementProfiles.Proofs.Concept.Lookup
import StatementProfiles.Proofs.Document.Builder
import StatementProfiles.Proofs.Pattern.Record
import StatementProfiles.Proofs.Registry.Consistency
import StatementProfiles.Proofs.Template.Meaning
import StatementProfiles.Proofs.Template.Names

/-!
# Statements that are filled in from a template

The names in a template are resolved when its profile is registered, and its properties are resolved once more when a
statement is filled in. `Registry.Fillable` says that what the first resolution left behind are IRIs; every step keeps
it as long as further lookups answer with IRIs only (`Registry.Fillable.step`), and an IRI always stands for itself.
**So a statement of a template can be filled in whenever the template is found and the run allows it, and it fits the
template** (`Registry.filled_statements_fit`).
-/

namespace StatementProfiles

namespace Builder

/-! ## The settings of a template -/

variable {b : Builder}

theorem exists_applyAll_verb (hb : b.IsStatement) (hl : .anyIri ∈ b.resolver.lookups) {verb : Option String}
    (hv : ∀ v, verb = some v → isIri v) :
    ∃ b', b.applyAll (verb.toList.map Setting.verb) = .ok b' ∧ b'.IsStatement ∧ b.Frame "verb" b' ∧
      ∀ v, verb = some v → b'.document.get? ["verb", "id"] = some (.string v) := by
  cases verb with
  | none => exact ⟨b, rfl, hb, .refl _ b, fun _ h => (nomatch h)⟩
  | some v =>
    obtain ⟨c, hc, hid⟩ := Resolver.exists_resolve_of_isIri hl (hv v rfl) .verb
    obtain ⟨ha, hs, hf⟩ := frame_of_apply (s := .verb v) hb rfl rfl hc
    refine ⟨_, (applyAll_singleton b _).trans ha, hs, hf, fun w hw => ?_⟩
    cases hw
    have hverb : (b.document.set ["verb"] (verbJson c)).get? ["verb"] = some (verbJson c) := Json.get?_set_self _ _ _
    change (b.document.set ["verb"] (verbJson c)).get? (["verb"] ++ ["id"]) = _
    rw [Json.get?_append, hverb, Option.bind_some, get?_id_verbJson, hid]

theorem exists_applyAll_objectActivityType (hb : b.IsStatement) (hl : .anyIri ∈ b.resolver.lookups)
    {type : Option String} (ht : ∀ v, type = some v → isIri v) :
    ∃ b', b.applyAll (type.toList.map Setting.objectActivityType) = .ok b' ∧ b'.IsStatement ∧ b.Frame "object" b' ∧
      ∀ v, type = some v → b'.document.get? ["object", "definition", "type"] = some (.string v) := by
  cases type with
  | none => exact ⟨b, rfl, hb, .refl _ b, fun _ h => (nomatch h)⟩
  | some v =>
    obtain ⟨c, hc, hid⟩ := Resolver.exists_resolve_of_isIri hl (ht v rfl) .activityType
    obtain ⟨ha, hs, hf⟩ := frame_of_apply (s := .objectActivityType v) hb rfl rfl hc
    refine ⟨_, (applyAll_singleton b _).trans ha, hs, hf, fun w hw => ?_⟩
    cases hw
    exact (Json.get?_set_self _ _ _).trans (by rw [hid])

/-- Where the registration of a statement is. -/
def registrationPath : Path := ["context", "registration"]

/-- Where the category activities of a statement are. -/
def categoryPath : Path := ["context", "contextActivities", "category"]

/-- A registration goes into a context of its own, when there is none yet. -/
theorem exists_applyAll_registration (hb : b.IsStatement) (hn : b.document.get? ["context"] = none)
    (registration : Option Uuid) :
    ∃ b', b.applyAll (registration.toList.map Setting.registration) = .ok b' ∧ b'.IsStatement ∧ b.Frame "context" b' ∧
      b'.document.get? registrationPath = registration.map (fun run => .string run.render) ∧
      b'.document.get? categoryPath = none ∧ (b'.document.get? ["context"]).bind Json.asArray? = none := by
  have hbelow : ∀ s rest, b.document.get? ("context" :: s :: rest) = none := by
    intro s rest
    rw [Json.get?_cons, hn, Option.bind_none]
  cases registration with
  | none => exact ⟨b, rfl, hb, .refl _ b, hbelow _ _, hbelow _ _, by rw [hn, Option.bind_none]⟩
  | some run =>
    obtain ⟨ha, hs, hf⟩ := frame_of_apply (s := .registration run) hb rfl rfl rfl
    refine ⟨_, (applyAll_singleton b _).trans ha, hs, hf, Json.get?_set_self _ _ _, ?_, ?_⟩
    · refine (Json.get?_update_of_fork _ ["context"] (by decide) [] ["category"] ?_).trans (hbelow _ _)
      rw [hn, Option.bind_none]
    · have hcontext := Json.get?_update_append (fun _ => .string run.render) ["context"] ["registration"] b.document
      rw [hn] at hcontext
      exact congrArg (·.bind Json.asArray?) hcontext

/-- The first activity of a category is the only one, and a registration stays where it is. -/
theorem exists_apply_category (hb : b.IsStatement) (hn : b.document.get? categoryPath = none)
    (hc : (b.document.get? ["context"]).bind Json.asArray? = none) {activity : Builder}
    (ha : activity.kind = .activity) :
    ∃ b', b.apply (.contextActivity .category activity) = .ok b' ∧ b'.IsStatement ∧ b.Frame "context" b' ∧
      b'.document.get? registrationPath = b.document.get? registrationPath ∧
      b'.document.get? categoryPath = some (.array [activity.document]) := by
  have hfits : checkArgument .statement (.contextActivity .category activity) = .ok () := by
    simp [checkArgument, Setting.argument?, ha]
  obtain ⟨ha, hs, hf⟩ := frame_of_apply (s := .contextActivity .category activity) hb rfl hfits rfl
  refine ⟨_, ha, hs, hf, ?_, Json.get?_push_self hn _⟩
  exact Json.get?_update_of_fork _ ["context"] (by decide) ["category"] [] hc

end Builder

namespace Template

variable {t : Template}

/-- The determining properties of a template that a statement is filled in with are IRIs. -/
structure HasIris (t : Template) : Prop where
  verb : ∀ v, t.verb = some v → isIri v
  objectActivityType : ∀ v, t.objectActivityType = some v → isIri v

end Template

namespace Registry

variable {r : Registry}

/-- The activity that names the version of a profile. -/
def versionDocument (version : String) : Json :=
  .ofPairs [("objectType", .string "Activity"), ("id", .string version),
    ("definition", .ofPairs [("type", .string profileActivityType)])]

theorem exists_versionActivity (hl : .anyIri ∈ r.resolver.lookups) (version : String) :
    ∃ b, r.versionActivity version = .ok b ∧ b.kind = .activity ∧ b.document = versionDocument version := by
  have hiri : isIri profileActivityType := by decide
  obtain ⟨c, hc, hid⟩ := Resolver.exists_resolve_of_isIri hl hiri .activityType
  have hbegun : Builder.activity version = .ok { Builder.start .activity with
      document := .ofPairs [("objectType", .string "Activity"), ("id", .string version)] } := by cbv
  have htyped : r.versionActivity version = .ok { Builder.start .activity with
      resolver := r.resolver
      document := .ofPairs [("objectType", .string "Activity"), ("id", .string version),
        ("definition", .ofPairs [("type", .string c.id)])] } := by
    rw [versionActivity, hbegun]
    simp only [Builder.apply, Setting.resolve, Setting.concept?, hc]
    cbv
  exact ⟨_, htyped, rfl, by rw [versionDocument, ← hid]⟩

/-- A builder of a statement holds what a template determines, the registration of a run if there is one, and the
version of the template's profile as the only activity of its category. -/
structure Prefilled (t : Template) (registration : Option Uuid) (b : Builder) : Prop where
  kind : b.kind = .statement
  template : b.template = some t
  verb : t.checkVerb b.document = none
  objectType : t.checkObjectType b.document = none
  registration : b.document.get? Builder.registrationPath = registration.map fun run => .string run.render
  category : b.document.get? Builder.categoryPath = t.profileVersion.map fun version => .array [versionDocument version]

/-- A statement takes what a template with IRIs determines, and then has no category activities yet. -/
theorem exists_applyAll_templateSettings (hl : .anyIri ∈ r.resolver.lookups) {t : Template} (ht : t.HasIris)
    (registration : Option Uuid) :
    ∃ b, (r.blank t).applyAll (templateSettings t registration) = .ok b ∧ b.IsStatement ∧ b.template = some t ∧
      (∀ v, t.verb = some v → b.document.get? ["verb", "id"] = some (.string v)) ∧
      (∀ v, t.objectActivityType = some v → b.document.get? ["object", "definition", "type"] = some (.string v)) ∧
      b.document.get? Builder.registrationPath = registration.map (fun run => .string run.render) ∧
      b.document.get? Builder.categoryPath = none ∧ (b.document.get? ["context"]).bind Json.asArray? = none := by
  obtain ⟨b₁, h₁, hb₁, hf₁, hverb⟩ := Builder.exists_applyAll_verb (b := r.blank t) ⟨rfl, rfl⟩ hl ht.verb
  have hl₁ : .anyIri ∈ b₁.resolver.lookups := by
    rw [hf₁.same]
    exact hl
  obtain ⟨b₂, h₂, hb₂, hf₂, htype⟩ := Builder.exists_applyAll_objectActivityType hb₁ hl₁ ht.objectActivityType
  have hcontext : b₂.document.get? ["context"] = none := by
    rw [hf₂.get?_eq _ _ (by decide), hf₁.get?_eq _ _ (by decide)]
    rfl
  obtain ⟨b₃, h₃, hb₃, hf₃, hregistration, hcategory, harray⟩ :=
    Builder.exists_applyAll_registration hb₂ hcontext registration
  refine ⟨b₃, ?_, hb₃, ?_, ?_, ?_, hregistration, hcategory, harray⟩
  · rw [templateSettings, Builder.applyAll_append, Builder.applyAll_append, h₁, Except.bind, h₂, Except.bind, h₃]
  · rw [hf₃.same, hf₂.same, hf₁.same]
    rfl
  · intro v hv
    rw [hf₃.get?_eq _ _ (by decide), hf₂.get?_eq _ _ (by decide), hverb v hv]
  · intro v hv
    rw [hf₃.get?_eq _ _ (by decide), htype v hv]

/-- A template with IRIs can be filled in. -/
theorem exists_prefill (hl : .anyIri ∈ r.resolver.lookups) {t : Template} (ht : t.HasIris)
    (registration : Option Uuid) :
    ∃ b, r.prefill t registration = .ok b ∧ Prefilled t registration b := by
  obtain ⟨b, hsettings, hb, htemplate, hverb, htype, hregistration, hcategory, harray⟩ :=
    exists_applyAll_templateSettings hl ht registration
  rw [prefill, hsettings]
  dsimp only
  cases hversion : t.profileVersion with
  | none =>
    refine ⟨b, rfl, hb.kind, htemplate, Template.checkVerb_eq_none_iff.mpr hverb,
      Template.checkObjectType_eq_none_iff.mpr htype, hregistration, ?_⟩
    rw [hcategory, hversion]
    rfl
  | some version =>
    obtain ⟨activity, hactivity, hkind, hdocument⟩ := exists_versionActivity hl version
    obtain ⟨b', hb', hs, hf, hkept, hcategory'⟩ := Builder.exists_apply_category hb hcategory harray hkind
    refine ⟨b', ?_, hs.kind, ?_, Template.checkVerb_eq_none_iff.mpr ?_, Template.checkObjectType_eq_none_iff.mpr ?_,
      hkept.trans hregistration, ?_⟩
    · rw [versionSettings, hactivity]
      exact (Builder.applyAll_singleton b _).trans hb'
    · rw [hf.same]
      exact htemplate
    · intro v hv
      rw [hf.get?_eq _ _ (by decide), hverb v hv]
    · intro v hv
      rw [hf.get?_eq _ _ (by decide), htype v hv]
    · rw [hcategory', hdocument, hversion]
      rfl

/-! ## Registered templates -/

theorem IsCompiled.hasIris {resolver : Resolver} (hr : ∀ l ∈ resolver.lookups, l.OnlyIris) {p : Profile}
    {d : TemplateDefinition} {t : Template} (h : IsCompiled resolver p d t) : t.HasIris where
  verb := fun _ hv => Template.isIri_of_resolveName? hr h.verb _ (Option.mem_toList.mpr hv)
  objectActivityType := fun _ ht => Template.isIri_of_resolveName? hr h.objectActivityType _ (Option.mem_toList.mpr ht)

theorem Built.onlyIris {ts : List Template} (h : r.Built ts) (hl : ∀ l ∈ r.lookups, l.OnlyIris) :
    ∀ l ∈ r.resolver.lookups, l.OnlyIris := by
  rw [h.resolver]
  intro l hmem
  rcases List.mem_append.mp hmem with hmem | hmem
  · rcases List.mem_cons.mp hmem with rfl | hmem
    · exact Lookup.onlyIris_vocabulary fun c hc => h.isIri_of_mem_vocabulary hc
    · exact hl l hmem
  · rw [List.mem_singleton.mp hmem]
    exact Lookup.onlyIris_anyIri

/-- Names stand for concepts with IRIs, and did so when templates were registered. -/
structure Fillable (r : Registry) : Prop where
  built : ∃ ts, r.Built ts
  lookups : ∀ l ∈ r.lookups, l.OnlyIris
  templates : ∀ id t, r.catalog.template? id = some t → t.HasIris

theorem fillable_empty : empty.Fillable := ⟨⟨[], built_empty⟩, fun _ h => (nomatch h), fun _ _ h => (nomatch h)⟩

theorem Fillable.add (h : r.Fillable) {p : Profile} {ts : List Template} (ha : r.Accepts p ts) :
    (r.add p ts).Fillable := by
  obtain ⟨ts₀, hb⟩ := h.built
  have hb' : (r.add p ts).Built (ts₀ ++ ts) := hb.add ha
  refine ⟨⟨_, hb'⟩, h.lookups, fun id t ht => ?_⟩
  rcases Table.find?_extend_cases ht with hmem | hold
  · obtain ⟨t', ht', he⟩ := List.mem_map.mp hmem
    cases he
    obtain ⟨d, -, hd⟩ := exists_left_of_mem ha.compiled ht'
    exact (isCompiled_of_compileTemplate hd).hasIris (hb'.onlyIris h.lookups)
  · exact h.templates id t hold

theorem Fillable.step {r' : Registry} (h : r.Fillable) (hs : Step Lookup.OnlyIris r r') : r'.Fillable := by
  obtain ⟨ts, hb⟩ := h.built
  have hb' := hb.step hs
  cases hs with
  | add ha => exact h.add ha
  | lookups hl => exact ⟨hb', hl, h.templates⟩
  | options | grammars | passOver => exact ⟨hb', h.lookups, h.templates⟩

/-- A template that a name stands for is in the catalog. -/
theorem exists_id_of_template? {name : String} {t : Template} (ht : r.template? name = .ok t) :
    ∃ id, r.catalog.template? id = some t := by
  unfold template? at ht
  split at ht
  · cases ht
  · next c _ =>
    split at ht
    · next hc =>
      cases ht
      exact ⟨c.id, hc⟩
    · cases ht

theorem Built.exists_version_of_template? {ts : List Template} (h : r.Built ts) {name : String} {t : Template}
    (ht : r.template? name = .ok t) : ∃ version, t.profileVersion = some version := by
  obtain ⟨id, hid⟩ := exists_id_of_template? ht
  obtain ⟨-, _, -, -, -, v, -, hv⟩ := h.consistent.template id t hid
  exact ⟨v.id, hv⟩

/-- A template that a name stands for can be filled in, and it has a version. -/
theorem Fillable.exists_prefill (h : r.Fillable) {name : String} {t : Template} (ht : r.template? name = .ok t)
    (registration : Option Uuid) :
    (∃ b, r.prefill t registration = .ok b ∧ Prefilled t registration b) ∧ t.profileVersion.isSome := by
  obtain ⟨ts, hb⟩ := h.built
  obtain ⟨id, hid⟩ := exists_id_of_template? ht
  obtain ⟨v, hv⟩ := hb.exists_version_of_template? ht
  exact ⟨Registry.exists_prefill hb.anyIri_mem (h.templates id t hid) registration, by rw [hv]; rfl⟩

/-- **Statements that are filled in fit their template.** Where further lookups answer with IRIs only, a name that
stands for a template gives a statement outside of any run, and inside of one when the run allows the template next; the
run records it then and is unchanged otherwise. There is no other failure than those of the name and of the run. -/
theorem filled_statements_fit (calls : List Call) (h : ∀ call ∈ calls, call.Brings Lookup.OnlyIris) (name : String)
    (o : Occurrence) :
    (∀ e, (after calls).template? name = .error e →
      (after calls).templateStatement name = .error e ∧ (after calls).statement name o = (.error e, o)) ∧
    ∀ t, (after calls).template? name = .ok t →
      t.profileVersion.isSome ∧
      (∃ b, (after calls).templateStatement name = .ok b ∧ Prefilled t none b) ∧
      if o.canAppend t.id then
        ∃ b, (after calls).statement name o = (.ok b, o.record [t.id]) ∧ Prefilled t (some o.registration) b
      else (after calls).statement name o = (.error (.outOfSequence o.state.patternId t.id o.templates), o) := by
  have hf : (after calls).Fillable := after_induction fillable_empty (fun _ _ hs hr => hr.step hs) h
  refine ⟨fun e he => ?_, fun t ht => ?_⟩
  · constructor
    · rw [templateStatement, he]
      rfl
    · rw [statement, he]
  · obtain ⟨⟨b, hb, hfilled⟩, hversion⟩ := hf.exists_prefill ht none
    obtain ⟨⟨b', hb', hfilled'⟩, -⟩ := hf.exists_prefill ht (some o.registration)
    refine ⟨hversion, ⟨b, ?_, hfilled⟩, ?_⟩
    · rw [templateStatement, ht]
      exact hb
    · split
      · next hc =>
        refine ⟨b', ?_, hfilled'⟩
        rw [statement, ht]
        dsimp only
        rw [hb', Occurrence.append_of_canAppend hc]
      · next hc =>
        rw [statement, ht]
        dsimp only
        rw [hb', Occurrence.append, if_neg hc]

/-- A further lookup that knows a name of a verb, and a profile whose template has the verb by that name. -/
def readingCalls : List Call :=
  let names : AliasTable := AliasTable.insert ⟨[]⟩ "read" (.bare "u:read" .verb)
  let reading : TemplateDefinition := { (default : TemplateDefinition) with id := "u:reading", verb := some "read" }
  [.withLookups [.aliases names],
    .register
      { (default : Profile) with id := "u:books", versions := [⟨"u:books/1", [], none⟩], templates := [reading] }]

/-- A run that waits for a statement of that template. -/
def readingRun : Occurrence := .start "u:run" (.leaf "u:reading")

theorem filled_statements_fit_readings :
    (∀ call ∈ readingCalls, call.Brings Lookup.OnlyIris) ∧
    ∃ t, (after readingCalls).template? "u:reading" = .ok t ∧ t.verb = some "u:read" ∧
      (∃ b, (after readingCalls).templateStatement "u:reading" = .ok b ∧ Prefilled t none b) ∧
      ∃ b, (after readingCalls).statement "u:reading" readingRun = (.ok b, readingRun.record ["u:reading"]) := by
  have hcalls : ∀ call ∈ readingCalls, call.Brings Lookup.OnlyIris := by
    refine List.forall_mem_cons.mpr ⟨List.forall_mem_singleton.mpr fun identifier kind c hc => ?_,
      List.forall_mem_singleton.mpr trivial⟩
    obtain ⟨entry, hentry, rfl⟩ := Option.map_eq_some_iff.mp hc
    rw [List.mem_singleton.mp (List.mem_of_find?_eq_some hentry)]
    decide
  have hread : ((after readingCalls).template? "u:reading").map (fun t => (t.id, t.verb)) =
      .ok ("u:reading", some "u:read") := by decide +kernel
  obtain ⟨t, ht, hid⟩ := map_eq_ok_iff.mp hread
  obtain ⟨hid, hverb⟩ := Prod.mk.inj hid
  obtain ⟨-, hstatement, hnext⟩ := (filled_statements_fit readingCalls hcalls "u:reading" readingRun).2 t ht
  rw [hid, if_pos (by decide +kernel)] at hnext
  obtain ⟨b, hb, -⟩ := hnext
  exact ⟨hcalls, t, ht, hverb, hstatement, b, hb⟩

end Registry

end StatementProfiles
