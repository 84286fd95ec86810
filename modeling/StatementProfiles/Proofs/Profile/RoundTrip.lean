import StatementProfiles.Profile.Basic
import StatementProfiles.Proofs.Datum.Fields
import StatementProfiles.Proofs.Time.RoundTrip

/-!
# Profiles that are written and read back

Every part of a profile is read again of what is written for it: references, versions, rules, templates, patterns, and
concepts with all their further properties. **So a profile that was read of a value is read back from its own, and what
is written for it stays the same** (`Profile.read_back`).
-/

namespace StatementProfiles

open Datum Slots

/-! ## References and names -/

theorem Reference.ofDatum?_ofJson_toJson (r : Reference) : ofDatum? (.ofJson r.toJson) = some r := by
  cases r with
  | bare id => rfl
  | object id => rfl

theorem Reference.faithful : Faithful ofDatum? toJson :=
  faithful_of_total ofDatum?_ofJson_toJson fun r => by cases r <;> exact fun h => nomatch h

theorem Presence.faithful :
    Faithful (fun d => d.choice?.bind Presence.ofName?) fun p => .string p.name :=
  faithful_of_total (fun p => by cases p <;> decide) fun _ h => nomatch h

theorem ConceptKind.faithful : Faithful Concept.kind? fun kind => .string kind.name :=
  faithful_of_total (fun kind => ConceptKind.ofName?_name kind) fun _ h => nomatch h

/-! ## Versions -/

namespace ProfileVersion

theorem faithful_instant : Faithful instant? fun t => .string (t.render .exact) where
  reads j t h := by
    obtain ⟨s, -, ht⟩ := Option.bind_eq_some_iff.mp h
    exact (Instant.onClock_of_ofString? ht).ofString?_render
  null _ _ _ heq := nomatch heq

/-- The fields as they are written. -/
def table (v : ProfileVersion) : List (String × Option Json) :=
  [("id", some (.string v.id)),
    ("wasRevisionOf", if v.wasRevisionOf.isEmpty then none else some (.strings v.wasRevisionOf)),
    ("generatedAtTime", v.generatedAtTime.map fun t => .string (t.render .exact))]

theorem toJson_eq (v : ProfileVersion) : v.toJson = .ofPairs (Json.present v.table) := by
  simp only [toJson, table, Json.present_cons_some, Json.present_cons_ite, Json.present_cons_map, Json.present_nil,
    List.cons_append, List.nil_append, List.append_nil]

theorem faithful : Faithful ofDatum? toJson := by
  rw [funext toJson_eq]
  refine Faithful.record (by simp [table, fieldNames]) (by simp [table]) fun s s' x hs h hw => ?_
  obtain ⟨id, hid, h⟩ := Option.bind_eq_some_iff.mp h
  obtain ⟨revised, hrevised, h⟩ := Option.bind_eq_some_iff.mp h
  obtain ⟨time, htime, rfl⟩ := Option.map_eq_some_iff.mp h
  simp only [table, List.forall_mem_cons] at hw
  obtain ⟨hwid, hwrevised, hwtime, -⟩ := hw
  simp only [required?_again hs faithful_text hid hwid, listed_again hs faithful_text hrevised hwrevised,
    optional?_again hs faithful_instant htime hwtime, Option.bind_some, Option.map_some]

end ProfileVersion

/-! ## Rules -/

namespace Rule

/-- The fields as they are written. -/
def table (r : Rule) : List (String × Option Json) :=
  [("location", some (.string r.location)),
    ("selector", r.selector.map .string),
    ("presence", r.presence.map fun p => .string p.name),
    ("any", r.any.map .array),
    ("all", r.all.map .array),
    ("none", r.none.map .array),
    ("scopeNote", r.scopeNote.map .ofTexts)]

theorem toJson_eq (r : Rule) : r.toJson = .ofPairs (Json.present r.table) := by
  simp only [toJson, table, Json.present_cons_some, Json.present_cons_map, Json.present_nil, List.append_assoc,
    List.cons_append, List.nil_append, List.append_nil]

theorem faithful_values : Faithful (list? json?) .array := by
  have h := faithful_json.list
  simpa using h

theorem faithful : Faithful ofDatum? toJson := by
  rw [funext toJson_eq]
  refine Faithful.record (by simp [table, fieldNames]) (by simp [table]) fun s s' x hs h hw => ?_
  obtain ⟨location, hlocation, h⟩ := Option.bind_eq_some_iff.mp h
  obtain ⟨selector, hselector, h⟩ := Option.bind_eq_some_iff.mp h
  obtain ⟨presence, hpresence, h⟩ := Option.bind_eq_some_iff.mp h
  obtain ⟨any, hany, h⟩ := Option.bind_eq_some_iff.mp h
  obtain ⟨all, hall, h⟩ := Option.bind_eq_some_iff.mp h
  obtain ⟨forbidden, hforbidden, h⟩ := Option.bind_eq_some_iff.mp h
  obtain ⟨scopeNote, hscopeNote, rfl⟩ := Option.map_eq_some_iff.mp h
  simp only [table, List.forall_mem_cons] at hw
  obtain ⟨hwlocation, hwselector, hwpresence, hwany, hwall, hwforbidden, hwscopeNote, -⟩ := hw
  simp only [required?_again hs faithful_text hlocation hwlocation,
    optional?_again hs faithful_text hselector hwselector, optional?_again hs Presence.faithful hpresence hwpresence,
    optional?_again hs faithful_values hany hwany, optional?_again hs faithful_values hall hwall,
    optional?_again hs faithful_values hforbidden hwforbidden, optional?_again hs faithful_texts hscopeNote hwscopeNote,
    Option.bind_some, Option.map_some]

end Rule

/-! ## Templates -/

namespace TemplateDefinition

/-- A list of texts, which is left out when it is empty. -/
def listed? (texts : List String) : Option Json := if texts.isEmpty then none else some (.strings texts)

/-- The fields as they are written. -/
def table (t : TemplateDefinition) : List (String × Option Json) :=
  [("id", some (.string t.id)),
    ("inScheme", t.inScheme.map .string),
    ("prefLabel", some (.ofTexts t.prefLabel)),
    ("definition", some (.ofTexts t.definition)),
    ("verb", t.verb.map .string),
    ("objectActivityType", t.objectActivityType.map .string),
    ("contextParentActivityType", listed? t.contextParentActivityType),
    ("contextGroupingActivityType", listed? t.contextGroupingActivityType),
    ("contextCategoryActivityType", listed? t.contextCategoryActivityType),
    ("contextOtherActivityType", listed? t.contextOtherActivityType),
    ("attachmentUsageType", listed? t.attachmentUsageType),
    ("objectStatementRefTemplate", listed? t.objectStatementRefTemplate),
    ("contextStatementRefTemplate", listed? t.contextStatementRefTemplate),
    ("rules", some (.array (t.rules.map Rule.toJson)))]

theorem toJson_eq (t : TemplateDefinition) : t.toJson = .ofPairs (Json.present t.table) := by
  simp only [toJson, table, listed, listed?, Json.present_cons_some, Json.present_cons_ite, Json.present_cons_map,
    Json.present_nil, List.append_assoc, List.cons_append, List.nil_append]

theorem faithful : Faithful ofDatum? toJson := by
  rw [funext toJson_eq]
  refine Faithful.record (by simp [table, fieldNames]) (by simp [table]) fun s s' x hs h hw => ?_
  obtain ⟨id, hid, h⟩ := Option.bind_eq_some_iff.mp h
  obtain ⟨inScheme, hinScheme, h⟩ := Option.bind_eq_some_iff.mp h
  obtain ⟨prefLabel, hprefLabel, h⟩ := Option.bind_eq_some_iff.mp h
  obtain ⟨definition, hdefinition, h⟩ := Option.bind_eq_some_iff.mp h
  obtain ⟨verb, hverb, h⟩ := Option.bind_eq_some_iff.mp h
  obtain ⟨type, htype, h⟩ := Option.bind_eq_some_iff.mp h
  obtain ⟨parent, hparent, h⟩ := Option.bind_eq_some_iff.mp h
  obtain ⟨grouping, hgrouping, h⟩ := Option.bind_eq_some_iff.mp h
  obtain ⟨category, hcategory, h⟩ := Option.bind_eq_some_iff.mp h
  obtain ⟨other, hother, h⟩ := Option.bind_eq_some_iff.mp h
  obtain ⟨usage, husage, h⟩ := Option.bind_eq_some_iff.mp h
  obtain ⟨objectRef, hobjectRef, h⟩ := Option.bind_eq_some_iff.mp h
  obtain ⟨contextRef, hcontextRef, h⟩ := Option.bind_eq_some_iff.mp h
  obtain ⟨rules, hrules, rfl⟩ := Option.map_eq_some_iff.mp h
  simp only [table, List.forall_mem_cons] at hw
  obtain ⟨hwid, hwinScheme, hwprefLabel, hwdefinition, hwverb, hwtype, hwparent, hwgrouping, hwcategory, hwother,
    hwusage, hwobjectRef, hwcontextRef, hwrules, -⟩ := hw
  simp only [required?_again hs faithful_text hid hwid, optional?_again hs faithful_text hinScheme hwinScheme,
    withDefault?_again hs faithful_texts rfl hprefLabel hwprefLabel,
    withDefault?_again hs faithful_texts rfl hdefinition hwdefinition, optional?_again hs faithful_text hverb hwverb,
    optional?_again hs faithful_text htype hwtype, listed_again hs faithful_text hparent hwparent,
    listed_again hs faithful_text hgrouping hwgrouping, listed_again hs faithful_text hcategory hwcategory,
    listed_again hs faithful_text hother hwother, listed_again hs faithful_text husage hwusage,
    listed_again hs faithful_text hobjectRef hwobjectRef, listed_again hs faithful_text hcontextRef hwcontextRef,
    withDefault?_again hs Rule.faithful.list rfl hrules hwrules, Option.bind_some, Option.map_some]

end TemplateDefinition

/-! ## Patterns -/

namespace PatternDefinition

/-- The fields as they are written. -/
def table (p : PatternDefinition) : List (String × Option Json) :=
  [("id", some (.string p.id)),
    ("primary", some (.bool p.primary)),
    ("inScheme", p.inScheme.map .string),
    ("prefLabel", some (.ofTexts p.prefLabel)),
    ("definition", some (.ofTexts p.definition)),
    ("sequence", p.sequence.map referencesJson),
    ("alternates", p.alternates.map referencesJson),
    ("optional", p.optional.map Reference.toJson),
    ("oneOrMore", p.oneOrMore.map Reference.toJson),
    ("zeroOrMore", p.zeroOrMore.map Reference.toJson)]

theorem toJson_eq (p : PatternDefinition) : p.toJson = .ofPairs (Json.present p.table) := by
  simp only [toJson, table, Json.present_cons_some, Json.present_cons_map, Json.present_nil, List.append_assoc,
    List.cons_append, List.nil_append, List.append_nil]

theorem faithful_references : Faithful (list? Reference.ofDatum?) referencesJson := Reference.faithful.list

theorem faithful : Faithful ofDatum? toJson := by
  rw [funext toJson_eq]
  refine Faithful.record (by simp [table, fieldNames]) (by simp [table]) fun s s' x hs h hw => ?_
  obtain ⟨id, hid, h⟩ := Option.bind_eq_some_iff.mp h
  obtain ⟨primary, hprimary, h⟩ := Option.bind_eq_some_iff.mp h
  obtain ⟨inScheme, hinScheme, h⟩ := Option.bind_eq_some_iff.mp h
  obtain ⟨prefLabel, hprefLabel, h⟩ := Option.bind_eq_some_iff.mp h
  obtain ⟨definition, hdefinition, h⟩ := Option.bind_eq_some_iff.mp h
  obtain ⟨sequence, hsequence, h⟩ := Option.bind_eq_some_iff.mp h
  obtain ⟨alternates, halternates, h⟩ := Option.bind_eq_some_iff.mp h
  obtain ⟨optional, hoptional, h⟩ := Option.bind_eq_some_iff.mp h
  obtain ⟨oneOrMore, honeOrMore, h⟩ := Option.bind_eq_some_iff.mp h
  obtain ⟨zeroOrMore, hzeroOrMore, rfl⟩ := Option.map_eq_some_iff.mp h
  simp only [table, List.forall_mem_cons] at hw
  obtain ⟨hwid, hwprimary, hwinScheme, hwprefLabel, hwdefinition, hwsequence, hwalternates, hwoptional, hwoneOrMore,
    hwzeroOrMore, -⟩ := hw
  simp only [required?_again hs faithful_text hid hwid, withDefault?_again hs faithful_flag rfl hprimary hwprimary,
    optional?_again hs faithful_text hinScheme hwinScheme,
    withDefault?_again hs faithful_texts rfl hprefLabel hwprefLabel,
    withDefault?_again hs faithful_texts rfl hdefinition hwdefinition,
    optional?_again hs faithful_references hsequence hwsequence,
    optional?_again hs faithful_references halternates hwalternates,
    optional?_again hs Reference.faithful hoptional hwoptional,
    optional?_again hs Reference.faithful honeOrMore hwoneOrMore,
    optional?_again hs Reference.faithful hzeroOrMore hwzeroOrMore, Option.bind_some, Option.map_some]

end PatternDefinition

/-! ## Concepts -/

namespace ConceptDefinition

/-- The fields as they are written, without the further properties. -/
def table (c : ConceptDefinition) : List (String × Option Json) :=
  [("id", some (.string c.id)),
    ("type", some (.string c.kind.name)),
    ("inScheme", c.inScheme.map .string),
    ("prefLabel", some (.ofTexts c.prefLabel)),
    ("definition", some (.ofTexts c.definition))]

theorem toJson_eq (c : ConceptDefinition) : c.toJson = .ofPairs (Json.present c.table ++ c.extra) := by
  simp only [toJson, table, Json.present_cons_some, Json.present_cons_map, Json.present_nil, List.append_assoc,
    List.cons_append, List.nil_append]

theorem keys_table_nodup (c : ConceptDefinition) : (c.table.map Prod.fst).Nodup := by
  simp [table]

theorem mem_fieldNames_of_present {c : ConceptDefinition} {m : String × Json} (h : m ∈ Json.present c.table) :
    m.1 ∈ fieldNames :=
  (Json.keys_present_sublist c.table).mem (List.mem_map_of_mem h)

/-- Further properties have names of their own, in order, and ordered values. -/
structure Further (extra : Members Json) : Prop where
  sorted : extra.Sorted
  unknown : ∀ m ∈ extra, m.1 ∉ fieldNames
  ordered : ∀ m ∈ extra, m.2.Ordered

theorem unknown_of_extras? {ms : Members Json} {extra : List (String × Json)}
    (h : extras? (Datum.ofMembers ms) = some extra) : ∀ m ∈ extra, m.1 ∉ fieldNames ∧ m.2.Ordered := by
  induction ms generalizing extra with
  | nil =>
    cases h
    intro m hm
    cases hm
  | cons m ms ih =>
    obtain ⟨name, -, hrest⟩ := Option.bind_eq_some_iff.mp h
    obtain ⟨more, hmore, heq⟩ := Option.bind_eq_some_iff.mp hrest
    split at heq
    · cases heq
      exact ih hmore
    · next hname =>
      obtain ⟨v, hv, heq⟩ := Option.map_eq_some_iff.mp heq
      cases heq
      have hunknown : name ∉ fieldNames := fun hmem => hname (List.contains_iff_mem.mpr hmem)
      exact List.forall_mem_cons.mpr ⟨⟨hunknown, ordered_of_value? m.2 hv⟩, ih hmore⟩

theorem further_ofList {ms : Members Json} {extra : List (String × Json)}
    (h : extras? (Datum.ofMembers ms) = some extra) : Further (Members.ofList extra) where
  sorted := Members.sorted_ofList extra
  unknown m hm := (unknown_of_extras? h m (Members.mem_of_mem_ofList hm)).1
  ordered m hm := (unknown_of_extras? h m (Members.mem_of_mem_ofList hm)).2

/-- The members under other names are read as further properties. -/
theorem extras?_ofMembers {ms : Members Json} (h : ∀ m ∈ ms, m.1 ∉ fieldNames → m.2.Ordered) :
    extras? (Datum.ofMembers ms) = some (ms.filter fun m => !fieldNames.contains m.1) := by
  induction ms with
  | nil => rfl
  | cons m ms ih =>
    obtain ⟨hm, hms⟩ := List.forall_mem_cons.mp h
    rw [Datum.ofMembers, extras?, ih hms, List.filter_cons]
    simp only [text?, Option.bind_some]
    split
    · next hname => rw [if_neg (by rw [hname]; decide)]
    · next hname =>
      have hunknown : m.1 ∉ fieldNames := fun hmem => hname (List.contains_iff_mem.mpr hmem)
      rw [strictJson?, value?_ofJson_of_ordered (fun _ => rfl) (hm hunknown), if_pos (by simpa using hname)]
      rfl

/-- The members of a concept as it is written. -/
def members (c : ConceptDefinition) : Members Json := Members.ofList (Json.present c.table ++ c.extra)

section Written

variable {c : ConceptDefinition} (h : Further c.extra)

include h

theorem Further.find?_eq_none {name : String} (hname : name ∈ fieldNames) : c.extra.find? name = none :=
  Members.find?_eq_none fun hmem => by
    obtain ⟨m, hm, rfl⟩ := List.mem_map.mp hmem
    exact h.unknown m hm hname

theorem Further.keys_nodup : (Members.keys (Json.present c.table ++ c.extra)).Nodup := by
  rw [Members.keys, List.map_append, List.nodup_append]
  refine ⟨(Json.keys_present_sublist c.table).nodup c.keys_table_nodup, h.sorted.nodup_keys, ?_⟩
  rintro k hk _ hk' rfl
  obtain ⟨m, hm, rfl⟩ := List.mem_map.mp hk
  obtain ⟨m', hm', heq⟩ := List.mem_map.mp hk'
  exact h.unknown m' hm' (heq ▸ mem_fieldNames_of_present hm)

theorem Further.find?_members (key : String) :
    c.members.find? key = (Members.find? (Json.present c.table) key).or (c.extra.find? key) := by
  rw [members, Members.find?_ofList h.keys_nodup, Members.find?_append]

/-- The fields are found under their names. -/
theorem Further.find?_field : ∀ field ∈ c.table, c.members.find? field.1 = field.2 := by
  intro field hfield
  have hname : field.1 ∈ fieldNames := List.mem_map_of_mem hfield
  rw [h.find?_members, Json.find?_present c.keys_table_nodup field hfield, h.find?_eq_none hname, Option.or_none]

/-- The further properties come back. -/
theorem Further.extras?_members : ∃ extra, extras? (Datum.ofMembers c.members) = some extra ∧
    Members.ofList extra = c.extra := by
  have hsorted : c.members.Sorted := Members.sorted_ofList _
  have hordered : ∀ m ∈ c.members, m.1 ∉ fieldNames → m.2.Ordered := by
    intro m hm hunknown
    rcases List.mem_append.mp (Members.mem_of_mem_ofList hm) with hm | hm
    · exact absurd (mem_fieldNames_of_present hm) hunknown
    · exact h.ordered m hm
  refine ⟨_, extras?_ofMembers hordered, ?_⟩
  have hrest : Members.Sorted (c.members.filter fun m => !fieldNames.contains m.1) :=
    List.Pairwise.sublist (List.filter_sublist.map Prod.fst) hsorted
  rw [hrest.ofList_eq]
  refine hrest.eq_of_find?_eq h.sorted fun key => ?_
  rw [Members.find?_filter (fun name => !fieldNames.contains name)]
  by_cases hkey : key ∈ fieldNames
  · rw [h.find?_eq_none hkey, if_neg (by simpa using hkey)]
  · have htable : Members.find? (Json.present c.table) key = none := by
      refine Members.find?_eq_none fun hmem => hkey ?_
      obtain ⟨m, hm, rfl⟩ := List.mem_map.mp hmem
      exact mem_fieldNames_of_present hm
    rw [if_pos (by simpa using hkey), h.find?_members, htable, Option.none_or]

end Written

theorem faithful : Faithful ofDatum? toJson where
  reads j c h := by
    simp only [ofDatum?, Option.bind_eq_some_iff, Option.map_eq_some_iff] at h
    obtain ⟨entries, hentries, s, ⟨fields, hfields, rfl⟩, id, hid, kind, hkind, inScheme, hinScheme, prefLabel,
      hprefLabel, definition, hdefinition, extra, hextra, rfl⟩ := h
    cases j with
    | object ms =>
      cases hentries
      have hs := fromJson_known? hfields
      obtain ⟨c, hc⟩ : ∃ c : ConceptDefinition, c = ⟨id, kind, inScheme, prefLabel, definition, Members.ofList extra⟩ :=
        ⟨_, rfl⟩
      have hfurther : Further c.extra := hc ▸ further_ofList hextra
      have hknown : known? fieldNames (Datum.ofMembers c.members) = some (Slots.ofMembers fieldNames c.members) :=
        known?_ofMembers (Members.sorted_ofList _).nodup_keys
      obtain ⟨extra', hextra', hsame⟩ := hfurther.extras?_members
      have hw : ∀ field ∈ c.table,
          (named (Slots.ofMembers fieldNames c.members)).written? field.1 = field.2.map ofJson := by
        intro field hfield
        have hname : field.1 ∈ fieldNames := List.mem_map_of_mem hfield
        rw [written?, find?_ofMembers _ hname, hfurther.find?_field field hfield]
      have hwritten : entries? (.ofJson c.toJson) = some (Datum.ofMembers c.members) := by
        rw [toJson_eq]
        rfl
      subst hc
      simp only [table, List.forall_mem_cons] at hw
      obtain ⟨hwid, hwkind, hwinScheme, hwprefLabel, hwdefinition, -⟩ := hw
      simp only [ofDatum?, hwritten, Option.bind_some, hknown, Option.map_some,
        required?_again hs faithful_text hid hwid, required?_again hs ConceptKind.faithful hkind hwkind,
        optional?_again hs faithful_text hinScheme hwinScheme,
        withDefault?_again hs faithful_texts rfl hprefLabel hwprefLabel,
        withDefault?_again hs faithful_texts rfl hdefinition hwdefinition, hextra', hsame]
    | _ => cases hentries
  null j c _ heq := nomatch heq

end ConceptDefinition

/-! ## Profiles -/

namespace Profile

/-- The fields as they are written. -/
def table (p : Profile) : List (String × Option Json) :=
  [("id", some (.string p.id)),
    ("type", p.type.map .string),
    ("@context", p.context.map fun j => j),
    ("conformsTo", p.conformsTo.map .string),
    ("prefLabel", some (.ofTexts p.prefLabel)),
    ("definition", some (.ofTexts p.definition)),
    ("author", p.author.map fun j => j),
    ("versions", some (.array (p.versions.map ProfileVersion.toJson))),
    ("concepts", some (.array (p.concepts.map ConceptDefinition.toJson))),
    ("templates", some (.array (p.templates.map TemplateDefinition.toJson))),
    ("patterns", some (.array (p.patterns.map PatternDefinition.toJson)))]

theorem toJson_eq (p : Profile) : p.toJson = .ofPairs (Json.present p.table) := by
  simp only [toJson, table, Json.present_cons_some, Json.present_cons_map, Json.present_nil, List.append_assoc,
    List.cons_append, List.nil_append]

theorem faithful : Faithful ofDatum? toJson := by
  rw [funext toJson_eq]
  refine Faithful.record (by simp [table, fieldNames]) (by simp [table]) fun s s' x hs h hw => ?_
  obtain ⟨id, hid, h⟩ := Option.bind_eq_some_iff.mp h
  obtain ⟨type, htype, h⟩ := Option.bind_eq_some_iff.mp h
  obtain ⟨context, hcontext, h⟩ := Option.bind_eq_some_iff.mp h
  obtain ⟨conformsTo, hconformsTo, h⟩ := Option.bind_eq_some_iff.mp h
  obtain ⟨prefLabel, hprefLabel, h⟩ := Option.bind_eq_some_iff.mp h
  obtain ⟨definition, hdefinition, h⟩ := Option.bind_eq_some_iff.mp h
  obtain ⟨author, hauthor, h⟩ := Option.bind_eq_some_iff.mp h
  obtain ⟨versions, hversions, h⟩ := Option.bind_eq_some_iff.mp h
  obtain ⟨concepts, hconcepts, h⟩ := Option.bind_eq_some_iff.mp h
  obtain ⟨templates, htemplates, h⟩ := Option.bind_eq_some_iff.mp h
  obtain ⟨patterns, hpatterns, rfl⟩ := Option.map_eq_some_iff.mp h
  simp only [table, List.forall_mem_cons] at hw
  obtain ⟨hwid, hwtype, hwcontext, hwconformsTo, hwprefLabel, hwdefinition, hwauthor, hwversions, hwconcepts,
    hwtemplates, hwpatterns, -⟩ := hw
  simp only [required?_again hs faithful_text hid hwid, optional?_again hs faithful_text htype hwtype,
    optional?_again hs faithful_json hcontext hwcontext, optional?_again hs faithful_text hconformsTo hwconformsTo,
    withDefault?_again hs faithful_texts rfl hprefLabel hwprefLabel,
    withDefault?_again hs faithful_texts rfl hdefinition hwdefinition,
    optional?_again hs faithful_json hauthor hwauthor,
    required?_again hs ProfileVersion.faithful.list hversions hwversions,
    withDefault?_again hs ConceptDefinition.faithful.list rfl hconcepts hwconcepts,
    withDefault?_again hs TemplateDefinition.faithful.list rfl htemplates hwtemplates,
    withDefault?_again hs PatternDefinition.faithful.list rfl hpatterns hwpatterns, Option.bind_some, Option.map_some]

/-- **A profile that was read of a value is read back from its own**, and what is written for it is written again. -/
theorem read_back {j : Json} {p : Profile} (h : ofDatum? (.ofJson j) = some p) :
    ofDatum? (.ofJson p.toJson) = some p ∧ (ofDatum? (.ofJson p.toJson)).map toJson = some p.toJson := by
  have hback := faithful.reads j p h
  refine ⟨hback, ?_⟩
  rw [hback, Option.map_some]

/-- A profile as someone may write it: keys in no order, a field without a value, a time at an offset from UTC, a rule
that allows no value, and a pattern that names its children both ways. -/
def bookClub : Json :=
  .object [
    ("versions", .array [.object [("id", .string "u:club/1"),
      ("generatedAtTime", .string "2016-12-31T18:59:60-05:00")]]),
    ("id", .string "u:club"), ("author", .null),
    ("concepts", .array [.object [("type", .string "Verb"), ("recommended", .object [("b", .null), ("a", .int 1)]),
      ("id", .string "u:read"), ("prefLabel", .object [("fr", .string "lire"), ("en", .string "read")])]]),
    ("templates", .array [.object [("id", .string "u:reading"),
      ("rules", .array [.object [("location", .string "$.result"), ("any", .array [])]])]]),
    ("patterns", .array [.object [("id", .string "u:evening"),
      ("sequence", .array [.string "u:reading", .object [("id", .string "u:talk")]])]])]

/-- What is read of it. -/
def bookClubProfile : Profile :=
  let version : ProfileVersion := ⟨"u:club/1", [], some ⟨⟨2016, 12, 31⟩, 23, 59, 59, Instant.perSecond⟩⟩
  let read : ConceptDefinition := ⟨"u:read", .verb, none, [("en", "read"), ("fr", "lire")], [],
    [("recommended", .object [("a", .int 1), ("b", .null)])]⟩
  let rule : Rule := { (default : Rule) with location := "$.result", any := some [] }
  let reading : TemplateDefinition := { (default : TemplateDefinition) with id := "u:reading", rules := [rule] }
  let evening : PatternDefinition := { (default : PatternDefinition) with
    id := "u:evening", sequence := some [.bare "u:reading", .object "u:talk"] }
  { (default : Profile) with
    id := "u:club", versions := [version], concepts := [read], templates := [reading], patterns := [evening] }

theorem read_back_bookClub :
    ofDatum? (.ofJson bookClub) = some bookClubProfile ∧ bookClubProfile.toJson ≠ bookClub ∧
      ofDatum? (.ofJson bookClubProfile.toJson) = some bookClubProfile := by
  have hread : ofDatum? (.ofJson bookClub) = some bookClubProfile := by decide +kernel
  have hother : bookClubProfile.toJson ≠ bookClub := by decide +kernel
  exact ⟨hread, hother, (read_back hread).1⟩

end Profile

end StatementProfiles
