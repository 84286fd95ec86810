import Mathlib.Data.List.Nodup
import StatementProfiles.Proofs.Registry.Unfolding
import StatementProfiles.Registry.Basic

/-!
# What registration asks of a profile

The checks of a profile by itself (`Profile.validate_eq_ok_iff`), of its IRIs among those in use
(`Registry.checkIds_eq_ok_iff`) and of its templates come down to `Registry.Accepts`. **A profile that is accepted is
added as a whole, and one that is not changes nothing** (`Registry.register_cases`).
-/

namespace StatementProfiles

/-! ## A profile by itself -/

namespace Profile

/-- What holds of a profile that has no fault in its structure. -/
structure Valid (p : Profile) : Prop where
  absolute : ∀ id ∈ p.ids, isAbsoluteIri id
  versioned : p.versions ≠ []
  distinct : (p.entries.map Prod.snd).Nodup
  patterns : ∀ d ∈ p.patterns, d.WellFormed

theorem checkEntries_eq_ok_iff {profile : String} {seen : List String} {es : List (Entry × String)} :
    checkEntries profile seen es = .ok () ↔
      (∀ id ∈ es.map Prod.snd, isAbsoluteIri id) ∧ (es.map Prod.snd).Nodup ∧ (es.map Prod.snd).Disjoint seen := by
  induction es generalizing seen with
  | nil => simp [checkEntries]
  | cons e es ih =>
    by_cases ha : isAbsoluteIri e.2 <;> by_cases hs : e.2 ∈ seen <;>
      simp [checkEntries, ha, hs, ih, List.disjoint_cons_right]
    tauto

theorem checkPattern_eq_ok_iff {d : PatternDefinition} : checkPattern d = .ok () ↔ d.WellFormed := by
  unfold checkPattern PatternDefinition.WellFormed
  cases d.operator with
  | error e => simp
  | ok operator => by_cases h : operator.children = [] <;> simp [h]

theorem checkPatterns_eq_ok_iff {ds : List PatternDefinition} :
    checkPatterns ds = .ok () ↔ ∀ d ∈ ds, d.WellFormed := by
  induction ds with
  | nil => simp [checkPatterns]
  | cons d ds ih =>
    rw [checkPatterns, List.forall_mem_cons, ← checkPattern_eq_ok_iff, ← ih]
    cases checkPattern d <;> simp

theorem validate_eq_ok_iff {p : Profile} : p.validate = .ok () ↔ p.Valid := by
  have hentries : checkEntries p.id [] p.entries = .ok () ↔ _ := checkEntries_eq_ok_iff
  unfold validate
  constructor
  · intro h
    split at h
    · cases h
    · next ha =>
      split at h
      · cases h
      · next hv =>
        split at h
        · cases h
        · next he =>
          obtain ⟨habsolute, hdistinct, -⟩ := hentries.mp he
          exact ⟨List.forall_mem_cons.mpr ⟨by simpa using ha, habsolute⟩, by simpa using hv, hdistinct,
            checkPatterns_eq_ok_iff.mp h⟩
  · rintro ⟨habsolute, hversioned, hdistinct, hpatterns⟩
    obtain ⟨ha, hrest⟩ := List.forall_mem_cons.mp habsolute
    rw [if_neg (by simpa using ha), if_neg (by simpa using hversioned),
      hentries.mpr ⟨hrest, hdistinct, List.disjoint_nil_right _⟩]
    exact checkPatterns_eq_ok_iff.mpr hpatterns

end Profile

/-! ## A profile among others -/

namespace Registry

theorem checkIds_eq_ok_iff {profile : String} {known ids : List String} :
    checkIds profile known ids = .ok () ↔ ids.Nodup ∧ ids.Disjoint known := by
  induction ids generalizing known with
  | nil => simp [checkIds]
  | cons id ids ih =>
    by_cases hk : id ∈ known <;> simp [checkIds, hk, ih, List.disjoint_cons_right]
    tauto

/-- A template is that of a definition of a profile, with IRIs for names. -/
structure IsCompiled (resolver : Resolver) (p : Profile) (d : TemplateDefinition) (t : Template) : Prop where
  id : t.id = d.id
  prefLabel : t.prefLabel = d.prefLabel
  profileId : t.profileId = some p.id
  profileVersion : t.profileVersion = p.currentVersion.map ProfileVersion.id
  verb : Template.resolveName? resolver .verb d.verb = .ok t.verb
  objectActivityType : Template.resolveName? resolver .activityType d.objectActivityType = .ok t.objectActivityType

theorem isCompiled_of_compileTemplate {resolver : Resolver} {p : Profile} {d : TemplateDefinition} {t : Template}
    (h : compileTemplate resolver p d = .ok t) : IsCompiled resolver p d t := by
  obtain ⟨t₀, ht₀, h⟩ := bind_eq_ok_iff.mp h
  obtain ⟨rules, -, rfl⟩ := map_eq_ok_iff.mp ht₀
  obtain ⟨verb, hverb, h⟩ := bind_eq_ok_iff.mp h
  obtain ⟨objectType, hobject, h⟩ := bind_eq_ok_iff.mp h
  obtain ⟨_, -, h⟩ := bind_eq_ok_iff.mp h
  obtain ⟨_, -, h⟩ := bind_eq_ok_iff.mp h
  obtain ⟨_, -, h⟩ := bind_eq_ok_iff.mp h
  obtain ⟨_, -, h⟩ := bind_eq_ok_iff.mp h
  obtain ⟨_, -, h⟩ := bind_eq_ok_iff.mp h
  cases h
  exact ⟨rfl, rfl, rfl, rfl, hverb, hobject⟩

theorem compileTemplates_eq_mapM {resolver : Resolver} {p : Profile} {ds : List TemplateDefinition} :
    compileTemplates resolver p ds = ds.mapM (compileTemplate resolver p) := by
  induction ds with
  | nil => rfl
  | cons d ds ih =>
    rw [compileTemplates, List.mapM_cons, ih]
    cases compileTemplate resolver p d with
    | error e => rfl
    | ok t => cases ds.mapM (compileTemplate resolver p) <;> rfl

variable {r : Registry} {p : Profile} {ts : List Template}

/-- What holds of a profile that a registry adds, with its templates. -/
structure Accepts (r : Registry) (p : Profile) (ts : List Template) : Prop where
  valid : p.Valid
  distinct : p.ids.Nodup
  /-- No IRI of the profile is in use. -/
  fresh : p.ids.Disjoint r.ids
  /-- The names in the templates stand for concepts of the profile, too. -/
  compiled :
    List.Forall₂ (fun d t => compileTemplate (r.resolverOver (r.vocabularyWith p)) p d = .ok t) p.templates ts

/-- **Registration is all or nothing.** -/
theorem register_cases (r : Registry) (p : Profile) :
    (∃ ts, r.Accepts p ts ∧ r.register p = (.ok (), r.add p ts)) ∨
      (∀ ts, ¬r.Accepts p ts) ∧ ∃ e, r.register p = (.error e, r) := by
  unfold register
  cases hv : p.validate with
  | error e =>
    refine .inr ⟨fun ts h => ?_, e, rfl⟩
    rw [Profile.validate_eq_ok_iff.mpr h.valid] at hv
    cases hv
  | ok =>
    by_cases ht : r.profiles.any fun q => q.id == p.id
    · refine .inr ⟨fun ts h => ?_, _, if_pos ht⟩
      obtain ⟨q, hq, hid⟩ := List.any_eq_true.mp ht
      exact h.fresh List.mem_cons_self (List.mem_flatMap.mpr ⟨q, hq, eq_of_beq hid ▸ List.mem_cons_self⟩)
    · simp only [if_neg ht]
      cases hi : checkIds p.id r.ids p.ids with
      | error e =>
        refine .inr ⟨fun ts h => ?_, e, rfl⟩
        rw [checkIds_eq_ok_iff.mpr ⟨h.distinct, h.fresh⟩] at hi
        cases hi
      | ok =>
        cases hc : compileTemplates (r.resolverOver (r.vocabularyWith p)) p p.templates with
        | error e =>
          refine .inr ⟨fun ts h => ?_, e, rfl⟩
          rw [compileTemplates_eq_mapM, mapM_eq_ok_iff.mpr h.compiled] at hc
          cases hc
        | ok ts =>
          rw [compileTemplates_eq_mapM] at hc
          obtain ⟨hdistinct, hfresh⟩ := checkIds_eq_ok_iff.mp hi
          exact .inl ⟨ts, ⟨Profile.validate_eq_ok_iff.mp hv, hdistinct, hfresh, mapM_eq_ok_iff.mp hc⟩, rfl⟩

/-- A profile that is accepted stands behind those before it, and one that is not changes nothing. -/
theorem register_profiles (r : Registry) (p : Profile) :
    (∃ r', r.register p = (.ok (), r') ∧ r'.profiles = r.profiles ++ [p]) ∨ ∃ e, r.register p = (.error e, r) := by
  rcases register_cases r p with ⟨ts, -, h⟩ | ⟨-, h⟩
  · exact .inl ⟨r.add p ts, h, rfl⟩
  · exact .inr h

end Registry

end StatementProfiles
