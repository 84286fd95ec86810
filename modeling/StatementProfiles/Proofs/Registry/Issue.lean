import StatementProfiles.Proofs.Document.Gathering
import StatementProfiles.Proofs.Registry.Prefill

/-!
# Lists of the documents that a registry begins

A statement that a registry begins has one entry in its lists, the activity that names the version of the profile
(`Registry.holds_of_issues`). **In every chain of settings that follows, each list keeps its entries and their order and
gains those that the settings bring, up to the finished document** (`Registry.lists_keep_their_entries`).
-/

namespace StatementProfiles

namespace Registry

variable {r : Registry} {b b₀ : Builder} {t : Template}

/-- The registry begins a statement of the template that a name stands for, outside of any run or in one. -/
def Issues (r : Registry) (name : String) (b : Builder) : Prop :=
  r.templateStatement name = .ok b ∨ ∃ o o', r.statement name o = (.ok b, o')

theorem Issues.exists_prefill {name : String} (h : r.Issues name b) :
    ∃ t registration, r.template? name = .ok t ∧ r.prefill t registration = .ok b := by
  rcases h with h | ⟨o, o', h⟩
  · obtain ⟨t, ht, hb⟩ := bind_eq_ok_iff.mp h
    exact ⟨t, none, ht, hb⟩
  · unfold statement at h
    split at h
    · cases h
    · next t ht =>
      split at h
      · cases h
      · next b' hb =>
        split at h
        · cases h
        · cases h
          exact ⟨t, some o.registration, ht, hb⟩

/-- What a version of a profile begins a list with. -/
def entriesOfVersion (version : String) : Gathering → List Json
  | .activities .category => [versionDocument version]
  | _ => []

/-- What a template determines brings no entry to a list. -/
theorem entries_templateSettings (t : Template) (registration : Option Uuid) (g : Gathering) :
    (templateSettings t registration).filterMap g.brings? = [] := by
  rw [List.filterMap_eq_nil_iff]
  intro s hs
  simp only [templateSettings, List.mem_append, List.mem_map] at hs
  rcases hs with (⟨_, -, rfl⟩ | ⟨_, -, rfl⟩) | ⟨_, -, rfl⟩ <;> cases g <;> rfl

/-- A statement that is filled in comes of an empty one by settings. -/
theorem told_of_prefill {registration : Option Uuid} (h : r.prefill t registration = .ok b) :
    ∃ more, r.versionSettings t.profileVersion = .ok more ∧
      (Builder.start .statement).Told (templateSettings t registration ++ more) b := by
  unfold prefill at h
  split at h
  · cases h
  · next b₁ h₁ =>
    obtain ⟨more, hmore, hb⟩ := bind_eq_ok_iff.mp h
    have hblank : (Builder.start .statement).Told [] (r.blank t) :=
      Builder.Told.nothing.equip r.resolver (some t) r.options
    exact ⟨more, hmore, (hblank.applyAll h₁).applyAll hb⟩

theorem holds_of_issues {ts : List Template} (hr : r.Built ts) {name : String} (h : r.Issues name b) :
    ∃ t version, r.template? name = .ok t ∧ t.profileVersion = some version ∧ b.document.SpineTidy ∧
      ∀ g : Gathering, g.Holds b.document (entriesOfVersion version g) := by
  obtain ⟨t, registration, ht, hb⟩ := h.exists_prefill
  obtain ⟨version, hversion⟩ := hr.exists_version_of_template? ht
  obtain ⟨more, hmore, htold⟩ := told_of_prefill hb
  have hstart := Builder.spineTidy_start .statement
  refine ⟨t, version, ht, hversion, htold.spineTidy hstart, fun g => ?_⟩
  rw [hversion] at hmore
  obtain ⟨activity, hactivity, rfl⟩ := map_eq_ok_iff.mp hmore
  obtain ⟨activity', hactivity', -, hdocument⟩ := exists_versionActivity hr.anyIri_mem version
  cases hactivity.symm.trans hactivity'
  have hentries : ([.contextActivity .category activity] : List Setting).filterMap g.brings? =
      entriesOfVersion version g := by
    cases g with
    | activities relation =>
      cases relation with
      | category => exact congrArg (fun doc => [doc]) hdocument
      | parent | grouping | other => rfl
    | attachments | members => rfl
  have hholds := htold.holds hstart (g.holds_start .statement)
  rwa [List.filterMap_append, entries_templateSettings, hentries] at hholds

end Registry

/-- A list has these entries, in the document of a builder and in all that it may be finished to. -/
structure Gathering.Keeps (g : Gathering) (b : Builder) (entries : List Json) : Prop where
  document : g.Holds b.document entries
  build : ∀ fresh doc, b.build fresh = .ok doc → g.Holds doc entries

namespace Registry

/-- **Lists keep their entries.** Whatever a fresh builder is told, each list has what the settings brought, in their
order; that of a statement which a registry began has the version of the profile in front, if it is a list of category
activities. The finished document has the same lists. -/
theorem lists_keep_their_entries (calls : List Call) :
    (∀ kind ss b, (Builder.start kind).Told ss b → ∀ g : Gathering, g.Keeps b (ss.filterMap g.brings?)) ∧
    ∀ name b₀, (after calls).Issues name b₀ →
      ∃ t version, (after calls).template? name = .ok t ∧ t.profileVersion = some version ∧
        ∀ ss b, b₀.Told ss b → ∀ g : Gathering, g.Keeps b (entriesOfVersion version g ++ ss.filterMap g.brings?) := by
  constructor
  · intro kind ss b h g
    have hstart := Builder.spineTidy_start kind
    have hholds := h.holds hstart (g.holds_start kind)
    exact ⟨hholds, fun fresh doc hb => hholds.build (h.spineTidy hstart) hb⟩
  · intro name b₀ h₀
    obtain ⟨ts, hr⟩ := exists_built_after calls
    obtain ⟨t, version, ht, hversion, hdoc, hbegun⟩ := holds_of_issues hr h₀
    refine ⟨t, version, ht, hversion, fun ss b h g => ?_⟩
    have hholds := h.holds hdoc (hbegun g)
    exact ⟨hholds, fun fresh doc hb => hholds.build (h.spineTidy hdoc) hb⟩

/-- The category activities that settings bring, by their ids. -/
def categoryIds (ss : List Setting) : List (Option Json) :=
  (ss.filterMap (Gathering.activities .category).brings?).map fun activity => activity.get? ["id"]

/-- What is told of a reading in two lessons, with a picture. -/
def lessonSettings : Except Error (List Setting) := do
  let one ← Builder.activity "u:one"
  let two ← Builder.activity "u:two"
  let picture ← (Builder.start .attachment).apply (.contentType "image/png")
  return [.contextActivity .category one, .success true, .contextActivity .parent two, .attachment picture,
    .language "en", .contextActivity .category two, .contextExtension "u:page" (.int 7), .contextActivity .category one]

theorem lists_keep_their_entries_lessons :
    ∃ b₀ ss b, (after readingCalls).Issues "u:reading" b₀ ∧ b₀.Told ss b ∧
      categoryIds ss = [some (.string "u:one"), some (.string "u:two"), some (.string "u:one")] ∧
      (Gathering.activities .category).Keeps b
        (versionDocument "u:books/1" :: ss.filterMap (Gathering.activities .category).brings?) ∧
      (Gathering.activities .parent).Keeps b (ss.filterMap (Gathering.activities .parent).brings?) ∧
      (Builder.start .group).Told [] (Builder.start .group) ∧ Gathering.members.Keeps (Builder.start .group) [] := by
  have hversion : ((after readingCalls).template? "u:reading").map Template.profileVersion =
      .ok (some "u:books/1") := by decide +kernel
  have hids : (do
      let ss ← lessonSettings
      let b₀ ← (after readingCalls).templateStatement "u:reading"
      let _ ← b₀.applyAll ss
      return categoryIds ss) =
      .ok [some (.string "u:one"), some (.string "u:two"), some (.string "u:one")] := by decide +kernel
  obtain ⟨ss, hss, hrest⟩ := bind_eq_ok_iff.mp hids
  obtain ⟨b₀, hissued, hrest⟩ := bind_eq_ok_iff.mp hrest
  obtain ⟨b, hb, hids⟩ := bind_eq_ok_iff.mp hrest
  have htold : b₀.Told ss b := Builder.Told.nothing.applyAll hb
  obtain ⟨hfresh, hissues⟩ := lists_keep_their_entries readingCalls
  obtain ⟨t, version, ht, hv, hkeeps⟩ := hissues "u:reading" b₀ (.inl hissued)
  rw [ht] at hversion
  cases hv.symm.trans (Except.ok.inj hversion)
  exact ⟨b₀, ss, b, .inl hissued, htold, Except.ok.inj hids, hkeeps ss b htold (.activities .category),
    hkeeps ss b htold (.activities .parent), .nothing, hfresh .group [] _ .nothing .members⟩

end Registry

end StatementProfiles
