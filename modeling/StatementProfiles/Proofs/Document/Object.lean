import StatementProfiles.Proofs.Document.Merge
import StatementProfiles.Proofs.Document.Reach

/-!
# What the object of a statement is made of

An agent, a group, a statement or a reference that becomes the object replaces what was there. An activity is merged
into what is there, and the type of an activity is written into it, whatever that is: members that activities do not
have stay, and the object says that it is an activity (`Builder.person_stays`). No other step makes such an object
(`Builder.mixed_iff_of_step`). **Where no activity is put over something else, the object is that of an activity or of
something else, and never of both** (`Builder.object_of_one_kind`).
-/

namespace StatementProfiles

namespace Json

theorem contains_object_iff {ms : Members Json} {key : String} : (Json.object ms).contains [key] ↔ key ∈ ms.keys := by
  rw [contains, get?_object, Members.mem_keys_iff]

theorem asArray?_getD_null {present : Option Json} (h : ∀ j, present = some j → j.isObject) :
    (present.getD .null).asArray? = none := by
  cases present with
  | none => rfl
  | some j => exact asArray?_of_isObject (h j rfl)

/-- What is written below a member makes an object of an object, or of nothing. -/
theorem isObject_set {present : Option Json} (h : ∀ j, present = some j → j.isObject) (s : String) (rest : Path)
    (value : Json) : ((present.getD .null).set (s :: rest) value).isObject := by
  cases present with
  | none => rfl
  | some j => exact isObject_update _ s rest (h j rfl)

end Json

/-- Only one field is kept in the object. -/
theorem Field.eq_object_of_place {field : Field} {kind : DocumentKind} (h : field.isAllowedOn kind)
    (hplace : field.place kind = "object") : field = .object := by
  revert h hplace
  cases kind <;> cases field <;> decide

/-- The setting puts an activity over the object that is there, or the type of an activity. -/
def Setting.OverlaysActivity : Setting → Prop
  | .object a => a.kind = .activity
  | .objectActivityType _ => True
  | _ => False

namespace Builder

variable {b b' : Builder} {s : Setting} {admits : Builder → Setting → Prop} {j : Json}

/-! ## Steps of the object -/

/-- The object with a type of activities written into it. -/
def typedObject (present : Option Json) (iri : String) : Json :=
  ((present.getD .null).set ["objectType"] (.string "Activity")).set ["definition", "type"] (.string iri)

/-- The object is left alone, replaced or merged with an activity, or written a type into. -/
inductive ObjectStep (b : Builder) (s : Setting) (b' : Builder) : Prop
  | keep : s.field ≠ .object → (∀ rest, b'.document.get? ("object" :: rest) = b.document.get? ("object" :: rest)) →
      ObjectStep b s b'
  | put {a : Builder} : s = .object a → Setting.isObjectOf b.kind a.kind →
      b'.document.get? ["object"] = some (mergedObject (b.document.get? ["object"]) a) → ObjectStep b s b'
  | refer {id : Uuid} : s = .objectStatement id → b'.document.get? ["object"] = some (statementRef id) →
      ObjectStep b s b'
  | typed {name iri : String} : s = .objectActivityType name →
      b'.document.get? ["object"] = some (typedObject (b.document.get? ["object"]) iri) → ObjectStep b s b'

theorem objectStep_of_apply (h : b.Proper) (ha : b.apply s = .ok b') : ObjectStep b s b' := by
  have hframe := h.get?_apply ha "object"
  obtain ⟨hf, hargument, c, -, rfl⟩ := apply_eq_ok_iff.mp ha
  by_cases hfield : s.field = .object
  · cases s with
    | object a =>
      exact .put rfl (checkArgument_eq_ok_iff.mp hargument a _ _ rfl) (Json.get?_set_self _ ["object"] _)
    | objectStatement id => exact .refer rfl (Json.get?_set_self _ ["object"] _)
    | objectActivityType name =>
      refine @ObjectStep.typed _ _ _ name c.id rfl ?_
      refine (Json.get?_update_append _ ["object"] ["definition", "type"] _).trans ?_
      rw [Edit.apply, Json.set, show ["object", "objectType"] = ["object"] ++ ["objectType"] from rfl,
        Json.get?_update_append]
      rfl
    | _ => cases hfield
  · exact .keep hfield (hframe fun hplace => hfield (Field.eq_object_of_place hf hplace.symm))

/-! ## What is put in the place of an object -/

theorem mergedObject_of_ne {a : Builder} (h : a.kind ≠ .activity) (present : Option Json) :
    mergedObject present a = a.document := by
  cases present <;> simp [mergedObject, h]

/-- An activity that is merged into an object has its members beside those that were there. -/
theorem exists_mergedObject {a : Builder} (ha : a.Proper) (hkind : a.kind = .activity) {present : Option Json}
    (hpresent : ∀ j, present = some j → j.isObject) :
    (mergedObject present a).isObject ∧
      (mergedObject present a).get? ["objectType"] = some (.string "Activity") ∧
      ∀ key, key ∉ DocumentKind.activity.keys →
        ((mergedObject present a).contains [key] ↔ ∃ j, present = some j ∧ j.contains [key]) := by
  obtain ⟨overlay, hdocument, hn, hkeys⟩ := ha.exists_members
  have htype := ha.objectType
  rw [hkind] at hkeys htype
  have hforeign : ∀ key, key ∉ DocumentKind.activity.keys → key ∉ overlay.keys := fun key hkey hmem =>
    hkey (hkeys key hmem)
  cases present with
  | none =>
    refine ⟨ha.isObject, htype, fun key hkey => ?_⟩
    have hnone : ¬a.document.contains [key] := by
      rw [hdocument, Json.contains_object_iff]
      exact hforeign key hkey
    simpa [mergedObject] using hnone
  | some j =>
    cases j with
    | object base =>
      have hmerged : mergedObject (some (.object base)) a = .object (Json.mergeMembers base overlay) := by
        simp [mergedObject, hkind, Json.isObject, hdocument, Json.merge]
      rw [hdocument, Json.get?_object] at htype
      refine ⟨by rw [hmerged]; rfl, ?_, fun key hkey => ?_⟩
      · rw [hmerged, Json.get?_object, Json.find?_mergeMembers hn, htype]
        exact congrArg some (Json.merge_string _ _)
      · rw [hmerged, Json.contains_object_iff, Json.mem_keys_mergeMembers]
        simp [hforeign key hkey, Json.contains_object_iff]
    | _ => cases hpresent _ rfl

/-- A type of activities is written beside the members that are there. -/
theorem exists_typedObject {present : Option Json} (hpresent : ∀ j, present = some j → j.isObject) (iri : String) :
    (typedObject present iri).isObject ∧
      (typedObject present iri).get? ["objectType"] = some (.string "Activity") ∧
      ∀ key, key ∉ DocumentKind.activity.keys →
        ((typedObject present iri).contains [key] ↔ ∃ j, present = some j ∧ j.contains [key]) := by
  have hfirst := Json.isObject_set hpresent "objectType" [] (.string "Activity")
  refine ⟨Json.isObject_update _ _ _ hfirst, ?_, fun key hkey => ?_⟩
  · refine (Json.get?_update_of_ne _ (by decide) _ (Json.asArray?_of_isObject hfirst)).trans ?_
    exact Json.get?_set_self _ _ _
  · have hdefinition : key ≠ "definition" := by
      rintro rfl
      exact hkey (by decide)
    have htype : key ≠ "objectType" := by
      rintro rfl
      exact hkey (by decide)
    have hget : (typedObject present iri).get? [key] = (present.getD .null).get? [key] :=
      (Json.get?_update_of_ne _ hdefinition _ (Json.asArray?_of_isObject hfirst)).trans
        (Json.get?_update_of_ne _ htype _ (Json.asArray?_getD_null hpresent))
    rw [Json.contains, hget]
    cases present with
    | none =>
      rw [Option.getD_none, Json.get?_of_asArray? rfl]
      simp [Json.members]
    | some j => simp [Json.contains]

/-- The object of a statement is an object. -/
theorem Made.isObject_object (h : Made admits b) : ∀ j, b.document.get? ["object"] = some j → j.isObject := by
  induction h with
  | start kind => cases kind <;> exact fun j hj => (nomatch hj)
  | equip _ _ _ _ ih => exact ih
  | @tell _ b b' s hb hargs _ ha ih =>
    intro j hj
    rcases objectStep_of_apply hb.proper ha with ⟨-, hkeep⟩ | @⟨a, rfl, -, hput⟩ | ⟨rfl, hrefer⟩ | ⟨rfl, htyped⟩
    · exact ih j (hkeep [] ▸ hj)
    · have hproper : a.Proper := (hargs a (Setting.takes_object_iff.mpr rfl)).proper
      rw [hput] at hj
      obtain rfl := Option.some.inj hj
      by_cases hkind : a.kind = .activity
      · exact (exists_mergedObject hproper hkind ih).1
      · rw [mergedObject_of_ne hkind]
        exact hproper.isObject
    · rw [hrefer] at hj
      exact Option.some.inj hj ▸ rfl
    · rw [htyped] at hj
      exact Option.some.inj hj ▸ (exists_typedObject ih _).1

theorem get?_objectType_statementRef (id : Uuid) :
    (statementRef id).get? ["objectType"] = some (.string "StatementRef") :=
  Json.get?_ofPairs_fst (by decide) _ _

/-! ## Objects of two kinds -/

/-- The object has a member that activities do not have. -/
def HasForeign (b : Builder) : Prop := ∃ key, key ∉ DocumentKind.activity.keys ∧ b.document.contains ["object", key]

/-- The object says that it is an activity and has a member that activities do not have. -/
def Mixed (b : Builder) : Prop :=
  b.document.get? ["object", "objectType"] = some (.string "Activity") ∧ b.HasForeign

theorem contains_object_iff {key : String} :
    b.document.contains ["object", key] ↔ ∃ j, b.document.get? ["object"] = some j ∧ j.contains [key] := by
  rw [Json.contains, Json.get?_cons]
  cases b.document.get? ["object"] <;> simp [Json.contains]

theorem not_mixed_of_objectType {type : String} (hj : b.document.get? ["object"] = some j)
    (htype : j.get? ["objectType"] = some (.string type)) (hne : type ≠ "Activity") : ¬b.Mixed := by
  rintro ⟨hactivity, -⟩
  rw [Json.get?_cons, hj, Option.bind_some, htype] at hactivity
  cases hactivity
  exact hne rfl

/-- What says that it is an activity and has the other members from before is mixed when there were any. -/
theorem mixed_iff_hasForeign (hj : b'.document.get? ["object"] = some j)
    (htype : j.get? ["objectType"] = some (.string "Activity"))
    (hforeign : ∀ key, key ∉ DocumentKind.activity.keys →
      (j.contains [key] ↔ ∃ j, b.document.get? ["object"] = some j ∧ j.contains [key])) :
    b'.Mixed ↔ b.HasForeign := by
  have hactivity : b'.document.get? ["object", "objectType"] = some (.string "Activity") := by
    rw [Json.get?_cons, hj, Option.bind_some, htype]
  rw [Mixed, and_iff_right hactivity]
  refine exists_congr fun key => and_congr_right fun hkey => ?_
  rw [contains_object_iff, contains_object_iff, ← hforeign key hkey, hj]
  simp

/-- **How an object becomes mixed.** It is so after a setting when it was so before and the setting is of another field,
or when the setting puts an activity over members that activities do not have. -/
theorem mixed_iff_of_step (hb : b.Reached) (hs : ∀ a, s.Takes a → a.Reached) (ha : b.apply s = .ok b') :
    b'.Mixed ↔ (s.field ≠ .object ∧ b.Mixed) ∨ (s.OverlaysActivity ∧ b.HasForeign) := by
  have hpresent := hb.isObject_object
  rcases objectStep_of_apply hb.proper ha with ⟨hfield, hkeep⟩ | @⟨a, rfl, hfits, hput⟩ | ⟨rfl, hrefer⟩ | ⟨rfl, htyped⟩
  · have hover : ¬s.OverlaysActivity := by
      cases s with
      | object | objectActivityType => exact absurd rfl hfield
      | _ => exact id
    have hsame : b'.Mixed ↔ b.Mixed := by
      rw [Mixed, Mixed, HasForeign, HasForeign, hkeep]
      simp only [Json.contains, hkeep]
    simp [hsame, hfield, hover]
  · have hproper : a.Proper := (hs a (Setting.takes_object_iff.mpr rfl)).proper
    simp only [Setting.field, ne_eq, not_true_eq_false, false_and, false_or, Setting.OverlaysActivity]
    by_cases hkind : a.kind = .activity
    · obtain ⟨-, htype, hforeign⟩ := exists_mergedObject hproper hkind hpresent
      rw [mixed_iff_hasForeign hput htype hforeign, and_iff_right hkind]
    · rw [mergedObject_of_ne hkind] at hput
      have hnot : ¬b'.Mixed := by
        cases hk : a.kind with
        | activity => exact absurd hk hkind
        | statement | attachment =>
          rw [hk] at hfits
          cases hfits
        | agent | group | subStatement =>
          exact not_mixed_of_objectType hput (hproper.objectType.trans (by rw [hk]; rfl)) (by decide)
      simp [hnot, hkind]
  · have hnot : ¬b'.Mixed := not_mixed_of_objectType hrefer (get?_objectType_statementRef _) (by decide)
    simp [hnot, Setting.field, Setting.OverlaysActivity]
  · obtain ⟨-, htype, hforeign⟩ := exists_typedObject hpresent _
    rw [mixed_iff_hasForeign htyped htype hforeign]
    simp [Setting.field, Setting.OverlaysActivity]

/-- The setting puts no activity over members that activities do not have. -/
def Careful (b : Builder) (s : Setting) : Prop := ¬(s.OverlaysActivity ∧ b.HasForeign)

theorem Made.not_mixed (h : Made admits b) (hadmits : ∀ b s, admits b s → Careful b s) : ¬b.Mixed := by
  induction h with
  | start kind => cases kind <;> exact fun hm => (nomatch hm.1)
  | equip _ _ _ _ ih => exact ih hadmits
  | tell hb hargs hs ha ih =>
    rw [mixed_iff_of_step hb.reached hargs ha]
    rintro (⟨-, hm⟩ | hover)
    · exact ih hadmits hm
    · exact hadmits _ _ hs hover

/-- **An object never mixes kinds by careful settings.** Where no setting has put an activity over members that
activities do not have, an object that says that it is an activity has the members of an activity only. The next setting
changes this exactly when it is not careful. -/
theorem object_of_one_kind (h : Made Careful b) :
    (b.document.get? ["object", "objectType"] = some (.string "Activity") →
      ∀ key, b.document.contains ["object", key] → key ∈ ["objectType", "id", "definition"]) ∧
    ∀ s b', (∀ a, s.Takes a → a.Reached) → b.apply s = .ok b' → (b'.Mixed ↔ ¬Careful b s) := by
  have hnot : ¬b.Mixed := h.not_mixed fun _ _ hc => hc
  refine ⟨fun hactivity key hkey => ?_, fun s b' hs ha => ?_⟩
  · by_contra hforeign
    exact hnot ⟨hactivity, key, hforeign, hkey⟩
  · rw [mixed_iff_of_step h.reached hs ha, Careful, not_not]
    simp [hnot]

/-- A statement about an agent that is then told to be about an activity. -/
def aboutPerson : Except Error Builder := do
  let agent ← (start .agent).applyAll [.name "Ada", .mbox "ada@example.com"]
  let lesson ← activity "u:lesson"
  (start .statement).applyAll [.object agent, .object lesson]

/-- The mailbox of the agent stays in the activity. -/
theorem person_stays :
    ∃ b, aboutPerson = .ok b ∧ b.Reached ∧
      b.document.get? ["object", "objectType"] = some (.string "Activity") ∧
        b.document.contains ["object", "mbox"] := by
  have hdocument : aboutPerson.map (fun b =>
      (b.document.get? ["object", "objectType"], b.document.contains ["object", "mbox"])) =
      .ok (some (.string "Activity"), true) := by decide +kernel
  obtain ⟨b, hb, hdocument⟩ := map_eq_ok_iff.mp hdocument
  obtain ⟨htype, hmbox⟩ := Prod.mk.inj hdocument
  obtain ⟨agent, hagent, hrest⟩ := bind_eq_ok_iff.mp hb
  obtain ⟨lesson, hlesson, hstatement⟩ := bind_eq_ok_iff.mp hrest
  have hreached : agent.Reached := (Made.start .agent).applyAll (by simp [Setting.Takes, Setting.argument?]) hagent
  refine ⟨b, hb, (Made.start .statement).applyAll ?_ hstatement, htype, hmbox⟩
  simp [Setting.takes_object_iff, hreached, reached_activity hlesson]

/-- A statement that is told the type of its object and then the object. -/
def aboutLesson : Except Error Builder := do
  let lesson ← activity "u:lesson"
  let typed ← (start .statement).apply (.objectActivityType "u:lessons")
  typed.apply (.object lesson)

theorem object_of_one_kind_lesson :
    ∃ b, aboutLesson = .ok b ∧ Made Careful b ∧ b.document.contains ["object", "definition", "type"] ∧
      ∀ key, b.document.contains ["object", key] → key ∈ ["objectType", "id", "definition"] := by
  have hdocument : aboutLesson.map (fun b =>
      (b.document.get? ["object", "objectType"], b.document.contains ["object", "definition", "type"])) =
      .ok (some (.string "Activity"), true) := by decide +kernel
  obtain ⟨b, hb, hdocument⟩ := map_eq_ok_iff.mp hdocument
  obtain ⟨htype, hdefinition⟩ := Prod.mk.inj hdocument
  obtain ⟨lesson, hlesson, hrest⟩ := bind_eq_ok_iff.mp hb
  obtain ⟨typed, htyped, hobject⟩ := bind_eq_ok_iff.mp hrest
  have hfresh : ¬(start .statement).HasForeign := by
    rintro ⟨key, -, hkey⟩
    obtain ⟨j, hj, -⟩ := contains_object_iff.mp hkey
    cases hj
  have hmade : Made Careful typed :=
    (Made.start .statement).tell (by simp [Setting.Takes, Setting.argument?]) (fun h => hfresh h.2) htyped
  have hactivity : typed.document.get? ["object", "objectType"] = some (.string "Activity") := by
    have h : ((start .statement).apply (.objectActivityType "u:lessons")).map
        (fun b => b.document.get? ["object", "objectType"]) = .ok (some (.string "Activity")) := by decide +kernel
    rw [htyped] at h
    exact Except.ok.inj h
  have hcareful : Careful typed (.object lesson) := fun ⟨_, key, hforeign, hkey⟩ =>
    hforeign ((object_of_one_kind hmade).1 hactivity key hkey)
  have hdone : Made Careful b :=
    hmade.tell (by simp [Setting.takes_object_iff, reached_activity hlesson]) hcareful hobject
  exact ⟨b, hb, hdone, hdefinition, (object_of_one_kind hdone).1 htype⟩

end Builder

end StatementProfiles
