import Mathlib.Data.List.Perm.Basic
import StatementProfiles.Proofs.Document.Spine

/-!
# Settings of different places commute

Two settings are independent (`Builder.Independent`) when no place that the one writes at is above or below a place that
the other writes at. Of builders that settings make, independent settings may be told in either order, and any number of
them in every order (`Builder.independent_settings_commute`): the same builder comes of it, or none in any order.
-/

namespace StatementProfiles

/-! ## Edits -/

namespace Edit

variable {doc : Json} {e e' : Edit} {es es' : List Edit}

/-- The two edits may change places, whatever the document. -/
def Swaps (e e' : Edit) : Prop :=
  e.path.Apart e'.path ∧ (e.path.dropLast ∈ Path.spine ∨ e'.path.dropLast ∈ Path.spine)

theorem Swaps.apply_comm (hs : e.Swaps e') (he : e.Outside) (he' : e'.Outside) (h : doc.SpineTidy) :
    e'.apply (e.apply doc) = e.apply (e'.apply doc) := by
  obtain ⟨f, hf⟩ := he.exists_update
  obtain ⟨f', hf'⟩ := he'.exists_update
  obtain ⟨hapart, hspine | hspine⟩ := hs
  · rw [hf, hf', hf, hf', h.update_comm f f' hapart hspine]
  · rw [hf, hf', hf, hf', h.update_comm f' f hapart.symm hspine]

/-- An edit may be made before several others or after them. -/
theorem foldl_apply_comm (he : e.Outside) (hes : ∀ e' ∈ es', e'.Outside) (hswaps : ∀ e' ∈ es', e.Swaps e')
    (h : doc.SpineTidy) : es'.foldl apply (e.apply doc) = e.apply (es'.foldl apply doc) := by
  induction es' generalizing doc with
  | nil => rfl
  | cons e' es' ih =>
    obtain ⟨he', hes⟩ := List.forall_mem_cons.mp hes
    obtain ⟨hswap, hswaps⟩ := List.forall_mem_cons.mp hswaps
    rw [List.foldl_cons, List.foldl_cons, hswap.apply_comm he he' h]
    exact ih hes hswaps (he'.spineTidy h)

/-- Two lists of edits may change places. -/
theorem foldl_foldl_comm (hes : ∀ e ∈ es, e.Outside) (hes' : ∀ e ∈ es', e.Outside)
    (hswaps : ∀ e ∈ es, ∀ e' ∈ es', e.Swaps e') (h : doc.SpineTidy) :
    es'.foldl apply (es.foldl apply doc) = es.foldl apply (es'.foldl apply doc) := by
  induction es generalizing doc with
  | nil => rfl
  | cons e es ih =>
    obtain ⟨he, hes⟩ := List.forall_mem_cons.mp hes
    obtain ⟨hswap, hswaps⟩ := List.forall_mem_cons.mp hswaps
    rw [List.foldl_cons, List.foldl_cons, ih hes hswaps (he.spineTidy h), foldl_apply_comm he hes' hswap h]

end Edit

/-! ## Settings -/

namespace Setting

variable {b b' : Builder} {s : Setting}

/-- Where a setting writes depends on the kind of the document only. -/
theorem map_path_edits (hkind : b'.kind = b.kind) (c : Concept) :
    (s.edits b' c).map Edit.path = (s.edits b c).map Edit.path := by
  cases s <;> simp only [edits, List.map_cons, List.map_nil, Edit.path, hkind]

/-- What a setting writes depends on the document only where it merges an object. -/
theorem edits_congr (hkind : b'.kind = b.kind) (hoptions : b'.options = b.options)
    (hobject : (∃ thing, s = .object thing) → b'.document.get? ["object"] = b.document.get? ["object"]) (c : Concept) :
    s.edits b' c = s.edits b c := by
  cases s with
  | object thing => simp only [edits, hobject ⟨thing, rfl⟩]
  | _ => simp only [edits, Builder.nameJson, Builder.inLanguage, hkind, hoptions]

end Setting

namespace Builder

variable {b b' : Builder} {s t : Setting} {ss ts : List Setting}

/-- Where a setting writes in the builder's document; one that is refused writes nowhere. -/
def locations (b : Builder) (s : Setting) : List Path :=
  match b.apply s, s.resolve b.resolver with
  | .ok _, .ok c => (s.edits b c).map Edit.path
  | _, _ => []

/-- No place that the one setting writes at is above or below a place that the other writes at. -/
def Independent (b : Builder) (s t : Setting) : Prop := ∀ p ∈ b.locations s, ∀ q ∈ b.locations t, p.Apart q

instance (b : Builder) (s t : Setting) : Decidable (b.Independent s t) :=
  inferInstanceAs (Decidable (∀ p ∈ b.locations s, ∀ q ∈ b.locations t, p.Apart q))

theorem Independent.symm (h : b.Independent s t) : b.Independent t s := by
  intro q hq p hp
  exact (h p hp q hq).symm

theorem locations_eq {c : Concept} (ha : b.apply s = .ok b') (hc : s.resolve b.resolver = .ok c) :
    b.locations s = (s.edits b c).map Edit.path := by
  simp only [locations, ha, hc]

/-- Whether a setting is taken does not depend on the document. -/
theorem exists_apply_edit_iff (es : List Edit) : (∃ b', (b.edit es).apply s = .ok b') ↔ ∃ b', b.apply s = .ok b' := by
  simp only [apply_eq_ok_iff]
  exact ⟨fun ⟨_, hf, ha, c, hc, _⟩ => ⟨_, hf, ha, c, hc, rfl⟩, fun ⟨_, hf, ha, c, hc, _⟩ => ⟨_, hf, ha, c, hc, rfl⟩⟩

theorem locations_edit (es : List Edit) (s : Setting) : (b.edit es).locations s = b.locations s := by
  have hkind : (b.edit es).kind = b.kind := rfl
  have hresolver : (b.edit es).resolver = b.resolver := rfl
  unfold locations
  rw [hresolver]
  cases ha : b.apply s with
  | error e =>
    cases ha' : (b.edit es).apply s with
    | error e' => rfl
    | ok b' =>
      obtain ⟨b₁, h₁⟩ := (exists_apply_edit_iff es).mp ⟨b', ha'⟩
      cases ha.symm.trans h₁
  | ok b₁ =>
    obtain ⟨b', ha'⟩ := (exists_apply_edit_iff es).mpr ⟨b₁, ha⟩
    rw [ha']
    cases s.resolve b.resolver with
    | error e => rfl
    | ok c =>
      simp only
      exact Setting.map_path_edits hkind c

theorem independent_edit_iff (es : List Edit) : (b.edit es).Independent s t ↔ b.Independent s t := by
  rw [Independent, locations_edit, locations_edit, Independent]

/-! ## Two settings -/

/-- The type of an activity that is the object is not independent of itself. -/
theorem Independent.swaps {c c' : Concept} {b₁ b₂ : Builder} (h : b.Independent s t) (hs : b.apply s = .ok b₁)
    (hc : s.resolve b.resolver = .ok c) (ht : b.apply t = .ok b₂) (hc' : t.resolve b.resolver = .ok c') {e e' : Edit}
    (he : e ∈ s.edits b c) (he' : e' ∈ t.edits b c') : e.Swaps e' := by
  rw [Independent, locations_eq hs hc, locations_eq ht hc'] at h
  have hapart := h e.path (List.mem_map_of_mem he) e'.path (List.mem_map_of_mem he')
  refine ⟨hapart, ?_⟩
  rcases (Setting.path_of_mem_edits he).2 with hspine | ⟨name, rfl⟩
  · exact .inl hspine
  rcases (Setting.path_of_mem_edits he').2 with hspine | ⟨name', rfl⟩
  · exact .inr hspine
  · have hmem : ∀ {name : String} {c : Concept},
        ["object", "objectType"] ∈ ((Setting.objectActivityType name).edits b c).map Edit.path := List.mem_cons_self
    exact absurd (List.prefix_refl _) (h _ hmem _ hmem).1

/-- Where the object is merged, an independent setting leaves the object that is there. -/
theorem Independent.get?_object {thing : Builder} {c : Concept} {b₁ b₂ : Builder} (h : b.Independent s (.object thing))
    (hdoc : b.document.SpineTidy) (hs : b.apply s = .ok b₁) (hc : s.resolve b.resolver = .ok c)
    (ht : b.apply (.object thing) = .ok b₂) :
    (b.edit (s.edits b c)).document.get? ["object"] = b.document.get? ["object"] := by
  rw [Independent, locations_eq hs hc, locations_eq ht rfl] at h
  have hroot : (["object"] : Path).dropLast ∈ Path.spine := List.mem_cons_self
  refine Edit.get?_foldl hroot (fun e he => Setting.outside_of_mem_edits he) (fun e he => ?_) hdoc
  exact (h e.path (List.mem_map_of_mem he) ["object"] List.mem_cons_self).symm

/-- Two independent settings that are taken one after another are taken the other way round, and come to the same. -/
theorem Independent.exists_apply (h : b.Independent s t) (hdoc : b.document.SpineTidy) {b₁ : Builder}
    (hs : b.apply s = .ok b₁) (hst : b₁.apply t = .ok b') : ∃ b₂, b.apply t = .ok b₂ ∧ b₂.apply s = .ok b' := by
  obtain ⟨hsf, hsa, c, hc, rfl⟩ := apply_eq_ok_iff.mp hs
  obtain ⟨htf, hta, c', hc', rfl⟩ := apply_eq_ok_iff.mp hst
  have ht : b.apply t = .ok (b.edit (t.edits b c')) := apply_eq_ok_iff.mpr ⟨htf, hta, c', hc', rfl⟩
  refine ⟨_, ht, apply_eq_ok_iff.mpr ⟨hsf, hsa, c, hc, ?_⟩⟩
  have hkind : ∀ es, (b.edit es).kind = b.kind := fun _ => rfl
  have hoptions : ∀ es, (b.edit es).options = b.options := fun _ => rfl
  -- what either setting writes is the same before the other and after it
  have hafter : t.edits (b.edit (s.edits b c)) c' = t.edits b c' := by
    refine Setting.edits_congr (hkind _) (hoptions _) ?_ c'
    rintro ⟨thing, rfl⟩
    exact h.get?_object hdoc hs hc ht
  have hbefore : s.edits (b.edit (t.edits b c')) c = s.edits b c := by
    refine Setting.edits_congr (hkind _) (hoptions _) ?_ c
    rintro ⟨thing, rfl⟩
    exact h.symm.get?_object hdoc ht hc' hs
  have hcomm := Edit.foldl_foldl_comm (fun e he => Setting.outside_of_mem_edits he)
    (fun e he => Setting.outside_of_mem_edits he) (fun e he e' he' => h.swaps hs hc ht hc' he he') hdoc
  rw [hafter, hbefore]
  simp only [edit, hcomm]

/-! ## Any number of settings -/

theorem Independent.applyAll_swap (h : b.Independent s t) (hdoc : b.document.SpineTidy)
    (ha : b.applyAll (s :: t :: ss) = .ok b') : b.applyAll (t :: s :: ss) = .ok b' := by
  obtain ⟨b₁, hs, hrest⟩ := applyAll_cons_eq_ok_iff.mp ha
  obtain ⟨b₂, ht, hrest⟩ := applyAll_cons_eq_ok_iff.mp hrest
  obtain ⟨b₁', ht', hs'⟩ := h.exists_apply hdoc hs ht
  exact applyAll_cons_eq_ok_iff.mpr ⟨b₁', ht', applyAll_cons_eq_ok_iff.mpr ⟨b₂, hs', hrest⟩⟩

theorem pairwise_independent_apply (ha : b.apply s = .ok b') (h : ss.Pairwise b.Independent) :
    ss.Pairwise b'.Independent := by
  obtain ⟨-, -, c, -, rfl⟩ := apply_eq_ok_iff.mp ha
  exact h.imp (independent_edit_iff _).mpr

theorem applyAll_perm (hperm : ss.Perm ts) (h : ss.Pairwise b.Independent) (hdoc : b.document.SpineTidy)
    (b' : Builder) : b.applyAll ss = .ok b' ↔ b.applyAll ts = .ok b' := by
  induction hperm generalizing b with
  | nil => exact Iff.rfl
  | cons s _ ih =>
    obtain ⟨-, hrest⟩ := List.pairwise_cons.mp h
    rw [applyAll_cons_eq_ok_iff, applyAll_cons_eq_ok_iff]
    exact exists_congr fun b₁ =>
      and_congr_right fun hs => ih (pairwise_independent_apply hs hrest) (spineTidy_apply hdoc hs)
  | swap s t ss =>
    obtain ⟨hfirst, -⟩ := List.pairwise_cons.mp h
    have hst := hfirst s List.mem_cons_self
    exact ⟨hst.applyAll_swap hdoc, hst.symm.applyAll_swap hdoc⟩
  | trans hperm _ ih ih' =>
    exact (ih h hdoc).trans (ih' (hperm.pairwise h fun hst => hst.symm) hdoc)

/-- **Independent settings commute**: two of them may be told in either order, and any number of them in every order.
All orders come to one builder, or none of them to any. -/
theorem independent_settings_commute (hb : b.Reached) :
    (∀ s t, b.Independent s t → ∀ b', b.applyAll [s, t] = .ok b' ↔ b.applyAll [t, s] = .ok b') ∧
    ∀ ss ts, ss.Pairwise b.Independent → ss.Perm ts → ∀ b', b.applyAll ss = .ok b' ↔ b.applyAll ts = .ok b' := by
  have hdoc := hb.spineTidy
  constructor
  · intro s t h b'
    exact ⟨h.applyAll_swap hdoc, h.symm.applyAll_swap hdoc⟩
  · intro ss ts h hperm b'
    exact applyAll_perm hperm h hdoc b'

/-- An attempt with an answer. -/
def answered : Builder := ((start .statement).applyAll [.response "yes"]).toOption.getD (start .statement)

/-- What else is told about the attempt. -/
def scoring : List Setting :=
  [.success true, .scoreRaw (.finite (.zero false)) none none, .resultExtension "u:tries" (.int 3), .language "en",
    .contextExtension "u:tries" .null, .objectActivityType "u:lessons"]

theorem independent_settings_commute_scoring :
    answered.Reached ∧ scoring.Pairwise answered.Independent ∧ (∃ b, answered.applyAll scoring = .ok b) ∧
      answered.Independent (.success true) (.completion true) ∧
      (∀ b, answered.applyAll [.success true, .completion true] = .ok b ↔
        answered.applyAll [.completion true, .success true] = .ok b) ∧
      ∀ b, answered.applyAll scoring = .ok b ↔ answered.applyAll scoring.reverse = .ok b := by
  have hanswered : (start .statement).applyAll [.response "yes"] = .ok answered := rfl
  have hreached : answered.Reached :=
    (Made.start .statement).applyAll (by simp [Setting.Takes, Setting.argument?]) hanswered
  have hscoring : scoring.Pairwise answered.Independent := by decide +kernel
  have htaken : (answered.applyAll scoring).toBool = true := by decide +kernel
  have hpair : answered.Independent (.success true) (.completion true) := by decide +kernel
  obtain ⟨htwo, hall⟩ := independent_settings_commute hreached
  refine ⟨hreached, hscoring, ?_, hpair, htwo _ _ hpair, hall _ _ hscoring (List.reverse_perm _).symm⟩
  cases ha : answered.applyAll scoring with
  | error e =>
    rw [ha] at htaken
    cases htaken
  | ok b => exact ⟨b, rfl⟩

end Builder

end StatementProfiles
