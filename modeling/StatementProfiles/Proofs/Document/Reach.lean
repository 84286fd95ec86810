import StatementProfiles.Proofs.Document.Builder
import StatementProfiles.Proofs.Members

/-!
# Builders that settings make

`Builder.Made` are the builders that come of fresh ones by settings, and of these with other resolvers, templates and
options in between; the documents that settings take are made in the same way. **Each of them has a document of its
kind** (`Builder.Made.proper`): an object with distinct keys, which documents of the kind may have, and with the
`objectType` of the kind.
-/

namespace StatementProfiles

/-- The keys that documents of a kind may have. -/
def DocumentKind.keys : DocumentKind → List String
  | .statement => ["id", "actor", "verb", "object", "result", "context", "timestamp", "attachments"]
  | .subStatement => ["objectType", "actor", "verb", "object", "result", "context", "timestamp", "attachments"]
  | .agent => ["objectType", "name", "mbox", "account"]
  | .group => ["objectType", "name", "mbox", "account", "member"]
  | .activity => ["objectType", "id", "definition"]
  | .attachment => ["usageType", "display", "description", "contentType", "length", "sha2", "fileUrl"]

/-! ## Edits of an object -/

/-- Edits of one member put its key beside the others. -/
theorem Edit.exists_members_of_writes {key : String} {es : List Edit} (h : ∀ e ∈ es, e.Writes key) {ms : Members Json}
    (hn : ms.keys.Nodup) :
    ∃ ms' : Members Json, es.foldl apply (.object ms) = .object ms' ∧ ms'.keys.Nodup ∧
      ∀ k ∈ ms'.keys, k = key ∨ k ∈ ms.keys := by
  induction es generalizing ms with
  | nil => exact ⟨ms, rfl, hn, fun k hk => .inr hk⟩
  | cons e es ih =>
    obtain ⟨he, hes⟩ := List.forall_mem_cons.mp h
    obtain ⟨f, rest, hf⟩ := exists_update_of_writes he
    obtain ⟨ms', hms', hn', hkeys⟩ := ih hes (Members.nodup_keys_insert hn key _)
    refine ⟨ms', ?_, hn', fun k hk => ?_⟩
    · rw [List.foldl_cons, hf]
      exact hms'
    · rcases hkeys k hk with hk | hk
      · exact .inl hk
      · exact Members.mem_keys_insert.mp hk

/-- A field that documents of a kind have is kept in one of their members, and never in `objectType`. -/
theorem Field.place_mem_keys {field : Field} {kind : DocumentKind} (h : field.isAllowedOn kind) :
    field.place kind ∈ kind.keys ∧ field.place kind ≠ "objectType" := by
  cases kind <;> cases field <;> first | decide | cases h

/-- The setting takes a document. -/
def Setting.Takes (s : Setting) (a : Builder) : Prop := ∃ kind place fits, s.argument? kind = some (a, place, fits)

theorem Setting.takes_object_iff {a b : Builder} : (Setting.object a).Takes b ↔ b = a := by
  refine ⟨fun ⟨kind, place, fits, h⟩ => ?_, fun h => h ▸ ⟨.statement, _, _, rfl⟩⟩
  cases h
  rfl

namespace Builder

/-! ## Builders made of fresh ones -/

/-- Builders that settings make of fresh ones, where each setting is admitted on the builder that is told it. -/
inductive Made : (Builder → Setting → Prop) → Builder → Prop
  | start {admits : Builder → Setting → Prop} (kind : DocumentKind) : Made admits (start kind)
  /-- What names stand for, the template and the options may be replaced at any time. -/
  | equip {admits : Builder → Setting → Prop} {b : Builder} (resolver : Resolver) (template : Option Template)
      (options : BuildOptions) :
      Made admits b → Made admits { b with resolver := resolver, template := template, options := options }
  /-- The document that a setting takes is made by any settings. -/
  | tell {admits : Builder → Setting → Prop} {b b' : Builder} {s : Setting} :
      Made admits b → (∀ a, s.Takes a → Made (fun _ _ => True) a) → admits b s → b.apply s = .ok b' → Made admits b'

/-- Builders that any settings make of fresh ones. -/
abbrev Reached : Builder → Prop := Made fun _ _ => True

variable {b b' : Builder} {s : Setting} {admits : Builder → Setting → Prop}

theorem Made.reached (h : Made admits b) : b.Reached := by
  induction h with
  | start kind => exact .start kind
  | equip resolver template options _ ih => exact ih.equip resolver template options
  | tell _ hargs _ ha ih => exact ih.tell hargs trivial ha

theorem reached_activity {id : String} (h : activity id = .ok b) : b.Reached :=
  (Made.start .activity).tell (fun _ ⟨_, _, _, ha⟩ => nomatch ha) trivial h

/-- Several settings lead from one builder to another. -/
theorem Made.applyAll (h : b.Reached) {ss : List Setting} (hs : ∀ s ∈ ss, ∀ a, s.Takes a → a.Reached)
    (ha : b.applyAll ss = .ok b') : b'.Reached := by
  induction ss generalizing b with
  | nil => exact Except.ok.inj ha ▸ h
  | cons s ss ih =>
    obtain ⟨hs, hss⟩ := List.forall_mem_cons.mp hs
    obtain ⟨b₁, h₁, ha⟩ := applyAll_cons_eq_ok_iff.mp ha
    exact ih (h.tell hs trivial h₁) hss ha

/-! ## Chains -/

/-- Settings that a builder is told one after another, and the builder that they lead to. What names stand for, the
template and the options may be replaced in between. -/
inductive Told (b : Builder) : List Setting → Builder → Prop
  | nothing : Told b [] b
  | equip {ss : List Setting} {b' : Builder} (resolver : Resolver) (template : Option Template)
      (options : BuildOptions) :
      Told b ss b' → Told b ss { b' with resolver := resolver, template := template, options := options }
  | tell {ss : List Setting} {b' b'' : Builder} {s : Setting} :
      Told b ss b' → b'.apply s = .ok b'' → Told b (ss ++ [s]) b''

variable {ss : List Setting}

/-- A chain goes on with further settings. -/
theorem Told.applyAll (h : b.Told ss b') {more : List Setting} {b'' : Builder} (ha : b'.applyAll more = .ok b'') :
    b.Told (ss ++ more) b'' := by
  induction more generalizing ss b' with
  | nil =>
    cases ha
    rw [List.append_nil]
    exact h
  | cons s more ih =>
    obtain ⟨b₁, h₁, ha⟩ := applyAll_cons_eq_ok_iff.mp ha
    rw [List.append_cons]
    exact ih (h.tell h₁) ha

/-- A chain from a builder that settings make leads to another one. -/
theorem Told.reached (h : b.Told ss b') (hb : b.Reached) (hargs : ∀ s ∈ ss, ∀ a, s.Takes a → a.Reached) :
    b'.Reached := by
  induction h with
  | nothing => exact hb
  | equip resolver template options _ ih => exact (ih hargs).equip resolver template options
  | tell _ ha ih =>
    obtain ⟨hss, hs⟩ := List.forall_mem_append.mp hargs
    exact (ih hss).tell (hs _ (List.mem_singleton_self _)) trivial ha

theorem Told.kind_eq (h : b.Told ss b') : b'.kind = b.kind := by
  induction h with
  | nothing => rfl
  | equip _ _ _ _ ih => exact ih
  | tell _ ha ih =>
    obtain ⟨-, -, c, -, rfl⟩ := apply_eq_ok_iff.mp ha
    exact ih

/-! ## Their documents -/

/-- The document is one of the builder's kind. -/
structure Proper (b : Builder) : Prop where
  exists_members : ∃ ms : Members Json, b.document = .object ms ∧ ms.keys.Nodup ∧ ∀ key ∈ ms.keys, key ∈ b.kind.keys
  objectType : b.document.get? ["objectType"] = b.kind.objectType?.map .string

theorem proper_start (kind : DocumentKind) : (start kind).Proper := by
  cases kind with
  | statement | attachment => exact ⟨⟨[], rfl, .nil, fun _ h => (nomatch h)⟩, rfl⟩
  | subStatement | agent | group | activity =>
    refine ⟨⟨[("objectType", _)], rfl, List.nodup_singleton _, fun key hkey => ?_⟩, rfl⟩
    rw [List.mem_singleton.mp hkey]
    exact List.mem_cons_self

theorem Proper.isObject (h : b.Proper) : b.document.isObject := by
  obtain ⟨ms, hms, -⟩ := h.exists_members
  rw [hms]
  rfl

/-- The parts of a document that a setting does not write stay as they are. -/
theorem Proper.get?_apply (h : b.Proper) (ha : b.apply s = .ok b') (key : String) (hk : key ≠ s.field.place b.kind)
    (rest : Path) : b'.document.get? (key :: rest) = b.document.get? (key :: rest) := by
  obtain ⟨-, -, c, -, rfl⟩ := apply_eq_ok_iff.mp ha
  exact (Edit.frame_of_writes (fun e he => Setting.writes_of_mem_edits he) h.isObject).2 key rest hk

theorem Proper.apply (h : b.Proper) (ha : b.apply s = .ok b') : b'.Proper := by
  have hframe := h.get?_apply ha
  obtain ⟨hf, -, c, -, rfl⟩ := apply_eq_ok_iff.mp ha
  obtain ⟨hplace, hne⟩ := Field.place_mem_keys hf
  obtain ⟨ms, hms, hn, hkeys⟩ := h.exists_members
  obtain ⟨ms', hms', hn', hkeys'⟩ :=
    Edit.exists_members_of_writes (fun e he => Setting.writes_of_mem_edits (c := c) (s := s) (b := b) he) hn
  refine ⟨⟨ms', ?_, hn', fun key hkey => ?_⟩, ?_⟩
  · rw [edit, hms]
    exact hms'
  · rcases hkeys' key hkey with rfl | hkey
    · exact hplace
    · exact hkeys key hkey
  · rw [hframe _ hne.symm, h.objectType]
    rfl

/-- **Every builder that settings make has a document of its kind.** -/
theorem Made.proper (h : Made admits b) : b.Proper := by
  induction h with
  | start kind => exact proper_start kind
  | equip resolver template options _ ih => exact ⟨ih.exists_members, ih.objectType⟩
  | tell _ _ _ ha ih => exact ih.apply ha

end Builder

end StatementProfiles
