import StatementProfiles.Document.Builder
import StatementProfiles.Proofs.Document.Path
import StatementProfiles.Proofs.Result

/-!
# What a setting changes

A builder takes a setting of a field that its documents have, with an argument that fits and a name that stands for
something (`Builder.apply_eq_ok_iff`). All edits that a setting comes down to are at one member of the document
(`Setting.writes_of_mem_edits`), and the other members stay as they are (`Builder.frame_of_apply`).
-/

namespace StatementProfiles

/-! ## Edits below a member -/

theorem Json.isObject_update (f : Json → Json) (s : String) (rest : Path) {j : Json} (hj : j.isObject) :
    (Json.update f (s :: rest) j).isObject := by
  cases j with
  | object members => rfl
  | _ => cases hj

theorem Json.asArray?_of_isObject {j : Json} (hj : j.isObject) : j.asArray? = none := by
  cases j with
  | object members => rfl
  | _ => cases hj

namespace Edit

/-- The edit writes at a member of the document or below it. -/
def Writes (key : String) : Edit → Prop
  | .set (s :: _) _ => s = key
  | .push (s :: _) _ => s = key
  | _ => False

theorem exists_update_of_writes {key : String} {e : Edit} (h : e.Writes key) :
    ∃ f rest, ∀ j, e.apply j = Json.update f (key :: rest) j := by
  unfold Writes at h
  split at h
  · next rest value =>
    exact ⟨fun _ => value, rest, fun j => h ▸ rfl⟩
  · next rest value => exact ⟨Json.append value, rest, fun j => h ▸ rfl⟩
  · exact h.elim

/-- Edits of one member leave an object and its other members. -/
theorem frame_of_writes {key : String} {es : List Edit} (h : ∀ e ∈ es, e.Writes key) {j : Json} (hj : j.isObject) :
    (es.foldl apply j).isObject ∧
      ∀ s rest, s ≠ key → (es.foldl apply j).get? (s :: rest) = j.get? (s :: rest) := by
  induction es generalizing j with
  | nil => exact ⟨hj, fun _ _ _ => rfl⟩
  | cons e es ih =>
    obtain ⟨he, hes⟩ := List.forall_mem_cons.mp h
    obtain ⟨f, changed, hf⟩ := exists_update_of_writes he
    have hobject : (e.apply j).isObject := hf j ▸ Json.isObject_update f key changed hj
    obtain ⟨hlast, hframe⟩ := ih hes hobject
    refine ⟨hlast, fun s rest hs => (hframe s rest hs).trans ?_⟩
    rw [hf]
    exact Json.get?_update_of_fork f [] hs changed rest (by rw [Json.get?_nil]; exact Json.asArray?_of_isObject hj)

end Edit

/-! ## Settings of statements -/

/-- The IRI of a verb is in its object, with labels and without. -/
theorem get?_id_verbJson (c : Concept) : (verbJson c).get? ["id"] = some (.string c.id) := by
  unfold verbJson
  cases c.display? with
  | none => rfl
  | some d => exact Json.get?_ofPairs_fst (by decide) _ _

/-- The member that a field is kept in, in documents of a kind. -/
def Field.place (kind : DocumentKind) : Field → String
  | .name => (Builder.namePath kind).headD Field.name.title
  | .description => (Builder.descriptionPath kind).headD Field.description.title
  | .type | .moreInfo | .extensions => "definition"
  | field => field.title

/-- Statements keep a field in the member with its name. -/
theorem Field.place_statement {field : Field} (h : field.isAllowedOn .statement) :
    field.place .statement = field.title := by
  cases field <;> first | rfl | cases h

/-- A setting writes at the member of its field only. -/
theorem Setting.writes_of_mem_edits {b : Builder} {s : Setting} {c : Concept} {e : Edit} (he : e ∈ s.edits b c) :
    e.Writes (s.field.place b.kind) := by
  cases s with
  | name text =>
    rw [List.mem_singleton.mp he, field, Field.place]
    cases b.kind <;> rfl
  | description text =>
    rw [List.mem_singleton.mp he, field, Field.place]
    cases b.kind <;> rfl
  | objectActivityType name =>
    simp only [edits, List.mem_cons, List.not_mem_nil, or_false] at he
    rcases he with rfl | rfl <;> rfl
  | scoreRaw value least greatest =>
    simp only [edits, bound, List.mem_cons, List.mem_append, List.mem_map] at he
    rcases he with rfl | ⟨_, -, rfl⟩ | ⟨_, -, rfl⟩ <;> rfl
  | _ =>
    rw [List.mem_singleton.mp he]
    rfl

namespace Builder

/-- A builder of a statement whose document is an object. -/
structure IsStatement (b : Builder) : Prop where
  kind : b.kind = .statement
  isObject : b.document.isObject

/-- Two builders differ in one member of their documents at most. -/
structure Frame (key : String) (b b' : Builder) : Prop where
  same : b' = { b with document := b'.document }
  get?_eq : ∀ s rest, s ≠ key → b'.document.get? (s :: rest) = b.document.get? (s :: rest)

theorem Frame.refl (key : String) (b : Builder) : b.Frame key b := ⟨rfl, fun _ _ _ => rfl⟩

variable {b b' : Builder} {s : Setting} {c : Concept}

theorem checkField_eq_ok_iff {kind : DocumentKind} {field : Field} :
    checkField kind field = .ok () ↔ field.isAllowedOn kind := by
  unfold checkField
  split <;> simp_all

theorem checkArgument_eq_ok_iff {kind : DocumentKind} :
    checkArgument kind s = .ok () ↔ ∀ a place fits, s.argument? kind = some (a, place, fits) → fits = true := by
  unfold checkArgument
  cases s.argument? kind with
  | none => simp
  | some argument =>
    obtain ⟨a, place, fits⟩ := argument
    cases fits <;> simp

/-- **What a builder takes, and what it is then.** -/
theorem apply_eq_ok_iff :
    b.apply s = .ok b' ↔ s.field.isAllowedOn b.kind ∧ checkArgument b.kind s = .ok () ∧
      ∃ c, s.resolve b.resolver = .ok c ∧ b' = b.edit (s.edits b c) := by
  rw [← checkField_eq_ok_iff, apply]
  cases checkField b.kind s.field with
  | error e => simp
  | ok =>
    cases checkArgument b.kind s with
    | error e => simp
    | ok =>
      simp only [true_and]
      rw [map_eq_ok_iff]
      simp only [eq_comm]

/-- A setting of a field that statements have, with an argument that fits and a name that stands for something, is
taken; it changes the member of its field and nothing else. -/
theorem frame_of_apply (hb : b.IsStatement) (hf : s.field.isAllowedOn .statement)
    (ha : checkArgument .statement s = .ok ()) (hr : s.resolve b.resolver = .ok c) :
    b.apply s = .ok (b.edit (s.edits b c)) ∧ (b.edit (s.edits b c)).IsStatement ∧
      b.Frame s.field.title (b.edit (s.edits b c)) := by
  have hwrites : ∀ e ∈ s.edits b c, e.Writes s.field.title := fun e he =>
    Field.place_statement hf ▸ hb.kind ▸ Setting.writes_of_mem_edits he
  obtain ⟨hobject, hframe⟩ := Edit.frame_of_writes hwrites hb.isObject
  exact ⟨apply_eq_ok_iff.mpr (hb.kind.symm ▸ ⟨hf, ha, c, hr, rfl⟩), ⟨hb.kind, hobject⟩, rfl, hframe⟩

/-! ## Several settings -/

theorem applyAll_singleton (b : Builder) (s : Setting) : b.applyAll [s] = b.apply s := by
  rw [applyAll]
  cases b.apply s <;> rfl

theorem applyAll_cons_eq_ok_iff {ss : List Setting} :
    b.applyAll (s :: ss) = .ok b' ↔ ∃ b₁, b.apply s = .ok b₁ ∧ b₁.applyAll ss = .ok b' := by
  rw [applyAll]
  cases b.apply s with
  | error e => simp
  | ok b₁ => simp

theorem applyAll_append (b : Builder) (xs ys : List Setting) :
    b.applyAll (xs ++ ys) = (b.applyAll xs).bind fun b => b.applyAll ys := by
  induction xs generalizing b with
  | nil => rfl
  | cons s xs ih =>
    rw [List.cons_append, applyAll, applyAll]
    cases b.apply s with
    | error e => rfl
    | ok b' => exact ih b'

end Builder

end StatementProfiles
