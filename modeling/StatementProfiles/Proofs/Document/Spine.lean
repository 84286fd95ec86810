import Mathlib.Data.List.Infix
import StatementProfiles.Proofs.Document.Reach

/-!
# What stands above the places that settings write at

Settings write below few parts of a document, the paths in `Path.spine`, and never at one of these
(`Setting.path_of_mem_edits`). So each of these parts, if it is there, is an object with its keys in order, or a
single value that gives way to one (`Json.SpineTidy`), **in every builder that settings make**
(`Builder.Made.spineTidy`, `Builder.Told.spineTidy`). In such documents a change leaves alone what is neither above nor
below it (`Json.SpineTidy.get?_update`), and two changes of which neither is above the other may change places
(`Json.SpineTidy.update_comm`).
-/

namespace StatementProfiles

/-- The parts of documents that settings make on the way to what they write. -/
def Path.spine : List Path :=
  [[], ["result"], ["result", "score"], ["result", "extensions"], ["context"], ["context", "contextActivities"],
    ["context", "extensions"], ["definition"], ["definition", "extensions"]]

namespace Path

theorem mem_spine_of_prefix {p : Path} (hp : p ∈ spine) {c : Path} (hc : c <+: p) : c ∈ spine := by
  have hclosed : ∀ p ∈ spine, ∀ c ∈ p.inits, c ∈ spine := by decide
  exact hclosed p hp c ((List.mem_inits c p).mpr hc)

/-- What stands above the last segment but one stands in the spine with it. -/
theorem mem_spine_of_dropLast {c : Path} {s : String} {q : Path} (h : (c ++ s :: q).dropLast ∈ spine) : c ∈ spine := by
  rw [List.dropLast_append_cons] at h
  exact mem_spine_of_prefix h (List.prefix_append c _)

/-- Neither path begins the other. -/
def Apart (p q : Path) : Prop := ¬ p <+: q ∧ ¬ q <+: p

instance (p q : Path) : Decidable (p.Apart q) := inferInstanceAs (Decidable (_ ∧ _))

theorem Apart.symm {p q : Path} (h : p.Apart q) : q.Apart p := And.symm h

/-- Of two ways neither of which begins the other, each goes on in another way from where they part. -/
theorem Apart.exists_fork {p q : Path} (h : p.Apart q) :
    ∃ c s s' r r', s ≠ s' ∧ p = c ++ s :: r ∧ q = c ++ s' :: r' := by
  induction p generalizing q with
  | nil => exact absurd List.nil_prefix h.1
  | cons s p ih =>
    cases q with
    | nil => exact absurd List.nil_prefix h.2
    | cons s' q =>
      by_cases hs : s = s'
      · subst hs
        have hpq : ¬ p <+: q := fun hpq => h.1 (List.cons_prefix_cons.mpr ⟨rfl, hpq⟩)
        have hqp : ¬ q <+: p := fun hqp => h.2 (List.cons_prefix_cons.mpr ⟨rfl, hqp⟩)
        obtain ⟨c, t, t', r, r', ht, rfl, rfl⟩ := ih ⟨hpq, hqp⟩
        exact ⟨s :: c, t, t', r, r', ht, rfl, rfl⟩
      · exact ⟨[], s, s', p, q, hs, rfl, rfl⟩

end Path

namespace Json

/-! ## Documents with a tidy spine -/

/-- What stands in the spine of a document is no array, and its keys are in order. -/
def SpineTidy (doc : Json) : Prop := ∀ p ∈ Path.spine, ((doc.get? p).getD .null).Tidy

namespace SpineTidy

variable {doc : Json}

/-- A change leaves alone what is neither above nor below it. -/
theorem get?_update (h : doc.SpineTidy) (f : Json → Json) {p q : Path} (hpq : p.Apart q)
    (hp : p.dropLast ∈ Path.spine) : (update f q doc).get? p = doc.get? p := by
  obtain ⟨c, s, s', r, r', hs, rfl, rfl⟩ := hpq.exists_fork
  have hc := (h c (Path.mem_spine_of_dropLast hp)).asArray?
  refine get?_update_of_fork f c hs r' r ?_
  cases hget : doc.get? c with
  | none => rfl
  | some part => simpa [hget] using hc

/-- Of two changes neither is above the other: they may change places. -/
theorem update_comm (h : doc.SpineTidy) (f g : Json → Json) {p q : Path} (hpq : p.Apart q)
    (hp : p.dropLast ∈ Path.spine) : update f p (update g q doc) = update g q (update f p doc) := by
  obtain ⟨c, s, s', r, r', hs, rfl, rfl⟩ := hpq.exists_fork
  exact Json.update_comm (h c (Path.mem_spine_of_dropLast hp)) hs f g r r'

/-- A change outside the spine keeps the spine tidy. -/
theorem update (h : doc.SpineTidy) (f : Json → Json) {q : Path} (hq : q ∉ Path.spine) :
    (update f q doc).SpineTidy := by
  intro p hp
  by_cases hpq : p <+: q
  · obtain ⟨rest, rfl⟩ := hpq
    cases rest with
    | nil => exact absurd (by rwa [List.append_nil]) hq
    | cons s rest =>
      rw [get?_update_append, Option.getD_some]
      exact (h p hp).update f s rest
  · have hqp : ¬ q <+: p := fun hqp => hq (Path.mem_spine_of_prefix hp hqp)
    rw [h.get?_update f ⟨hpq, hqp⟩ (Path.mem_spine_of_prefix hp (List.dropLast_prefix p))]
    exact h p hp

end SpineTidy

end Json

/-! ## Edits outside the spine -/

namespace Edit

/-- Where an edit is made. -/
def path : Edit → Path
  | .set path _ | .push path _ | .remove path => path

/-- The edit is a change outside the spine. -/
structure Outside (e : Edit) : Prop where
  exists_update : ∃ f, ∀ j, e.apply j = Json.update f e.path j
  path_not_mem : e.path ∉ Path.spine

theorem exists_update {key : String} {e : Edit} (h : e.Writes key) : ∃ f, ∀ j, e.apply j = Json.update f e.path j := by
  cases e with
  | set p value => exact ⟨fun _ => value, fun _ => rfl⟩
  | push p value => exact ⟨Json.append value, fun _ => rfl⟩
  | remove p => exact h.elim

variable {doc : Json} {e e' : Edit} {es : List Edit}

theorem Outside.spineTidy (he : e.Outside) (h : doc.SpineTidy) : (e.apply doc).SpineTidy := by
  obtain ⟨f, hf⟩ := he.exists_update
  rw [hf]
  exact h.update f he.path_not_mem

theorem spineTidy_foldl (hes : ∀ e ∈ es, e.Outside) (h : doc.SpineTidy) : (es.foldl apply doc).SpineTidy := by
  induction es generalizing doc with
  | nil => exact h
  | cons e es ih =>
    obtain ⟨he, hes⟩ := List.forall_mem_cons.mp hes
    exact ih hes (he.spineTidy h)

/-- Edits leave alone what is neither above nor below them. -/
theorem get?_foldl {p : Path} (hp : p.dropLast ∈ Path.spine) (hes : ∀ e ∈ es, e.Outside)
    (hapart : ∀ e ∈ es, p.Apart e.path) (h : doc.SpineTidy) : (es.foldl apply doc).get? p = doc.get? p := by
  induction es generalizing doc with
  | nil => rfl
  | cons e es ih =>
    obtain ⟨he, hes⟩ := List.forall_mem_cons.mp hes
    obtain ⟨hpe, hapart⟩ := List.forall_mem_cons.mp hapart
    obtain ⟨f, hf⟩ := he.exists_update
    have hfirst : (e.apply doc).get? p = doc.get? p := by
      rw [hf]
      exact h.get?_update f hpe hp
    exact (ih hes hapart (he.spineTidy h)).trans hfirst

end Edit

namespace Setting

variable {b : Builder} {s : Setting} {c : Concept} {e : Edit}

/-- A setting writes right below the spine; only the type of an activity that is the object goes deeper. -/
theorem path_of_mem_edits (he : e ∈ s.edits b c) :
    e.path ∉ Path.spine ∧ (e.path.dropLast ∈ Path.spine ∨ ∃ name, s = .objectActivityType name) := by
  cases s with
  | name text =>
    rw [List.mem_singleton.mp he, Edit.path]
    cases b.kind <;> exact ⟨by decide, .inl (by decide)⟩
  | description text =>
    rw [List.mem_singleton.mp he, Edit.path]
    cases b.kind <;> exact ⟨by decide, .inl (by decide)⟩
  | objectActivityType name =>
    simp only [edits, List.mem_cons, List.not_mem_nil, or_false] at he
    rcases he with rfl | rfl <;> simp [Edit.path, Path.spine]
  | scoreRaw value least greatest =>
    simp only [edits, bound, List.mem_cons, List.mem_append, List.mem_map] at he
    rcases he with rfl | ⟨_, -, rfl⟩ | ⟨_, -, rfl⟩ <;> simp [Edit.path, Path.spine]
  | contextActivity relation activity =>
    rw [List.mem_singleton.mp he, Edit.path]
    cases relation <;> exact ⟨by decide, .inl (by decide)⟩
  | _ =>
    rw [List.mem_singleton.mp he]
    simp [Edit.path, Path.spine]

theorem outside_of_mem_edits (he : e ∈ s.edits b c) : e.Outside :=
  ⟨Edit.exists_update (writes_of_mem_edits he), (path_of_mem_edits he).1⟩

end Setting

/-! ## Documents of builders -/

namespace Builder

variable {b b' : Builder} {s : Setting}

theorem spineTidy_start (kind : DocumentKind) : (start kind).document.SpineTidy := by
  have hmissing : ∀ p ∈ Path.spine, p = [] ∨ (start kind).document.get? p = none := by cases kind <;> decide
  have hroot : (start kind).document.Tidy := by
    cases kind with
    | statement | attachment => exact Json.tidy_object Members.sorted_nil
    | subStatement | agent | group | activity => exact Json.tidy_object (Members.sorted_nil.insert _ _)
  intro p hp
  rcases hmissing p hp with rfl | hnone
  · rw [Json.get?_nil]
    exact hroot
  · rw [hnone]
    exact Json.tidy_null

theorem spineTidy_apply (h : b.document.SpineTidy) (ha : b.apply s = .ok b') : b'.document.SpineTidy := by
  obtain ⟨-, -, c, -, rfl⟩ := apply_eq_ok_iff.mp ha
  exact Edit.spineTidy_foldl (fun e he => Setting.outside_of_mem_edits he) h

/-- **The spine of every document that settings make is tidy.** -/
theorem Made.spineTidy {admits : Builder → Setting → Prop} (h : Made admits b) : b.document.SpineTidy := by
  induction h with
  | start kind => exact spineTidy_start kind
  | equip resolver template options _ ih => exact ih
  | tell _ _ _ ha ih => exact spineTidy_apply ih ha

theorem Told.spineTidy {ss : List Setting} (h : b.Told ss b') (hb : b.document.SpineTidy) : b'.document.SpineTidy := by
  induction h with
  | nothing => exact hb
  | equip _ _ _ _ ih => exact ih
  | tell _ ha ih => exact spineTidy_apply ih ha

end Builder

end StatementProfiles
