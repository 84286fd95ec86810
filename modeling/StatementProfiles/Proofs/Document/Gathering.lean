import StatementProfiles.Proofs.Document.Finish
import StatementProfiles.Proofs.Document.Spine

/-!
# Lists that settings add to

The activities of a context, the attachments of a statement and the members of a group are gathered in lists, entry by
entry (`Gathering`). A setting puts the entry that it brings behind the others and leaves every other list as it is
(`Gathering.Holds.apply`), so **a chain of settings adds to each list what it brings, in the order of the chain, and
changes nothing else of it** (`Builder.Told.holds`). Nor does the last step, which finishes the document
(`Gathering.Holds.build`).
-/

namespace StatementProfiles

theorem ContextRelation.key_injective {r r' : ContextRelation} (h : r.key = r'.key) : r = r' := by
  revert h
  cases r <;> cases r' <;> decide

/-- The lists in documents that settings add to. -/
inductive Gathering where
  | activities (relation : ContextRelation)
  | attachments
  | members
deriving DecidableEq, Repr

namespace Gathering

/-- Where a list is. -/
def path : Gathering → Path
  | .activities relation => ["context", "contextActivities", relation.key]
  | .attachments => ["attachments"]
  | .members => ["member"]

/-- What a setting adds to a list. -/
def brings? : Gathering → Setting → Option Json
  | .activities relation, .contextActivity relation' activity =>
    if relation' = relation then some activity.document else none
  | .attachments, .attachment entry => some entry.document
  | .members, .member agent => some agent.document
  | _, _ => none

/-- The list has these entries; there is no empty list. -/
def Holds (g : Gathering) (doc : Json) (entries : List Json) : Prop :=
  doc.get? g.path = if entries.isEmpty then none else some (.array entries)

instance (g : Gathering) (doc : Json) (entries : List Json) : Decidable (g.Holds doc entries) :=
  inferInstanceAs (Decidable (_ = _))

variable {g : Gathering} {doc : Json} {entries : List Json} {b b' : Builder} {s : Setting}

theorem dropLast_path_mem_spine (g : Gathering) : g.path.dropLast ∈ Path.spine := by
  cases g with
  | activities relation => cases relation <;> decide
  | attachments | members => decide

theorem Holds.congr {doc' : Json} (h : g.Holds doc entries) (heq : doc'.get? g.path = doc.get? g.path) :
    g.Holds doc' entries := heq.trans h

/-- An entry comes behind the others. -/
theorem Holds.push (h : g.Holds doc entries) (entry : Json) : g.Holds (doc.push g.path entry) (entries ++ [entry]) := by
  have hpushed := Json.get?_update_append (Json.append entry) g.path [] doc
  rw [List.append_nil, Json.update_nil, h] at hpushed
  cases entries with
  | nil => exact hpushed
  | cons first rest => exact hpushed

theorem edits_of_brings? {entry : Json} (h : g.brings? s = some entry) (c : Concept) :
    s.edits b c = [.push g.path entry] := by
  unfold brings? at h
  split at h
  · next relation relation' activity =>
    split at h
    · next heq =>
      cases h
      rw [← heq]
      rfl
    · cases h
  · cases h
    rfl
  · cases h
    rfl
  · cases h

/-- A setting that brings no entry writes elsewhere. -/
theorem apart_of_mem_edits (h : g.brings? s = none) {c : Concept} {e : Edit} (he : e ∈ s.edits b c) :
    g.path.Apart e.path := by
  cases s with
  | name text =>
    rw [List.mem_singleton.mp he, Edit.path]
    cases b.kind <;> cases g <;> simp [Builder.namePath, path, Path.Apart]
  | description text =>
    rw [List.mem_singleton.mp he, Edit.path]
    cases b.kind <;> cases g <;> simp [Builder.descriptionPath, path, Path.Apart]
  | objectActivityType name =>
    simp only [Setting.edits, List.mem_cons, List.not_mem_nil, or_false] at he
    rcases he with rfl | rfl <;> cases g <;> simp [Edit.path, path, Path.Apart]
  | scoreRaw value least greatest =>
    simp only [Setting.edits, Setting.bound, List.mem_cons, List.mem_append, List.mem_map] at he
    rcases he with rfl | ⟨_, -, rfl⟩ | ⟨_, -, rfl⟩ <;> cases g <;> simp [Edit.path, path, Path.Apart]
  | contextActivity relation' activity =>
    rw [List.mem_singleton.mp he, Edit.path]
    cases g with
    | activities relation =>
      have hne : relation.key ≠ relation'.key := by
        intro heq
        rw [brings?, if_pos (ContextRelation.key_injective heq).symm] at h
        cases h
      simp [path, Path.Apart, hne, hne.symm]
    | attachments | members => simp [path, Path.Apart]
  | attachment entry =>
    rw [List.mem_singleton.mp he, Edit.path]
    cases g with
    | attachments => cases h
    | activities relation | members => simp [path, Path.Apart]
  | member agent =>
    rw [List.mem_singleton.mp he, Edit.path]
    cases g with
    | members => cases h
    | activities relation | attachments => simp [path, Path.Apart]
  | _ =>
    rw [List.mem_singleton.mp he]
    cases g <;> simp [Edit.path, path, Path.Apart]

/-- A setting adds to a list what it brings to it, and nothing else. -/
theorem Holds.apply (h : g.Holds b.document entries) (hdoc : b.document.SpineTidy) (ha : b.apply s = .ok b') :
    g.Holds b'.document (entries ++ (g.brings? s).toList) := by
  obtain ⟨-, -, c, -, rfl⟩ := Builder.apply_eq_ok_iff.mp ha
  cases hentry : g.brings? s with
  | some entry =>
    rw [edits_of_brings? hentry]
    exact h.push entry
  | none =>
    rw [Option.toList_none, List.append_nil]
    exact h.congr (Edit.get?_foldl g.dropLast_path_mem_spine (fun e he => Setting.outside_of_mem_edits he)
      (fun e he => apart_of_mem_edits hentry he) hdoc)

theorem holds_start (g : Gathering) (kind : DocumentKind) : g.Holds (Builder.start kind).document [] := by
  cases g with
  | activities relation => cases kind <;> rfl
  | attachments | members => cases kind <;> rfl

/-! ## The last step -/

/-- The member is no list, and settings write nothing below it. -/
structure Passive (name : String) : Prop where
  apart : ∀ g : Gathering, g.path.Apart [name]
  not_mem : [name] ∉ Path.spine

theorem Passive.holds_fill {name : String} (hname : Passive name) (h : g.Holds doc entries) (hdoc : doc.SpineTidy)
    (isWanted : Bool) (text : String) : g.Holds (Builder.fill isWanted name text doc) entries := by
  unfold Builder.fill
  split
  · exact h.congr (hdoc.get?_update _ (hname.apart g) g.dropLast_path_mem_spine)
  · exact h

theorem Passive.spineTidy_fill {name : String} (hname : Passive name) (hdoc : doc.SpineTidy) (isWanted : Bool)
    (text : String) : (Builder.fill isWanted name text doc).SpineTidy := by
  unfold Builder.fill
  split
  · exact hdoc.update _ hname.not_mem
  · exact hdoc

theorem passive_id : Passive "id" := ⟨fun g => by cases g <;> simp [path, Path.Apart], by decide⟩

theorem passive_timestamp : Passive "timestamp" := ⟨fun g => by cases g <;> simp [path, Path.Apart], by decide⟩

theorem Holds.completed (h : g.Holds b.document entries) (hdoc : b.document.SpineTidy) (fresh : Builder.Fresh) :
    g.Holds (b.completed fresh) entries := by
  unfold Builder.completed
  split
  · exact passive_timestamp.holds_fill (passive_id.holds_fill h hdoc _ _) (passive_id.spineTidy_fill hdoc _ _) _ _
  · exact h

/-- The finished document has the same lists. -/
theorem Holds.build (h : g.Holds b.document entries) (hdoc : b.document.SpineTidy) {fresh : Builder.Fresh}
    (hb : b.build fresh = .ok doc) : g.Holds doc entries := by
  rw [(Builder.build_eq_ok_iff.mp hb).1]
  exact h.completed hdoc fresh

end Gathering

/-- **A chain of settings adds to each list what it brings, in its order, and changes nothing else of it.** -/
theorem Builder.Told.holds {b b' : Builder} {ss : List Setting} (h : b.Told ss b') (hdoc : b.document.SpineTidy)
    {g : Gathering} {entries : List Json} (hb : g.Holds b.document entries) :
    g.Holds b'.document (entries ++ ss.filterMap g.brings?) := by
  induction h with
  | nothing => rwa [List.filterMap_nil, List.append_nil]
  | equip _ _ _ _ ih => exact ih
  | @tell ss b₁ b₂ s hchain ha ih =>
    have hsingle : [s].filterMap g.brings? = (g.brings? s).toList := by cases hs : g.brings? s <;> simp [hs]
    rw [List.filterMap_append, hsingle, ← List.append_assoc]
    exact ih.apply (hchain.spineTidy hdoc) ha

end StatementProfiles
