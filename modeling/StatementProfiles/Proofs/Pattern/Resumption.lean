import StatementProfiles.Proofs.Datum.Fields
import StatementProfiles.Proofs.Json.RoundTrip
import StatementProfiles.Proofs.Pattern.Leaves
import StatementProfiles.Proofs.Pattern.Record

/-!
# Occurrences that are put away and taken up again

The recorded part of an occurrence comes back as it was written, as a value (`MatchState.ofDatum?_ofJson_toJson`) and as
a text (`MatchState.carried?_eq`). Templates are offered to an occurrence, and between two of them its recorded part may
be written out and read back; one such event records what was accepted and changes nothing else
(`Occurrence.step_eq`). **Whatever happens to an occurrence that begins with nothing, its record fits the pattern and
holds the accepted templates in order** (`Occurrence.follow_start`).
-/

namespace StatementProfiles

/-! ## The recorded part as a value and as a text -/

namespace MatchState

theorem toJson_eq (s : MatchState) :
    s.toJson = .object (("patternId", .string s.patternId) ::
      (s.profileVersion.toList.map fun v => ("profileVersion", .string v)) ++
        [("templates", .strings s.templates)]) := by
  have hversion : ¬"profileVersion" < "patternId" := by decide
  have htemplates : ¬"templates" < "patternId" := by decide
  have hlast : ¬"templates" < "profileVersion" := by decide
  cases hv : s.profileVersion <;>
    simp [toJson, hv, Json.ofPairs, Members.ofList, Members.insert, Members.contains, Members.find?, Members.place,
      hversion, htemplates, hlast]

theorem mapM_text?_ofItems (xs : List String) : (Datum.ofItems (xs.map Json.string)).mapM Datum.text? = some xs := by
  induction xs with
  | nil => rfl
  | cons x xs ih =>
    rw [List.map_cons, Datum.ofItems, List.mapM_cons, ih]
    rfl

/-- **The recorded part is read back from its value.** -/
theorem ofDatum?_ofJson_toJson (s : MatchState) : ofDatum? (.ofJson s.toJson) = some s := by
  obtain ⟨id, version, templates⟩ := s
  have htemplates : (Datum.ofJson (.strings templates)).list? Datum.text? = some templates :=
    mapM_text?_ofItems templates
  rw [toJson_eq]
  cases version with
  | none =>
    rw [ofDatum?, Datum.Slots.of?_ofJson_object (by simp [Members.keys]), Option.bind_some]
    simp [Datum.Slots.required?, Datum.Slots.optional?, Datum.Slots.withDefault?, Datum.Slots.written?,
      Datum.Slots.find?_ofMembers, Members.find?, Datum.ofJson, Datum.text?, htemplates]
  | some v =>
    rw [ofDatum?, Datum.Slots.of?_ofJson_object (by simp [Members.keys]), Option.bind_some]
    simp [Datum.Slots.required?, Datum.Slots.optional?, Datum.Slots.withDefault?, Datum.Slots.written?,
      Datum.Slots.find?_ofMembers, Members.find?, Datum.ofJson, Datum.text?, Datum.optional?, htemplates]

/-- No number stands in the recorded part. -/
theorem wordy_toJson (s : MatchState) : Json.Wordy 2 s.toJson := by
  rw [toJson_eq]
  refine .object fun m hm => ?_
  rcases List.mem_append.mp hm with hm | hm
  · rcases List.mem_cons.mp hm with rfl | hm
    · exact .string 1 _
    · obtain ⟨v, -, rfl⟩ := List.mem_map.mp hm
      exact .string 1 v
  · obtain rfl := List.mem_singleton.mp hm
    refine .array fun j hj => ?_
    obtain ⟨x, -, rfl⟩ := List.mem_map.mp hj
    exact .string 0 x

/-- How the recorded part is kept. -/
inductive Carrier where
  /-- As a value. -/
  | value
  /-- As the text of the value. -/
  | text
deriving DecidableEq, Repr

/-- The recorded part after it was written out and read back. -/
def carried? (s : MatchState) : Carrier → Option MatchState
  | .value => ofDatum? (.ofJson s.toJson)
  | .text => (Json.readGlyphs (glyphs s.toJson.render)).bind ofDatum?

/-- **The recorded part comes back as it was.** -/
theorem carried?_eq (s : MatchState) (c : Carrier) : s.carried? c = some s := by
  cases c with
  | value => exact s.ofDatum?_ofJson_toJson
  | text =>
    rw [carried?, Json.readGlyphs_render (s.wordy_toJson.mono (by decide)), Option.bind_some]
    exact s.ofDatum?_ofJson_toJson

end MatchState

namespace Occurrence

/-! ## Events -/

/-- What happens to an occurrence. -/
inductive Event where
  /-- A template is offered as the next one. -/
  | offer (template : String)
  /-- The recorded part is written out and read back, and an occurrence of the pattern is taken up with it. -/
  | resume (carrier : MatchState.Carrier)
deriving DecidableEq, Repr

/-- The occurrence after an event, with the templates that it accepted. -/
def step (o : Occurrence) : Event → Option (Occurrence × List String)
  | .offer template =>
    match o.append template with
    | (.ok (), o') => some (o', [template])
    | (.error _, o') => some (o', [])
  | .resume carrier => (o.state.carried? carrier).map fun s => (⟨o.registration, o.grammar, s⟩, [])

/-- The occurrence after several events, with the templates that they accepted. -/
def follow (o : Occurrence) : List Event → Option (Occurrence × List String)
  | [] => some (o, [])
  | e :: es =>
    (o.step e).bind fun (o₁, xs) => (o₁.follow es).map fun (o₂, ys) => (o₂, xs ++ ys)

/-- An offered template is accepted when it may be the next one; otherwise nothing changes. -/
theorem step_offer (o : Occurrence) (x : String) :
    o.step (.offer x) = some (if o.canAppend x then (o.record [x], [x]) else (o, [])) := by
  rcases o.append_cases x with ⟨hx, h⟩ | ⟨hx, h⟩ <;> simp [step, h, hx]

/-- An occurrence is taken up as it was. -/
theorem step_resume (o : Occurrence) (c : MatchState.Carrier) : o.step (.resume c) = some (o, []) := by
  rw [step, o.state.carried?_eq c]
  rfl

/-- Nothing is recorded, or the record is complete or under way. -/
def Fits (o : Occurrence) : Prop :=
  o.templates = [] ∨ (o.grammar.run o.templates).isComplete = true ∨ (o.grammar.run o.templates).isUnderway = true

/-- What may be the next template keeps the record fitting, whatever it was before. -/
theorem fits_record {o : Occurrence} {x : String} (h : o.canAppend x = true) : (o.record [x]).Fits :=
  .inr (Bool.or_eq_true_iff.mp h)

/-- **An event records what it accepted and changes nothing else**, and the record goes on fitting the pattern. -/
theorem step_eq (o : Occurrence) (e : Event) :
    ∃ xs, o.step e = some (o.record xs, xs) ∧ (o.Fits → (o.record xs).Fits) := by
  have hstay : ∀ e, o.step e = some (o, []) → ∃ xs, o.step e = some (o.record xs, xs) ∧
      (o.Fits → (o.record xs).Fits) := fun e he => ⟨[], by rw [record_nil, he], by rw [record_nil]; exact id⟩
  cases e with
  | offer x =>
    by_cases h : o.canAppend x = true
    · exact ⟨[x], by rw [step_offer, if_pos h], fun _ => fits_record h⟩
    · exact hstay _ (by rw [step_offer, if_neg h])
  | resume c => exact hstay _ (o.step_resume c)

/-- Events record what they accepted, one after another. -/
theorem follow_eq (o : Occurrence) (es : List Event) :
    ∃ xs, o.follow es = some (o.record xs, xs) ∧ (o.Fits → (o.record xs).Fits) := by
  induction es generalizing o with
  | nil => exact ⟨[], by rw [follow, record_nil], by rw [record_nil]; exact id⟩
  | cons e es ih =>
    obtain ⟨xs, hxs, hfits⟩ := o.step_eq e
    obtain ⟨ys, hys, hfits'⟩ := ih (o.record xs)
    refine ⟨xs ++ ys, ?_, fun h => record_record o xs ys ▸ hfits' (hfits h)⟩
    rw [follow, hxs, Option.bind_some]
    dsimp only
    rw [hys, Option.map_some, record_record]

/-- The templates of a record that fits stand in the pattern. -/
theorem Fits.mem_templateIds {o : Occurrence} (h : o.Fits) : ∀ x ∈ o.templates, x ∈ o.grammar.templateIds := by
  intro x hx
  rw [Pattern.mem_templateIds]
  rcases h with h | h | h
  · rw [h] at hx
    cases hx
  · exact Pattern.mem_leaves_of_isComplete h x hx
  · exact Pattern.mem_leaves_of_isUnderway h x hx

/-- **The record of an occurrence.** Whatever is offered to an occurrence that begins with nothing, and however often it
is put away and taken up again: it holds the accepted templates in order and nothing else changes; the record is empty,
complete or under way, and made of the ids that the pattern lists; and the next template is accepted exactly when
`canAppend` says so. -/
theorem follow_start (p : Pattern) (registration : Uuid) (id : String) (version : Option String) (es : List Event) :
    ∃ o accepted, Occurrence.follow ⟨registration, p, .start id version⟩ es = some (o, accepted) ∧
      o = ⟨registration, p, id, version, accepted⟩ ∧
      (accepted = [] ∨ (p.run accepted).isComplete = true ∨ (p.run accepted).isUnderway = true) ∧
      (∀ x ∈ accepted, x ∈ p.templateIds) ∧
      (p.templateIds.Nodup ∧ (∀ x, x ∈ p.templateIds ↔ x ∈ p.leaves) ∧
        p.templateIds.Pairwise (p.leaves.idxOf · < p.leaves.idxOf ·)) ∧
      ∀ x, ((o.append x).1 = .ok () ↔ o.canAppend x = true) ∧
        o.append x = (if o.canAppend x then (.ok (), o.record [x]) else (.error (.outOfSequence id x accepted), o)) ∧
        o.step (.offer x) = some (if o.canAppend x then (o.record [x], [x]) else (o, [])) := by
  obtain ⟨xs, hxs, hfits⟩ := follow_eq ⟨registration, p, .start id version⟩ es
  have hrecord : Occurrence.record ⟨registration, p, .start id version⟩ xs = ⟨registration, p, id, version, xs⟩ := rfl
  rw [hrecord] at hxs hfits
  refine ⟨_, xs, hxs, rfl, hfits (.inl rfl), (hfits (.inl rfl)).mem_templateIds, ⟨p.nodup_templateIds,
    fun x => Pattern.mem_templateIds, p.pairwise_templateIds⟩,
    fun x => ⟨append_fst_eq_ok_iff, rfl, step_offer _ x⟩⟩

end Occurrence

end StatementProfiles
