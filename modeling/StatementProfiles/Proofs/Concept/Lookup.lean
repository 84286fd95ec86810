import Mathlib.Data.List.Nodup
import StatementProfiles.Concept.Lookup

/-!
# What lookups answer

A vocabulary lists every concept under its kind (`Vocabulary.Indexed`) and answers with concepts of its own only
(`Vocabulary.mem_of_lookup?`). A resolver answers with what one of its lookups answers, and for an IRI with that IRI
(`Resolver.exists_lookup_of_resolve`); where every IRI stands for itself in the end, no IRI is left without an answer
(`Resolver.exists_resolve_of_isIri`).
-/

namespace StatementProfiles

/-! ## Vocabularies -/

namespace Vocabulary

/-- Every concept is listed under its kind and under no other. -/
structure Indexed (v : Vocabulary) : Prop where
  places : ∀ kind, ∀ place ∈ v.places kind, place < v.concepts.length
  ofKind : ∀ kind, v.ofKind kind = v.concepts.filter fun c => c.kind = kind

theorem indexed_empty : empty.Indexed := ⟨fun _ _ h => (nomatch h), fun _ => rfl⟩

theorem Indexed.insert {v : Vocabulary} (h : v.Indexed) (c : Concept) : (v.insert c).Indexed where
  places kind place hp := by
    rw [Vocabulary.insert, List.length_append]
    unfold Vocabulary.insert at hp
    dsimp only at hp
    split at hp
    · rcases List.mem_append.mp hp with hp | hp
      · exact Nat.lt_succ_of_lt (h.places kind place hp)
      · rw [List.mem_singleton.mp hp]
        exact Nat.lt_succ_self _
    · exact Nat.lt_succ_of_lt (h.places kind place hp)
  ofKind kind := by
    have hbefore : (v.places kind).filterMap (fun place => (v.concepts ++ [c])[place]?) =
        v.concepts.filter fun c => c.kind = kind := by
      rw [← h.ofKind kind, Vocabulary.ofKind]
      exact List.filterMap_congr fun place hp => List.getElem?_append_left (h.places kind place hp)
    rw [Vocabulary.ofKind, Vocabulary.insert]
    dsimp only
    rw [List.filter_append]
    by_cases hk : kind = c.kind
    · rw [if_pos hk, List.filterMap_append, hbefore]
      simp [hk]
    · rw [if_neg hk, hbefore]
      simp [Ne.symm hk]

theorem Indexed.extend {v : Vocabulary} (h : v.Indexed) (cs : List Concept) : (v.extend cs).Indexed := by
  induction cs generalizing v with
  | nil => exact h
  | cons c cs ih => exact ih (h.insert c)

theorem concepts_extend (v : Vocabulary) (cs : List Concept) : (v.extend cs).concepts = v.concepts ++ cs := by
  induction cs generalizing v with
  | nil => exact (List.append_nil _).symm
  | cons c cs ih =>
    rw [List.append_cons]
    exact ih (v.insert c)

theorem extend_append (v : Vocabulary) (cs more : List Concept) : v.extend (cs ++ more) = (v.extend cs).extend more :=
  List.foldl_append

theorem mem_of_mem_ofKind {v : Vocabulary} {kind : ConceptKind} {c : Concept} (h : c ∈ v.ofKind kind) :
    c ∈ v.concepts := by
  obtain ⟨place, -, hc⟩ := List.mem_filterMap.mp h
  exact List.mem_of_getElem? hc

theorem Indexed.mem_ofKind_iff {v : Vocabulary} (h : v.Indexed) {kind : ConceptKind} {c : Concept} :
    c ∈ v.ofKind kind ↔ c ∈ v.concepts ∧ c.kind = kind := by
  rw [h.ofKind, List.mem_filter, decide_eq_true_eq]

/-- Comparing neighbours is enough: concepts that agree have the IRI of the first. -/
theorem agreed?_cons (c : Concept) (cs : List Concept) :
    agreed? (c :: cs) = if cs.all fun d => d.id == c.id then (c :: cs).getLast? else none := by
  induction cs generalizing c with
  | nil => rfl
  | cons d cs ih =>
    rw [agreed?, ih]
    by_cases hid : d.id = c.id
    · simp [hid]
    · simp [hid]

theorem mem_of_agreed? {cs : List Concept} {c : Concept} (h : agreed? cs = some c) : c ∈ cs := by
  cases cs with
  | nil => cases h
  | cons d cs =>
    rw [agreed?_cons] at h
    split at h
    · exact List.mem_of_getLast? h
    · cases h

/-- An answer is among the concepts of the kind and has the name. -/
theorem mem_ofKind_of_lookup? {v : Vocabulary} {identifier : String} {kind : ConceptKind} {c : Concept}
    (h : v.lookup? identifier kind = some c) : c ∈ v.ofKind kind ∧ c.isNamed identifier := by
  unfold lookup? at h
  split at h
  · next hc =>
    cases h
    have hid : c.id = identifier := by simpa using List.find?_some hc
    exact ⟨List.mem_of_find?_eq_some hc, by simp [Concept.isNamed, hid]⟩
  · exact List.mem_filter.mp (mem_of_agreed? h)

theorem mem_of_lookup? {v : Vocabulary} {identifier : String} {kind : ConceptKind} {c : Concept}
    (h : v.lookup? identifier kind = some c) : c ∈ v.concepts := mem_of_mem_ofKind (mem_ofKind_of_lookup? h).1

theorem find?_id_eq_some_iff {cs : List Concept} (hn : (cs.map Concept.id).Nodup) {id : String} {c : Concept} :
    cs.find? (fun c => c.id == id) = some c ↔ c ∈ cs ∧ c.id = id := by
  refine ⟨fun h => ⟨List.mem_of_find?_eq_some h, by simpa using List.find?_some h⟩, fun ⟨hc, hid⟩ => ?_⟩
  cases hd : cs.find? fun c => c.id == id with
  | none => exact absurd (beq_of_eq hid) (List.find?_eq_none.mp hd c hc)
  | some d =>
    have hdid : d.id = id := by simpa using List.find?_some hd
    have hsame : d.id = c.id := hdid.trans hid.symm
    rw [List.inj_on_of_nodup_map hn (List.mem_of_find?_eq_some hd) hc hsame]

/-- What concepts agree on is the IRI of each of them. -/
theorem map_id_agreed?_eq_some_iff {cs : List Concept} {iri : String} :
    (agreed? cs).map Concept.id = some iri ↔ (∃ c, c ∈ cs) ∧ ∀ c ∈ cs, c.id = iri := by
  induction cs with
  | nil => simp [agreed?]
  | cons c cs ih =>
    cases cs with
    | nil => simp [agreed?]
    | cons d cs =>
      rw [agreed?]
      by_cases hid : d.id = c.id
      · rw [if_pos (beq_of_eq hid), ih]
        simp [hid]
      · rw [if_neg (by simpa using hid), Option.map_none]
        simp only [List.forall_mem_cons]
        refine iff_of_false nofun ?_
        rintro ⟨-, hc, hd, -⟩
        exact hid (hd.trans hc.symm)

theorem agreed?_eq_some_iff {cs : List Concept} (hn : (cs.map Concept.id).Nodup) {c : Concept} :
    agreed? cs = some c ↔ c ∈ cs ∧ ∀ d ∈ cs, d = c := by
  constructor
  · intro h
    have hc : c ∈ cs := mem_of_agreed? h
    have hid : (agreed? cs).map Concept.id = some c.id := by rw [h, Option.map_some]
    exact ⟨hc, fun d hd => List.inj_on_of_nodup_map hn hd hc ((map_id_agreed?_eq_some_iff.mp hid).2 d hd)⟩
  · rintro ⟨hc, hall⟩
    have hid : (agreed? cs).map Concept.id = some c.id :=
      map_id_agreed?_eq_some_iff.mpr ⟨⟨c, hc⟩, fun d hd => by rw [hall d hd]⟩
    obtain ⟨d, hd, -⟩ := Option.map_eq_some_iff.mp hid
    rw [hd, hall d (mem_of_agreed? hd)]

theorem isSome_agreed?_iff {cs : List Concept} : (agreed? cs).isSome ↔ ∃! id, ∃ c ∈ cs, c.id = id := by
  have hiri : (agreed? cs).isSome ↔ ∃ iri, (agreed? cs).map Concept.id = some iri := by
    rw [← Option.isSome_iff_exists, Option.isSome_map]
  simp only [hiri, map_id_agreed?_eq_some_iff]
  constructor
  · rintro ⟨iri, ⟨c, hc⟩, hall⟩
    refine ⟨iri, ⟨c, hc, hall c hc⟩, ?_⟩
    rintro _ ⟨d, hd, rfl⟩
    exact hall d hd
  · rintro ⟨iri, ⟨c, hc, -⟩, honly⟩
    exact ⟨iri, ⟨c, hc⟩, fun d hd => honly d.id ⟨d, hd, rfl⟩⟩

/-- Two vocabularies with the same concepts, in whatever order, give the same answers. -/
theorem lookup?_congr {v w : Vocabulary} (hv : v.Indexed) (hw : w.Indexed) (hp : v.concepts.Perm w.concepts)
    (hn : (v.concepts.map Concept.id).Nodup) (identifier : String) (kind : ConceptKind) :
    v.lookup? identifier kind = w.lookup? identifier kind := by
  have hkind : (v.ofKind kind).Perm (w.ofKind kind) := by
    rw [hv.ofKind, hw.ofKind]
    exact hp.filter _
  have hsub : (v.ofKind kind).Sublist v.concepts := hv.ofKind kind ▸ List.filter_sublist
  have hids : ((v.ofKind kind).map Concept.id).Nodup := (hsub.map Concept.id).nodup hn
  have hfind : (v.ofKind kind).find? (fun c => c.id == identifier) =
      (w.ofKind kind).find? (fun c => c.id == identifier) := by
    ext c
    rw [find?_id_eq_some_iff hids, find?_id_eq_some_iff ((hkind.map Concept.id).nodup_iff.mp hids), hkind.mem_iff]
  have hnamed := hkind.filter fun c => c.isNamed identifier
  have hnamedIds := ((List.filter_sublist (p := fun c => c.isNamed identifier)).map Concept.id).nodup hids
  have hagreed : agreed? ((v.ofKind kind).filter fun c => c.isNamed identifier) =
      agreed? ((w.ofKind kind).filter fun c => c.isNamed identifier) := by
    ext c
    rw [agreed?_eq_some_iff hnamedIds, agreed?_eq_some_iff ((hnamed.map Concept.id).nodup_iff.mp hnamedIds)]
    simp only [hnamed.mem_iff]
  rw [lookup?, lookup?, hfind, hagreed]

/-- A name that is no IRI of a concept is looked up among the labels. -/
theorem lookup?_eq_agreed? {v : Vocabulary} {identifier : String} (hid : ∀ c ∈ v.concepts, c.id ≠ identifier)
    (kind : ConceptKind) :
    v.lookup? identifier kind = agreed? ((v.ofKind kind).filter fun c => c.isNamed identifier) := by
  have hnone : ((v.ofKind kind).find? fun c => c.id == identifier) = none :=
    List.find?_eq_none.mpr fun c hc => by simpa using hid c (mem_of_mem_ofKind hc)
  rw [lookup?, hnone]

/-- Where an identifier is no IRI of the kind, the concepts of the kind that it names are those with that label. -/
theorem mem_filter_isNamed_iff {v : Vocabulary} (h : v.Indexed) {identifier : String} {kind : ConceptKind}
    (hid : ∀ c ∈ v.concepts, c.kind = kind → c.id ≠ identifier) {c : Concept} :
    c ∈ (v.ofKind kind).filter (fun c => c.isNamed identifier) ↔
      c ∈ v.concepts ∧ c.kind = kind ∧ identifier ∈ Members.values c.prefLabel := by
  rw [List.mem_filter, h.mem_ofKind_iff, and_assoc]
  refine and_congr_right fun hc => and_congr_right fun hkind => ?_
  simp [Concept.isNamed, hid c hc hkind]

/-- A name that is no IRI of a concept stands for the one concept of a kind with that label. -/
theorem lookup?_eq_some_iff {v : Vocabulary} (h : v.Indexed) (hn : (v.concepts.map Concept.id).Nodup)
    {identifier : String} (hid : ∀ c ∈ v.concepts, c.id ≠ identifier) {kind : ConceptKind} {c : Concept} :
    v.lookup? identifier kind = some c ↔
      (c ∈ v.concepts ∧ c.kind = kind ∧ identifier ∈ Members.values c.prefLabel) ∧
        ∀ d ∈ v.concepts, d.kind = kind → identifier ∈ Members.values d.prefLabel → d = c := by
  have hsub : ((v.ofKind kind).filter fun c => c.isNamed identifier).Sublist v.concepts :=
    List.filter_sublist.trans (h.ofKind kind ▸ List.filter_sublist)
  rw [lookup?_eq_agreed? hid, agreed?_eq_some_iff ((hsub.map Concept.id).nodup hn)]
  simp only [mem_filter_isNamed_iff h fun d hd _ => hid d hd, and_imp]

/-- Such a name stands for something when all concepts of the kind with that label have one IRI. -/
theorem isSome_lookup?_iff {v : Vocabulary} (h : v.Indexed) {identifier : String}
    (hid : ∀ c ∈ v.concepts, c.id ≠ identifier) {kind : ConceptKind} :
    (v.lookup? identifier kind).isSome ↔
      ∃! id, ∃ c ∈ v.concepts, c.kind = kind ∧ identifier ∈ Members.values c.prefLabel ∧ c.id = id := by
  rw [lookup?_eq_agreed? hid, isSome_agreed?_iff]
  simp only [mem_filter_isNamed_iff h fun d hd _ => hid d hd, and_assoc]

end Vocabulary

/-! ## IRIs as answers -/

theorem contains_colon_of_isSchemeRest : ∀ {cs : List Char}, Iri.isSchemeRest cs → cs.contains ':'
  | [], h => nomatch h
  | c :: cs, h => by
    by_cases hc : c = ':'
    · simp [hc]
    · have hrest : Iri.isSchemeRest cs := by
        simp only [Iri.isSchemeRest, Bool.and_eq_true] at h
        exact h.2
      simpa using Or.inr (contains_colon_of_isSchemeRest hrest)

theorem isIri_of_isAbsoluteIri {s : String} (h : isAbsoluteIri s) : isIri s := by
  unfold isIri
  unfold isAbsoluteIri at h
  cases hs : s.toList with
  | nil =>
    rw [hs] at h
    cases h
  | cons c cs =>
    rw [hs, Iri.isAbsoluteChars, Bool.and_eq_true] at h
    simpa using Or.inr (contains_colon_of_isSchemeRest h.2)

/-- All answers of a lookup are concepts with IRIs. -/
def Lookup.OnlyIris (l : Lookup) : Prop :=
  ∀ identifier kind c, l.lookup? identifier kind = some c → isIri c.id

theorem Lookup.onlyIris_anyIri : Lookup.anyIri.OnlyIris := by
  intro identifier kind c h
  simp only [Lookup.lookup?] at h
  split at h
  · next hi =>
    cases h
    exact hi
  · cases h

theorem Lookup.onlyIris_vocabulary {v : Vocabulary} (h : ∀ c ∈ v.concepts, isIri c.id) :
    (Lookup.vocabulary v).OnlyIris :=
  fun _ _ c hc => h c (Vocabulary.mem_of_lookup? hc)

namespace Resolver

variable {r : Resolver} {identifier : String} {kind : ConceptKind} {c : Concept}

theorem exists_lookup_of_resolve (h : r.resolve identifier kind = .ok c) :
    ∃ l ∈ r.lookups, l.lookup? identifier kind = some c ∧ (isIri identifier → c.id = identifier) := by
  unfold resolve at h
  split at h
  · next hc =>
    cases h
    obtain ⟨l, hl, ha⟩ := List.exists_of_findSome?_eq_some hc
    obtain ⟨hc, hid⟩ := Option.filter_eq_some_iff.mp ha
    refine ⟨l, hl, hc, fun hi => ?_⟩
    simpa [hi] using hid
  · cases h

/-- The resolver finds a concept. -/
def Knows (r : Resolver) (kind : ConceptKind) (identifier : String) : Prop := ∃ c, r.resolve identifier kind = .ok c

theorem knows_iff : r.Knows kind identifier ↔ ∃ l ∈ r.lookups, (answer? identifier kind l).isSome := by
  rw [← List.findSome?_isSome_iff, Knows]
  unfold resolve
  cases r.lookups.findSome? (answer? identifier kind) <;> simp

/-- For a name that is no IRI every answer counts. -/
theorem answer?_of_not_isIri (h : isIri identifier = false) (l : Lookup) :
    answer? identifier kind l = l.lookup? identifier kind := by
  rw [answer?, h]
  cases l.lookup? identifier kind <;> rfl

theorem isIri_of_resolve (hr : ∀ l ∈ r.lookups, l.OnlyIris) (h : r.resolve identifier kind = .ok c) : isIri c.id := by
  obtain ⟨l, hl, hc, -⟩ := exists_lookup_of_resolve h
  exact hr l hl identifier kind c hc

/-- An IRI stands for a concept with that IRI where every IRI stands for itself in the end. -/
theorem exists_resolve_of_isIri (hl : .anyIri ∈ r.lookups) (hi : isIri identifier) (kind : ConceptKind) :
    ∃ c, r.resolve identifier kind = .ok c ∧ c.id = identifier := by
  cases hr : r.resolve identifier kind with
  | ok c =>
    obtain ⟨-, -, -, hid⟩ := exists_lookup_of_resolve hr
    exact ⟨c, rfl, hid hi⟩
  | error e =>
    unfold resolve at hr
    split at hr
    · cases hr
    · next hn =>
      have hanswer := List.findSome?_eq_none_iff.mp hn .anyIri hl
      simp [answer?, Lookup.lookup?, hi, Concept.bare] at hanswer

end Resolver

end StatementProfiles
