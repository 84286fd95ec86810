import StatementProfiles.Proofs.Concept.Resolution

/-!
# One answer or none

Among the concepts of a kind an identifier denotes an IRI when it is the IRI of one of them, or else when some have it
as a label and all these have that IRI (`Vocabulary.Denotes`). This asks which concepts there are, not in which order
they came. The answer of a vocabulary has the IRI that is denoted, and there is an answer when there is such an IRI
(`Vocabulary.Indexed.map_id_lookup?_eq_some_iff`). **A vocabulary therefore answers uniquely or not at all**
(`Vocabulary.answers_uniquely`).
-/

namespace StatementProfiles

namespace Vocabulary

variable {v : Vocabulary} {cs ds : List Concept} {identifier iri : String} {kind : ConceptKind} {c : Concept}

/-! ## What an identifier denotes -/

/-- The concept is of the kind and has the identifier as a label. -/
def Labelled (identifier : String) (kind : ConceptKind) (c : Concept) : Prop :=
  c.kind = kind ∧ identifier ∈ Members.values c.prefLabel

/-- The identifier is the IRI of a concept of the kind, or else the label of some that all have the IRI. -/
inductive Denotes (cs : List Concept) (identifier : String) (kind : ConceptKind) : String → Prop
  | iri : (∃ c ∈ cs, c.kind = kind ∧ c.id = identifier) → Denotes cs identifier kind identifier
  | label {iri : String} : (∀ c ∈ cs, c.kind = kind → c.id ≠ identifier) → (∃ c ∈ cs, Labelled identifier kind c) →
      (∀ c ∈ cs, Labelled identifier kind c → c.id = iri) → Denotes cs identifier kind iri

/-- What is denoted depends on which concepts there are. -/
theorem Denotes.congr (hmem : ∀ c, c ∈ cs ↔ c ∈ ds) (h : Denotes cs identifier kind iri) :
    Denotes ds identifier kind iri := by
  cases h with
  | iri hc =>
    obtain ⟨c, hc, hkind⟩ := hc
    exact .iri ⟨c, (hmem c).mp hc, hkind⟩
  | label hno hsome hall =>
    obtain ⟨c, hc, hlabel⟩ := hsome
    exact .label (fun d hd => hno d ((hmem d).mpr hd)) ⟨c, (hmem c).mp hc, hlabel⟩
      fun d hd => hall d ((hmem d).mpr hd)

/-- An IRI is denoted when the identifier is an IRI, or else when the concepts with the label have one IRI. -/
theorem exists_denotes_iff :
    (∃ iri, Denotes cs identifier kind iri) ↔
      (∃ c ∈ cs, c.kind = kind ∧ c.id = identifier) ∨
        ∃! iri, ∃ c ∈ cs, Labelled identifier kind c ∧ c.id = iri := by
  constructor
  · rintro ⟨iri, hiri | ⟨-, ⟨c, hc, hlabel⟩, hall⟩⟩
    · exact .inl hiri
    · refine .inr ⟨iri, ⟨c, hc, hlabel, hall c hc hlabel⟩, ?_⟩
      rintro _ ⟨d, hd, hlabel', rfl⟩
      exact hall d hd hlabel'
  · intro h
    by_cases hiri : ∃ c ∈ cs, c.kind = kind ∧ c.id = identifier
    · exact ⟨identifier, .iri hiri⟩
    · obtain ⟨iri, ⟨c, hc, hlabel, -⟩, honly⟩ := h.resolve_left hiri
      refine ⟨iri, .label (fun d hd hkind hid => hiri ⟨d, hd, hkind, hid⟩) ⟨c, hc, hlabel⟩ ?_⟩
      exact fun d hd hlabel' => honly d.id ⟨d, hd, hlabel', rfl⟩

/-! ## Answers -/

/-- **The answer has the IRI that is denoted**, and there is an answer when an IRI is. -/
theorem Indexed.map_id_lookup?_eq_some_iff (h : v.Indexed) :
    (v.lookup? identifier kind).map Concept.id = some iri ↔ Denotes v.concepts identifier kind iri := by
  unfold lookup?
  split
  · next c hfound =>
    obtain ⟨hc, hkind⟩ := h.mem_ofKind_iff.mp (List.mem_of_find?_eq_some hfound)
    have hid : c.id = identifier := by simpa using List.find?_some hfound
    rw [Option.map_some, hid]
    constructor
    · intro heq
      cases heq
      exact .iri ⟨c, hc, hkind, hid⟩
    · rintro (_ | ⟨hno, -, -⟩)
      · rfl
      · exact absurd hid (hno c hc hkind)
  · next hnone =>
    have hno : ∀ c ∈ v.concepts, c.kind = kind → c.id ≠ identifier := by
      intro c hc hkind
      simpa using List.find?_eq_none.mp hnone c (h.mem_ofKind_iff.mpr ⟨hc, hkind⟩)
    simp only [map_id_agreed?_eq_some_iff, mem_filter_isNamed_iff h hno]
    constructor
    · rintro ⟨hsome, hall⟩
      exact .label hno hsome fun c hc hlabel => hall c ⟨hc, hlabel⟩
    · rintro (⟨c, hc, hkind, hid⟩ | ⟨-, hsome, hall⟩)
      · exact absurd hid (hno c hc hkind)
      · exact ⟨hsome, fun c hc => hall c hc.1 hc.2⟩

/-- **A vocabulary answers uniquely or not at all.** Each kind lists its concepts in the order in which they were put
in. An identifier gets an answer when a concept of the kind has it as its IRI, or else when concepts of the kind have it
as a label and all of these have one IRI. The answer is one of the concepts, of the kind, and named so; an IRI wins over
labels; and neither whether there is an answer nor its IRI depends on the order of the concepts. -/
theorem answers_uniquely (cs : List Concept) (identifier : String) (kind : ConceptKind) :
    ((∀ place ∈ (empty.extend cs).places kind, place < (empty.extend cs).concepts.length) ∧
        (empty.extend cs).ofKind kind = cs.filter fun c => c.kind = kind) ∧
      ((∃ c, (empty.extend cs).lookup? identifier kind = some c) ↔
        (∃ c ∈ cs, c.kind = kind ∧ c.id = identifier) ∨
          ∃! iri, ∃ c ∈ cs, (c.kind = kind ∧ identifier ∈ Members.values c.prefLabel) ∧ c.id = iri) ∧
      (∀ c, (empty.extend cs).lookup? identifier kind = some c → c ∈ cs ∧ c.kind = kind ∧ c.isNamed identifier) ∧
      ((∃ d ∈ cs, d.kind = kind ∧ d.id = identifier) →
        ∃ c, (empty.extend cs).lookup? identifier kind = some c ∧ c.id = identifier) ∧
      ∀ ds, cs.Perm ds →
        ((empty.extend ds).lookup? identifier kind).map Concept.id =
          ((empty.extend cs).lookup? identifier kind).map Concept.id := by
  have hindexed : ∀ cs, (empty.extend cs).Indexed := indexed_empty.extend
  have hconcepts : ∀ cs, (empty.extend cs).concepts = cs := concepts_extend empty
  have hdenotes : ∀ cs iri, ((empty.extend cs).lookup? identifier kind).map Concept.id = some iri ↔
      Denotes cs identifier kind iri := by
    intro cs iri
    rw [(hindexed cs).map_id_lookup?_eq_some_iff, hconcepts]
  refine ⟨⟨(hindexed cs).places kind, ?_⟩, ?_, fun c hc => ⟨?_, (hindexed cs).kind_eq hc, (mem_ofKind_of_lookup? hc).2⟩,
    fun hiri => ?_, fun ds hp => ?_⟩
  · rw [(hindexed cs).ofKind, hconcepts]
  · refine Iff.trans ?_ exists_denotes_iff
    simp only [← hdenotes cs, Option.map_eq_some_iff]
    rw [exists_comm]
    simp
  · exact hconcepts cs ▸ mem_of_lookup? hc
  · exact Option.map_eq_some_iff.mp ((hdenotes cs identifier).mpr (.iri hiri))
  · ext iri
    rw [hdenotes, hdenotes]
    exact ⟨.congr fun c => hp.mem_iff.symm, .congr fun c => hp.mem_iff⟩

end Vocabulary

end StatementProfiles
