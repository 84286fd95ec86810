import StatementProfiles.Proofs.Concept.Lookup

/-!
# The first answer that counts

A resolver gives the answer of the first lookup whose answer counts, and for an IRI only a concept with that IRI does
(`Resolver.resolve_eq_ok_iff`). Where every IRI stands for itself in the end, an IRI therefore gets the first answer
with that IRI (`Resolver.exists_firstAnswer_of_isIri`), and a name the first answer at all
(`Resolver.resolve_withAnyIri_iff`), whatever lookups come behind it (`Resolver.FirstAnswer.append`). Vocabularies,
tables and the lookup of any IRI answer with concepts of the kind that was asked for (`Lookup.Provided.kind_eq`).
-/

namespace StatementProfiles

variable {identifier : String} {kind : ConceptKind} {c : Concept}

/-! ## The kind of an answer -/

theorem Vocabulary.Indexed.kind_eq {v : Vocabulary} (h : v.Indexed) (hc : v.lookup? identifier kind = some c) :
    c.kind = kind := (h.mem_ofKind_iff.mp (mem_ofKind_of_lookup? hc).1).2

/-- A lookup of the library: a vocabulary filled concept by concept, a table, or any IRI for itself. -/
inductive Lookup.Provided : Lookup → Prop
  | anyIri : Provided .anyIri
  | vocabulary (cs : List Concept) : Provided (.vocabulary (Vocabulary.empty.extend cs))
  | aliases (t : AliasTable) : Provided (.aliases t)

theorem Lookup.Provided.kind_eq {l : Lookup} (h : l.Provided) (hc : l.lookup? identifier kind = some c) :
    c.kind = kind := by
  cases h with
  | anyIri =>
    simp only [Lookup.lookup?] at hc
    split at hc
    · cases hc
      rfl
    · cases hc
  | vocabulary cs => exact (Vocabulary.indexed_empty.extend cs).kind_eq hc
  | aliases t =>
    obtain ⟨e, he, rfl⟩ := Option.map_eq_some_iff.mp hc
    have hfits := List.find?_some he
    simp only [Bool.and_eq_true, beq_iff_eq] at hfits
    exact hfits.2

namespace Resolver

variable {r : Resolver} {lookups : List Lookup} {Counts : Concept → Prop}

/-! ## The first answer -/

/-- Some lookup gives an answer that counts, and no lookup in front of it does. -/
def FirstAnswer (lookups : List Lookup) (identifier : String) (kind : ConceptKind) (Counts : Concept → Prop)
    (c : Concept) : Prop :=
  ∃ before l after, lookups = before ++ l :: after ∧ l.lookup? identifier kind = some c ∧ Counts c ∧
    ∀ m ∈ before, ∀ d, m.lookup? identifier kind = some d → ¬Counts d

theorem FirstAnswer.counts (h : FirstAnswer lookups identifier kind Counts c) : Counts c := by
  obtain ⟨_, _, _, -, -, hc, -⟩ := h
  exact hc

theorem FirstAnswer.exists_mem (h : FirstAnswer lookups identifier kind Counts c) :
    ∃ l ∈ lookups, l.lookup? identifier kind = some c := by
  obtain ⟨before, l, after, rfl, hc, -, -⟩ := h
  exact ⟨l, List.mem_append_right _ List.mem_cons_self, hc⟩

/-- Further lookups behind the others change nothing. -/
theorem FirstAnswer.append (h : FirstAnswer lookups identifier kind Counts c) (more : List Lookup) :
    FirstAnswer (lookups ++ more) identifier kind Counts c := by
  obtain ⟨before, l, after, rfl, hfirst⟩ := h
  refine ⟨before, l, after ++ more, ?_, hfirst⟩
  rw [List.append_assoc, List.cons_append]

/-- A lookup at the end that gives no answer may be left out. -/
theorem FirstAnswer.of_append_singleton {l : Lookup} (hl : l.lookup? identifier kind = none)
    (h : FirstAnswer (lookups ++ [l]) identifier kind Counts c) : FirstAnswer lookups identifier kind Counts c := by
  obtain ⟨before, m, after, hsplit, hc, hrest⟩ := h
  rcases List.eq_nil_or_concat after with rfl | ⟨after, last, rfl⟩
  · have hlast : l = m := List.head_eq_of_cons_eq (List.append_inj' hsplit rfl).2
    rw [hlast, hc] at hl
    cases hl
  · rw [List.concat_eq_append, ← List.cons_append, ← List.append_assoc] at hsplit
    exact ⟨before, m, after, (List.append_inj' hsplit rfl).1, hc, hrest⟩

theorem firstAnswer_congr {Counts' : Concept → Prop} (h : ∀ d, Counts d ↔ Counts' d) :
    FirstAnswer lookups identifier kind Counts c ↔ FirstAnswer lookups identifier kind Counts' c := by
  simp only [FirstAnswer, h]

/-! ## Resolving -/

theorem answer?_eq_some_iff {l : Lookup} :
    answer? identifier kind l = some c ↔
      l.lookup? identifier kind = some c ∧ (isIri identifier → c.id = identifier) := by
  rw [answer?, Option.filter_eq_some_iff]
  cases isIri identifier <;> simp

/-- **A resolver gives the first answer that counts**: for an IRI one with that IRI. -/
theorem resolve_eq_ok_iff :
    r.resolve identifier kind = .ok c ↔
      FirstAnswer r.lookups identifier kind (fun d => isIri identifier → d.id = identifier) c := by
  have hfound : r.resolve identifier kind = .ok c ↔ r.lookups.findSome? (answer? identifier kind) = some c := by
    unfold resolve
    cases r.lookups.findSome? (answer? identifier kind) <;> simp
  rw [hfound, List.findSome?_eq_some_iff]
  simp only [answer?_eq_some_iff, Option.eq_none_iff_forall_ne_some, ne_eq, not_and]
  constructor
  · rintro ⟨before, l, after, hsplit, ⟨hc, hid⟩, hbefore⟩
    exact ⟨before, l, after, hsplit, hc, hid, hbefore⟩
  · rintro ⟨before, l, after, hsplit, hc, hid, hbefore⟩
    exact ⟨before, l, after, hsplit, ⟨hc, hid⟩, hbefore⟩

theorem anyIri_mem_withAnyIri (lookups : List Lookup) : .anyIri ∈ (withAnyIri lookups).lookups :=
  List.mem_append_right _ (List.mem_singleton_self _)

/-- An IRI gets the first answer with that IRI. -/
theorem exists_firstAnswer_of_isIri (lookups : List Lookup) (hi : isIri identifier) (kind : ConceptKind) :
    ∃ c, (withAnyIri lookups).resolve identifier kind = .ok c ∧
      FirstAnswer (lookups ++ [.anyIri]) identifier kind (fun d => d.id = identifier) c := by
  obtain ⟨c, hc, -⟩ := exists_resolve_of_isIri (anyIri_mem_withAnyIri lookups) hi kind
  refine ⟨c, hc, (firstAnswer_congr fun d => ?_).mp (resolve_eq_ok_iff.mp hc)⟩
  exact ⟨fun h => h hi, fun h _ => h⟩

/-- A name gets the first answer at all. -/
theorem resolve_withAnyIri_iff (hi : isIri identifier = false) :
    (withAnyIri lookups).resolve identifier kind = .ok c ↔
      FirstAnswer lookups identifier kind (fun _ => True) c := by
  have hcounts : ∀ d : Concept, (isIri identifier → d.id = identifier) ↔ True := by simp [hi]
  rw [resolve_eq_ok_iff, firstAnswer_congr hcounts]
  have hnone : Lookup.anyIri.lookup? identifier kind = none := by simp [Lookup.lookup?, hi]
  exact ⟨.of_append_singleton hnone, fun h => h.append [.anyIri]⟩

/-- A name stands for something when some lookup knows it. -/
theorem exists_resolve_withAnyIri_iff (hi : isIri identifier = false) :
    (∃ c, (withAnyIri lookups).resolve identifier kind = .ok c) ↔
      ∃ l ∈ lookups, ∃ c, l.lookup? identifier kind = some c := by
  rw [← Knows, knows_iff]
  simp only [answer?_of_not_isIri hi, Option.isSome_iff_exists, withAnyIri, List.mem_append, List.mem_singleton]
  constructor
  · rintro ⟨l, hl | rfl, c, hc⟩
    · exact ⟨l, hl, c, hc⟩
    · simp [Lookup.lookup?, hi] at hc
  · rintro ⟨l, hl, c, hc⟩
    exact ⟨l, .inl hl, c, hc⟩

theorem provided_withAnyIri (h : ∀ l ∈ lookups, l.Provided) : ∀ l ∈ (withAnyIri lookups).lookups, l.Provided := by
  intro l hl
  rcases List.mem_append.mp hl with hl | hl
  · exact h l hl
  · rw [List.mem_singleton.mp hl]
    exact .anyIri

theorem onlyIris_withAnyIri (h : ∀ l ∈ lookups, l.OnlyIris) : ∀ l ∈ (withAnyIri lookups).lookups, l.OnlyIris := by
  intro l hl
  rcases List.mem_append.mp hl with hl | hl
  · exact h l hl
  · rw [List.mem_singleton.mp hl]
    exact Lookup.onlyIris_anyIri

theorem kind_eq_of_resolve (h : ∀ l ∈ r.lookups, l.Provided) (hc : r.resolve identifier kind = .ok c) :
    c.kind = kind := by
  obtain ⟨l, hl, ha⟩ := (resolve_eq_ok_iff.mp hc).exists_mem
  exact (h l hl).kind_eq ha

end Resolver

end StatementProfiles
