import StatementProfiles.Proofs.Registry.Consistency
import StatementProfiles.Proofs.Registry.Grammar

/-!
# Kept grammars stay true

An unfolding that succeeds goes by declarations that are there, and these are neither withdrawn nor shadowed when a
profile is added (`Catalog.expand_of_extends`). So the grammars that a registry keeps are those of its present catalog
after every run, and **a registry answers for every pattern what unfolding it from nothing would answer**
(`Registry.grammar_never_stale`).
-/

namespace StatementProfiles

namespace Catalog

/-- What is declared in a catalog is declared in another one in the same way, and no template has become a pattern. -/
structure Extends (c c' : Catalog) : Prop where
  pattern : ∀ id entry, c.pattern? id = some entry → c'.pattern? id = some entry
  template : ∀ id t, c.template? id = some t → c'.template? id = some t
  apart : ∀ id t, c.template? id = some t → c.pattern? id = none → c'.pattern? id = none

variable {c c' : Catalog}

theorem expand_of_extends (he : c.Extends c') {path : List String} {id : String} {p : Pattern}
    (h : c.expand path id = .ok p) : c'.expand path id = .ok p := by
  refine expand_induction (fun path id entry operator p hp hd ho => ?_) h
  refine expand_eq_ok_iff.mpr ⟨hp, entry, operator, ⟨he.pattern id entry hd.1, hd.2⟩, ho.imp fun r _ q hq => ?_⟩
  rcases hq with ⟨hpattern, -, hq⟩ | ⟨hnone, ⟨t, ht, hown⟩, hq⟩
  · obtain ⟨entry', hentry⟩ := Option.isSome_iff_exists.mp hpattern
    exact .inl ⟨Option.isSome_iff_exists.mpr ⟨entry', he.pattern _ _ hentry⟩, hq⟩
  · exact .inr ⟨he.apart _ t ht hnone, ⟨t, he.template _ _ ht, hown⟩, hq⟩

theorem Sound.of_extends {done : Grammars} (h : c.Sound done) (he : c.Extends c') : c'.Sound done :=
  fun id p hp => expand_of_extends he (h id p hp)

end Catalog

namespace Registry

variable {r r' : Registry} {ts : List Template}

theorem Built.template_mem_ids (h : r.Built ts) {id : String} {t : Template} (ht : r.catalog.template? id = some t) :
    id ∈ r.ids := by
  obtain ⟨hmem, rfl⟩ := h.template_origin ht
  refine (templateIds_sublist r.profiles).subset ?_
  rw [← h.map_id]
  exact List.mem_map_of_mem hmem

theorem Built.pattern_mem_ids (h : r.Built ts) {id : String} {entry : PatternEntry}
    (he : r.catalog.pattern? id = some entry) : id ∈ r.ids := by
  obtain ⟨hmem, rfl⟩ := h.pattern_origin he
  obtain ⟨p, hp, hentry⟩ := List.mem_flatMap.mp hmem
  obtain ⟨d, hd, rfl⟩ := List.mem_map.mp hentry
  exact (patternIds_sublist r.profiles).subset (List.mem_flatMap.mpr ⟨p, hp, List.mem_map_of_mem hd⟩)

/-- A profile that is added comes with IRIs of its own, so all earlier declarations stay as they are. -/
theorem Built.extends_add (h : r.Built ts) {p : Profile} {ts' : List Template} (ha : r.Accepts p ts') :
    r.catalog.Extends (r.add p ts').catalog := by
  have hts : ((ts'.map fun t => (t.id, t)).map Prod.fst) = p.templates.map TemplateDefinition.id := by
    rw [List.map_map]
    exact (map_eq_map_of_forall₂ ha.compiled fun d t ht => (isCompiled_of_compileTemplate ht).id.symm).symm
  have hes : (((Catalog.entriesOf p).map fun e => (e.definition.id, e)).map Prod.fst) =
      p.patterns.map PatternDefinition.id := by
    simp [Catalog.entriesOf, Function.comp_def]
  have hnew : ∀ id ∈ r.ids, id ∉ p.templates.map TemplateDefinition.id ∧ id ∉ p.patterns.map PatternDefinition.id := by
    intro id hid
    rw [← not_or, ← List.mem_append]
    intro hmem
    exact ha.fresh ((templateIds_append_patternIds_sublist p).subset hmem) hid
  have htemplate : ∀ id ∈ r.ids, (r.add p ts').catalog.template? id = r.catalog.template? id := by
    intro id hid
    exact Table.find?_extend_of_not_mem (hts ▸ (hnew id hid).1)
  have hpattern : ∀ id ∈ r.ids, (r.add p ts').catalog.pattern? id = r.catalog.pattern? id := by
    intro id hid
    exact Table.find?_extend_of_not_mem (hes ▸ (hnew id hid).2)
  constructor
  · intro id entry he
    rw [hpattern id (h.pattern_mem_ids he), he]
  · intro id t ht
    rw [htemplate id (h.template_mem_ids ht), ht]
  · intro id t ht hn
    rw [hpattern id (h.template_mem_ids ht), hn]

/-- In a step no declaration is withdrawn or shadowed. -/
theorem Built.extends_of_step {P : Lookup → Prop} (h : r.Built ts) (hs : Step P r r') :
    r.catalog.Extends r'.catalog := by
  cases hs with
  | add ha => exact h.extends_add ha
  | options | lookups | grammars | passOver => exact ⟨fun _ _ h => h, fun _ _ h => h, fun _ _ _ h => h⟩

/-! ## The grammars that are kept -/

/-- The kept grammars are what unfolding from nothing gives. -/
def KeepsSound (r : Registry) : Prop := r.catalog.Sound r.grammars

theorem Built.keepsSound_of_step {P : Lookup → Prop} (h : r.Built ts) (hs : Step P r r') (hk : r.KeepsSound) :
    r'.KeepsSound := by
  have he := h.extends_of_step hs
  cases hs with
  | grammars hg => exact Catalog.sound_of_grammar hk hg
  | add | options | lookups | passOver => exact hk.of_extends he

theorem keepsSound_after (calls : List Call) : (after calls).KeepsSound := by
  refine (after_induction (motive := fun r => (∃ ts, r.Built ts) ∧ r.KeepsSound)
    ⟨⟨[], built_empty⟩, Catalog.sound_nil⟩ ?_ (brings_any calls)).2
  rintro r r' hs ⟨⟨ts, hb⟩, hk⟩
  exact ⟨hb.step hs, hb.keepsSound_of_step hs hk⟩

/-- The answer for a pattern does not depend on the kept grammars. -/
theorem KeepsSound.grammar_eq (h : r.KeepsSound) (id : String) : (r.grammar id).1 = r.catalog.expand [] id := by
  rw [← Catalog.map_fst_grammar h id, grammar]
  cases r.catalog.grammar r.grammars id with
  | ok result => rfl
  | error e => rfl

/-- **The grammars of a registry are never stale.** What it answers for a pattern, a tree or a fault, is what unfolding
the pattern from nothing answers; a tree stays the answer whatever comes after. -/
theorem grammar_never_stale (calls : List Call) (id : String) :
    ((after calls).grammar id).1 = ((after calls).catalog.grammar [] id).map Prod.fst ∧
      ∀ more p, ((after calls).grammar id).1 = .ok p → ((after (calls ++ more)).grammar id).1 = .ok p := by
  rw [(keepsSound_after calls).grammar_eq, Catalog.map_fst_grammar Catalog.sound_nil]
  refine ⟨rfl, fun more p hp => ?_⟩
  rw [(keepsSound_after (calls ++ more)).grammar_eq]
  rw [after_append]
  refine (Steps.preserve (motive := fun r => (∃ ts, r.Built ts) ∧ r.catalog.expand [] id = .ok p) ?_
    (steps_of_calls (after calls) (brings_any more)) ⟨exists_built_after calls, hp⟩).2
  rintro r r' hs ⟨⟨ts, hb⟩, hp⟩
  exact ⟨hb.step hs, Catalog.expand_of_extends (hb.extends_of_step hs) hp⟩

/-- A profile whose pattern names a pattern of another profile. -/
def units : Profile :=
  { (default : Profile) with
    id := "u:units"
    versions := [⟨"u:units/1", [], none⟩]
    patterns := [{ (default : PatternDefinition) with id := "u:unit", optional := some (.bare "u:readings") }] }

/-- The profile of that other pattern. -/
def readings : Profile :=
  { (default : Profile) with
    id := "u:books"
    versions := [⟨"u:books/1", [], none⟩]
    templates := [{ (default : TemplateDefinition) with id := "u:reading" }]
    patterns := [{ (default : PatternDefinition) with id := "u:readings", oneOrMore := some (.bare "u:reading") }] }

theorem grammar_never_stale_across_profiles :
    (∃ e, ((after [.register units]).grammar "u:unit").1 = .error e) ∧
    ∃ p : Pattern, p.leaves = ["u:reading"] ∧ ∀ more,
      ((after ([.register units, .grammar "u:unit", .register readings] ++ more)).grammar "u:unit").1 = .ok p := by
  constructor
  · have hearly : ((after [.register units]).grammar "u:unit").1.toOption.isNone := by decide +kernel
    cases he : ((after [.register units]).grammar "u:unit").1 with
    | error e => exact ⟨e, rfl⟩
    | ok p =>
      rw [he] at hearly
      cases hearly
  · have hlate : ((after [.register units, .grammar "u:unit", .register readings]).catalog.grammar [] "u:unit").map
        (fun result => result.1.leaves) = .ok ["u:reading"] := by decide +kernel
    obtain ⟨⟨p, done⟩, hp, hleaves⟩ := map_eq_ok_iff.mp hlate
    obtain ⟨hfresh, hstays⟩ := grammar_never_stale [.register units, .grammar "u:unit", .register readings] "u:unit"
    exact ⟨p, hleaves, fun more => hstays more p (hfresh.trans (by rw [hp]; rfl))⟩

end Registry

end StatementProfiles
