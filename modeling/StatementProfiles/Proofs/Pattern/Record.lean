import StatementProfiles.Pattern.Occurrence

/-!
# Recording one template after another

An accepted template is put at the end of the record, and one that is refused changes nothing (`append_cases`). A list
of templates is accepted in order exactly when each may follow the record and those before it (`appendAll_eq_ok_iff`).
-/

namespace StatementProfiles

/-- The pattern accepts the templates of `t` one after another behind those of `s`. -/
def Pattern.Takes (p : Pattern) (s t : List String) : Prop :=
  ∀ u x v, t = u ++ x :: v → p.canAppend (s ++ u) x = true

theorem Pattern.takes_nil (p : Pattern) (s : List String) : p.Takes s [] := fun u x v e => absurd e (by simp)

theorem Pattern.takes_cons {p : Pattern} {s t : List String} {x : String} :
    p.Takes s (x :: t) ↔ p.canAppend s x = true ∧ p.Takes (s ++ [x]) t := by
  constructor
  · intro h
    have hx := h [] x t rfl
    rw [List.append_nil] at hx
    refine ⟨hx, fun u y v e => ?_⟩
    rw [List.append_assoc]
    exact h (x :: u) y v (by rw [e]; rfl)
  · rintro ⟨hx, ht⟩ u y v e
    cases u with
    | nil =>
      obtain ⟨rfl, -⟩ := List.cons.inj e
      rw [List.append_nil, hx]
    | cons z u =>
      obtain ⟨rfl, he⟩ := List.cons.inj e
      rw [List.append_cons]
      exact ht u y v he

instance Pattern.decidableTakes (p : Pattern) : (s t : List String) → Decidable (p.Takes s t)
  | s, [] => isTrue (p.takes_nil s)
  | s, x :: t =>
    have := p.decidableTakes (s ++ [x]) t
    decidable_of_iff (p.canAppend s x = true ∧ p.Takes (s ++ [x]) t) takes_cons.symm

namespace Occurrence

/-- An occurrence of a pattern that has recorded nothing yet. -/
def start (id : String) (p : Pattern) : Occurrence := ⟨default, p, .start id none⟩

/-- The occurrence with more templates on record. -/
def record (o : Occurrence) (xs : List String) : Occurrence :=
  { o with state := { o.state with templates := o.templates ++ xs } }

@[simp] theorem grammar_record (o : Occurrence) (xs : List String) : (o.record xs).grammar = o.grammar := rfl

@[simp] theorem templates_record (o : Occurrence) (xs : List String) :
    (o.record xs).templates = o.templates ++ xs := rfl

theorem record_nil (o : Occurrence) : o.record [] = o := by
  simp [record, templates]

theorem record_record (o : Occurrence) (xs ys : List String) : (o.record xs).record ys = o.record (xs ++ ys) := by
  simp [record, templates]

/-- **A template is put at the end of the record, or it is refused and nothing changes.** -/
theorem append_cases (o : Occurrence) (x : String) :
    o.canAppend x = true ∧ o.append x = (.ok (), o.record [x]) ∨
      o.canAppend x = false ∧ o.append x = (.error (.outOfSequence o.state.patternId x o.templates), o) := by
  cases h : o.canAppend x with
  | true => exact .inl ⟨rfl, if_pos h⟩
  | false => exact .inr ⟨rfl, if_neg (by rw [h]; exact Bool.false_ne_true)⟩

theorem append_of_canAppend {o : Occurrence} {x : String} (h : o.canAppend x = true) :
    o.append x = (.ok (), o.record [x]) := if_pos h

/-- Whether a template is recorded is what `canAppend` says. -/
theorem append_fst_eq_ok_iff {o : Occurrence} {x : String} : (o.append x).1 = .ok () ↔ o.canAppend x = true := by
  rcases o.append_cases x with ⟨h, he⟩ | ⟨h, he⟩ <;> simp [h, he]

/-- The templates recorded in order, up to the first that is refused. -/
def appendAll (o : Occurrence) : List String → Except Error Unit × Occurrence
  | [] => (.ok (), o)
  | x :: xs =>
    match o.append x with
    | (.ok (), o') => o'.appendAll xs
    | (.error e, o') => (.error e, o')

/-- **Templates are accepted in order when each may follow the record and those before it.** -/
theorem appendAll_eq_ok_iff {o o' : Occurrence} {xs : List String} :
    o.appendAll xs = (.ok (), o') ↔ o.grammar.Takes o.templates xs ∧ o' = o.record xs := by
  induction xs generalizing o with
  | nil =>
    rw [appendAll, record_nil]
    refine ⟨fun h => ⟨o.grammar.takes_nil o.templates, (Prod.mk.inj h).2.symm⟩, fun h => by rw [h.2]⟩
  | cons x xs ih =>
    rw [appendAll, Pattern.takes_cons]
    rcases o.append_cases x with ⟨hx, h⟩ | ⟨hx, h⟩
    · have hnext : o.grammar.canAppend o.templates x = true := hx
      have hrec : (o.record [x]).record xs = o.record (x :: xs) := record_record o [x] xs
      rw [h, ih, hrec, grammar_record, templates_record]
      simp only [hnext, true_and]
    · rw [h]
      refine iff_of_false (fun he => nomatch (Prod.mk.inj he).1) fun hc => ?_
      cases hx.symm.trans hc.1.1

end Occurrence

end StatementProfiles
