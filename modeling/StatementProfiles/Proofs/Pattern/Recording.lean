import StatementProfiles.Proofs.Pattern.Exactness

/-!
# Recording a complete sequence

A complete sequence is recorded one template after another when every beginning of it is accepted. What can stand
against it is a torn choice (`Torn`): with what is there, one child has succeeded and leaves something, another is still
under way and none is complete. The choice takes the success, and what it leaves goes to the later children. When what
comes next is read by the child that is under way, the choice no longer leaves that: it is reopened (`Reopened`).

`Visits` says which patterns the matcher matches with which rests on its way. Where it meets no choice that is reopened
(`Settled`), the ending on a sequence foretells the ending on the longer one: an unread rest stays, and so does a
failure (`Foretells`). Every operator keeps this, hence a beginning of a complete sequence neither fails nor leaves
anything.
-/

namespace StatementProfiles

namespace Pattern

/-! ## What the matcher meets on its way -/

/-- To match the first pattern with the first sequence, the matcher matches the second pattern with the second one. -/
inductive Visits : Pattern → List String → Pattern → List String → Prop
  | here (p : Pattern) (s : List String) : Visits p s p s
  | head {c : Pattern} {cs : List Pattern} {s t : List String} {q : Pattern} :
      Visits c s q t → Visits (sequence (c :: cs)) s q t
  | tail {c : Pattern} {cs : List Pattern} {s r t : List String} {q : Pattern} :
      c.ending s = .success r → Visits (sequence cs) r q t → Visits (sequence (c :: cs)) s q t
  | child {c : Pattern} {cs : List Pattern} {s t : List String} {q : Pattern} :
      c ∈ cs → Visits c s q t → Visits (alternates cs) s q t
  | first {c : Pattern} {s t : List String} {q : Pattern} : Visits c s q t → Visits (oneOrMore c) s q t
  | others {c : Pattern} {s r t : List String} {q : Pattern} :
      c.ending s = .success r → Visits (zeroOrMore c) r q t → Visits (oneOrMore c) s q t
  | round {c : Pattern} {s t : List String} {q : Pattern} : Visits c s q t → Visits (zeroOrMore c) s q t
  | next {c : Pattern} {s r t : List String} {q : Pattern} :
      c.ending s = .success r → r.length < s.length → Visits (zeroOrMore c) r q t → Visits (zeroOrMore c) s q t
  | optional {c : Pattern} {s t : List String} {q : Pattern} : s ≠ [] → Visits c s q t → Visits (optional c) s q t

/-- One child succeeds and leaves something, another is under way, and none is complete. -/
structure Torn (cs : List Pattern) (s : List String) : Prop where
  success : ∃ c ∈ cs, ∃ r, c.ending s = .success r
  underway : ∃ c ∈ cs, c.ending s = .underway
  incomplete : ∀ c ∈ cs, c.ending s ≠ .success []

/-- The choice is torn, and with what comes next it does not leave what it left. -/
structure Reopened (cs : List Pattern) (s next : List String) : Prop where
  torn : Torn cs s
  changed : (alternates cs).ending (s ++ next) ≠ ((alternates cs).ending s).extend next

/-- The matcher meets no torn choice. -/
def Steady (p : Pattern) (s : List String) : Prop := ∀ cs t, Visits p s (alternates cs) t → ¬Torn cs t

/-- The matcher meets no choice that is reopened by what comes next. -/
def Settled (p : Pattern) (s next : List String) : Prop :=
  ∀ cs t, Visits p s (alternates cs) t → ¬Reopened cs t next

theorem Steady.settled {p : Pattern} {s : List String} (h : p.Steady s) (next : List String) : p.Settled s next :=
  fun cs t hv hr => h cs t hv hr.torn

/-- A choice refuses a template with which a child succeeds and none is complete. -/
theorem not_canAppend_of_success {cs : List Pattern} {u : List String} {x : String}
    (hs : ∃ c ∈ cs, ∃ r, c.ending (u ++ [x]) = .success r) (hinc : ∀ c ∈ cs, c.ending (u ++ [x]) ≠ .success []) :
    (alternates cs).canAppend u x = false := by
  obtain ⟨c, hc, r, hs⟩ := hs
  have hch := chosen_alternates cs (u ++ [x])
  rw [← Bool.not_eq_true, canAppend_iff]
  rintro (he | he)
  · rw [he] at hch
    cases hch with
    | success hc hs _ => exact hinc _ hc hs
  · rw [he] at hch
    cases hch with
    | underway _ _ hno => exact hno c hc r hs

/-- A torn choice refuses the template that tears it. -/
theorem Torn.not_canAppend {cs : List Pattern} {u : List String} {x : String} (h : Torn cs (u ++ [x])) :
    (alternates cs).canAppend u x = false :=
  not_canAppend_of_success h.success h.incomplete

/-! ## What an ending foretells -/

/-- What an ending on `s` tells of the sequence with `next` behind: an unread rest stays unread, and a failure stays. -/
structure Foretells (f : List String → Ending) (s next : List String) : Prop where
  rest : ∀ r, f s = .success r → r ≠ [] → f (s ++ next) = .success (r ++ next)
  failure : f s = .failure → f (s ++ next) = .failure

section Foretells

variable {f g : List String → Ending} {s r next : List String}

theorem Foretells.of_complete (h : f s = .success []) : Foretells f s next where
  rest := fun r hr hne => absurd (Ending.success.inj (h.symm.trans hr)).symm hne
  failure := fun hf => by rw [h] at hf; cases hf

theorem Foretells.of_underway (h : f s = .underway) : Foretells f s next where
  rest := fun r hr => by rw [h] at hr; cases hr
  failure := fun hf => by rw [h] at hf; cases hf

/-- What leaves its rest with more behind it. -/
theorem Foretells.of_extend (h : f (s ++ next) = (f s).extend next) : Foretells f s next where
  rest := fun r hr _ => by rw [h, hr, Ending.extend_success]
  failure := fun hf => by rw [h, hf, Ending.extend_failure]

theorem Foretells.of_success (hs : f s = .success r) (h : f (s ++ next) = .success (r ++ next)) :
    Foretells f s next := .of_extend (by rw [h, hs, Ending.extend_success])

theorem Foretells.ending_append (h : Foretells f s next) (hc : f s ≠ .success []) (hu : f s ≠ .underway) :
    f (s ++ next) = (f s).extend next := by
  cases he : f s with
  | success r => exact h.rest r he fun hr => hc (hr ▸ he)
  | underway => exact absurd he hu
  | failure => exact h.failure he

/-- Two readings that agree, without what comes next and with it, foretell the same. -/
theorem Foretells.congr (hg : Foretells g r next) (hs : f s = g r) (h : f (s ++ next) = g (r ++ next)) :
    Foretells f s next := by
  refine ⟨fun r' hr' hne => ?_, fun hf => ?_⟩
  · rw [h, hg.rest r' (hs.symm.trans hr') hne]
  · rw [h, hg.failure (hs.symm.trans hf)]

/-- One reading after another. The second must not fail, nor leave anything, where there is nothing to read. -/
theorem Foretells.andThen (hf : Foretells f s next) (hg : ∀ r, f s = .success r → Foretells g r next)
    (hnil : g [] = .success [] ∨ g [] = .underway) : Foretells (fun s => (f s).andThen g) s next := by
  cases he : f s with
  | success r =>
    by_cases hr : r = []
    · subst hr
      rcases hnil with hg | hg
      · exact .of_complete (by rw [he, Ending.andThen_success, hg])
      · exact .of_underway (by rw [he, Ending.andThen_success, hg])
    · refine (hg r he).congr (by rw [he, Ending.andThen_success]) ?_
      rw [hf.rest r he hr, Ending.andThen_success]
  | underway => exact .of_underway (by rw [he, Ending.andThen_underway])
  | failure =>
    refine .of_extend ?_
    rw [he, hf.failure he, Ending.andThen_failure, Ending.extend_failure]

end Foretells

/-- A pattern without empty choices does not fail before there is anything to read. -/
theorem ending_nil_cases {p : Pattern} (hp : p.ChoicesNonempty) :
    p.ending [] = .success [] ∨ p.ending [] = .underway := by
  induction p with
  | leaf id => exact .inr (ending_leaf_nil id)
  | sequence cs ih =>
    induction cs with
    | nil => exact .inl (ending_sequence_nil [])
    | cons c cs ihs =>
      rw [ending_sequence_cons]
      rcases ih c List.mem_cons_self (hp.of_mem (mem_nodes_sequence List.mem_cons_self)) with h | h
      · rw [h, Ending.andThen_success]
        exact ihs (fun c' hc' => ih c' (List.mem_cons_of_mem _ hc')) hp.rest
      · rw [h]
        exact .inr rfl
  | alternates cs ih =>
    have hcs : ∀ c ∈ cs, c.ending [] = .success [] ∨ c.ending [] = .underway := fun c hc =>
      ih c hc (hp.of_mem (mem_nodes_alternates hc))
    have hch := chosen_alternates cs []
    generalize (alternates cs).ending [] = e at hch ⊢
    cases hch with
    | success hc hs _ => exact .inl (by rw [List.suffix_nil.mp (suffix_of_success hs)])
    | underway _ _ _ => exact .inr rfl
    | failure hf =>
      obtain ⟨c, hc⟩ := List.exists_mem_of_ne_nil cs (hp cs (self_mem_nodes _))
      rcases hcs c hc with h | h <;> rw [hf c hc] at h <;> cases h
  | oneOrMore c ih =>
    rw [ending_oneOrMore]
    rcases ih (hp.of_mem (mem_nodes_oneOrMore c)) with h | h
    · exact .inl (by rw [h, Ending.andThen_success, ending_zeroOrMore_nil])
    · exact .inr (by rw [h, Ending.andThen_underway])
  | zeroOrMore c _ => exact .inl (ending_zeroOrMore_nil c)
  | optional c _ => exact .inl (by rw [ending_optional, if_pos rfl])

theorem Foretells.leaf (id : String) (s next : List String) : Foretells (leaf id).ending s next := by
  cases s with
  | nil => exact .of_underway (ending_leaf_nil id)
  | cons x s =>
    refine .of_extend ?_
    rw [List.cons_append, ending_leaf_cons, ending_leaf_cons]
    split
    · rw [Ending.extend_success]
    · rw [Ending.extend_failure]

theorem shorter_append (best : Option (List String)) (r t : List String) :
    shorter (best.map (· ++ t)) (r ++ t) = (shorter best r).map (· ++ t) := by
  cases best with
  | none => rfl
  | some b => by_cases h : r.length < b.length <;> simp [shorter, h]

/-- What every child leaves unread is left unread by the choice. -/
theorem ending_runAlternates_append {cs : List Pattern} {s t : List String}
    (h : ∀ c ∈ cs, c.ending (s ++ t) = (c.ending s).extend t) (best : Option (List String)) (underway : Bool) :
    (runAlternates cs (s ++ t) (best.map (· ++ t)) underway).ending =
      (runAlternates cs s best underway).ending.extend t := by
  induction cs generalizing best underway with
  | nil => cases best <;> cases underway <;> rfl
  | cons c cs ih =>
    have hc := h c List.mem_cons_self
    have hcs := ih fun c' hc' => h c' (List.mem_cons_of_mem _ hc')
    rw [runAlternates, runAlternates]
    cases ho : (c.run s).outcome with
    | success =>
      rw [ending, ending, Match.ending_of_success ho, Ending.extend_success, Match.ending_eq_success_iff] at hc
      simp only [hc.1, hc.2, shorter_append, hcs]
    | underway =>
      rw [ending, ending, Match.ending_of_underway ho, Ending.extend_underway, Match.ending_eq_underway_iff] at hc
      simp only [hc, hcs]
    | failure =>
      rw [ending, ending, Match.ending_of_failure ho, Ending.extend_failure, Match.ending_eq_failure_iff] at hc
      simp only [hc, hcs]

/-- Where a child is under way, a choice that is not torn is complete or under way. -/
theorem ending_alternates_of_underway {c : Pattern} {cs : List Pattern} {s : List String} (hc : c ∈ cs)
    (hu : c.ending s = .underway) (ht : ¬Torn cs s) :
    (alternates cs).ending s = .success [] ∨ (alternates cs).ending s = .underway := by
  by_cases hcomplete : ∃ d ∈ cs, d.ending s = .success []
  · obtain ⟨d, hd, hs⟩ := hcomplete
    exact .inl (ending_alternates_of_complete hd hs)
  have hch := chosen_alternates cs s
  generalize (alternates cs).ending s = e at hch ⊢
  cases hch with
  | success hd hs _ => exact absurd ⟨⟨_, hd, _, hs⟩, ⟨c, hc, hu⟩, fun d hd hs => hcomplete ⟨d, hd, hs⟩⟩ ht
  | underway => exact .inr rfl
  | failure hf => rw [hf c hc] at hu; cases hu

/-- A choice foretells what its children do, unless it is reopened. -/
theorem Foretells.alternates {cs : List Pattern} {s next : List String} (h : ∀ c ∈ cs, Foretells c.ending s next)
    (hr : ¬Reopened cs s next) : Foretells (alternates cs).ending s next := by
  by_cases hcomplete : ∃ c ∈ cs, c.ending s = .success []
  · obtain ⟨c, hc, hs⟩ := hcomplete
    exact .of_complete (ending_alternates_of_complete hc hs)
  have hinc : ∀ c ∈ cs, c.ending s ≠ .success [] := fun c hc hs => hcomplete ⟨c, hc, hs⟩
  by_cases hunderway : ∃ c ∈ cs, c.ending s = .underway
  · by_cases ht : Torn cs s
    · exact .of_extend (by_contra fun hchanged => hr ⟨ht, hchanged⟩)
    · obtain ⟨c, hc, hu⟩ := hunderway
      exact (ending_alternates_of_underway hc hu ht).elim .of_complete .of_underway
  · exact .of_extend (ending_runAlternates_append
      (fun c hc => (h c hc).ending_append (hinc c hc) fun hu => hunderway ⟨c, hc, hu⟩) none false)

/-- Rounds go on from what the round before left, until one leaves nothing, reads nothing or fails. -/
theorem Foretells.zeroOrMore {c : Pattern} {next : List String}
    (hc : ∀ s, c.Settled s next → Foretells c.ending s next) {s : List String}
    (hs : (zeroOrMore c).Settled s next) : Foretells (zeroOrMore c).ending s next := by
  have h := hc s fun cs t hv => hs cs t (.round hv)
  by_cases hnil : s = []
  · exact .of_complete (hnil ▸ ending_zeroOrMore_nil c)
  cases he : c.ending s with
  | success r =>
    by_cases hr : r = []
    · exact .of_complete (ending_zeroOrMore_of_complete (by rw [he, hr]))
    have hlong := h.rest r he hr
    by_cases hlt : r.length < s.length
    · refine (Foretells.zeroOrMore hc fun cs t hv => hs cs t (.next he hlt hv)).congr ?_ ?_
      · rw [ending_zeroOrMore, he]
        simp [hlt]
      · rw [ending_zeroOrMore, hlong]
        simp [hlt]
    · refine .of_success (r := s) ?_ ?_
      · rw [ending_zeroOrMore, he]
        simp [hlt]
      · rw [ending_zeroOrMore, hlong]
        simp [hlt]
  | underway => exact .of_underway (by rw [ending_zeroOrMore, he]; simp [hnil])
  | failure =>
    exact .of_success (by rw [ending_zeroOrMore, he]) (by rw [ending_zeroOrMore, h.failure he])
termination_by s.length

theorem Foretells.optional {c : Pattern} {s next : List String} (h : s ≠ [] → Foretells c.ending s next) :
    Foretells (optional c).ending s next := by
  by_cases hnil : s = []
  · exact .of_complete (by rw [ending_optional, if_pos hnil])
  have hshort : (Pattern.optional c).ending s = (c.ending s).orSkip s := by rw [ending_optional, if_neg hnil]
  have hlong : (Pattern.optional c).ending (s ++ next) = (c.ending (s ++ next)).orSkip (s ++ next) := by
    rw [ending_optional, if_neg (by simp [hnil])]
  cases he : c.ending s with
  | success r =>
    rw [he, Ending.orSkip_success] at hshort
    by_cases hr : r = []
    · exact .of_complete (hr ▸ hshort)
    · exact .of_success hshort (by rw [hlong, (h hnil).rest r he hr, Ending.orSkip_success])
  | underway => exact .of_underway (by rw [hshort, he, Ending.orSkip_underway])
  | failure =>
    rw [he, Ending.orSkip_failure] at hshort
    exact .of_success hshort (by rw [hlong, (h hnil).failure he, Ending.orSkip_failure])

/-- **Where no choice is reopened by what comes next, an ending foretells that of the longer sequence.** -/
theorem Settled.foretells {p : Pattern} {s next : List String} (hs : p.Settled s next) (hp : p.ChoicesNonempty) :
    Foretells p.ending s next := by
  induction p generalizing s with
  | leaf id => exact .leaf id s next
  | sequence cs ih =>
    induction cs generalizing s with
    | nil => exact .of_success (ending_sequence_nil s) (ending_sequence_nil _)
    | cons c cs ihs =>
      rw [funext (ending_sequence_cons c cs)]
      refine Foretells.andThen ?_ (fun r hr => ?_) (ending_nil_cases hp.rest)
      · have hc := hp.of_mem (mem_nodes_sequence List.mem_cons_self)
        exact ih c List.mem_cons_self (fun ds t hv => hs ds t (.head hv)) hc
      · exact ihs (fun c' hc' => ih c' (List.mem_cons_of_mem _ hc')) (fun ds t hv => hs ds t (.tail hr hv)) hp.rest
  | alternates cs ih =>
    refine .alternates (fun c hc => ?_) (hs cs s (.here _ s))
    exact ih c hc (fun ds t hv => hs ds t (.child hc hv)) (hp.of_mem (mem_nodes_alternates hc))
  | oneOrMore c ih =>
    have hc : ∀ s, c.Settled s next → Foretells c.ending s next :=
      fun s hs => ih hs (hp.of_mem (mem_nodes_oneOrMore c))
    rw [funext (ending_oneOrMore c)]
    refine Foretells.andThen ?_ (fun r hr => ?_) (.inl (ending_zeroOrMore_nil c))
    · exact hc s fun ds t hv => hs ds t (.first hv)
    · exact .zeroOrMore hc fun ds t hv => hs ds t (.others hr hv)
  | zeroOrMore c ih => exact .zeroOrMore (fun s hs => ih hs (hp.of_mem (mem_nodes_zeroOrMore c))) hs
  | optional c ih =>
    refine .optional fun hne => ?_
    exact ih (fun ds t hv => hs ds t (.optional hne hv)) (hp.of_mem (mem_nodes_optional c))

/-! ## Unambiguous patterns -/

theorem Unambiguous.zeroOrMore {c : Pattern} (h : c.Unambiguous) : (zeroOrMore c).Unambiguous := by
  have hnodes : ∀ {cs : List Pattern}, alternates cs ∈ (Pattern.zeroOrMore c).nodes → alternates cs ∈ c.nodes := by
    intro cs hcs
    rcases List.mem_cons.mp hcs with hcs | hcs
    · cases hcs
    · exact hcs
  exact ⟨h.leaves_nodup, fun cs hcs => h.choices_nonempty cs (hnodes hcs), fun cs hcs => h.choices_read cs (hnodes hcs)⟩

/-- All that the matcher meets in an unambiguous pattern is unambiguous. -/
theorem Visits.unambiguous {p q : Pattern} {s t : List String} (h : Visits p s q t) (hp : p.Unambiguous) :
    q.Unambiguous := by
  induction h with
  | here => exact hp
  | head _ ih => exact ih (hp.of_mem (mem_nodes_sequence List.mem_cons_self))
  | tail _ _ ih => exact ih hp.rest
  | child hc _ ih => exact ih (hp.of_mem (mem_nodes_alternates hc))
  | first _ ih => exact ih (hp.of_mem (mem_nodes_oneOrMore _))
  | others _ _ ih => exact ih (hp.of_mem (mem_nodes_oneOrMore _)).zeroOrMore
  | round _ ih => exact ih (hp.of_mem (mem_nodes_zeroOrMore _))
  | next _ _ _ ih => exact ih hp
  | optional _ _ ih => exact ih (hp.of_mem (mem_nodes_optional _))

/-- Children of an unambiguous choice share no template, so that one has read something rules the others out. -/
theorem Unambiguous.not_torn {cs : List Pattern} (h : (alternates cs).Unambiguous) (t : List String) : ¬Torn cs t := by
  rintro ⟨⟨c, hc, r, hs⟩, ⟨c', hc', hu⟩, -⟩
  have hex : ∀ c ∈ cs, Exact c.language t (c.ending t) := fun c hc => (h.of_mem (mem_nodes_alternates hc)).exact t
  have hne : c ≠ c' := by
    rintro rfl
    rw [hs] at hu; cases hu
  obtain ⟨v, hv⟩ := (hex c' hc').viable_iff.mp (.inr hu)
  have he := hex c hc
  rw [hs] at he
  cases he with
  | @success k _ hl =>
    cases k with
    | nil => exact h.choices_read cs (self_mem_nodes _) c hc hl.mem
    | cons x k => exact h.apart_children c hc c' hc' hne _ hl.mem _ hv x (by simp) (by simp)

theorem Unambiguous.steady {p : Pattern} (hp : p.Unambiguous) (s : List String) : p.Steady s :=
  fun _ t hv => (hv.unambiguous hp).not_torn t

/-! ## Recording -/

/-- A beginning of a complete sequence is accepted unless what comes next reopens a choice that is met on it. -/
theorem Settled.canAppend {p : Pattern} {u v : List String} {x : String} (hst : p.Settled (u ++ [x]) v)
    (hp : p.ChoicesNonempty) (h : p.ending (u ++ x :: v) = .success []) : p.canAppend u x = true := by
  have hf := hst.foretells hp
  rw [List.append_cons] at h
  rw [canAppend_iff]
  cases he : p.ending (u ++ [x]) with
  | success r =>
    by_cases hr : r = []
    · exact .inl (by rw [hr])
    · rw [hf.rest r he hr] at h
      simp [hr] at h
  | underway => exact .inr rfl
  | failure => rw [hf.failure he] at h; cases h

/-- **Recording.** A complete sequence is accepted at every split where what comes next reopens no choice. When that is
so at all its splits, an occurrence that starts with nothing records it in order and is complete. -/
theorem complete_recordable (p : Pattern) (hp : p.ChoicesNonempty) (s : List String)
    (hs : (p.run s).isComplete = true) :
    (∀ u x v, s = u ++ x :: v → p.Settled (u ++ [x]) v → p.canAppend u x = true) ∧
      ((∀ u x v, s = u ++ x :: v → p.Settled (u ++ [x]) v) → ∀ o : Occurrence, o.grammar = p → o.templates = [] →
        ∃ o', o.appendAll s = (.ok (), o') ∧ o'.templates = s ∧ o'.isComplete = true) := by
  have hsplit : ∀ u x v, s = u ++ x :: v → p.Settled (u ++ [x]) v → p.canAppend u x = true := by
    rintro u x v rfl hst
    exact hst.canAppend hp (isComplete_run.mp hs)
  refine ⟨hsplit, fun hst o ho hnil => ?_⟩
  subst ho
  have hrecord : (o.record s).templates = s := by rw [Occurrence.templates_record, hnil, List.nil_append]
  refine ⟨o.record s, Occurrence.appendAll_eq_ok_iff.mpr ⟨fun u x v e => ?_, rfl⟩, hrecord, ?_⟩
  · rw [hnil, List.nil_append]
    exact hsplit u x v e (hst u x v e)
  · rw [Occurrence.isComplete, hrecord]
    exact hs

/-- A lesson that is paused, resumed and completed is recorded in order. -/
theorem lesson_recordable :
    lesson.canAppend ["launched", "paused"] "resumed" = true ∧
      ∃ o', (Occurrence.start "lesson" lesson).appendAll
        ["launched", "paused", "resumed", "completed"] = (.ok (), o') ∧ o'.isComplete = true := by
  have hu : lesson.Unambiguous := by decide +kernel
  obtain ⟨hsplit, hall⟩ := complete_recordable lesson hu.choices_nonempty
    ["launched", "paused", "resumed", "completed"] (by decide +kernel)
  obtain ⟨o', hok, -, hc⟩ := hall (fun _ _ _ _ => (hu.steady _).settled _) (.start "lesson" lesson) rfl rfl
  exact ⟨hsplit _ _ ["completed"] rfl ((hu.steady _).settled _), o', hok, hc⟩

/-- An answer that counts at once, or only when it is graded and published. -/
def verdict : Pattern := .alternates [.leaf "answered", .sequence [.leaf "answered", .leaf "graded", .leaf "published"]]

/-- The published answer is complete, but once answered the grade is refused: the choice is torn. -/
theorem verdict_refuses_grade :
    verdict.ChoicesNonempty ∧ (verdict.run ["answered", "graded", "published"]).isComplete = true ∧
      verdict.canAppend ["answered"] "graded" = false ∧
      ¬∃ o', (Occurrence.start "verdict" verdict).appendAll
        ["answered", "graded", "published"] = (.ok (), o') := by
  have hread : (sequence [.leaf "answered", .leaf "graded", .leaf "published"]).ending ["answered", "graded"] =
      .underway := by
    simp [ending_sequence_cons, ending_leaf_cons]
  have htorn : Torn [.leaf "answered", .sequence [.leaf "answered", .leaf "graded", .leaf "published"]]
      ["answered", "graded"] := by
    refine ⟨⟨.leaf "answered", by simp, ["graded"], ?_⟩, ⟨_, List.mem_pair.mpr (.inr rfl), hread⟩, fun c hc => ?_⟩
    · rw [ending_leaf_cons, if_pos rfl]
    · rcases List.mem_pair.mp hc with rfl | rfl
      · simp [ending_leaf_cons]
      · simp [hread]
  have hrefuse : verdict.canAppend ["answered"] "graded" = false := htorn.not_canAppend
  refine ⟨by decide, by decide +kernel, hrefuse, ?_⟩
  rintro ⟨o', h⟩
  obtain ⟨hall, -⟩ := Occurrence.appendAll_eq_ok_iff.mp h
  exact absurd (hall ["answered"] "graded" ["published"] rfl) (by rw [Bool.not_eq_true]; exact hrefuse)

end Pattern

end StatementProfiles
