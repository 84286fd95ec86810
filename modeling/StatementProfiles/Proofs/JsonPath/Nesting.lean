import StatementProfiles.JsonPath.Reader

/-!
# Strings and brackets in texts

A text is closed when every string and every bracket that it opens is closed (`JsonPath.Closed`); a second mark says
whether it may have bars outside of these. A reader that looks at the characters one by one (`JsonPath.Place`) stands
behind a closed text as it stood before it (`JsonPath.Closed.after_eq`), never comes below the depth of brackets where
it began (`JsonPath.Closed.within`), and **is in a string or deeper at each bar, where there are none outside**
(`JsonPath.Closed.after_ne_of_bar`).
-/

namespace StatementProfiles

namespace JsonPath

variable {bars : Bool} {quote c : Char} {cs ds rest : List Char}

/-! ## Closed texts -/

/-- A character that is no quote, no bracket and no bar. -/
def isQuiet (c : Char) : Bool := !(['\'', '"', '[', ']', '|'].contains c)

/-- The characters between two quotes; the quote itself stands behind a backslash only. -/
inductive Enclosed (quote : Char) : List Char → Prop
  | nil : Enclosed quote []
  | char {c : Char} {cs : List Char} : c ≠ quote → c ≠ '\\' → Enclosed quote cs → Enclosed quote (c :: cs)
  | escape (c : Char) {cs : List Char} : Enclosed quote cs → Enclosed quote ('\\' :: c :: cs)

/-- A text in which every string and every bracket that is opened is closed. Outside of them there may be bars only if
`bars` says so. -/
inductive Closed : (bars : Bool) → List Char → Prop
  | nil {bars : Bool} : Closed bars []
  | quiet {bars : Bool} {c : Char} : isQuiet c → Closed bars [c]
  | bar : Closed true ['|']
  | string {bars : Bool} {quote : Char} {cs : List Char} :
      quote = '\'' ∨ quote = '"' → Enclosed quote cs → Closed bars (quote :: (cs ++ [quote]))
  | bracket {bars : Bool} {cs : List Char} : Closed true cs → Closed bars ('[' :: (cs ++ [']']))
  | append {bars : Bool} {cs ds : List Char} : Closed bars cs → Closed bars ds → Closed bars (cs ++ ds)

theorem Closed.of_quiet (h : ∀ c ∈ cs, isQuiet c) : Closed bars cs := by
  induction cs with
  | nil => exact .nil
  | cons c cs ih =>
    obtain ⟨hc, hcs⟩ := List.forall_mem_cons.mp h
    exact .append (.quiet hc) (ih hcs)

/-! ## Where a reader stands -/

/-- Outside of strings at a depth of brackets, in a string there, or behind a backslash in one. -/
inductive Place where
  | outside (depth : Nat)
  | inString (quote : Char) (depth : Nat)
  | escaped (quote : Char) (depth : Nat)

namespace Place

/-- Where a reader stands behind a further character. -/
def next : Place → Char → Place
  | .outside depth, c =>
    if c = '\'' ∨ c = '"' then .inString c depth
    else if c = '[' then .outside (depth + 1)
    else if c = ']' then .outside (depth - 1)
    else .outside depth
  | .inString quote depth, c =>
    if c = quote then .outside depth else if c = '\\' then .escaped quote depth else .inString quote depth
  | .escaped quote depth, _ => .inString quote depth

/-- Where a reader stands behind further characters. -/
def after (place : Place) (cs : List Char) : Place := cs.foldl next place

/-- In a string, or outside of strings at this depth at least. -/
def Within (depth : Nat) : Place → Prop
  | .outside d => depth ≤ d
  | _ => True

theorem after_append (place : Place) (cs ds : List Char) : place.after (cs ++ ds) = (place.after cs).after ds :=
  List.foldl_append

theorem after_cons (place : Place) (c : Char) (cs : List Char) : place.after (c :: cs) = (place.next c).after cs := rfl

theorem after_singleton (place : Place) (c : Char) : place.after [c] = place.next c := rfl

variable {depth : Nat}

theorem next_outside_of_quiet (h : isQuiet c) : (outside depth).next c = .outside depth := by
  have hne : c ≠ '\'' ∧ c ≠ '"' ∧ c ≠ '[' ∧ c ≠ ']' ∧ c ≠ '|' := by simpa [isQuiet] using h
  simp [next, hne]

theorem next_outside_of_quote (h : quote = '\'' ∨ quote = '"') :
    (outside depth).next quote = .inString quote depth := by
  simp [next, h]

/-- Between quotes a reader stays in the string. -/
theorem after_of_enclosed (hquote : quote ≠ '\\') (h : Enclosed quote cs) :
    (inString quote depth).after cs = .inString quote depth := by
  induction h with
  | nil => rfl
  | char hc hescape _ ih => simpa [after_cons, next, hc, hescape] using ih
  | escape c _ ih => simpa [after_cons, next, Ne.symm hquote] using ih

/-- It is there at each character between. -/
theorem not_outside_of_enclosed (hquote : quote ≠ '\\') {front back : List Char} (h : Enclosed quote (front ++ back)) :
    ∀ d, (inString quote depth).after front ≠ .outside d := by
  generalize htext : front ++ back = text at h
  induction h generalizing front with
  | nil =>
    rw [(List.append_eq_nil_iff.mp htext).1]
    exact fun d hd => (nomatch hd)
  | @char c cs hc hescape _ ih =>
    cases front with
    | nil => exact fun d hd => (nomatch hd)
    | cons c' front =>
      obtain ⟨rfl, hrest⟩ := List.cons.inj htext
      simpa [after_cons, next, hc, hescape] using ih hrest
  | @escape c cs _ ih =>
    match front with
    | [] => exact fun d hd => (nomatch hd)
    | [c'] =>
      obtain ⟨rfl, -⟩ := List.cons.inj htext
      simp [after_singleton, next, Ne.symm hquote]
    | c' :: c'' :: front =>
      simp only [List.cons_append, List.cons.injEq] at htext
      obtain ⟨rfl, rfl, hrest⟩ := htext
      simpa [after_cons, next, Ne.symm hquote] using ih hrest

end Place

theorem ne_backslash_of_quote (h : quote = '\'' ∨ quote = '"') : quote ≠ '\\' := by
  rcases h with rfl | rfl <;> decide

/-- Behind a closed text a reader stands as before it. -/
theorem Closed.after_eq (h : Closed bars cs) (depth : Nat) : (Place.outside depth).after cs = .outside depth := by
  induction h generalizing depth with
  | nil => rfl
  | quiet hc => exact Place.next_outside_of_quiet hc
  | bar => rfl
  | @string _ quote cs hquote hcs =>
    rw [Place.after_cons, Place.next_outside_of_quote hquote, Place.after_append,
      Place.after_of_enclosed (ne_backslash_of_quote hquote) hcs, Place.after_singleton, Place.next, if_pos rfl]
  | bracket _ ih =>
    rw [Place.after_cons, Place.next, if_neg (by decide), if_pos rfl, Place.after_append, ih]
    rfl
  | append _ _ ih ih' => rw [Place.after_append, ih, ih']

/-- A part in front, of a text that is put between two marks: it is empty, or the first mark and a part of the text. -/
theorem front_cases {first last : Char} {front back : List Char} (h : front ++ back = first :: (cs ++ [last])) :
    front = [] ∨ (∃ inner back', front = first :: inner ∧ inner ++ back' = cs) ∨ front = first :: (cs ++ [last]) := by
  cases front with
  | nil => exact .inl rfl
  | cons c front =>
    rw [List.cons_append, List.cons.injEq] at h
    obtain ⟨rfl, hrest⟩ := h
    rcases List.eq_nil_or_concat back with rfl | ⟨back, c', rfl⟩
    · rw [List.append_nil] at hrest
      exact .inr (.inr (by rw [hrest]))
    · rw [List.concat_eq_append, ← List.append_assoc] at hrest
      exact .inr (.inl ⟨front, back, rfl, (List.append_inj' hrest rfl).1⟩)

/-- In a closed text a reader never comes below the depth where it began. -/
theorem Closed.within {front back : List Char} (h : Closed bars (front ++ back)) (depth : Nat) :
    ((Place.outside depth).after front).Within depth := by
  generalize htext : front ++ back = text at h
  induction h generalizing depth front back with
  | nil =>
    rw [(List.append_eq_nil_iff.mp htext).1]
    exact Nat.le_refl _
  | @quiet _ c hc =>
    rcases List.append_eq_singleton_iff.mp htext with ⟨rfl, -⟩ | ⟨rfl, -⟩
    · exact Nat.le_refl _
    · rw [Place.after_singleton, Place.next_outside_of_quiet hc]
      exact Nat.le_refl _
  | bar =>
    rcases List.append_eq_singleton_iff.mp htext with ⟨rfl, -⟩ | ⟨rfl, -⟩ <;> exact Nat.le_refl _
  | @string _ quote cs hquote hcs =>
    rcases front_cases htext with rfl | ⟨inner, back', rfl, rfl⟩ | rfl
    · exact Nat.le_refl _
    · rw [Place.after_cons, Place.next_outside_of_quote hquote]
      have hinside : ∀ d, (Place.inString quote depth).after inner ≠ .outside d :=
        Place.not_outside_of_enclosed (ne_backslash_of_quote hquote) hcs
      cases hplace : (Place.inString quote depth).after inner with
      | outside d => exact absurd hplace (hinside d)
      | inString | escaped => trivial
    · have hclosed : Closed false (quote :: (cs ++ [quote])) := .string hquote hcs
      rw [hclosed.after_eq]
      exact Nat.le_refl _
  | @bracket _ cs hcs ih =>
    rcases front_cases htext with rfl | ⟨inner, back', rfl, hinner⟩ | rfl
    · exact Nat.le_refl _
    · have hinside := ih (depth + 1) hinner
      rw [Place.after_cons, Place.next, if_neg (by decide), if_pos rfl]
      cases hplace : (Place.outside (depth + 1)).after inner with
      | outside d =>
        rw [hplace] at hinside
        exact Nat.le_of_succ_le hinside
      | inString | escaped => trivial
    · have hclosed : Closed false ('[' :: (cs ++ [']'])) := .bracket hcs
      rw [hclosed.after_eq]
      exact Nat.le_refl _
  | @append _ cs ds hcs _ ih ih' =>
    rcases List.append_eq_append_iff.mp htext with ⟨more, hcs', -⟩ | ⟨front', rfl, hds⟩
    · exact ih depth hcs'.symm
    · rw [Place.after_append, hcs.after_eq]
      exact ih' depth hds.symm

/-- **At a bar a string or a bracket is open**, where bars may not stand outside. -/
theorem Closed.after_ne_of_bar {front back : List Char} (h : Closed false (front ++ '|' :: back)) (depth : Nat) :
    (Place.outside depth).after front ≠ .outside depth := by
  generalize hbars : false = bars at h
  generalize htext : front ++ '|' :: back = text at h
  induction h generalizing depth front back with
  | nil => simp at htext
  | @quiet _ c hc =>
    rcases List.append_eq_singleton_iff.mp htext with ⟨-, hbar⟩ | ⟨-, hbar⟩
    · rw [← (List.cons.inj hbar).1] at hc
      exact absurd hc (by decide)
    · cases hbar
  | bar => cases hbars
  | @string _ quote cs hquote hcs =>
    rcases front_cases htext with rfl | ⟨inner, back', rfl, rfl⟩ | rfl
    · have hbar : '|' = quote := (List.cons.inj htext).1
      rcases hquote with rfl | rfl <;> exact absurd hbar (by decide)
    · rw [Place.after_cons, Place.next_outside_of_quote hquote]
      exact Place.not_outside_of_enclosed (ne_backslash_of_quote hquote) hcs depth
    · have hlength := congrArg List.length htext
      simp at hlength
  | @bracket _ cs hcs ih =>
    rcases front_cases htext with rfl | ⟨inner, back', rfl, rfl⟩ | rfl
    · exact absurd (List.cons.inj htext).1 (by decide)
    · have hinside := hcs.within (depth + 1)
      rw [Place.after_cons, Place.next, if_neg (by decide), if_pos rfl]
      intro hplace
      rw [hplace] at hinside
      exact Nat.not_succ_le_self depth hinside
    · have hlength := congrArg List.length htext
      simp at hlength
  | @append _ cs ds hcs _ ih ih' =>
    rcases List.append_eq_append_iff.mp htext with ⟨more, hcs', hback⟩ | ⟨front', rfl, hds⟩
    · cases more with
      | nil =>
        rw [List.append_nil] at hcs'
        have hbare : [] ++ '|' :: back = ds := by simpa using hback
        exact absurd rfl (ih' depth hbars hbare)
      | cons c more =>
        obtain ⟨rfl, -⟩ := List.cons.inj hback
        exact ih depth hbars hcs'.symm
    · rw [Place.after_append, hcs.after_eq]
      exact ih' depth hbars hds.symm

end JsonPath

end StatementProfiles
