import StatementProfiles.Proofs.JsonPath.Nesting
import StatementProfiles.Proofs.Text.Pieces

/-!
# What the readers of paths take

Each reader takes a closed text from the front of the characters (`JsonPath.Reads`). For the readers that call each
other this goes by induction on their fuel, with one lemma a reader (`JsonPath.ReadsAt`, `JsonPath.readsAt`). So in a
path every string and every bracket is closed, and a bar stands in a string or in brackets only
(`JsonPath.closed_of_parse?`), and **what stands in front of a bar in a path is no path**
(`JsonPath.parse?_eq_none_of_bar`).
-/

namespace StatementProfiles

namespace JsonPath

variable {bars : Bool} {quote c : Char} {cs ds rest rest' : List Char}

/-- A closed text leads from the characters to the rest. -/
def Reads (bars : Bool) (cs rest : List Char) : Prop := ∃ used, Closed bars used ∧ cs = used ++ rest

namespace Reads

theorem refl (cs : List Char) : Reads bars cs cs := ⟨[], .nil, rfl⟩

theorem trans (h : Reads bars cs rest) (h' : Reads bars rest rest') : Reads bars cs rest' := by
  obtain ⟨used, hused, rfl⟩ := h
  obtain ⟨used', hused', rfl⟩ := h'
  exact ⟨used ++ used', hused.append hused', (List.append_assoc _ _ _).symm⟩

theorem quiet (hc : isQuiet c) (cs : List Char) : Reads bars (c :: cs) cs := ⟨[c], .quiet hc, rfl⟩

theorem bar (cs : List Char) : Reads true ('|' :: cs) cs := ⟨['|'], .bar, rfl⟩

theorem of_quiet (h : ∀ c ∈ cs, isQuiet c) (rest : List Char) : Reads bars (cs ++ rest) rest := ⟨cs, .of_quiet h, rfl⟩

theorem string (hquote : quote = '\'' ∨ quote = '"') (h : Enclosed quote cs) (rest : List Char) :
    Reads bars (quote :: (cs ++ quote :: rest)) rest := by
  refine ⟨quote :: (cs ++ [quote]), .string hquote h, ?_⟩
  simp

theorem bracket (h : Reads true cs (']' :: rest)) : Reads bars ('[' :: cs) rest := by
  obtain ⟨used, hused, rfl⟩ := h
  refine ⟨'[' :: (used ++ [']']), .bracket hused, ?_⟩
  simp

/-- One character that is no quote, no bracket and no bar, and what follows it. -/
theorem cons (hc : isQuiet c) (h : Reads bars cs rest) : Reads bars (c :: cs) rest := (quiet hc cs).trans h

end Reads

/-- A reader whose result is put into another form takes what it takes. -/
theorem exists_read_of_map {α β : Type} {r : Option (α × List Char)} {f : α × List Char → β × List Char} {b : β}
    (h : r.map f = some (b, rest)) (hf : ∀ read, (f read).2 = read.2) : ∃ a, r = some (a, rest) := by
  obtain ⟨⟨a, after⟩, hread, heq⟩ := Option.map_eq_some_iff.mp h
  have hafter : after = rest := (hf (a, after)).symm.trans (congrArg Prod.snd heq)
  exact ⟨a, by rw [hread, hafter]⟩

/-! ## Characters of a class -/

/-- The characters of a class are quiet when it has none of those that are not. -/
theorem isQuiet_of_class {p : Char → Bool} (h : ['\'', '"', '[', ']', '|'].any p = false) (hc : p c) : isQuiet c := by
  rw [isQuiet, Bool.not_eq_true', List.contains_eq_mem, decide_eq_false_iff_not]
  intro hmem
  exact List.any_eq_false.mp h c hmem hc

theorem isQuiet_of_isSpace (h : isSpace c) : isQuiet c := isQuiet_of_class (by decide) h

theorem isQuiet_of_isDigit (h : Text.isDigit c) : isQuiet c := isQuiet_of_class (by decide) h

theorem isQuiet_of_isNameFirst (h : isNameFirst c) : isQuiet c := isQuiet_of_class (by decide) h

theorem isQuiet_of_isNameChar (h : isNameChar c) : isQuiet c := isQuiet_of_class (by decide) h

theorem isQuiet_of_isBlank (h : isBlank c) : isQuiet c := isQuiet_of_class (by decide) h

/-- Taking the characters of a quiet class. -/
theorem reads_dropWhile {p : Char → Bool} (h : ∀ c, p c → isQuiet c) (cs : List Char) :
    Reads bars cs (cs.dropWhile p) := by
  have hread : Reads bars (cs.takeWhile p ++ cs.dropWhile p) (cs.dropWhile p) :=
    .of_quiet (fun c hc => h c (List.mem_takeWhile_imp hc)) _
  rwa [List.takeWhile_append_dropWhile] at hread

theorem reads_skipSpace (cs : List Char) : Reads bars cs (skipSpace cs) :=
  reads_dropWhile (fun _ => isQuiet_of_isSpace) cs

/-- Blanks and one character behind them. -/
theorem reads_of_skipSpace_eq (h : skipSpace cs = c :: ds) (hc : isQuiet c) : Reads bars cs ds :=
  (reads_skipSpace cs).trans (h ▸ .quiet hc ds)

/-! ## Names and strings -/

theorem reads_nameRest (cs : List Char) : Reads bars cs (nameRest cs).2 := by
  induction cs with
  | nil => exact .refl _
  | cons c cs ih =>
    unfold nameRest
    split
    · next hc => exact .cons (isQuiet_of_isNameChar hc) ih
    · split
      · next hc =>
        split
        · exact .refl _
        · next hafter =>
          rw [hafter] at ih
          exact .cons (isQuiet_of_isSpace hc) ih
      · exact .refl _

theorem reads_of_bareName? {s : String} (h : bareName? cs = some (s, rest)) : Reads bars cs rest := by
  unfold bareName? at h
  split at h
  · next c ds hds =>
    split at h
    · next hc =>
      cases h
      exact (reads_of_skipSpace_eq hds (isQuiet_of_isNameFirst hc)).trans (reads_nameRest ds)
    · cases h
  · cases h

theorem isSome_hexValue? {n : Nat} (h : Text.hexDigits? cs = some n) : ∀ c ∈ cs, (Text.hexValue? c).isSome := by
  have hnone : ∀ ds : List Char, ds.foldl (fun n c => n.bind fun v => (Text.hexValue? c).map fun d => v * 16 + d)
      (none : Option Nat) = none := by
    intro ds
    induction ds with
    | nil => rfl
    | cons d ds ih => exact ih
  have hfrom : ∀ (ds : List Char) (start : Option Nat),
      ds.foldl (fun n c => n.bind fun v => (Text.hexValue? c).map fun d => v * 16 + d) start = some n →
      ∀ c ∈ ds, (Text.hexValue? c).isSome := by
    intro ds
    induction ds with
    | nil => exact fun _ _ _ h => (nomatch h)
    | cons d ds ih =>
      intro start h
      refine List.forall_mem_cons.mpr ⟨?_, ih _ h⟩
      rw [List.foldl_cons] at h
      cases hd : Text.hexValue? d with
      | some _ => rfl
      | none =>
        rw [hd] at h
        cases start <;> simp [hnone] at h
  exact hfrom cs (some 0) h

/-- A hexadecimal digit is neither a quote nor a backslash. -/
theorem ne_of_isSome_hexValue? (hquote : quote = '\'' ∨ quote = '"') (h : (Text.hexValue? c).isSome) :
    c ≠ quote ∧ c ≠ '\\' := by
  refine ⟨?_, ?_⟩
  · rintro rfl
    rcases hquote with rfl | rfl <;> exact absurd h (by decide)
  · rintro rfl
    exact absurd h (by decide)

theorem Enclosed.of_hexDigits {n : Nat} (hquote : quote = '\'' ∨ quote = '"') (h : Text.hexDigits? cs = some n)
    (hds : Enclosed quote ds) : Enclosed quote (cs ++ ds) := by
  have hcs := isSome_hexValue? h
  clear h
  induction cs with
  | nil => exact hds
  | cons c cs ih =>
    obtain ⟨hc, hcs⟩ := List.forall_mem_cons.mp hcs
    obtain ⟨hne, hescape⟩ := ne_of_isSome_hexValue? hquote hc
    exact .char hne hescape (ih hcs)

/-- A string is read up to its closing quote. -/
theorem enclosed_of_quotedChars? (hquote : quote = '\'' ∨ quote = '"') {s : List Char}
    (h : quotedChars? quote cs = some (s, rest)) : ∃ used, Enclosed quote used ∧ cs = used ++ quote :: rest := by
  fun_induction quotedChars? quote cs generalizing s with
  | case1 | case2 | case3 | case4 | case6 | case7 | case10 | case12 => cases h
  | case5 _ _ _ _ _ high _ _ _ _ _ _ _ _ low _ ih =>
    obtain ⟨_, htail⟩ := exists_read_of_map h fun _ => rfl
    obtain ⟨used, hused, rfl⟩ := ih htail
    exact ⟨_, .escape 'u' (.of_hexDigits hquote high (.escape 'u' (.of_hexDigits hquote low hused))), rfl⟩
  | case8 _ _ _ _ _ _ hdigits _ _ ih =>
    obtain ⟨_, hrest⟩ := exists_read_of_map h fun _ => rfl
    obtain ⟨used, hused, rfl⟩ := ih hrest
    exact ⟨_, .escape 'u' (.of_hexDigits hquote hdigits hused), rfl⟩
  | case9 c _ _ _ _ ih =>
    obtain ⟨_, hrest⟩ := exists_read_of_map h fun _ => rfl
    obtain ⟨used, hused, rfl⟩ := ih hrest
    exact ⟨_, .escape c hused, rfl⟩
  | case11 c _ _ _ hclose =>
    cases h
    exact ⟨[], .nil, by rw [eq_of_beq hclose, List.nil_append]⟩
  | case13 c _ _ _ hopen hplain ih =>
    obtain ⟨_, hrest⟩ := exists_read_of_map h fun _ => rfl
    obtain ⟨used, hused, rfl⟩ := ih hrest
    have hne : c ≠ quote := fun heq => hopen (beq_of_eq heq)
    have hescape : c ≠ '\\' := fun heq => hplain (by simp [heq])
    exact ⟨c :: used, .char hne hescape hused, rfl⟩

theorem reads_of_quoted? {s : String} (h : quoted? cs = some (s, rest)) : Reads bars cs rest := by
  unfold quoted? at h
  split at h
  · next c cs =>
    split at h
    · next hquote =>
      have hquote : c = '\'' ∨ c = '"' := by simpa using hquote
      obtain ⟨_, hchars⟩ := exists_read_of_map h fun _ => rfl
      obtain ⟨used, hused, rfl⟩ := enclosed_of_quotedChars? hquote hchars
      exact .string hquote hused rest
    · cases h
  · cases h

/-! ## Numbers and words -/

theorem reads_of_wholeDigits? (h : wholeDigits? cs = some (ds, rest)) : Reads bars cs rest := by
  unfold wholeDigits? at h
  split at h
  · cases h
    exact .quiet (by decide) _
  · dsimp only at h
    split at h
    · cases h
    · cases h
      exact reads_dropWhile (fun _ => isQuiet_of_isDigit) cs

/-- A quiet character, such as a sign, is skipped or not. -/
theorem reads_drop_one {skipped : Bool} (h : skipped → cs.head?.any isQuiet) :
    Reads bars cs (if skipped then cs.drop 1 else cs) := by
  split
  · next hskipped =>
    cases cs with
    | nil => cases h hskipped
    | cons c cs => exact .quiet (h hskipped) cs
  · exact .refl cs

/-- A sign is quiet. -/
theorem any_isQuiet_of_head? (hc : isQuiet c) (h : (cs.head? == some c) = true) : cs.head?.any isQuiet := by
  rw [eq_of_beq h]
  exact hc

theorem reads_of_integerUpTo? {bound : Nat} {i : Int} (h : integerUpTo? bound cs = some (i, rest)) :
    Reads bars cs rest := by
  obtain ⟨⟨_, _⟩, hdigits, h⟩ := Option.bind_eq_some_iff.mp h
  dsimp only at h
  split at h
  · cases h
  · cases h
    exact (reads_drop_one (any_isQuiet_of_head? (by decide))).trans (reads_of_wholeDigits? hdigits)

theorem reads_of_fraction? (h : fraction? cs = some (ds, rest)) : Reads bars cs rest := by
  unfold fraction? at h
  split at h
  · dsimp only at h
    split at h
    · cases h
    · cases h
      exact .cons (by decide) (reads_dropWhile (fun _ => isQuiet_of_isDigit) _)
  · cases h
    exact .refl _

theorem reads_of_exponent? {e : Option Int} (h : exponent? cs = some (e, rest)) : Reads bars cs rest := by
  unfold exponent? at h
  split at h
  · next c cs =>
    split at h
    · next hc =>
      have hc : c = 'e' ∨ c = 'E' := by simpa using hc
      have hquiet : isQuiet c := by rcases hc with rfl | rfl <;> decide
      dsimp only at h
      have hsign : Reads bars cs (if cs.head? == some '-' || cs.head? == some '+' then cs.drop 1 else cs) := by
        refine reads_drop_one fun hs => ?_
        rcases Bool.or_eq_true_iff.mp hs with hs | hs <;> exact any_isQuiet_of_head? (by decide) hs
      generalize (if cs.head? == some '-' || cs.head? == some '+' then cs.drop 1 else cs) = body at h hsign
      split at h
      · cases h
      · cases h
        exact .cons hquiet (hsign.trans (reads_dropWhile (fun _ => isQuiet_of_isDigit) body))
    · cases h
      exact .refl _
  · cases h
    exact .refl _

theorem reads_of_number? {v : Json} (h : number? cs = some (v, rest)) : Reads bars cs rest := by
  obtain ⟨⟨_, afterWhole⟩, hwhole, h⟩ := Option.bind_eq_some_iff.mp h
  obtain ⟨⟨_, afterFraction⟩, hfraction, h⟩ := Option.bind_eq_some_iff.mp h
  obtain ⟨⟨_, afterExponent⟩, hexponent, h⟩ := Option.bind_eq_some_iff.mp h
  have hread : Reads bars cs afterExponent :=
    (reads_drop_one (any_isQuiet_of_head? (by decide))).trans <| (reads_of_wholeDigits? hwhole).trans <|
      (reads_of_fraction? hfraction).trans (reads_of_exponent? hexponent)
  dsimp only at h
  split at h
  · split at h
    · cases h
    · cases h
      exact hread
  · cases h
    exact hread

theorem reads_of_afterWord? {word : String} (hword : word.toList.all isQuiet)
    (h : afterWord? word cs = some rest) : Reads bars cs rest := by
  unfold afterWord? at h
  split at h
  · next hprefix =>
    cases h
    obtain ⟨after, rfl⟩ := List.isPrefixOf_iff_prefix.mp hprefix
    rw [← String.length_toList, List.drop_left]
    exact .of_quiet (List.all_eq_true.mp hword) after
  · cases h

theorem reads_of_literal? {v : Json} (h : literal? cs = some (v, rest)) : Reads bars cs rest := by
  unfold literal? at h
  split at h
  · next r hr =>
    cases h
    exact reads_of_number? hr
  · split at h
    · next s after hs =>
      cases h
      exact reads_of_quoted? hs
    · split at h
      · next hword =>
        cases h
        exact reads_of_afterWord? (by decide) hword
      · split at h
        · next hword =>
          cases h
          exact reads_of_afterWord? (by decide) hword
        · obtain ⟨after, hword, heq⟩ := Option.map_eq_some_iff.mp h
          cases heq
          exact reads_of_afterWord? (by decide) hword

/-! ## Selectors without conditions -/

theorem reads_of_maybeInteger? {i : Option Int} (h : maybeInteger? cs = some (i, rest)) : Reads bars cs rest := by
  unfold maybeInteger? at h
  split at h
  · split at h
    · obtain ⟨_, hi⟩ := exists_read_of_map h fun _ => rfl
      exact reads_of_integerUpTo? hi
    · cases h
      exact .refl _
  · cases h
    exact .refl _

theorem reads_of_sliceStep? {step : Option Int} (h : sliceStep? cs = some (step, rest)) : Reads bars cs rest := by
  unfold sliceStep? at h
  split at h
  · next ds hds =>
    have hcolon : Reads bars cs ds := reads_of_skipSpace_eq hds (by decide)
    obtain ⟨⟨i, after⟩, hi, heq⟩ := Option.map_eq_some_iff.mp h
    cases i with
    | some i =>
      cases heq
      exact hcolon.trans ((reads_skipSpace ds).trans (reads_of_maybeInteger? hi))
    | none =>
      cases heq
      exact hcolon
  · cases h
    exact .refl _

theorem reads_of_sliceRest? {start : Option Int} {s : Selector} (h : sliceRest? start cs = some (s, rest)) :
    Reads bars cs rest := by
  obtain ⟨⟨stop, after⟩, hstop, h⟩ := Option.bind_eq_some_iff.mp h
  obtain ⟨_, hstep⟩ := exists_read_of_map h fun _ => rfl
  cases stop with
  | some stop => exact (reads_skipSpace cs).trans ((reads_of_maybeInteger? hstop).trans (reads_of_sliceStep? hstep))
  | none => exact reads_of_sliceStep? hstep

theorem reads_of_indexOrSlice? {s : Selector} (h : indexOrSlice? cs = some (s, rest)) : Reads bars cs rest := by
  obtain ⟨⟨start, after⟩, hstart, h⟩ := Option.bind_eq_some_iff.mp h
  have hread : Reads bars cs after := reads_of_maybeInteger? hstart
  dsimp only at h
  split at h
  · next ds hds => exact hread.trans ((reads_of_skipSpace_eq hds (by decide)).trans (reads_of_sliceRest? h))
  · obtain ⟨i, -, heq⟩ := Option.map_eq_some_iff.mp h
    cases heq
    exact hread

/-! ## Single nodes -/

/-- Brackets with blanks around what stands in them. -/
theorem reads_brackets {inner after : List Char} (hopen : skipSpace cs = '[' :: inner)
    (hinner : Reads true (skipSpace inner) after) (hclose : skipSpace after = ']' :: rest) : Reads bars cs rest := by
  have hbody : Reads true inner (']' :: rest) := by
    rw [← hclose]
    exact (reads_skipSpace inner).trans (hinner.trans (reads_skipSpace after))
  have hread : Reads bars (skipSpace cs) rest := hopen ▸ hbody.bracket
  exact (reads_skipSpace cs).trans hread

theorem reads_of_step? {s : Step} (h : step? cs = some (s, rest)) : Reads bars cs rest := by
  unfold step? at h
  split at h
  · next ds hds =>
    obtain ⟨_, hname⟩ := exists_read_of_map h fun _ => rfl
    exact (reads_of_skipSpace_eq hds (by decide)).trans (reads_of_bareName? hname)
  · next ds hds =>
    split at h
    · next name after hname =>
      split at h
      · next tail hclose =>
        cases h
        exact reads_brackets hds (reads_of_quoted? hname) hclose
      · cases h
    · obtain ⟨⟨i, after⟩, hi, h⟩ := Option.bind_eq_some_iff.mp h
      dsimp only at h
      split at h
      · next tail hclose =>
        cases h
        exact reads_brackets hds (reads_of_integerUpTo? hi) hclose
      · cases h
  · cases h

theorem reads_steps (fuel : Nat) (cs : List Char) : Reads bars cs (steps fuel cs).2 := by
  induction fuel generalizing cs with
  | zero => exact .refl cs
  | succ fuel ih =>
    unfold steps
    split
    · next hstep => exact (reads_of_step? hstep).trans (ih _)
    · exact .refl cs

theorem reads_of_origin? {o : Origin} (h : origin? cs = some (o, rest)) : Reads bars cs rest := by
  unfold origin? at h
  split at h
  · cases h
    exact .quiet (by decide) _
  · cases h
    exact .quiet (by decide) _
  · cases h

theorem reads_of_relation? {r : Relation} (h : relation? cs = some (r, rest)) : Reads bars cs rest := by
  unfold relation? at h
  split at h
  case h_5 | h_6 =>
    cases h
    exact .quiet (by decide) _
  case h_7 => cases h
  all_goals
    cases h
    exact .cons (by decide) (.quiet (by decide) _)

theorem reads_of_functionName? {f : Function} (h : functionName? cs = some (f, rest)) : Reads bars cs rest := by
  obtain ⟨_, -, h⟩ := Option.bind_eq_some_iff.mp h
  rw [Text.drop_length_takeWhile] at h
  have hquiet : ∀ c, (('a' ≤ c && c ≤ 'z') || c == '_' || Text.isDigit c) = true → isQuiet c := fun c hc =>
    isQuiet_of_class (p := fun c => ('a' ≤ c && c ≤ 'z') || c == '_' || Text.isDigit c) (by decide) hc
  have hname := @reads_dropWhile bars _ hquiet cs
  split at h
  · next after hafter =>
    cases h
    rw [hafter] at hname
    exact hname.trans (.quiet (by decide) _)
  · cases h

/-! ## Selectors with conditions -/

/-- What the readers that call each other take with some fuel. Conditions may have bars; what is behind an opening
bracket goes up to the closing one. -/
structure ReadsAt (fuel : Nat) : Prop where
  segments : ∀ {bars cs ss rest}, segments? fuel cs = some (ss, rest) → Reads bars cs rest
  bracket : ∀ {cs ss rest}, bracket? fuel cs = some (ss, rest) → Reads true cs (']' :: rest)
  selector : ∀ {cs s rest}, selector? fuel cs = some (s, rest) → Reads true cs rest
  condition : ∀ {cs c rest}, condition? fuel cs = some (c, rest) → Reads true cs rest
  conjunction : ∀ {cs c rest}, conjunction? fuel cs = some (c, rest) → Reads true cs rest
  basic : ∀ {cs c rest}, basic? fuel cs = some (c, rest) → Reads true cs rest
  parenthesized : ∀ {cs c rest}, parenthesized? fuel cs = some (c, rest) → Reads true cs rest
  comparison : ∀ {cs c rest}, comparison? fuel cs = some (c, rest) → Reads true cs rest
  operand : ∀ {cs o rest}, operand? fuel cs = some (o, rest) → Reads true cs rest
  test : ∀ {cs t rest}, test? fuel cs = some (t, rest) → Reads true cs rest
  call : ∀ {cs f as rest}, call? fuel cs = some (f, as, rest) → Reads true cs rest
  arguments : ∀ {cs as rest}, arguments? fuel cs = some (as, rest) → Reads true cs rest
  argument : ∀ {cs a rest}, argument? fuel cs = some (a, rest) → Reads true cs rest

namespace ReadsAt

variable {fuel : Nat}

theorem zero : ReadsAt 0 where
  segments h := by cases h
  bracket h := by cases h
  selector h := by cases h
  condition h := by cases h
  conjunction h := by cases h
  basic h := by cases h
  parenthesized h := by cases h
  comparison h := by cases h
  operand h := by cases h
  test h := by cases h
  call h := by cases h
  arguments h := by cases h
  argument h := by cases h

/-- Brackets, and segments behind them. -/
theorem bracket_segments (ih : ReadsAt fuel) {f : List Selector → Segment} {ss : List Segment}
    (h : ((bracket? fuel cs).bind fun (selectors, after) =>
      (segments? fuel after).map fun (more, after) => (f selectors :: more, after)) = some (ss, rest)) :
    Reads bars ('[' :: cs) rest := by
  obtain ⟨⟨selectors, after⟩, hbracket, h⟩ := Option.bind_eq_some_iff.mp h
  obtain ⟨_, hmore⟩ := exists_read_of_map h fun _ => rfl
  exact (ih.bracket hbracket).bracket.trans (ih.segments hmore)

/-- A bare name, and segments behind it. -/
theorem name_segments (ih : ReadsAt fuel) {f : String → Segment} {ss : List Segment}
    (h : ((bareName? cs).bind fun (name, after) =>
      (segments? fuel after).map fun (more, after) => (f name :: more, after)) = some (ss, rest)) :
    Reads bars cs rest := by
  obtain ⟨⟨name, after⟩, hname, h⟩ := Option.bind_eq_some_iff.mp h
  obtain ⟨_, hmore⟩ := exists_read_of_map h fun _ => rfl
  exact (reads_of_bareName? hname).trans (ih.segments hmore)

/-- A star, and segments behind it. -/
theorem star_segments (ih : ReadsAt fuel) {s : Segment} {ss : List Segment}
    (h : ((segments? fuel cs).map fun (more, after) => (s :: more, after)) = some (ss, rest)) :
    Reads bars ('*' :: cs) rest := by
  obtain ⟨_, hmore⟩ := exists_read_of_map h fun _ => rfl
  exact .cons (by decide) (ih.segments hmore)

theorem segments_succ (ih : ReadsAt fuel) {ss : List Segment} (h : segments? (fuel + 1) cs = some (ss, rest)) :
    Reads bars cs rest := by
  unfold segments? at h
  dsimp only at h
  split at h
  · next ds hds =>
    have hdots : Reads bars cs ds := (reads_of_skipSpace_eq hds (by decide)).trans (.quiet (by decide) ds)
    split at h
    · cases h
    · split at h
      · exact hdots.trans (ih.bracket_segments h)
      · exact hdots.trans (ih.star_segments h)
      · exact hdots.trans (ih.name_segments (f := fun name => .descendant [.name name]) h)
  · next ds _ hds =>
    have hdot : Reads bars cs ds := reads_of_skipSpace_eq hds (by decide)
    split at h
    · cases h
    · split at h
      · exact hdot.trans (ih.star_segments h)
      · exact hdot.trans (ih.name_segments (f := fun name => .child [.name name]) h)
  · next ds hds =>
    have hopen : Reads bars (skipSpace cs) rest := hds ▸ ih.bracket_segments h
    exact (reads_skipSpace cs).trans hopen
  · cases h
    exact .refl _

theorem bracket_succ (ih : ReadsAt fuel) {ss : List Selector} (h : bracket? (fuel + 1) cs = some (ss, rest)) :
    Reads true cs (']' :: rest) := by
  unfold bracket? at h
  obtain ⟨⟨s, after⟩, hs, h⟩ := Option.bind_eq_some_iff.mp h
  have hselector : Reads true cs after := (reads_skipSpace cs).trans (ih.selector hs)
  dsimp only at h
  split at h
  · next more hcomma =>
    obtain ⟨_, hmore⟩ := exists_read_of_map h fun _ => rfl
    exact hselector.trans ((reads_of_skipSpace_eq hcomma (by decide)).trans (ih.bracket hmore))
  · next hclose =>
    cases h
    have hend := @reads_skipSpace true after
    rw [hclose] at hend
    exact hselector.trans hend
  · cases h

theorem selector_succ (ih : ReadsAt fuel) {s : Selector} (h : selector? (fuel + 1) cs = some (s, rest)) :
    Reads true cs rest := by
  unfold selector? at h
  split at h
  · cases h
    exact .quiet (by decide) _
  · next ds =>
    obtain ⟨_, hcondition⟩ := exists_read_of_map h fun _ => rfl
    exact .cons (by decide) ((reads_skipSpace ds).trans (ih.condition hcondition))
  · obtain ⟨_, hname⟩ := exists_read_of_map h fun _ => rfl
    exact reads_of_quoted? hname
  · obtain ⟨_, hname⟩ := exists_read_of_map h fun _ => rfl
    exact reads_of_quoted? hname
  · exact reads_of_indexOrSlice? h

theorem condition_succ (ih : ReadsAt fuel) {c : Condition} (h : condition? (fuel + 1) cs = some (c, rest)) :
    Reads true cs rest := by
  unfold condition? at h
  obtain ⟨⟨left, after⟩, hleft, h⟩ := Option.bind_eq_some_iff.mp h
  have hread := ih.conjunction hleft
  dsimp only at h
  split at h
  · next more hbars =>
    obtain ⟨_, hmore⟩ := exists_read_of_map h fun _ => rfl
    have hspace := @reads_skipSpace true after
    rw [hbars] at hspace
    have hboth : Reads true ('|' :: '|' :: more) more := (Reads.bar _).trans (.bar more)
    exact hread.trans (hspace.trans (hboth.trans ((reads_skipSpace more).trans (ih.condition hmore))))
  · cases h
    exact hread

theorem conjunction_succ (ih : ReadsAt fuel) {c : Condition} (h : conjunction? (fuel + 1) cs = some (c, rest)) :
    Reads true cs rest := by
  unfold conjunction? at h
  obtain ⟨⟨left, after⟩, hleft, h⟩ := Option.bind_eq_some_iff.mp h
  have hread := ih.basic hleft
  dsimp only at h
  split at h
  · next more hsigns =>
    obtain ⟨_, hmore⟩ := exists_read_of_map h fun _ => rfl
    have hboth : Reads true after more := (reads_of_skipSpace_eq hsigns (by decide)).trans (.quiet (by decide) more)
    exact hread.trans (hboth.trans ((reads_skipSpace more).trans (ih.conjunction hmore)))
  · cases h
    exact hread

theorem basic_succ (ih : ReadsAt fuel) {c : Condition} (h : basic? (fuel + 1) cs = some (c, rest)) :
    Reads true cs rest := by
  unfold basic? at h
  split at h
  · next ds =>
    refine .cons (by decide) ?_
    split at h
    · next body hbody =>
      obtain ⟨_, hinner⟩ := exists_read_of_map h fun _ => rfl
      exact (reads_of_skipSpace_eq hbody (by decide)).trans (ih.parenthesized hinner)
    · obtain ⟨_, htest⟩ := exists_read_of_map h fun _ => rfl
      exact (reads_skipSpace ds).trans (ih.test htest)
  · exact .cons (by decide) (ih.parenthesized h)
  · split at h
    · next r hr =>
      cases h
      exact ih.comparison hr
    · obtain ⟨_, htest⟩ := exists_read_of_map h fun _ => rfl
      exact ih.test htest

theorem parenthesized_succ (ih : ReadsAt fuel) {c : Condition}
    (h : parenthesized? (fuel + 1) cs = some (c, rest)) : Reads true cs rest := by
  unfold parenthesized? at h
  obtain ⟨⟨_, after⟩, hcondition, h⟩ := Option.bind_eq_some_iff.mp h
  have hread : Reads true cs after := (reads_skipSpace cs).trans (ih.condition hcondition)
  dsimp only at h
  split at h
  · next hclose =>
    cases h
    exact hread.trans (reads_of_skipSpace_eq hclose (by decide))
  · cases h

theorem comparison_succ (ih : ReadsAt fuel) {c : Condition} (h : comparison? (fuel + 1) cs = some (c, rest)) :
    Reads true cs rest := by
  unfold comparison? at h
  obtain ⟨⟨_, afterLeft⟩, hleft, h⟩ := Option.bind_eq_some_iff.mp h
  obtain ⟨⟨_, afterRelation⟩, hrelation, h⟩ := Option.bind_eq_some_iff.mp h
  obtain ⟨_, hright⟩ := exists_read_of_map h fun _ => rfl
  exact (ih.operand hleft).trans <| (reads_skipSpace afterLeft).trans <| (reads_of_relation? hrelation).trans <|
    (reads_skipSpace afterRelation).trans (ih.operand hright)

theorem operand_succ (ih : ReadsAt fuel) {o : Operand} (h : operand? (fuel + 1) cs = some (o, rest)) :
    Reads true cs rest := by
  unfold operand? at h
  split at h
  · next hliteral =>
    cases h
    exact reads_of_literal? hliteral
  · split at h
    · next horigin =>
      cases h
      exact (reads_of_origin? horigin).trans (reads_steps _ _)
    · obtain ⟨⟨f, as, after⟩, hcall, h⟩ := Option.bind_eq_some_iff.mp h
      dsimp only at h
      split at h
      · cases h
        exact ih.call hcall
      · cases h

theorem test_succ (ih : ReadsAt fuel) {t : Test} (h : test? (fuel + 1) cs = some (t, rest)) : Reads true cs rest := by
  unfold test? at h
  split at h
  · next horigin =>
    obtain ⟨_, hsegments⟩ := exists_read_of_map h fun _ => rfl
    exact (reads_of_origin? horigin).trans (ih.segments hsegments)
  · obtain ⟨⟨_, _, _⟩, hcall, heq⟩ := Option.map_eq_some_iff.mp h
    cases heq
    exact ih.call hcall

theorem call_succ (ih : ReadsAt fuel) {f : Function} {as : List Argument}
    (h : call? (fuel + 1) cs = some (f, as, rest)) : Reads true cs rest := by
  unfold call? at h
  obtain ⟨⟨_, afterName⟩, hname, h⟩ := Option.bind_eq_some_iff.mp h
  obtain ⟨⟨_, after⟩, harguments, h⟩ := Option.bind_eq_some_iff.mp h
  dsimp only at h
  split at h
  · cases h
    exact (reads_of_functionName? hname).trans ((reads_skipSpace afterName).trans (ih.arguments harguments))
  · cases h

theorem arguments_succ (ih : ReadsAt fuel) {as : List Argument}
    (h : arguments? (fuel + 1) cs = some (as, rest)) : Reads true cs rest := by
  unfold arguments? at h
  obtain ⟨⟨_, after⟩, hargument, h⟩ := Option.bind_eq_some_iff.mp h
  have hread := ih.argument hargument
  dsimp only at h
  split at h
  · next more hcomma =>
    obtain ⟨_, hmore⟩ := exists_read_of_map h fun _ => rfl
    exact hread.trans <| (reads_of_skipSpace_eq hcomma (by decide)).trans <|
      (reads_skipSpace more).trans (ih.arguments hmore)
  · next hclose =>
    cases h
    exact hread.trans (reads_of_skipSpace_eq hclose (by decide))
  · cases h

theorem argument_succ (ih : ReadsAt fuel) {a : Argument} (h : argument? (fuel + 1) cs = some (a, rest)) :
    Reads true cs rest := by
  unfold argument? at h
  split at h
  · next hliteral =>
    cases h
    exact reads_of_literal? hliteral
  · split at h
    · next htest =>
      cases h
      exact ih.test htest
    · split at h
      · cases h
      · obtain ⟨_, hcondition⟩ := exists_read_of_map h fun _ => rfl
        exact ih.condition hcondition

theorem succ (ih : ReadsAt fuel) : ReadsAt (fuel + 1) where
  segments := ih.segments_succ
  bracket := ih.bracket_succ
  selector := ih.selector_succ
  condition := ih.condition_succ
  conjunction := ih.conjunction_succ
  basic := ih.basic_succ
  parenthesized := ih.parenthesized_succ
  comparison := ih.comparison_succ
  operand := ih.operand_succ
  test := ih.test_succ
  call := ih.call_succ
  arguments := ih.arguments_succ
  argument := ih.argument_succ

end ReadsAt

/-- **Readers take closed texts**, with any fuel. -/
theorem readsAt : ∀ fuel : Nat, ReadsAt fuel
  | 0 => .zero
  | fuel + 1 => (readsAt fuel).succ

/-! ## Whole paths -/

variable {source : String} {q : Query}

theorem exists_segments_of_parse? (h : parse? source = some q) :
    ∃ rest fuel, source.toList = '$' :: rest ∧ segments? fuel rest = some (q.segments, []) := by
  unfold parse? at h
  split at h
  · cases h
  · split at h
    · next rest hsource =>
      split at h
      · next ss hsegments =>
        cases h
        exact ⟨rest, _, hsource, hsegments⟩
      · cases h
    · cases h

/-- In a path every string and bracket is closed, and bars stand in strings and brackets only. -/
theorem closed_of_parse? (h : parse? source = some q) : Closed false source.toList := by
  obtain ⟨rest, fuel, hsource, hsegments⟩ := exists_segments_of_parse? h
  have hread : Reads false rest [] := (readsAt fuel).segments hsegments
  obtain ⟨used, hused, hrest⟩ := hread
  have hroot : Closed false ['$'] := .quiet (by decide)
  rw [hsource, hrest, List.append_nil]
  exact hroot.append hused

/-- **What stands in front of a bar in a path is no path**, with its white space or without. -/
theorem parse?_eq_none_of_bar {front back : List Char} (h : parse? source = some q)
    (hbar : source.toList = front ++ '|' :: back) : parse? (String.ofList (Text.trimChars front)) = none := by
  by_contra hpath
  obtain ⟨q', hq'⟩ := Option.ne_none_iff_exists'.mp hpath
  have htrimmed : Closed false (Text.trimChars front) := by
    simpa only [String.toList_ofList] using closed_of_parse? hq'
  obtain ⟨blanks, blanks', hblanks, hblanks', hfront⟩ := Text.exists_eq_trimChars front
  have hclosed : Closed false front := by
    rw [hfront]
    exact .append (.append (.of_quiet fun c hc => isQuiet_of_isBlank (hblanks c hc)) htrimmed)
      (.of_quiet fun c hc => isQuiet_of_isBlank (hblanks' c hc))
  have hopen : Closed false (front ++ '|' :: back) := hbar ▸ closed_of_parse? h
  exact hopen.after_ne_of_bar 0 (hclosed.after_eq 0)

end JsonPath

end StatementProfiles
