import Mathlib.Data.List.TakeWhile
import StatementProfiles.Text.Blank

/-!
# Cutting and trimming texts

A text is cut at each of its separators (`Text.splitOn_append`), and no piece has one (`Text.mem_of_mem_splitOn`).
Trimming takes white space off both ends and nothing else (`Text.exists_eq_trimChars`), so white space that is put
around a text does not show afterwards (`Text.trimChars_append`, `Text.trimChars_append_left`), and a trimmed text is
trimmed (`Text.trimChars_trimChars`). **The trimmed pieces of texts that are joined are those of the texts**
(`Text.trimmedPieces_intercalate`).
-/

namespace StatementProfiles

namespace Text

variable {separator : Char} {cs ds front back : List Char}

/-! ## Pieces -/

/-- Cutting a text is cutting a list. -/
theorem splitOn_eq (separator : Char) (cs : List Char) : splitOn separator cs = cs.splitOn separator := by
  induction cs with
  | nil => rfl
  | cons c cs ih =>
    rw [splitOn, ih]
    simp only [List.splitOn, List.splitOnP_cons_eq_if_modifyHead]
    by_cases hc : c = separator
    · simp [hc]
    · obtain ⟨piece, pieces, hpieces⟩ := List.exists_cons_of_ne_nil (List.splitOnP_ne_nil (· == separator) cs)
      simp [hc, hpieces]

/-- A separator ends the last piece of what is in front of it. -/
theorem splitOn_append (cs ds : List Char) :
    splitOn separator (cs ++ separator :: ds) = splitOn separator cs ++ splitOn separator ds := by
  simp only [splitOn_eq, List.splitOn_append_cons_self]

theorem splitOn_of_not_mem (h : separator ∉ cs) : splitOn separator cs = [cs] := by
  have hone : ([separator].intercalate [cs]).splitOn separator = [cs] :=
    List.splitOn_intercalate separator (by simpa using h) (by simp)
  rwa [List.intercalate_singleton, ← splitOn_eq] at hone

/-- The pieces are made of the characters of the text that are no separators. -/
theorem mem_of_mem_splitOn {piece : List Char} (h : piece ∈ splitOn separator cs) {c : Char} (hc : c ∈ piece) :
    c ∈ cs ∧ c ≠ separator := by
  rw [splitOn_eq, List.splitOn] at h
  induction cs generalizing piece with
  | nil =>
    rw [List.splitOnP_nil, List.mem_singleton] at h
    rw [h] at hc
    cases hc
  | cons d cs ih =>
    rw [List.splitOnP_cons_eq_if_modifyHead] at h
    split at h
    · rcases List.mem_cons.mp h with rfl | h
      · cases hc
      · exact (ih h hc).imp_left (List.mem_cons_of_mem d)
    · next hd =>
      obtain ⟨first, pieces, hpieces⟩ := List.exists_cons_of_ne_nil (List.splitOnP_ne_nil (· == separator) cs)
      rw [hpieces] at h ih
      rcases List.mem_cons.mp h with rfl | h
      · rcases List.mem_cons.mp hc with rfl | hc
        · exact ⟨List.mem_cons_self, fun heq => hd (by simp [heq])⟩
        · exact (ih List.mem_cons_self hc).imp_left (List.mem_cons_of_mem d)
      · exact (ih (List.mem_cons_of_mem _ h) hc).imp_left (List.mem_cons_of_mem d)

theorem drop_length_takeWhile (p : Char → Bool) (cs : List Char) :
    cs.drop (cs.takeWhile p).length = cs.dropWhile p := by
  have hsplit : cs.takeWhile p ++ cs.dropWhile p = cs := List.takeWhile_append_dropWhile
  calc cs.drop (cs.takeWhile p).length
      = (cs.takeWhile p ++ cs.dropWhile p).drop (cs.takeWhile p).length := by rw [hsplit]
    _ = cs.dropWhile p := List.drop_left

/-! ## White space -/

/-- All characters are white space. -/
def AllBlank (cs : List Char) : Prop := ∀ c ∈ cs, isBlank c

theorem allBlank_nil : AllBlank [] := fun _ h => (nomatch h)

theorem AllBlank.reverse (h : AllBlank cs) : AllBlank cs.reverse := fun c hc => h c (List.mem_reverse.mp hc)

theorem allBlank_takeWhile (cs : List Char) : AllBlank (cs.takeWhile isBlank) := fun _ hc => List.mem_takeWhile_imp hc

theorem trimStart_append (h : AllBlank front) (cs : List Char) : trimStart (front ++ cs) = trimStart cs :=
  List.dropWhile_append_of_pos h

theorem trimStart_of_allBlank (h : AllBlank cs) : trimStart cs = [] := List.dropWhile_eq_nil_iff.mpr h

theorem trimChars_append_left (h : AllBlank front) (cs : List Char) : trimChars (front ++ cs) = trimChars cs := by
  rw [trimChars, trimStart_append h, trimChars]

theorem trimChars_append (cs : List Char) (h : AllBlank back) : trimChars (cs ++ back) = trimChars cs := by
  have hstart : trimStart (cs ++ back) = if (trimStart cs).isEmpty then [] else trimStart cs ++ back := by
    rw [trimStart, List.dropWhile_append, trimStart]
    split
    · exact trimStart_of_allBlank h
    · rfl
  rw [trimChars, trimChars, hstart]
  split
  · next hempty => rw [List.isEmpty_iff.mp hempty]
  · rw [List.reverse_append, trimStart_append h.reverse]

theorem trimChars_of_allBlank (h : AllBlank cs) : trimChars cs = [] := by
  rw [trimChars, trimStart_of_allBlank h]
  rfl

/-- Trimming takes white space off both ends. -/
theorem exists_eq_trimChars (cs : List Char) :
    ∃ front back, AllBlank front ∧ AllBlank back ∧ cs = front ++ trimChars cs ++ back := by
  refine ⟨cs.takeWhile isBlank, ((trimStart cs).reverse.takeWhile isBlank).reverse, allBlank_takeWhile cs,
    (allBlank_takeWhile _).reverse, ?_⟩
  have hend : trimChars cs ++ ((trimStart cs).reverse.takeWhile isBlank).reverse = trimStart cs := by
    rw [trimChars, ← List.reverse_append]
    exact (congrArg List.reverse List.takeWhile_append_dropWhile).trans (List.reverse_reverse _)
  rw [List.append_assoc, hend]
  exact List.takeWhile_append_dropWhile.symm

/-- A first character that is no white space stays the first. -/
theorem head?_trimChars {c : Char} (hc : isBlank c = false) (cs : List Char) :
    (trimChars (c :: cs)).head? = some c := by
  obtain ⟨front, back, hfront, hback, hcs⟩ := exists_eq_trimChars (c :: cs)
  have hblank : ¬isBlank c = true := by simp [hc]
  cases front with
  | cons d front =>
    obtain ⟨rfl, -⟩ := List.cons.inj hcs
    exact absurd (hfront c List.mem_cons_self) hblank
  | nil =>
    cases htrim : trimChars (c :: cs) with
    | cons d rest =>
      rw [htrim] at hcs
      rw [List.head?_cons, (List.cons.inj hcs).1]
    | nil =>
      rw [htrim] at hcs
      have hall : c :: cs = back := hcs
      exact absurd (hback c (hall ▸ List.mem_cons_self)) hblank

theorem trimChars_trimChars (cs : List Char) : trimChars (trimChars cs) = trimChars cs := by
  obtain ⟨front, back, hfront, hback, hcs⟩ := exists_eq_trimChars cs
  calc trimChars (trimChars cs)
      = trimChars (front ++ trimChars cs ++ back) := by rw [trimChars_append _ hback, trimChars_append_left hfront]
    _ = trimChars cs := by rw [← hcs]

theorem mem_of_mem_trimChars {c : Char} (h : c ∈ trimChars cs) : c ∈ cs := by
  obtain ⟨front, back, -, -, hcs⟩ := exists_eq_trimChars cs
  rw [hcs]
  exact List.mem_append_left _ (List.mem_append_right _ h)

/-! ## Trimmed pieces -/

/-- The pieces of a text, trimmed and without the empty ones. -/
def trimmedPieces (separator : Char) (cs : List Char) : List (List Char) :=
  ((splitOn separator cs).map trimChars).filter fun piece => !piece.isEmpty

theorem trimmedPieces_append (cs ds : List Char) :
    trimmedPieces separator (cs ++ separator :: ds) = trimmedPieces separator cs ++ trimmedPieces separator ds := by
  simp only [trimmedPieces, splitOn_append, List.map_append, List.filter_append]

theorem trimmedPieces_of_not_mem (h : separator ∉ cs) :
    trimmedPieces separator cs = if trimChars cs = [] then [] else [trimChars cs] := by
  rw [trimmedPieces, splitOn_of_not_mem h, List.map_singleton]
  by_cases hempty : trimChars cs = [] <;> simp [hempty]

theorem trimmedPieces_of_not_mem_of_ne_nil (h : separator ∉ cs) (hne : trimChars cs ≠ []) :
    trimmedPieces separator cs = [trimChars cs] := by
  rw [trimmedPieces_of_not_mem h, if_neg hne]

/-- Each of them is trimmed, is not empty and has no separator. -/
theorem trim_of_mem_trimmedPieces {piece : List Char} (h : piece ∈ trimmedPieces separator cs) :
    trimChars piece = piece ∧ piece ≠ [] ∧ separator ∉ piece := by
  obtain ⟨hmem, hne⟩ := List.mem_filter.mp h
  obtain ⟨raw, hraw, rfl⟩ := List.mem_map.mp hmem
  refine ⟨trimChars_trimChars raw, by simpa using hne, fun hsep => ?_⟩
  exact (mem_of_mem_splitOn hraw (mem_of_mem_trimChars hsep)).2 rfl

/-- A text of separators and white space has no pieces. -/
theorem trimmedPieces_eq_nil (h : ∀ c ∈ cs, isBlank c ∨ c = separator) : trimmedPieces separator cs = [] := by
  refine List.filter_eq_nil_iff.mpr fun piece hpiece => ?_
  obtain ⟨raw, hraw, rfl⟩ := List.mem_map.mp hpiece
  have hblank : AllBlank raw := by
    intro c hc
    obtain ⟨hmem, hne⟩ := mem_of_mem_splitOn hraw hc
    exact (h c hmem).resolve_right hne
  simp [trimChars_of_allBlank hblank]

/-- A text with a separator is cut at its last one. -/
theorem exists_last_piece (h : separator ∈ cs) : ∃ front last, cs = front ++ separator :: last ∧ separator ∉ last := by
  obtain ⟨last, front, hcs, hlast⟩ := List.eq_append_cons_of_mem (List.mem_reverse.mpr h)
  refine ⟨front.reverse, last.reverse, ?_, fun hmem => hlast (List.mem_reverse.mp hmem)⟩
  rw [← List.reverse_reverse cs, hcs]
  simp

theorem AllBlank.not_mem (h : AllBlank cs) (hsep : isBlank separator = false) : separator ∉ cs := by
  intro hmem
  rw [h separator hmem] at hsep
  cases hsep

/-- White space around a text does not show in its pieces. -/
theorem trimmedPieces_append_blank (hsep : isBlank separator = false) (cs : List Char) (h : AllBlank back) :
    trimmedPieces separator (cs ++ back) = trimmedPieces separator cs := by
  have hone : ∀ last : List Char, separator ∉ last →
      trimmedPieces separator (last ++ back) = trimmedPieces separator last := by
    intro last hlast
    have hmem : separator ∉ last ++ back := by simp [hlast, h.not_mem hsep]
    rw [trimmedPieces_of_not_mem hmem, trimmedPieces_of_not_mem hlast, trimChars_append last h]
  by_cases hmem : separator ∈ cs
  · obtain ⟨first, last, rfl, hlast⟩ := exists_last_piece hmem
    rw [List.append_assoc, List.cons_append, trimmedPieces_append, trimmedPieces_append, hone last hlast]
  · exact hone cs hmem

theorem trimmedPieces_blank_append (hsep : isBlank separator = false) (h : AllBlank front) (cs : List Char) :
    trimmedPieces separator (front ++ cs) = trimmedPieces separator cs := by
  have hone : ∀ first : List Char, separator ∉ first →
      trimmedPieces separator (front ++ first) = trimmedPieces separator first := by
    intro first hfirst
    have hmem : separator ∉ front ++ first := by simp [hfirst, h.not_mem hsep]
    rw [trimmedPieces_of_not_mem hmem, trimmedPieces_of_not_mem hfirst, trimChars_append_left h]
  by_cases hmem : separator ∈ cs
  · obtain ⟨first, rest, rfl, hfirst⟩ := List.eq_append_cons_of_mem hmem
    rw [← List.append_assoc, trimmedPieces_append, trimmedPieces_append, hone first hfirst]
  · exact hone cs hmem

/-- **The pieces of texts that are joined by a separator**, with white space around it or not, **are the pieces of the
texts.** -/
theorem trimmedPieces_intercalate (hsep : isBlank separator = false) (hfront : AllBlank front) (hback : AllBlank back)
    (texts : List (List Char)) :
    trimmedPieces separator ((front ++ separator :: back).intercalate texts) =
      texts.flatMap (trimmedPieces separator) := by
  induction texts with
  | nil => exact trimmedPieces_eq_nil fun _ h => (nomatch h)
  | cons text texts ih =>
    cases texts with
    | nil => simp
    | cons next texts =>
      have hjoin : (front ++ separator :: back).intercalate (text :: next :: texts) =
          (text ++ front) ++ separator :: (back ++ (front ++ separator :: back).intercalate (next :: texts)) := by
        rw [List.intercalate_cons_cons]
        simp
      rw [hjoin, trimmedPieces_append, trimmedPieces_append_blank hsep text hfront,
        trimmedPieces_blank_append hsep hback, ih]
      exact List.flatMap_cons.symm

end Text

end StatementProfiles
