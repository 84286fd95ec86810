import StatementProfiles.Json.Printer
import StatementProfiles.Json.Reader

/-!
# Reading back what was written

A string in quotes is read as that string (`Json.readString_quoted`), and so is a value in which no number stands, with
the lists and objects around it (`Json.readValue_text`). **The text of such a value is read as that value**
(`Json.readGlyphs_render`).
-/

namespace StatementProfiles

namespace Json

/-! ## Strings -/

/-- The characters of a string behind the opening quote. -/
def quoted (s : String) : List Char := s.toList.flatMap (fun c => (escapeChar c).toList) ++ ['"']

theorem toList_quote (s : String) : (quote s).toList = '"' :: quoted s := by
  have h : ∀ (cs : List Char) (before : String), (cs.foldl (fun text c => text ++ escapeChar c) before).toList =
      before.toList ++ cs.flatMap fun c => (escapeChar c).toList := by
    intro cs
    induction cs with
    | nil => simp
    | cons c cs ih => simp [ih]
  rw [quote, String.toList_append, h]
  rfl

/-- The piece that an escaped character is read as: a control character without a letter of its own is a code unit. -/
def pieceOf (c : Char) : Piece :=
  if c.toNat < 32 ∧ c ∉ ['\n', '\r', '\t', Char.ofNat 8, Char.ofNat 12] then .unit c.toNat else .glyph (some c)

theorem hexDigits?_hexDigit (n : Fin 32) :
    Text.hexDigits? ['0', '0', hexDigit (n / 16), hexDigit (n % 16)] = some n.val := by
  decide +revert

theorem pieces?_escapeChar (c : Char) (gs : List Glyph) :
    pieces? ((escapeChar c).toList.map some ++ gs) = (pieces? gs).map fun (ps, tail) => (pieceOf c :: ps, tail) := by
  by_cases hspecial : c ∈ ['"', '\\', '\n', '\r', '\t', Char.ofNat 8, Char.ofNat 12]
  · simp only [List.mem_cons, List.not_mem_nil, or_false] at hspecial
    rcases hspecial with rfl | rfl | rfl | rfl | rfl | rfl | rfl <;>
      simp [escapeChar, pieces?, escaped?, pieceOf]
  · simp only [List.mem_cons, List.not_mem_nil, or_false, not_or] at hspecial
    obtain ⟨hquote, hback, hn, hr, ht, hb, hf⟩ := hspecial
    by_cases hcontrol : c.toNat < 32
    · have hhex := hexDigits?_hexDigit ⟨c.toNat, hcontrol⟩
      simp [escapeChar, pieceOf, pieces?, *] at hhex ⊢
    · simp [escapeChar, pieceOf, pieces?, *]

theorem pieces?_quoted (cs : List Char) (rest : List Glyph) :
    pieces? ((cs.flatMap (fun c => (escapeChar c).toList) ++ ['"']).map some ++ rest) =
      some (cs.map pieceOf, rest) := by
  induction cs with
  | nil => rfl
  | cons c cs ih =>
    rw [List.flatMap_cons, List.append_assoc, List.map_append, List.append_assoc, pieces?_escapeChar, ih]
    rfl

/-- A code unit that is no half of a surrogate pair is a character. -/
theorem assemble?_unit {n : Nat} (h : n < 0xD800) (ps : List Piece) :
    assemble? (.unit n :: ps) = (assemble? ps).map (Char.ofNat n :: ·) := by
  have hhigh : ¬0xD800 ≤ n := by omega
  have hlow : ¬0xDC00 ≤ n := by omega
  cases ps with
  | nil => simp [assemble?, hhigh]
  | cons p ps => cases p <;> simp [assemble?, hhigh, hlow]

theorem assemble?_pieceOf (cs : List Char) : assemble? (cs.map pieceOf) = some cs := by
  induction cs with
  | nil => rfl
  | cons c cs ih =>
    rw [List.map_cons, pieceOf]
    split
    · next h =>
      rw [assemble?_unit (by omega), ih]
      simp
    · simp [assemble?, ih]

/-- **A string in quotes is read as that string.** -/
theorem readString_quoted (s : String) (rest : List Glyph) :
    readString ((quoted s).map some ++ rest) = some (.string s, rest) := by
  rw [readString, quoted, pieces?_quoted, Option.map_some]
  simp [assemble?_pieceOf]

/-! ## Values without numbers -/

/-- No number stands in a value, and arrays and objects nest in it so many times at most. -/
inductive Wordy : Nat → Json → Prop
  | null (n : Nat) : Wordy n .null
  | bool (n : Nat) (b : Bool) : Wordy n (.bool b)
  | string (n : Nat) (s : String) : Wordy n (.string s)
  | array {n : Nat} {items : List Json} : (∀ j ∈ items, Wordy n j) → Wordy (n + 1) (.array items)
  | object {n : Nat} {members : List (String × Json)} : (∀ m ∈ members, Wordy n m.2) → Wordy (n + 1) (.object members)

theorem Wordy.mono {n m : Nat} {j : Json} (h : Wordy n j) (hnm : n ≤ m) : Wordy m j := by
  induction h generalizing m with
  | null => exact .null m
  | bool n b => exact .bool m b
  | string n s => exact .string m s
  | array _ ih =>
    obtain ⟨k, rfl⟩ := Nat.exists_eq_add_of_le' (Nat.le_of_add_left_le hnm)
    exact .array fun j hj => ih j hj (Nat.le_of_succ_le_succ hnm)
  | object _ ih =>
    obtain ⟨k, rfl⟩ := Nat.exists_eq_add_of_le' (Nat.le_of_add_left_le hnm)
    exact .object fun i hi => ih i hi (Nat.le_of_succ_le_succ hnm)

/-- The characters of the text of a value. -/
def text (j : Json) : List Char := j.render.toList

/-- The characters behind the first of several texts: the others with commas in front, and a closing mark. -/
def behind (mark : Char) : List (List Char) → List Char
  | [] => [mark]
  | t :: ts => ',' :: (t ++ behind mark ts)

theorem intercalate_append_mark (mark : Char) (t : List Char) (ts : List (List Char)) :
    [','].intercalate (t :: ts) ++ [mark] = t ++ behind mark ts := by
  induction ts generalizing t with
  | nil => simp [behind]
  | cons t' ts ih => simp [List.intercalate_cons_cons, ih, behind]

theorem text_string (s : String) : text (.string s) = '"' :: quoted s := by
  rw [text, render, toList_quote]

theorem toList_renderItems (items : List Json) : (renderItems items).map String.toList = items.map text := by
  induction items with
  | nil => rfl
  | cons j js ih =>
    rw [renderItems, List.map_cons, ih]
    rfl

theorem text_array (j : Json) (js : List Json) :
    text (.array (j :: js)) = '[' :: (text j ++ behind ']' (js.map text)) := by
  rw [← intercalate_append_mark, ← List.map_cons, ← toList_renderItems, text, render]
  simp [String.toList_intercalate]

/-- The characters of a member. -/
def memberText (m : String × Json) : List Char := '"' :: (quoted m.1 ++ ':' :: text m.2)

theorem toList_renderMembers (members : List (String × Json)) :
    (renderMembers members).map String.toList = members.map memberText := by
  induction members with
  | nil => rfl
  | cons m ms ih =>
    rw [renderMembers, List.map_cons, ih]
    simp [memberText, toList_quote, text]

theorem text_object (m : String × Json) (ms : List (String × Json)) :
    text (.object (m :: ms)) = '\x7b' :: (memberText m ++ behind '\x7d' (ms.map memberText)) := by
  rw [← intercalate_append_mark, ← List.map_cons, ← toList_renderMembers, text, render]
  simp [String.toList_intercalate]

/-! ## Reading values -/

/-- The value is read wherever its text stands, and what follows is left. -/
def Reads (n : Nat) (j : Json) : Prop :=
  ∀ fuel depth rest, (text j).length ≤ fuel → depth + n ≤ greatestDepth →
    readValue fuel depth ((text j).map some ++ rest) = some (.ofJson j, rest)

variable {n fuel depth : Nat}

/-- The items of an array are read one after another, each with one unit of fuel for the mark behind it. -/
theorem Reads.items (fuel depth : Nat) {j : Json} {js : List Json} (h : ∀ i ∈ j :: js, Reads n i)
    (hfuel : (text j).length + (behind ']' (js.map text)).length ≤ fuel) (hdepth : depth + n ≤ greatestDepth)
    (rest : List Glyph) :
    readItems fuel depth ((text j).map some ++ ((behind ']' (js.map text)).map some ++ rest)) =
      some (Datum.ofItems (j :: js), rest) := by
  induction js generalizing j fuel with
  | nil =>
    obtain ⟨hj, -⟩ := List.forall_mem_cons.mp h
    simp only [List.map_nil, behind, List.length_singleton] at hfuel
    obtain ⟨k, rfl⟩ := Nat.exists_eq_add_of_le' (Nat.le_of_add_left_le hfuel)
    simp [behind, readItems, hj k depth (some ']' :: rest) (by omega) hdepth, skipSpace, isSpace, Datum.ofItems]
  | cons j' js ih =>
    obtain ⟨hj, hjs⟩ := List.forall_mem_cons.mp h
    simp only [List.map_cons, behind, List.length_cons, List.length_append] at hfuel
    obtain ⟨k, rfl⟩ := Nat.exists_eq_add_of_le' (show 1 ≤ fuel by omega)
    have hothers := ih k hjs (by omega)
    simp [behind, readItems, hj k depth (some ',' :: _) (by omega) hdepth, skipSpace, isSpace, hothers, Datum.ofItems]

/-- The members of an object are read one after another. -/
theorem Reads.members (fuel depth : Nat) {m : String × Json} {ms : List (String × Json)}
    (h : ∀ i ∈ m :: ms, Reads n i.2)
    (hfuel : (memberText m).length + (behind '\x7d' (ms.map memberText)).length ≤ fuel)
    (hdepth : depth + n ≤ greatestDepth) (rest : List Glyph) :
    readMembers fuel depth ((memberText m).map some ++ ((behind '\x7d' (ms.map memberText)).map some ++ rest)) =
      some (Datum.ofMembers (m :: ms), rest) := by
  induction ms generalizing m fuel with
  | nil =>
    obtain ⟨hm, -⟩ := List.forall_mem_cons.mp h
    simp only [List.map_nil, behind, memberText, List.length_cons, List.length_append, List.length_nil] at hfuel
    obtain ⟨k, rfl⟩ := Nat.exists_eq_add_of_le' (show 1 ≤ fuel by omega)
    simp [behind, memberText, readMembers, readString_quoted, hm k depth (some '\x7d' :: rest) (by omega) hdepth,
      skipSpace, isSpace, Datum.ofMembers]
  | cons m' ms ih =>
    obtain ⟨hm, hms⟩ := List.forall_mem_cons.mp h
    simp only [List.map_cons, behind, memberText, List.length_cons, List.length_append] at hfuel
    obtain ⟨k, rfl⟩ := Nat.exists_eq_add_of_le' (show 1 ≤ fuel by omega)
    have hothers := ih k hms (by simp only [memberText, List.length_cons, List.length_append]; omega)
    simp only [memberText, List.map_cons, List.map_append, List.cons_append, List.append_assoc] at hothers
    simp [behind, memberText, readMembers, readString_quoted, hm k depth (some ',' :: _) (by omega) hdepth, skipSpace,
      isSpace, hothers, Datum.ofMembers]

/-- The text of a value begins with no white space and no closing bracket. -/
theorem exists_text_eq_cons {j : Json} (h : Wordy n j) : ∃ c cs, text j = c :: cs ∧ isSpace c = false ∧ c ≠ ']' := by
  cases h with
  | null => exact ⟨'n', _, rfl, by decide, by decide⟩
  | bool n b =>
    cases b with
    | true => exact ⟨'t', _, rfl, by decide, by decide⟩
    | false => exact ⟨'f', _, rfl, by decide, by decide⟩
  | string n s => exact ⟨'"', _, text_string s, by decide, by decide⟩
  | @array _ items _ =>
    cases items with
    | nil => exact ⟨'[', _, rfl, by decide, by decide⟩
    | cons j js => exact ⟨'[', _, text_array j js, by decide, by decide⟩
  | @object _ members _ =>
    cases members with
    | nil => exact ⟨'\x7b', _, rfl, by decide, by decide⟩
    | cons m ms => exact ⟨'\x7b', _, text_object m ms, by decide, by decide⟩

theorem skipSpace_cons {c : Char} (h : isSpace c = false) (gs : List Glyph) :
    skipSpace (some c :: gs) = some c :: gs := by
  simp [skipSpace, h]

/-- Behind an opening bracket stand items when the next mark does not close. -/
theorem readValue_bracket {c : Char} (hspace : isSpace c = false) (hclose : c ≠ ']') (gs : List Glyph) :
    readValue (fuel + 1) depth (some '[' :: some c :: gs) =
      (readItems fuel (depth + 1) (some c :: gs)).map fun (items, tail) =>
        (atDepth (depth + 1) (.array items), tail) := by
  rw [readValue, skipSpace_cons (by decide)]
  simp only [skipSpace_cons hspace]
  split
  · next heq =>
    cases heq
    exact absurd rfl hclose
  · rfl

/-- Behind an opening brace stand members when a key comes next. -/
theorem readValue_brace (gs : List Glyph) :
    readValue (fuel + 1) depth (some '\x7b' :: some '"' :: gs) =
      (readMembers fuel (depth + 1) (some '"' :: gs)).map fun (members, tail) =>
        (atDepth (depth + 1) (.record members), tail) := by
  rw [readValue, skipSpace_cons (by decide)]
  rfl

theorem atDepth_of_le {d : Datum} (h : depth ≤ greatestDepth) : atDepth depth d = d := if_neg (Nat.not_lt.mpr h)

/-- An array is read wherever its text stands when its items are. -/
theorem Reads.array {items : List Json} (hitems : ∀ j ∈ items, Wordy n j) (h : ∀ j ∈ items, Reads n j) :
    Reads (n + 1) (.array items) := by
  intro fuel depth rest hfuel hdepth
  have hdeep : depth + 1 ≤ greatestDepth := by omega
  cases items with
  | nil =>
    obtain ⟨k, rfl⟩ := Nat.exists_eq_add_of_le' (Nat.le_trans (show 1 ≤ (text (.array [])).length by decide) hfuel)
    change some (atDepth (depth + 1) (.array []), rest) = _
    rw [atDepth_of_le hdeep]
    rfl
  | cons j js =>
    rw [text_array, List.length_cons, List.length_append] at hfuel
    obtain ⟨k, rfl⟩ := Nat.exists_eq_add_of_le' (show 1 ≤ fuel by omega)
    obtain ⟨c, cs, hc, hspace, hclose⟩ := exists_text_eq_cons (hitems j List.mem_cons_self)
    have hread := Reads.items k (depth + 1) h (by omega) (by omega) rest
    rw [hc, List.map_cons, List.cons_append] at hread
    have hglyphs : (text (.array (j :: js))).map some ++ rest =
        some '[' :: some c :: (cs.map some ++ ((behind ']' (js.map text)).map some ++ rest)) := by
      simp [text_array, hc]
    rw [hglyphs, readValue_bracket hspace hclose, hread, Option.map_some]
    dsimp only
    rw [atDepth_of_le hdeep]
    rfl

/-- An object is read wherever its text stands when the values of its members are. -/
theorem Reads.object {members : List (String × Json)} (h : ∀ m ∈ members, Reads n m.2) :
    Reads (n + 1) (.object members) := by
  intro fuel depth rest hfuel hdepth
  have hdeep : depth + 1 ≤ greatestDepth := by omega
  cases members with
  | nil =>
    obtain ⟨k, rfl⟩ := Nat.exists_eq_add_of_le' (Nat.le_trans (show 1 ≤ (text (.object [])).length by decide) hfuel)
    change some (atDepth (depth + 1) (.record []), rest) = _
    rw [atDepth_of_le hdeep]
    rfl
  | cons m ms =>
    rw [text_object, List.length_cons, List.length_append] at hfuel
    obtain ⟨k, rfl⟩ := Nat.exists_eq_add_of_le' (show 1 ≤ fuel by omega)
    have hread := Reads.members k (depth + 1) h (by omega) (by omega) rest
    rw [memberText, List.map_cons, List.cons_append] at hread
    have hglyphs : (text (.object (m :: ms))).map some ++ rest = some '\x7b' :: some '"' ::
        ((quoted m.1 ++ ':' :: text m.2).map some ++ ((behind '\x7d' (ms.map memberText)).map some ++ rest)) := by
      simp [text_object, memberText]
    rw [hglyphs, readValue_brace, hread, Option.map_some]
    dsimp only
    rw [atDepth_of_le hdeep]
    rfl

/-- **A value without numbers is read wherever its text stands.** -/
theorem readValue_text {j : Json} (h : Wordy n j) : Reads n j := by
  induction h with
  | null n =>
    intro fuel depth rest hfuel _
    obtain ⟨k, rfl⟩ := Nat.exists_eq_add_of_le' (Nat.le_trans (show 1 ≤ (text .null).length by decide) hfuel)
    rfl
  | bool n b =>
    intro fuel depth rest hfuel _
    cases b with
    | _ =>
      obtain ⟨k, rfl⟩ := Nat.exists_eq_add_of_le' (Nat.le_trans (show 1 ≤ (text (.bool _)).length by decide) hfuel)
      rfl
  | string n s =>
    intro fuel depth rest hfuel _
    rw [text_string, List.length_cons] at hfuel
    obtain ⟨k, rfl⟩ := Nat.exists_eq_add_of_le' (show 1 ≤ fuel by omega)
    simp [text_string, readValue, skipSpace, isSpace, readString_quoted, Datum.ofJson]
  | array hitems ih => exact .array hitems ih
  | object _ ih => exact .object ih

/-- **The text of a value without numbers is read as that value**, unless it is nested too deep. -/
theorem readGlyphs_render {j : Json} (h : Wordy greatestDepth j) : readGlyphs (glyphs j.render) = some (.ofJson j) := by
  have hlength : (glyphs j.render).length = (text j).length := List.length_map _
  have hread := readValue_text h (2 * (text j).length + 2) 0 [] (by omega) (by omega)
  rw [List.append_nil] at hread
  rw [readGlyphs, hlength, show glyphs j.render = (text j).map some from rfl, hread]
  rfl

end Json

end StatementProfiles
