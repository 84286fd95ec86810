import StatementProfiles.Proofs.JsonPath.Reading
import StatementProfiles.Proofs.Result
import StatementProfiles.Template.Rule

/-!
# Path selectors

The pieces of a selector are the trimmed pieces between its bars, so those of joined texts are those of the texts one
after another (`PathSelector.pieces_append`, `PathSelector.pieces_intercalate`), and a selector is read piece by piece
(`PathSelector.parse_eq_ok_iff`). **So selectors compose**: joined texts find what the texts find, in their order, and
an accepted selector is written by its own paths, which can be read again at any time
(`PathSelector.selectors_compose`), also in a rule (`TemplateRule.evaluate_of_compile`). Paths that are joined by bars
are read as they are **exactly when none of them has a bar of its own** (`PathSelector.joined_paths`).
-/

namespace StatementProfiles

namespace Alternative

variable {text : String} {a : Alternative}

theorem parse_eq_ok_iff : parse text = .ok a ↔ a.text = text ∧ JsonPath.parse? text = some a.query := by
  unfold parse
  constructor
  · intro h
    split at h
    · split at h
      · next hquery =>
        cases h
        exact ⟨rfl, hquery⟩
      · cases h
    · cases h
  · rintro ⟨rfl, hquery⟩
    obtain ⟨rest, -, hstart, -⟩ := JsonPath.exists_segments_of_parse? hquery
    rw [hstart, List.head?_cons, if_pos rfl, hquery]

/-- What starts as a path and is none is malformed. -/
theorem parse_eq_malformed (hstart : text.toList.head? = some '$') (h : JsonPath.parse? text = none) :
    parse text = .error (.invalidPath (.malformed text)) := by
  rw [parse, if_pos hstart, h]

end Alternative

namespace PathSelector

variable {source : String} {s : PathSelector} {texts : List String} {alternatives : List Alternative}

/-! ## Pieces -/

theorem pieces_eq (source : String) : pieces source = (Text.trimmedPieces '|' source.toList).map String.ofList := rfl

/-- The pieces of two texts with a bar between them. -/
theorem pieces_append (s t : String) : pieces (s ++ "|" ++ t) = pieces s ++ pieces t := by
  have hbar : (s ++ "|" ++ t).toList = s.toList ++ '|' :: t.toList := by simp
  rw [pieces_eq, hbar, Text.trimmedPieces_append, List.map_append, ← pieces_eq, ← pieces_eq]

/-- The pieces of texts with bars between them, and white space around the bars or not. -/
theorem pieces_intercalate {mark : String} {front back : List Char} (hmark : mark.toList = front ++ '|' :: back)
    (hfront : Text.AllBlank front) (hback : Text.AllBlank back) (texts : List String) :
    pieces (mark.intercalate texts) = texts.flatMap pieces := by
  have hblank : isBlank '|' = false := by decide
  rw [pieces_eq, String.toList_intercalate, hmark, Text.trimmedPieces_intercalate hblank hfront hback,
    List.flatMap_map, List.map_flatMap]
  rfl

/-- A trimmed text without bars is its one piece, if it is not empty. -/
theorem pieces_of_trimmed {text : String} (htrim : Text.trim text = text) (hne : text.toList ≠ [])
    (hbar : '|' ∉ text.toList) : pieces text = [text] := by
  have htrimmed : Text.trimChars text.toList = text.toList := by
    simpa only [Text.trim, String.toList_ofList] using congrArg String.toList htrim
  rw [pieces_eq, Text.trimmedPieces_of_not_mem_of_ne_nil hbar (htrimmed.symm ▸ hne), htrimmed]
  simp

/-- A piece is its own one piece. -/
theorem pieces_of_mem_pieces {piece : String} (h : piece ∈ pieces source) : pieces piece = [piece] := by
  obtain ⟨cs, hcs, rfl⟩ := List.mem_map.mp h
  obtain ⟨htrim, hne, hbar⟩ := Text.trim_of_mem_trimmedPieces hcs
  refine pieces_of_trimmed ?_ ?_ ?_
  · rw [Text.trim, String.toList_ofList, htrim]
  · rwa [String.toList_ofList]
  · rwa [String.toList_ofList]

/-- Nothing but white space and bars. -/
def IsBare (source : String) : Prop := ∀ c ∈ source.toList, isBlank c ∨ c = '|'

instance (source : String) : Decidable (IsBare source) :=
  List.decidableBAll (fun c => isBlank c ∨ c = '|') source.toList

theorem pieces_of_isBare (h : IsBare source) : pieces source = [] := by
  rw [pieces_eq, Text.trimmedPieces_eq_nil h, List.map_nil]

/-! ## Reading piece by piece -/

theorem parseAll_eq_mapM (texts : List String) : parseAll texts = texts.mapM Alternative.parse := by
  induction texts with
  | nil => rfl
  | cons text texts ih =>
    rw [parseAll, List.mapM_cons, ih]
    cases Alternative.parse text with
    | error e => rfl
    | ok a => cases texts.mapM Alternative.parse <;> rfl

theorem parseAll_eq_ok_iff :
    parseAll texts = .ok alternatives ↔
      List.Forall₂ (fun text a => Alternative.parse text = .ok a) texts alternatives := by
  rw [parseAll_eq_mapM, mapM_eq_ok_iff]

theorem parse_eq_ok_iff :
    parse source = .ok s ↔ pieces source ≠ [] ∧ s.source = source ∧ parseAll (pieces source) = .ok s.alternatives := by
  unfold parse
  dsimp only
  split
  · next hempty => simp [List.isEmpty_iff.mp hempty]
  · next hne =>
    rw [map_eq_ok_iff]
    constructor
    · rintro ⟨as, has, rfl⟩
      exact ⟨fun hnil => hne (List.isEmpty_iff.mpr hnil), rfl, has⟩
    · rintro ⟨-, rfl, has⟩
      exact ⟨s.alternatives, has, rfl⟩

theorem parse_of_pieces (hne : pieces source ≠ []) (h : parseAll (pieces source) = .ok alternatives) :
    parse source = .ok ⟨source, alternatives⟩ := parse_eq_ok_iff.mpr ⟨hne, rfl, h⟩

theorem parse_eq_error {e : Error} (h : parseAll (pieces source) = .error e) : parse source = .error e := by
  unfold parse
  dsimp only
  split
  · next hempty =>
    rw [List.isEmpty_iff.mp hempty] at h
    cases h
  · rw [h]
    rfl

/-- The texts of the paths are the pieces. -/
theorem texts_of_parseAll (h : parseAll texts = .ok alternatives) : alternatives.map Alternative.text = texts := by
  rw [← List.map_id' texts]
  refine (map_eq_map_of_forall₂ (parseAll_eq_ok_iff.mp h) fun text a ha => ?_).symm
  exact (Alternative.parse_eq_ok_iff.mp ha).1.symm

theorem texts_of_parse (h : parse source = .ok s) : s.texts = pieces source :=
  texts_of_parseAll (parse_eq_ok_iff.mp h).2.2

theorem parseAll_append {texts' : List String} {alternatives' : List Alternative}
    (h : parseAll texts = .ok alternatives) (h' : parseAll texts' = .ok alternatives') :
    parseAll (texts ++ texts') = .ok (alternatives ++ alternatives') :=
  parseAll_eq_ok_iff.mpr (List.rel_append (parseAll_eq_ok_iff.mp h) (parseAll_eq_ok_iff.mp h'))

/-- A piece that is refused makes the whole refused, with the fault of a piece. -/
theorem exists_error_of_piece {piece : String} {e : Error} (hmem : piece ∈ texts)
    (h : Alternative.parse piece = .error e) :
    ∃ piece ∈ texts, ∃ e, Alternative.parse piece = .error e ∧ parseAll texts = .error e := by
  cases hall : parseAll texts with
  | ok alternatives =>
    obtain ⟨a, -, ha⟩ := exists_right_of_mem (parseAll_eq_ok_iff.mp hall) hmem
    rw [h] at ha
    cases ha
  | error e' =>
    obtain ⟨piece', hmem', he'⟩ := exists_error_of_mapM ((parseAll_eq_mapM texts).symm.trans hall)
    exact ⟨piece', hmem', e', he', rfl⟩

/-- The first piece that is refused decides. -/
theorem parseAll_append_error {piece : String} {e : Error}
    (hbefore : ∀ text ∈ texts, ∃ a, Alternative.parse text = .ok a) (h : Alternative.parse piece = .error e)
    (rest : List String) : parseAll (texts ++ piece :: rest) = .error e := by
  induction texts with
  | nil => rw [List.nil_append, parseAll, h]
  | cons text texts ih =>
    obtain ⟨⟨a, ha⟩, hbefore⟩ := List.forall_mem_cons.mp hbefore
    rw [List.cons_append, parseAll, ha, ih hbefore]

/-! ## Reading again -/

/-- What is found when each path is read from its text again; the first text that is no path is a fault. -/
def evaluate : List String → Json → Except Error (List Json)
  | [], _ => .ok []
  | text :: rest, document =>
    match JsonPath.parse? text with
    | none => .error (.invalidPath (.malformed text))
    | some query => (evaluate rest document).map fun found => query.select document ++ found

theorem evaluate_of_parseAll (h : parseAll texts = .ok alternatives) (document : Json) :
    evaluate texts document = .ok (alternatives.flatMap fun a => a.select document) := by
  have hread := parseAll_eq_ok_iff.mp h
  clear h
  induction hread with
  | nil => rfl
  | cons ha _ ih =>
    obtain ⟨-, hquery⟩ := Alternative.parse_eq_ok_iff.mp ha
    rw [evaluate, hquery, ih]
    rfl

/-- A selector that was accepted can be read again on every document. -/
theorem evaluate_of_parse (h : parse source = .ok s) (document : Json) :
    evaluate s.texts document = .ok (s.select document) := by
  obtain ⟨-, -, hall⟩ := parse_eq_ok_iff.mp h
  rw [texts_of_parse h]
  exact evaluate_of_parseAll hall document

/-! ## Composition -/

/-- **Selectors compose.** Of two texts with a bar between them the paths are those of the first and then those of the
second; a text of white space and bars adds nothing; a piece that is refused makes the whole refused. The paths of a
selector, with bars between them, write the same paths again, and reading them again never fails. -/
theorem selectors_compose (s t : String) :
    (∀ a b, parse s = .ok a → parse t = .ok b →
      ∃ c, parse (s ++ "|" ++ t) = .ok c ∧ c.alternatives = a.alternatives ++ b.alternatives ∧
        ∀ d, c.select d = a.select d ++ b.select d) ∧
    (IsBare s → ∀ b, parse t = .ok b → ∃ c, parse (s ++ "|" ++ t) = .ok c ∧ c.alternatives = b.alternatives) ∧
    (IsBare t → ∀ a, parse s = .ok a → ∃ c, parse (s ++ "|" ++ t) = .ok c ∧ c.alternatives = a.alternatives) ∧
    ((∃ piece ∈ pieces s ++ pieces t, ∃ e, Alternative.parse piece = .error e) →
      ∃ piece ∈ pieces s ++ pieces t, ∃ e, Alternative.parse piece = .error e ∧ parse (s ++ "|" ++ t) = .error e) ∧
    ∀ a, parse s = .ok a →
      (∃ c, parse ("|".intercalate a.texts) = .ok c ∧ c.alternatives = a.alternatives ∧ c.texts = a.texts) ∧
      ∀ d, evaluate a.texts d = .ok (a.select d) := by
  have hjoin := pieces_append s t
  refine ⟨fun a b ha hb => ?both, fun hs b hb => ?bareFirst, fun ht a ha => ?bareSecond, ?refused, fun a ha => ⟨?again,
    evaluate_of_parse ha⟩⟩
  case both =>
    obtain ⟨hne, -, hall⟩ := parse_eq_ok_iff.mp ha
    obtain ⟨-, -, hall'⟩ := parse_eq_ok_iff.mp hb
    refine ⟨_, parse_of_pieces ?_ (hjoin ▸ parseAll_append hall hall'), rfl, fun d => List.flatMap_append⟩
    rw [hjoin]
    exact List.append_ne_nil_of_left_ne_nil hne _
  case bareFirst =>
    obtain ⟨hne, -, hall⟩ := parse_eq_ok_iff.mp hb
    rw [pieces_of_isBare hs, List.nil_append] at hjoin
    exact ⟨_, parse_of_pieces (hjoin ▸ hne) (hjoin ▸ hall), rfl⟩
  case bareSecond =>
    obtain ⟨hne, -, hall⟩ := parse_eq_ok_iff.mp ha
    rw [pieces_of_isBare ht, List.append_nil] at hjoin
    exact ⟨_, parse_of_pieces (hjoin ▸ hne) (hjoin ▸ hall), rfl⟩
  case refused =>
    rintro ⟨piece, hmem, e, he⟩
    obtain ⟨piece', hmem', e', he', hall⟩ := exists_error_of_piece hmem he
    exact ⟨piece', hmem', e', he', parse_eq_error (hjoin ▸ hall)⟩
  case again =>
    obtain ⟨hne, -, hall⟩ := parse_eq_ok_iff.mp ha
    have hmark : "|".toList = [] ++ '|' :: [] := rfl
    have hpieces : pieces ("|".intercalate a.texts) = pieces s := by
      rw [pieces_intercalate hmark Text.allBlank_nil Text.allBlank_nil, texts_of_parse ha]
      calc (pieces s).flatMap pieces
          = (pieces s).flatMap fun piece => [piece] := List.flatMap_congr fun piece h => pieces_of_mem_pieces h
        _ = pieces s := List.flatMap_singleton' _
    have hagain := parse_of_pieces (hpieces ▸ hne) (hpieces ▸ hall)
    exact ⟨_, hagain, rfl, by rw [texts_of_parse hagain, hpieces, texts_of_parse ha]⟩

/-- A result with a score. -/
def scored : Json := .object [("own score", .int 7), ("score", .object [("max", .int 10)])]

/-- The greatest score and the own one, behind a bar too many; bars alone add nothing, and a path without a root spoils
the whole. -/
theorem selectors_compose_scores :
    (∃ a b c, parse "$.score.max | " = .ok a ∧ parse "$['own score']" = .ok b ∧
      parse "$.score.max | |$['own score']" = .ok c ∧ c.alternatives = a.alternatives ++ b.alternatives ∧
      c.select scored = [.int 10, .int 7] ∧
      (∃ c', parse ("|".intercalate c.texts) = .ok c' ∧ c'.alternatives = c.alternatives ∧ c'.texts = c.texts) ∧
      evaluate c.texts scored = .ok [.int 10, .int 7]) ∧
    (∃ b c, parse "$['own score']" = .ok b ∧ parse " | |$['own score']" = .ok c ∧ c.alternatives = b.alternatives) ∧
    ∃ piece ∈ ["$.score.max", "score.raw"], ∃ e, Alternative.parse piece = .error e ∧
      parse "$.score.max|score.raw" = .error e := by
  have hgreatest : (parse "$.score.max | ").map (fun s => s.select scored) = .ok [.int 10] := by decide +kernel
  have hown : (parse "$['own score']").map (fun s => s.select scored) = .ok [.int 7] := by decide +kernel
  obtain ⟨a, ha, hfound⟩ := map_eq_ok_iff.mp hgreatest
  obtain ⟨b, hb, hfound'⟩ := map_eq_ok_iff.mp hown
  obtain ⟨hboth, -, -, -, -⟩ := selectors_compose "$.score.max | " "$['own score']"
  obtain ⟨c, hc, halternatives, hselect⟩ := hboth a b ha hb
  have hscores : c.select scored = [.int 10, .int 7] := by rw [hselect, hfound, hfound', List.singleton_append]
  obtain ⟨-, -, -, -, hagain⟩ := selectors_compose "$.score.max | |$['own score']" ""
  obtain ⟨hwritten, hevaluate⟩ := hagain c hc
  obtain ⟨-, hbare, -, -, -⟩ := selectors_compose " | " "$['own score']"
  obtain ⟨-, -, -, hrefused, -⟩ := selectors_compose "$.score.max" "score.raw"
  refine ⟨⟨a, b, c, ha, hb, hc, halternatives, hscores, hwritten, hscores ▸ hevaluate scored⟩, ?_, ?_⟩
  · obtain ⟨c', hc', hsame⟩ := hbare (by decide +kernel) b hb
    exact ⟨b, c', hb, hc', hsame⟩
  · have hpieces : pieces "$.score.max" ++ pieces "score.raw" = ["$.score.max", "score.raw"] := by decide +kernel
    rw [hpieces] at hrefused
    exact hrefused ⟨"score.raw", by simp, _, rfl⟩

/-! ## Joined paths -/

/-- A path as it stands between bars: it can be read, and no white space is around it. -/
def IsPath (text : String) : Prop := (JsonPath.parse? text).isSome ∧ Text.trim text = text

instance (text : String) : Decidable (IsPath text) := inferInstanceAs (Decidable (_ ∧ _))

variable {path : String} {paths : List String}

theorem IsPath.exists_parse (h : IsPath path) : ∃ a, Alternative.parse path = .ok a := by
  obtain ⟨query, hquery⟩ := Option.isSome_iff_exists.mp h.1
  exact ⟨⟨path, query⟩, Alternative.parse_eq_ok_iff.mpr ⟨rfl, hquery⟩⟩

/-- A path starts at the root. -/
theorem IsPath.exists_eq_cons (h : IsPath path) : ∃ rest, path.toList = '$' :: rest := by
  obtain ⟨query, hquery⟩ := Option.isSome_iff_exists.mp h.1
  obtain ⟨rest, -, hstart, -⟩ := JsonPath.exists_segments_of_parse? hquery
  exact ⟨rest, hstart⟩

/-- A path without a bar of its own is one piece. -/
theorem IsPath.pieces_eq_singleton (h : IsPath path) (hbar : '|' ∉ path.toList) : pieces path = [path] := by
  obtain ⟨rest, hstart⟩ := h.exists_eq_cons
  exact pieces_of_trimmed h.2 (by simp [hstart]) hbar

/-- A path with a bar of its own is cut at its first one, and what stands in front of it is no path. -/
theorem IsPath.exists_pieces_eq_cons {front back : List Char} (h : IsPath path)
    (hpath : path.toList = front ++ '|' :: back) (hfront : '|' ∉ front) :
    ∃ rest, pieces path = Text.trim (String.ofList front) :: rest ∧
      Alternative.parse (Text.trim (String.ofList front)) =
        .error (.invalidPath (.malformed (Text.trim (String.ofList front)))) := by
  have htrim : Text.trim (String.ofList front) = String.ofList (Text.trimChars front) := by
    rw [Text.trim, String.toList_ofList]
  have hstart : (Text.trimChars front).head? = some '$' := by
    obtain ⟨rest, hroot⟩ := h.exists_eq_cons
    rw [hroot] at hpath
    cases front with
    | nil => exact absurd (List.cons.inj hpath).1 (by decide)
    | cons c front =>
      rw [← (List.cons.inj hpath).1]
      exact Text.head?_trimChars (by decide) front
  have hne : Text.trimChars front ≠ [] := fun hnil => by
    rw [hnil] at hstart
    cases hstart
  obtain ⟨query, hquery⟩ := Option.isSome_iff_exists.mp h.1
  rw [htrim]
  refine ⟨pieces (String.ofList back), ?_, ?_⟩
  · rw [pieces_eq, pieces_eq, String.toList_ofList, hpath, Text.trimmedPieces_append,
      Text.trimmedPieces_of_not_mem_of_ne_nil hfront hne]
    rfl
  · refine Alternative.parse_eq_malformed ?_ (JsonPath.parse?_eq_none_of_bar hquery hpath)
    rw [String.toList_ofList]
    exact hstart

theorem pieces_join (texts : List String) : pieces (" | ".intercalate texts) = texts.flatMap pieces := by
  have hmark : " | ".toList = [' '] ++ '|' :: [' '] := rfl
  have hspace : Text.AllBlank [' '] := fun c hc => List.mem_singleton.mp hc ▸ rfl
  exact pieces_intercalate hmark hspace hspace texts

theorem pieces_join_of_no_bar (hpaths : ∀ path ∈ paths, IsPath path) (hbar : ∀ path ∈ paths, '|' ∉ path.toList) :
    pieces (" | ".intercalate paths) = paths := by
  calc pieces (" | ".intercalate paths)
      = paths.flatMap pieces := pieces_join paths
    _ = paths.flatMap fun path => [path] :=
      List.flatMap_congr fun path h => (hpaths path h).pieces_eq_singleton (hbar path h)
    _ = paths := List.flatMap_singleton' _

/-- The first bar that stands in a path decides. -/
theorem parse_join_of_bar {before after : List String} {front back : List Char}
    (hpaths : ∀ p ∈ before ++ path :: after, IsPath p) (hbefore : ∀ p ∈ before, '|' ∉ p.toList)
    (hpath : path.toList = front ++ '|' :: back) (hfront : '|' ∉ front) :
    parse (" | ".intercalate (before ++ path :: after)) =
      .error (.invalidPath (.malformed (Text.trim (String.ofList front)))) := by
  obtain ⟨hread, hrest⟩ := List.forall_mem_append.mp hpaths
  obtain ⟨rest, hcut, hmalformed⟩ := (hrest path List.mem_cons_self).exists_pieces_eq_cons hpath hfront
  have hpieces : pieces (" | ".intercalate (before ++ path :: after)) =
      before ++ Text.trim (String.ofList front) :: (rest ++ after.flatMap pieces) := by
    rw [pieces_join, List.flatMap_append, List.flatMap_cons, hcut, ← pieces_join, pieces_join_of_no_bar hread hbefore,
      List.cons_append]
  refine parse_eq_error ?_
  rw [hpieces]
  exact parseAll_append_error (fun p hp => (hread p hp).exists_parse) hmalformed _

/-- Where some path has a bar, there is a first one. -/
theorem exists_first_bar (h : ¬∀ path ∈ paths, '|' ∉ path.toList) :
    ∃ before path after front back, paths = before ++ path :: after ∧ (∀ p ∈ before, '|' ∉ p.toList) ∧
      path.toList = front ++ '|' :: back ∧ '|' ∉ front := by
  obtain ⟨path, hfind⟩ : ∃ path, paths.find? (fun p => '|' ∈ p.toList) = some path := by
    refine Option.isSome_iff_exists.mp (List.find?_isSome.mpr ?_)
    simpa using h
  obtain ⟨hmem, before, after, hpaths, hbefore⟩ := List.find?_eq_some_iff_append.mp hfind
  obtain ⟨front, back, hpath, hfront⟩ := List.eq_append_cons_of_mem (of_decide_eq_true hmem)
  exact ⟨before, path, after, front, back, hpaths, fun p hp => by simpa using hbefore p hp, hpath, hfront⟩

/-- **Joined paths** are read as they are, and find one after the other what they find by themselves, **exactly when
none of them has a bar of its own**. Otherwise the whole is refused: the first path with a bar is cut at its first one,
in a string or in brackets, and what stands in front of it is malformed. -/
theorem joined_paths (hne : paths ≠ []) (hpaths : ∀ path ∈ paths, IsPath path) :
    ((∃ s, parse (" | ".intercalate paths) = .ok s) ↔ ∀ path ∈ paths, '|' ∉ path.toList) ∧
    (∀ s, parse (" | ".intercalate paths) = .ok s → s.texts = paths ∧ ∀ d, evaluate paths d = .ok (s.select d)) ∧
    ∀ before path after front back, paths = before ++ path :: after → (∀ p ∈ before, '|' ∉ p.toList) →
      path.toList = front ++ '|' :: back → '|' ∉ front →
      parse (" | ".intercalate paths) = .error (.invalidPath (.malformed (Text.trim (String.ofList front)))) := by
  have hbar : ∀ s, parse (" | ".intercalate paths) = .ok s → ∀ path ∈ paths, '|' ∉ path.toList := by
    intro s hs
    by_contra hsome
    obtain ⟨before, path, after, front, back, rfl, hbefore, hpath, hfront⟩ := exists_first_bar hsome
    rw [parse_join_of_bar hpaths hbefore hpath hfront] at hs
    cases hs
  refine ⟨⟨fun ⟨s, hs⟩ => hbar s hs, fun h => ?_⟩, fun s hs => ?_, ?_⟩
  · have hpieces := pieces_join_of_no_bar hpaths h
    obtain ⟨alternatives, hread⟩ := exists_forall₂_iff.mpr fun path hp => (hpaths path hp).exists_parse
    exact ⟨_, parse_of_pieces (hpieces.symm ▸ hne) (hpieces.symm ▸ parseAll_eq_ok_iff.mpr hread)⟩
  · have htexts : s.texts = paths := (texts_of_parse hs).trans (pieces_join_of_no_bar hpaths (hbar s hs))
    exact ⟨htexts, htexts ▸ evaluate_of_parse hs⟩
  · rintro before path after front back rfl hbefore hpath hfront
    exact parse_join_of_bar hpaths hbefore hpath hfront

/-- Paths with quoted names and filters are joined; where the filter has an `or`, the whole is refused. -/
theorem joined_paths_scores :
    (∀ path ∈ ["$.score.max", "$['own score'].raw", "$.marks[?@ > 1 && @ < 4]"], IsPath path) ∧
      (∃ s, parse "$.score.max | $['own score'].raw | $.marks[?@ > 1 && @ < 4]" = .ok s ∧
        s.texts = ["$.score.max", "$['own score'].raw", "$.marks[?@ > 1 && @ < 4]"] ∧
        ∀ d, evaluate ["$.score.max", "$['own score'].raw", "$.marks[?@ > 1 && @ < 4]"] d = .ok (s.select d)) ∧
      (∀ path ∈ ["$.score.max", "$.marks[?@ == 1 || @ == 4]"], IsPath path) ∧
      parse "$.score.max | $.marks[?@ == 1 || @ == 4]" = .error (.invalidPath (.malformed "$.marks[?@ == 1")) := by
  have hplain : ∀ path ∈ ["$.score.max", "$['own score'].raw", "$.marks[?@ > 1 && @ < 4]"], IsPath path := by
    decide +kernel
  have hor : ∀ path ∈ ["$.score.max", "$.marks[?@ == 1 || @ == 4]"], IsPath path := by decide +kernel
  obtain ⟨haccepted, hread, -⟩ := joined_paths (by decide) hplain
  obtain ⟨-, -, hrefused⟩ := joined_paths (by decide) hor
  obtain ⟨s, hs⟩ := haccepted.mpr (by decide +kernel)
  refine ⟨hplain, ⟨s, hs, hread s hs⟩, hor, ?_⟩
  exact hrefused ["$.score.max"] "$.marks[?@ == 1 || @ == 4]" [] "$.marks[?@ == 1 ".toList "| @ == 4]".toList rfl
    (by decide +kernel) (by decide +kernel) (by decide +kernel)

/-- A bar in a quoted name: the path can be read by itself, and the selector is refused. -/
theorem name_is_cut_at_bar :
    IsPath "$['pass|fail']" ∧
      (JsonPath.parse? "$['pass|fail']").map (fun query => query.select (.object [("pass|fail", .bool true)])) =
        some [.bool true] ∧
      parse (" | ".intercalate ["$['pass|fail']"]) = .error (.invalidPath (.malformed "$['pass")) := by
  have hrefused : (parse (" | ".intercalate ["$['pass|fail']"])).map texts =
      .error (.invalidPath (.malformed "$['pass")) := by decide +kernel
  exact ⟨by decide +kernel, by decide +kernel, map_eq_error_iff.mp hrefused⟩

end PathSelector

/-! ## Rules -/

/-- The paths of a rule that was read can be read again on every document. -/
theorem TemplateRule.evaluate_of_compile {rule : Rule} {r : TemplateRule} (h : compile rule = .ok r) (document : Json) :
    PathSelector.evaluate r.location.texts document = .ok (r.location.select document) ∧
      ∀ s, r.selector = some s → PathSelector.evaluate s.texts document = .ok (s.select document) := by
  unfold compile at h
  split at h
  · cases h
  · next hlocation =>
    split at h
    · cases h
      exact ⟨PathSelector.evaluate_of_parse hlocation document, fun _ hs => (nomatch hs)⟩
    · obtain ⟨selector, hselector, rfl⟩ := map_eq_ok_iff.mp h
      refine ⟨PathSelector.evaluate_of_parse hlocation document, fun s hs => ?_⟩
      cases hs
      exact PathSelector.evaluate_of_parse hselector document

end StatementProfiles
