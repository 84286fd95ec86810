import StatementProfiles.Proofs.Document.Writing

/-!
# Adding at a path

A value that is pushed comes behind the values that stand at the path, read as a list (`Json.listed`): one push is a
write of that list with one value more (`Json.push_eq_set`). From the second push on a list stands there, so **pushing
several values one after another is one write of the list with all of them behind it** (`Json.pushAll_cons`), and what
is found beside the path in objects stays (`Json.pushAll_appends`).
-/

namespace StatementProfiles

namespace Json

/-- What stands at a place, as a list: nothing where there is no value or null, the items of an array, and any other
value alone. -/
def listed : Option Json → List Json
  | none | some .null => []
  | some (.array items) => items
  | some j => [j]

@[simp] theorem listed_none : listed none = [] := rfl

@[simp] theorem listed_array (items : List Json) : listed (some (.array items)) = items := rfl

/-- The document with several values pushed one after another. -/
def pushAll (d : Json) (p : Path) (values : List Json) : Json := values.foldl (fun d v => d.push p v) d

theorem append_eq_array (v j : Json) : append v j = .array (listed (some j) ++ [v]) := by
  cases j <;> rfl

/-- A missing value is listed as null is. -/
theorem listed_getD_null (place : Option Json) : listed (some (place.getD .null)) = listed place := by
  cases place <;> rfl

/-- **One push is one write**, of the list that was there with the value behind it. -/
theorem push_eq_set (d : Json) (p : Path) (v : Json) : d.push p v = d.set p (.array (listed (d.get? p) ++ [v])) := by
  rw [push, set]
  refine update_congr ?_
  rw [append_eq_array, listed_getD_null]

theorem set_set (d : Json) (p : Path) (v w : Json) : (d.set p v).set p w = d.set p w := update_update _ _ p d

/-- **Several pushes are one write.** The first push makes a list of what is there, whatever it is; each further push
finds a list and adds to it, so that no list is put into another. -/
theorem pushAll_cons (d : Json) (p : Path) (v : Json) (vs : List Json) :
    d.pushAll p (v :: vs) = d.set p (.array (listed (d.get? p) ++ v :: vs)) := by
  induction vs generalizing d v with
  | nil => exact push_eq_set d p v
  | cons w ws ih =>
    have hthere : listed ((d.push p v).get? p) = listed (d.get? p) ++ [v] := by
      rw [push_eq_set, get?_set_self, listed_array]
    calc d.pushAll p (v :: w :: ws)
        = (d.push p v).pushAll p (w :: ws) := rfl
      _ = (d.push p v).set p (.array ((listed (d.get? p) ++ [v]) ++ w :: ws)) := by rw [ih, hthere]
      _ = d.set p (.array (listed (d.get? p) ++ v :: w :: ws)) := by
        rw [push_eq_set, set_set, List.append_assoc, List.singleton_append]

/-- **Pushed values come behind those of the place, in their order**, and every path that parts from the place in an
object finds what it found before. -/
theorem pushAll_appends (d : Json) (p : Path) {vs : List Json} (h : vs ≠ []) :
    (d.pushAll p vs).get? p = some (.array (listed (d.get? p) ++ vs)) ∧
    d.pushAll p vs = d.set p (.array (listed (d.get? p) ++ vs)) ∧
    ∀ c s rest t q members, p = c ++ s :: rest → s ≠ t → d.get? c = some (.object members) →
      (d.pushAll p vs).get? (c ++ t :: q) = d.get? (c ++ t :: q) := by
  obtain ⟨v, vs, rfl⟩ := List.exists_cons_of_ne_nil h
  rw [pushAll_cons]
  refine ⟨get?_set_self d p _, rfl, ?_⟩
  rintro c s rest t q members rfl hne hobject
  have hpart : (d.get? c).bind asArray? = none := by
    rw [hobject]
    rfl
  exact get?_update_of_fork _ c hne.symm rest q hpart

/-- A statement with one course as its parent. -/
def taught : Json :=
  .object [("context", .object [("contextActivities", .object [("parent", .object [("id", .string "u:course")])]),
    ("platform", .string "u:school")])]

/-- The parent that stood alone becomes the first of a list, and null and a list are entries like others. -/
theorem pushAll_appends_taught :
    [Json.null, .array []] ≠ [] ∧
      (taught.pushAll ["context", "contextActivities", "parent"] [.null, .array []]).get?
        ["context", "contextActivities", "parent"] =
          some (.array [.object [("id", .string "u:course")], .null, .array []]) ∧
      (taught.pushAll ["context", "contextActivities", "parent"] [.null, .array []]).get? ["context", "platform"] =
        some (.string "u:school") := by
  have hne : [Json.null, .array []] ≠ [] := by decide
  have hparent : taught.get? ["context", "contextActivities", "parent"] =
      some (.object [("id", .string "u:course")]) := by decide +kernel
  obtain ⟨hpushed, -, hbeside⟩ := pushAll_appends taught ["context", "contextActivities", "parent"] hne
  rw [hparent] at hpushed
  refine ⟨hne, hpushed, (hbeside ["context"] "contextActivities" ["parent"] "platform" [] _ rfl ?_ rfl).trans rfl⟩
  decide

end Json

end StatementProfiles
