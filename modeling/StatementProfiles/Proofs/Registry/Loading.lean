import StatementProfiles.Proofs.Registry.Registration
import StatementProfiles.Registry.Load

/-!
# Loading in two modes

Registration does not look at the count of files that were passed over (`Registry.register_withFailedFiles`), so passing
over files is registering the profiles of the others one after another (`Registry.registerFiles_lenient`), and where
nothing is passed over the strict mode does the same (`Registry.registerFiles_strict_iff`). **Every file of a profile is
either registered or counted, and the strict mode succeeds exactly when none is counted**
(`Registry.loading_accounts_for_every_file`).
-/

namespace StatementProfiles

namespace Registry

/-! ## Profiles one after another -/

/-- The registry with another count of files that were passed over. -/
def withFailedFiles (r : Registry) (count : Nat) : Registry := { r with failedFiles := count }

/-- The registry with those of several profiles that it takes in their turn, and their number. A profile that is refused
is skipped. -/
def registerEach (r : Registry) : List Profile → Nat × Registry
  | [] => (0, r)
  | p :: rest =>
    match r.register p with
    | (.ok (), r') => ((r'.registerEach rest).1 + 1, (r'.registerEach rest).2)
    | (.error _, _) => r.registerEach rest

variable {r r' : Registry} {p : Profile} {ps : List Profile}

theorem registerEach_cons_of_ok (h : r.register p = (.ok (), r')) :
    r.registerEach (p :: ps) = ((r'.registerEach ps).1 + 1, (r'.registerEach ps).2) := by
  rw [registerEach, h]

theorem registerEach_cons_of_error {e : Error} (h : r.register p = (.error e, r')) :
    r.registerEach (p :: ps) = r.registerEach ps := by
  rw [registerEach, h]

/-- Registration does not look at the count of files that were passed over, and keeps it. -/
theorem register_withFailedFiles (r : Registry) (count : Nat) (p : Profile) :
    (r.withFailedFiles count).register p = ((r.register p).1, (r.register p).2.withFailedFiles count) := by
  have hids : (r.withFailedFiles count).ids = r.ids := rfl
  have hresolver : (r.withFailedFiles count).resolverOver ((r.withFailedFiles count).vocabularyWith p) =
      r.resolverOver (r.vocabularyWith p) := rfl
  unfold register
  rw [hids, hresolver]
  cases p.validate with
  | error e => rfl
  | ok =>
    dsimp only
    by_cases ht : r.profiles.any fun q => q.id == p.id
    · rw [if_pos ht, if_pos (show (r.withFailedFiles count).profiles.any _ = true from ht)]
    · rw [if_neg ht, if_neg (show ¬(r.withFailedFiles count).profiles.any _ = true from ht)]
      cases checkIds p.id r.ids p.ids with
      | error e => rfl
      | ok =>
        dsimp only
        cases compileTemplates (r.resolverOver (r.vocabularyWith p)) p p.templates <;> rfl

theorem registerEach_withFailedFiles (r : Registry) (count : Nat) (ps : List Profile) :
    (r.withFailedFiles count).registerEach ps =
      ((r.registerEach ps).1, (r.registerEach ps).2.withFailedFiles count) := by
  induction ps generalizing r with
  | nil => rfl
  | cons p ps ih =>
    have hp := register_withFailedFiles r count p
    rcases hr : r.register p with ⟨_ | _, r'⟩
    · rw [hr] at hp
      rw [registerEach_cons_of_error hp, registerEach_cons_of_error hr, ih]
    · rw [hr] at hp
      rw [registerEach_cons_of_ok hp, registerEach_cons_of_ok hr, ih]

/-- The profiles that are taken come behind the others, in their order; nothing else is counted. -/
theorem exists_profiles_registerEach (r : Registry) (ps : List Profile) :
    ∃ taken : List Profile, taken.Sublist ps ∧ taken.length = (r.registerEach ps).1 ∧
      (r.registerEach ps).2.profiles = r.profiles ++ taken ∧ (r.registerEach ps).2.failedFiles = r.failedFiles := by
  induction ps generalizing r with
  | nil => exact ⟨[], .slnil, rfl, (List.append_nil _).symm, rfl⟩
  | cons p ps ih =>
    rcases register_cases r p with ⟨ts, -, hr⟩ | ⟨-, e, hr⟩
    · obtain ⟨taken, hsub, hlength, hprofiles, hfailed⟩ := ih (r.add p ts)
      rw [registerEach_cons_of_ok hr]
      refine ⟨p :: taken, hsub.cons_cons p, by rw [List.length_cons, hlength], ?_, hfailed⟩
      rw [hprofiles, List.append_cons]
      rfl
    · obtain ⟨taken, hsub, h⟩ := ih r
      rw [registerEach_cons_of_error hr]
      exact ⟨taken, hsub.cons p, h⟩

/-! ## Files one after another -/

/-- The profile of a file, if the file can be read and has one. -/
def profileOf? (f : NamedFile) : Option Profile := (readFile f).toOption

/-- A file is counted among the failures and leaves no other trace, or its profile is taken. -/
theorem registerFile_cases (r : Registry) (f : NamedFile) :
    (∃ e, r.registerFile f = (.error e, r) ∧
      ∀ fs, r.registerEach ((f :: fs).filterMap profileOf?) = r.registerEach (fs.filterMap profileOf?)) ∨
    ∃ p ts, r.registerFile f = (.ok (), r.add p ts) ∧
      ∀ fs, r.registerEach ((f :: fs).filterMap profileOf?) =
        (((r.add p ts).registerEach (fs.filterMap profileOf?)).1 + 1,
          ((r.add p ts).registerEach (fs.filterMap profileOf?)).2) := by
  cases hf : readFile f with
  | error e =>
    have hnone : profileOf? f = none := by rw [profileOf?, hf]; rfl
    exact .inl ⟨e, by rw [registerFile, hf], fun fs => by rw [List.filterMap_cons_none hnone]⟩
  | ok p =>
    have hsome : profileOf? f = some p := by rw [profileOf?, hf]; rfl
    rcases register_cases r p with ⟨ts, -, hr⟩ | ⟨-, e, hr⟩
    · refine .inr ⟨p, ts, by simp only [registerFile, hf, hr, inContext], fun fs => ?_⟩
      rw [List.filterMap_cons_some hsome, registerEach_cons_of_ok hr]
    · refine .inl ⟨e.within ("registering " ++ f.name), by simp only [registerFile, hf, hr, inContext], fun fs => ?_⟩
      rw [List.filterMap_cons_some hsome, registerEach_cons_of_error hr]

theorem registerFiles_cons_of_ok {r r' : Registry} {f : NamedFile} (h : r.registerFile f = (.ok (), r')) (strict : Bool)
    (fs : List NamedFile) :
    registerFiles strict r (f :: fs) =
      ((registerFiles strict r' fs).1.map (· + 1), (registerFiles strict r' fs).2) := by
  rw [registerFiles, h]

theorem registerFiles_cons_of_error {r r' : Registry} {f : NamedFile} {e : Error}
    (h : r.registerFile f = (.error e, r')) (strict : Bool) (fs : List NamedFile) :
    registerFiles strict r (f :: fs) = if strict then (.error e, r') else registerFiles strict r'.passOver fs := by
  rw [registerFiles, h]

/-- **Passing over files is registering the profiles of the others.** Each file is registered or counted. -/
theorem registerFiles_lenient (r : Registry) (fs : List NamedFile) :
    ∃ failed, registerFiles false r fs = (.ok (r.registerEach (fs.filterMap profileOf?)).1,
        (r.registerEach (fs.filterMap profileOf?)).2.withFailedFiles (r.failedFiles + failed)) ∧
      (r.registerEach (fs.filterMap profileOf?)).1 + failed = fs.length := by
  induction fs generalizing r with
  | nil => exact ⟨0, rfl, rfl⟩
  | cons f fs ih =>
    rcases registerFile_cases r f with ⟨e, hfile, heach⟩ | ⟨p, ts, hfile, heach⟩
    · obtain ⟨failed, hload, hcount⟩ := ih r.passOver
      have hpassed : r.passOver.registerEach (fs.filterMap profileOf?) = _ :=
        registerEach_withFailedFiles r (r.failedFiles + 1) _
      rw [hpassed] at hload hcount
      refine ⟨1 + failed, ?_, ?_⟩
      · rw [registerFiles_cons_of_error hfile, heach, if_neg Bool.false_ne_true, hload, ← Nat.add_assoc]
        rfl
      · rw [heach, List.length_cons, ← hcount, Nat.add_left_comm, Nat.add_comm]
    · obtain ⟨failed, hload, hcount⟩ := ih (r.add p ts)
      refine ⟨failed, ?_, ?_⟩
      · rw [registerFiles_cons_of_ok hfile, heach, hload]
        rfl
      · rw [heach, List.length_cons, ← hcount, Nat.add_right_comm]

/-- Loading that ends at the first failure succeeds where nothing is passed over, with the same result. -/
theorem registerFiles_strict_iff {r r' : Registry} {fs : List NamedFile} {count : Nat} :
    registerFiles true r fs = (.ok count, r') ↔
      registerFiles false r fs = (.ok count, r') ∧ r'.failedFiles = r.failedFiles := by
  induction fs generalizing r count with
  | nil =>
    simp only [registerFiles, Prod.mk.injEq]
    exact ⟨fun ⟨hcount, hr⟩ => ⟨⟨hcount, hr⟩, by rw [hr]⟩, fun h => h.1⟩
  | cons f fs ih =>
    rcases registerFile_cases r f with ⟨e, hfile, -⟩ | ⟨p, ts, hfile, -⟩
    · obtain ⟨failed, hload, -⟩ := registerFiles_lenient r.passOver fs
      rw [registerFiles_cons_of_error hfile, registerFiles_cons_of_error hfile, if_pos rfl,
        if_neg Bool.false_ne_true, hload]
      constructor
      · rintro ⟨⟩
      · rintro ⟨hlenient, hkept⟩
        have hmore : r.failedFiles + 1 + failed = r'.failedFiles := congrArg (fun x => x.2.failedFiles) hlenient
        omega
    · have hstep : ∀ count', registerFiles true (r.add p ts) fs = (.ok count', r') ↔
          registerFiles false (r.add p ts) fs = (.ok count', r') ∧ r'.failedFiles = r.failedFiles := fun _ => ih
      rw [registerFiles_cons_of_ok hfile, registerFiles_cons_of_ok hfile]
      simp only [Prod.ext_iff, map_eq_ok_iff] at hstep ⊢
      constructor
      · rintro ⟨⟨count', hcount, rfl⟩, hr⟩
        obtain ⟨⟨hcount, hr⟩, hkept⟩ := (hstep count').mp ⟨hcount, hr⟩
        exact ⟨⟨⟨count', hcount, rfl⟩, hr⟩, hkept⟩
      · rintro ⟨⟨⟨count', hcount, rfl⟩, hr⟩, hkept⟩
        obtain ⟨hcount, hr⟩ := (hstep count').mpr ⟨⟨hcount, hr⟩, hkept⟩
        exact ⟨⟨count', hcount, rfl⟩, hr⟩

/-! ## Directories -/

/-- The extensions of the names of profile files. -/
def profileExtensions : List String := ["json", "yml", "yaml"]

/-- Whether the name of a file has the extension of a profile. -/
def isProfileName (name : String) : Bool :=
  (((FileName.parts name).getLast?).bind FileName.extension?).any profileExtensions.contains

theorem isSome_profileFormat? (name : String) : (profileFormat? name).isSome = isProfileName name := by
  unfold profileFormat? isProfileName
  generalize ((FileName.parts name).getLast?).bind FileName.extension? = extension
  split
  · rfl
  · rfl
  · rfl
  · next hjson hyml hyaml =>
    cases extension with
    | none => rfl
    | some text =>
      have hother : text ∉ profileExtensions := by
        simp only [profileExtensions, List.mem_cons, List.not_mem_nil, or_false, not_or]
        exact ⟨fun h => hjson (congrArg some h), fun h => hyml (congrArg some h), fun h => hyaml (congrArg some h)⟩
      simpa using hother

/-- **Every file of a profile is registered or counted.** Loading a directory registers the profiles of its files one
after another and skips those that cannot be read or are refused; nothing but the count is left of these. The strict
mode succeeds exactly when there are none of them, and then it does the same. -/
theorem loading_accounts_for_every_file (files : Files) (r : Registry) {name : String} {fs : List NamedFile}
    (h : files.list? name = some fs) :
    let candidates := fs.filter fun f => isProfileName f.name
    let registered := r.registerEach (candidates.filterMap profileOf?)
    ∃ failed,
      r.loadDirectory files false name = (.ok registered.1, registered.2.withFailedFiles (r.failedFiles + failed)) ∧
      registered.2.failedFiles = r.failedFiles ∧
      registered.2.profiles.length = r.profiles.length + registered.1 ∧
      registered.1 + failed = candidates.length ∧
      ∀ count r', r.loadDirectory files true name = (.ok count, r') ↔
        failed = 0 ∧ r.loadDirectory files false name = (.ok count, r') := by
  intro candidates registered
  have hload : ∀ strict, r.loadDirectory files strict name = registerFiles strict r candidates := by
    intro strict
    rw [loadDirectory, h]
    simp only [profileFiles, isSome_profileFormat?, candidates]
  obtain ⟨failed, hlenient, hcount⟩ := registerFiles_lenient r candidates
  obtain ⟨taken, -, hlength, hprofiles, hkept⟩ := exists_profiles_registerEach r (candidates.filterMap profileOf?)
  refine ⟨failed, (hload false).trans hlenient, hkept, ?_, hcount, fun count r' => ?_⟩
  · rw [hprofiles, List.length_append, hlength]
  · rw [hload, hload, registerFiles_strict_iff, and_comm]
    refine and_congr_left fun hresult => ?_
    have hfailed : r.failedFiles + failed = r'.failedFiles :=
      congrArg (fun x => x.2.failedFiles) (hlenient.symm.trans hresult)
    omega

/-- The text of a profile without declarations. -/
def poems : String := "\x7b\"id\": \"u:poems\", \"versions\": [\x7b\"id\": \"u:poems/1\"\x7d]\x7d"

/-- A file with a text. -/
def written (text : String) : FileTree := .file (.ok text.toUTF8.toList)

/-- A directory with a profile, its double under another name, a text that is no profile, and notes. -/
def shelf : Files :=
  .ofTree (.directory [("shelf", .directory [
    ("poems.json", written poems), ("poems-again.json", written poems), ("plays.yaml", written "plays"),
    ("notes.txt", written "")])])

/-- How many profiles of files a registry takes, and how many files of profiles there are. -/
def outcome (r : Registry) (fs : List NamedFile) : Nat × Nat :=
  let candidates := fs.filter fun f => isProfileName f.name
  ((r.registerEach (candidates.filterMap profileOf?)).1, candidates.length)

theorem loading_accounts_for_every_file_shelf :
    (shelf.list? "shelf").isSome ∧
      ∃ r, empty.loadDirectory shelf false "shelf" = (.ok 1, r) ∧ r.profiles.length = 1 ∧ r.failedFiles = 2 ∧
        ∀ count r', empty.loadDirectory shelf true "shelf" ≠ (.ok count, r') := by
  have hshelf : (shelf.list? "shelf").map empty.outcome = some (1, 3) := by decide +kernel
  obtain ⟨fs, hfs, houtcome⟩ := Option.map_eq_some_iff.mp hshelf
  obtain ⟨hone, hthree⟩ := Prod.mk.inj houtcome
  obtain ⟨failed, hload, -, hgrown, hcount, hstrict⟩ := loading_accounts_for_every_file shelf empty hfs
  rw [hone, hthree] at hcount
  rw [hone] at hload hgrown
  obtain rfl : failed = 2 := by omega
  refine ⟨by rw [hfs]; rfl, _, hload, hgrown, rfl, fun count r' h => ?_⟩
  exact absurd ((hstrict count r').mp h).1 (by decide)

end Registry

end StatementProfiles
