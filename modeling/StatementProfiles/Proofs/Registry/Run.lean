import Mathlib.Logic.Relation
import StatementProfiles.Proofs.Registry.Registration
import StatementProfiles.Registry.Load
import StatementProfiles.Registry.Statement

/-!
# Runs of calls on a registry

`Registry.after` is the registry that a list of calls makes of an empty one. Whatever a call does comes down to a few
kinds of steps (`Registry.perform_steps`): a profile is added as a whole, options or lookups are replaced, grammars are
finished, a file is passed over. What is so of the empty registry and stays so in every step is so after every run
(`Registry.after_induction`), and also of a registry that a configuration describes (`Registry.exists_calls_of_load`).
-/

namespace StatementProfiles

namespace Registry

/-- A call that may change a registry. -/
inductive Call where
  | register (p : Profile)
  | loadDirectory (files : Files) (strict : Bool) (name : String)
  | withOptions (options : BuildOptions)
  | withLookups (lookups : List Lookup)
  | grammar (id : String)
  | occurrence (name : String) (registration : Uuid)

/-- The registry after a call, whether that has a result or fails. -/
def perform (r : Registry) : Call → Registry
  | .register p => (r.register p).2
  | .loadDirectory files strict name => (r.loadDirectory files strict name).2
  | .withOptions options => r.withOptions options
  | .withLookups lookups => r.withLookups lookups
  | .grammar id => (r.grammar id).2
  | .occurrence name registration => (r.occurrence name registration).2

/-- The registry after several calls, from an empty one. -/
def after (calls : List Call) : Registry := calls.foldl perform empty

/-- All further lookups that a call brings are of one sort. -/
def Call.Brings (P : Lookup → Prop) : Call → Prop
  | .withLookups lookups => ∀ l ∈ lookups, P l
  | _ => True

theorem brings_any (calls : List Call) : ∀ call ∈ calls, call.Brings fun _ => True := by
  intro call _
  cases call with
  | withLookups lookups => exact fun _ _ => trivial
  | _ => trivial

/-! ## Steps -/

/-- A change that a call may make, where further lookups are of one sort. -/
inductive Step (P : Lookup → Prop) : Registry → Registry → Prop
  | add {r : Registry} {p : Profile} {ts : List Template} : r.Accepts p ts → Step P r (r.add p ts)
  | options (r : Registry) (options : BuildOptions) : Step P r (r.withOptions options)
  | lookups (r : Registry) {lookups : List Lookup} : (∀ l ∈ lookups, P l) → Step P r (r.withLookups lookups)
  | grammars {r : Registry} {id : String} {g : Pattern} {done : Grammars} :
      r.catalog.grammar r.grammars id = .ok (g, done) → Step P r { r with grammars := done }
  | passOver (r : Registry) : Step P r r.passOver

/-- Any number of changes. -/
abbrev Steps (P : Lookup → Prop) : Registry → Registry → Prop := Relation.ReflTransGen (Step P)

section Steps

variable (P : Lookup → Prop)

theorem register_steps (r : Registry) (p : Profile) : Steps P r (r.register p).2 := by
  rcases register_cases r p with ⟨ts, ha, he⟩ | ⟨-, e, he⟩
  · rw [he]
    exact .single (.add ha)
  · rw [he]

theorem grammar_steps (r : Registry) (id : String) : Steps P r (r.grammar id).2 := by
  unfold grammar
  split
  · next h => exact .single (.grammars h)
  · exact .refl

theorem occurrence_steps (r : Registry) (name : String) (registration : Uuid) :
    Steps P r (r.occurrence name registration).2 := by
  unfold occurrence
  split
  · exact .refl
  · exact grammar_steps P r _

theorem registerFile_steps (r : Registry) (f : NamedFile) : Steps P r (r.registerFile f).2 := by
  unfold registerFile
  split
  · exact .refl
  · exact register_steps P r _

theorem registerFiles_steps (strict : Bool) (r : Registry) (fs : List NamedFile) :
    Steps P r (registerFiles strict r fs).2 := by
  induction fs generalizing r with
  | nil => exact .refl
  | cons f fs ih =>
    have hfile := registerFile_steps P r f
    unfold registerFiles
    split
    · next he =>
      rw [he] at hfile
      exact hfile.trans (ih _)
    · next he =>
      rw [he] at hfile
      split
      · exact hfile
      · exact (hfile.tail (.passOver _)).trans (ih _)

theorem loadDirectory_steps (files : Files) (strict : Bool) (r : Registry) (name : String) :
    Steps P r (r.loadDirectory files strict name).2 := by
  unfold loadDirectory
  split
  · exact .refl
  · exact registerFiles_steps P strict r _

end Steps

variable {P : Lookup → Prop}

theorem perform_steps (r : Registry) {call : Call} (h : call.Brings P) : Steps P r (r.perform call) := by
  cases call with
  | register p => exact register_steps P r p
  | loadDirectory files strict name => exact loadDirectory_steps P files strict r name
  | withOptions options => exact .single (.options r options)
  | withLookups lookups => exact .single (.lookups r h)
  | grammar id => exact grammar_steps P r id
  | occurrence name registration => exact occurrence_steps P r name registration

theorem steps_of_calls (r : Registry) {calls : List Call} (h : ∀ call ∈ calls, call.Brings P) :
    Steps P r (calls.foldl perform r) := by
  induction calls generalizing r with
  | nil => exact .refl
  | cons call calls ih =>
    obtain ⟨hcall, hcalls⟩ := List.forall_mem_cons.mp h
    exact (perform_steps r hcall).trans (ih (r.perform call) hcalls)

/-- What is so of a registry and stays so in every step is so after any number of steps. -/
theorem Steps.preserve {motive : Registry → Prop} (step : ∀ r r', Step P r r' → motive r → motive r')
    {r r' : Registry} (h : Steps P r r') (hr : motive r) : motive r' := by
  induction h with
  | refl => exact hr
  | tail _ hs ih => exact step _ _ hs ih

/-- What is so of the empty registry and stays so in every step is so after every run. -/
theorem after_induction {motive : Registry → Prop} (start : motive empty)
    (step : ∀ r r', Step P r r' → motive r → motive r') {calls : List Call} (h : ∀ call ∈ calls, call.Brings P) :
    motive (after calls) :=
  Steps.preserve step (steps_of_calls empty h) start

theorem after_append (calls more : List Call) : after (calls ++ more) = more.foldl perform (after calls) :=
  List.foldl_append

/-! ## Configurations -/

theorem exists_calls_of_loadDirectories {files : Files} {strict : Bool} {names : List String} {r r' : Registry}
    (h : loadDirectories files strict r names = .ok r') :
    r' = (names.map (Call.loadDirectory files strict)).foldl perform r := by
  induction names generalizing r with
  | nil => exact (Except.ok.inj h).symm
  | cons name names ih =>
    unfold loadDirectories at h
    split at h
    · cases h
    · next he =>
      rw [List.map_cons, List.foldl_cons, perform, he]
      exact ih h

/-- The registry of a configuration is what a run makes. -/
theorem exists_calls_of_load {files : Files} {c : Config} {r : Registry} (h : load files c = .ok r) :
    ∃ calls, (∀ P, ∀ call ∈ calls, call.Brings P) ∧ r = after calls := by
  unfold load at h
  split at h
  · cases h
  · refine ⟨.withOptions c.buildOptions :: c.profileDirs.map (Call.loadDirectory files c.failOnParseError), ?_,
      exists_calls_of_loadDirectories h⟩
    intro P call hcall
    rcases List.mem_cons.mp hcall with rfl | hcall
    · trivial
    · obtain ⟨name, -, rfl⟩ := List.mem_map.mp hcall
      trivial

end Registry

end StatementProfiles
