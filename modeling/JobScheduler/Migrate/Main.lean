import JobScheduler.Transition.Run
import Mathlib.Data.List.Sort
import Mathlib.Data.List.Nodup

/-!
# The migration tool

`cmd/migrate` reads the migration files of a directory in the order of their names, skips those
that `schema_migrations` lists, and sends the `Up` script of each of the others to the database
before it records the name. A database that has a `jobs` table but no record at all is taken for one
that was set up before there were records: every file is then recorded without being applied.

The calls of a run are steps of their own, between which the process may be killed and each of which
may fail; a script is applied as a whole or not at all. What the state keeps of the database beside
the records is the list of files applied to it.

Sending a script and recording it are two calls, and so are the records of a bootstrap. Scripts are
applied once, and all of them when a run says so, as long as no run ends between these calls and a
database without records is empty, or complete with a `jobs` table (`migrations_once`).
-/

set_option autoImplicit false

namespace JobScheduler

open Transition

namespace Migrate

/-! ## Files -/

/-- An entry of the directory, with the content of the file. -/
structure DirEntry where
  name : String
  isDir : Bool
  content : String
deriving DecidableEq

/-- The names in a directory are distinct. -/
structure Directory where
  entries : List DirEntry
  names : (entries.map (·.name)).Nodup

/-- `strings.Index`, in characters. -/
def index (pattern : List Char) : List Char → Option Nat
  | [] => if pattern = [] then some 0 else none
  | c :: rest =>
      if pattern <+: c :: rest then some 0 else (index pattern rest).map (· + 1)

/-- `extractUp`: what stands between the two marks, the second of which may be missing. -/
def extractUp (content : String) : String :=
  let up := "-- +goose Up".toList
  let down := "-- +goose Down".toList
  match index up content.toList with
  | none => ""
  | some found =>
      let s := found + up.length
      let e := (index down content.toList).getD content.toList.length
      if e ≤ s then "" else String.ofList ((content.toList.take e).drop s)

/-- The `Up` script of a file. -/
def DirEntry.script (file : DirEntry) : String := extractUp file.content

/-- The `.sql` files, sorted. They share the directory, so their paths are ordered like their
names. -/
def Directory.files (dir : Directory) : List DirEntry :=
  (dir.entries.filter fun e => ¬ e.isDir ∧ ".sql".toList <:+ e.name.toList).insertionSort
    fun a b => a.name ≤ b.name

/-- A name belongs to one file. -/
theorem Directory.file_eq (dir : Directory) {f g : DirEntry} (first : f ∈ dir.files)
    (second : g ∈ dir.files) (same : f.name = g.name) : f = g := by
  unfold Directory.files at first second
  rw [List.mem_insertionSort, List.mem_filter] at first second
  exact List.inj_on_of_nodup_map dir.names first.1 second.1 same

theorem Directory.files_nodup (dir : Directory) : (dir.files.map (·.name)).Nodup := by
  refine ((List.perm_insertionSort _ _).map _).nodup_iff.mpr ?_
  exact dir.names.sublist (List.filter_sublist.map DirEntry.name)

/-! ## Runs of the tool -/

/-- The next call to the database, with the files that come after the one it is about. -/
inductive Phase where
  | idle
  /-- `CREATE TABLE IF NOT EXISTS schema_migrations`. -/
  | ensureTable
  /-- `SELECT COUNT(*) FROM schema_migrations`. -/
  | count
  /-- Whether there is a `jobs` table. -/
  | jobsExists
  /-- The `INSERT` of `bootstrapExistingSchema`. -/
  | bootstrap (file : DirEntry) (rest : List DirEntry)
  /-- Whether the file is recorded. -/
  | check (file : DirEntry) (rest : List DirEntry)
  /-- The script itself. -/
  | exec (file : DirEntry) (rest : List DirEntry)
  /-- `INSERT INTO schema_migrations`. -/
  | record (file : DirEntry) (rest : List DirEntry)
  /-- `all migrations applied` has been printed. -/
  | done
deriving DecidableEq

/-- No process is running. -/
def Phase.ended : Phase → Bool
  | .idle | .done => true
  | _ => false

/-- The rows of `schema_migrations`, the files that have been applied to the database, and the
process. -/
structure State where
  recorded : List String
  applied : List DirEntry
  phase : Phase

/-- The top of the loop over the files. -/
def loop : List DirEntry → Phase
  | [] => .done
  | file :: rest => .check file rest

section Calls

variable (dir : Directory) (hasJobs : List String → Bool)

/-- The top of the loop of `bootstrapExistingSchema`. -/
def bootstrapLoop : List DirEntry → Phase
  | [] => loop dir.files
  | file :: rest => .bootstrap file rest

/-- The scripts that the database has run. -/
def State.scripts (s : State) : List String := s.applied.map (·.script)

/-- The next call succeeds, and the process goes on to the one after it. -/
def State.call (s : State) : State :=
  match s.phase with
  | .idle => s
  | .ensureTable => { s with phase := .count }
  | .count => { s with phase := if s.recorded = [] then .jobsExists else loop dir.files }
  | .jobsExists => { s with
      phase := if hasJobs s.scripts then bootstrapLoop dir dir.files else loop dir.files }
  | .bootstrap file rest => { s with
      recorded := if file.name ∈ s.recorded then s.recorded else s.recorded ++ [file.name]
      phase := bootstrapLoop dir rest }
  | .check file rest => { s with
      phase :=
        if file.name ∈ s.recorded then loop rest
        else if file.script = "" then loop rest
        else .exec file rest }
  | .exec file rest => { s with applied := s.applied ++ [file], phase := .record file rest }
  | .record file rest =>
      if file.name ∈ s.recorded then { s with phase := .idle }
      else { s with recorded := s.recorded ++ [file.name], phase := loop rest }
  | .done => s

inductive Action where
  /-- A run begins. -/
  | start
  /-- The next call returns, or fails and ends the run. -/
  | call (ok : Bool)
  | kill
deriving DecidableEq

def State.step (s : State) : Action → Option State
  | .start => if s.phase.ended then some { s with phase := .ensureTable } else none
  | .call true => if s.phase.ended then none else some (s.call dir hasJobs)
  | .call false | .kill => if s.phase.ended then none else some { s with phase := .idle }

/-- Runs of the tool one after the other, on a database with the first migrations, or none, and no
records. -/
def migrating : System State Action where
  initial s := s.recorded = [] ∧ s.phase = .idle ∧
    ∃ n, s.applied = (dir.files.take n).filter (·.script ≠ "")
  step := State.step dir hasJobs

/-- Every file that has a script has been applied. -/
def State.Complete (s : State) : Prop := ∀ f ∈ dir.files, f.script ≠ "" → f ∈ s.applied

/-- A script is sent that has been applied before. -/
def State.Resends (s : State) (a : Action) : Prop :=
  ∃ ok file rest, a = .call ok ∧ s.phase = .exec file rest ∧ file ∈ s.applied

/-- A run that finds no records finds an empty database, or a complete one with a `jobs` table. No
run ends between a script and its record, nor among the records of a bootstrap unless the files
that remain have no scripts. -/
def State.Safe (s : State) : Action → Prop
  | .start => s.recorded = [] →
      s.applied = [] ∨ (hasJobs s.scripts = true ∧ s.Complete dir)
  | .call true => True
  | .call false | .kill =>
      (∀ file rest, s.phase ≠ .record file rest) ∧
      ∀ file rest, s.phase = .bootstrap file rest → s.recorded = [] ∨
        ∀ f ∈ file :: rest, f.script = ""

end Calls

/-! ## Records and applied files -/

section Invariant

variable (dir : Directory) (hasJobs : List String → Bool)

/-- Recorded and applied are the same files, of those that have scripts. -/
def State.Agree (s : State) : Prop :=
  ∀ f ∈ dir.files, f.script ≠ "" → (f.name ∈ s.recorded ↔ f ∈ s.applied)

/-- A complete database from before there were records. -/
structure State.Untracked (s : State) : Prop where
  unrecorded : s.recorded = []
  complete : s.Complete dir
  jobs : hasJobs s.scripts = true

/-- The loop has come to these files, and those before them are applied. -/
def State.Passed (s : State) (rest : List DirEntry) : Prop :=
  ∃ processed, dir.files = processed ++ rest ∧
    ∀ f ∈ processed, f.script ≠ "" → f ∈ s.applied

/-- What holds before each call. -/
def State.At (s : State) : Phase → Prop
  | .idle => s.Agree dir ∨ s.recorded = []
  | .ensureTable | .count => s.Agree dir ∨ s.Untracked dir hasJobs
  | .jobsExists => s.recorded = [] ∧ (s.Agree dir ∨ s.Untracked dir hasJobs)
  | .bootstrap file rest => s.Complete dir ∧ ∃ processed,
      dir.files = processed ++ file :: rest ∧ s.recorded = processed.map (·.name)
  | .check file rest => s.Agree dir ∧ s.Passed dir (file :: rest)
  | .exec file rest => s.Agree dir ∧ s.Passed dir (file :: rest) ∧ file.script ≠ "" ∧
      file.name ∉ s.recorded
  | .record file rest => s.Passed dir (file :: rest) ∧ file ∈ s.applied ∧
      file.name ∉ s.recorded ∧
      ∀ f ∈ dir.files, f.script ≠ "" → f ≠ file → (f.name ∈ s.recorded ↔ f ∈ s.applied)
  | .done => s.Agree dir ∧ s.Complete dir

/-- The invariant of safe runs. -/
structure State.Sound (s : State) : Prop where
  files : ∀ f ∈ s.applied, f ∈ dir.files ∧ f.script ≠ ""
  holds : s.At dir hasJobs s.phase

variable {dir hasJobs} {s : State}

theorem State.Sound.here (sound : s.Sound dir hasJobs) {phase : Phase} (now : s.phase = phase) :
    s.At dir hasJobs phase :=
  now ▸ sound.holds

theorem State.Untracked.move (untracked : s.Untracked dir hasJobs) (phase : Phase) :
    State.Untracked dir hasJobs { s with phase := phase } :=
  ⟨untracked.unrecorded, untracked.complete, untracked.jobs⟩

/-- Without records, agreement means that nothing is applied. -/
theorem State.Agree.applied_eq_nil (agree : s.Agree dir) (unrecorded : s.recorded = [])
    (files : ∀ f ∈ s.applied, f ∈ dir.files ∧ f.script ≠ "") : s.applied = [] := by
  rw [List.eq_nil_iff_forall_not_mem]
  intro f applied
  obtain ⟨listed, script⟩ := files f applied
  have recorded := (agree f listed script).mpr applied
  rw [unrecorded] at recorded
  exact List.not_mem_nil recorded

theorem State.agree_of_nil (unrecorded : s.recorded = []) (unapplied : s.applied = []) :
    s.Agree dir := by
  intro f _ _
  rw [unrecorded, unapplied]
  exact iff_of_false List.not_mem_nil List.not_mem_nil

/-- The files after which the loop ends are all applied. -/
theorem State.Passed.complete (passed : s.Passed dir []) : s.Complete dir := by
  obtain ⟨processed, split, applied⟩ := passed
  rw [List.append_nil] at split
  intro f listed
  rw [split] at listed
  exact applied f listed

/-- A file is passed that is applied, if it has a script. -/
theorem State.Passed.pass {file : DirEntry} {rest : List DirEntry}
    (passed : s.Passed dir (file :: rest)) (applied : file.script ≠ "" → file ∈ s.applied) :
    s.Passed dir rest := by
  obtain ⟨processed, split, earlier⟩ := passed
  refine ⟨processed ++ [file], ?_, ?_⟩
  · rw [split, List.append_assoc]
    rfl
  · intro f member script
    rcases List.mem_append.mp member with before | same
    · exact earlier f before script
    · rw [List.mem_singleton] at same
      subst same
      exact applied script

theorem State.Passed.mem {file : DirEntry} {rest : List DirEntry}
    (passed : s.Passed dir (file :: rest)) : file ∈ dir.files := by
  obtain ⟨processed, split, _⟩ := passed
  rw [split]
  exact List.mem_append_right _ List.mem_cons_self

theorem State.passed_files : s.Passed dir dir.files :=
  ⟨[], rfl, fun _ member => absurd member List.not_mem_nil⟩

/-- The loop goes on with the files that remain. -/
theorem State.at_loop {rest : List DirEntry} (agree : s.Agree dir) (passed : s.Passed dir rest) :
    s.At dir hasJobs (loop rest) := by
  cases rest with
  | nil => exact ⟨agree, passed.complete⟩
  | cons file rest => exact ⟨agree, passed⟩

/-- The bootstrap goes on with the files that remain, and leads to the loop. -/
theorem State.at_bootstrapLoop {processed rest : List DirEntry} (complete : s.Complete dir)
    (split : dir.files = processed ++ rest) (recorded : s.recorded = processed.map (·.name)) :
    s.At dir hasJobs (bootstrapLoop dir rest) := by
  cases rest with
  | nil =>
      refine State.at_loop ?_ State.passed_files
      intro f listed script
      refine iff_of_true ?_ (complete f listed script)
      rw [split, List.append_nil] at listed
      rw [recorded]
      exact List.mem_map_of_mem listed
  | cons file rest => exact ⟨complete, processed, split, recorded⟩

end Invariant

section Steps

variable {dir : Directory} {hasJobs : List String → Bool} {s : State}

theorem call_count (sound : s.Sound dir hasJobs) (phase : s.phase = .count) :
    (s.call dir hasJobs).Sound dir hasJobs := by
  have holds := sound.here phase
  simp only [State.call, phase]
  refine ⟨sound.files, ?_⟩
  dsimp only
  split
  next unrecorded => exact ⟨unrecorded, holds.imp id fun untracked => untracked.move _⟩
  next recorded =>
    rcases holds with agree | untracked
    · exact State.at_loop agree State.passed_files
    · exact absurd untracked.unrecorded recorded

theorem call_jobsExists (empty : hasJobs [] = false) (sound : s.Sound dir hasJobs)
    (phase : s.phase = .jobsExists) : (s.call dir hasJobs).Sound dir hasJobs := by
  obtain ⟨unrecorded, agree | untracked⟩ := sound.here phase
  · -- nothing is applied, so there is no `jobs` table
    have unapplied := agree.applied_eq_nil unrecorded sound.files
    have absent : hasJobs s.scripts = false := by
      rw [State.scripts, unapplied]
      exact empty
    simp only [State.call, phase, absent]
    exact ⟨sound.files, State.at_loop agree State.passed_files⟩
  · simp only [State.call, phase, untracked.jobs]
    exact ⟨sound.files, State.at_bootstrapLoop untracked.complete
      (List.nil_append dir.files).symm unrecorded⟩

theorem call_bootstrap {file : DirEntry} {rest : List DirEntry} (sound : s.Sound dir hasJobs)
    (phase : s.phase = .bootstrap file rest) : (s.call dir hasJobs).Sound dir hasJobs := by
  obtain ⟨complete, processed, split, recorded⟩ := sound.here phase
  have unique : ((processed ++ file :: rest).map (·.name)).Nodup := split ▸ dir.files_nodup
  have fresh : file.name ∉ s.recorded := by
    rw [recorded]
    rw [List.map_append, List.map_cons] at unique
    intro earlier
    exact (List.disjoint_of_nodup_append unique) earlier List.mem_cons_self
  simp only [State.call, phase, if_neg fresh]
  have further : dir.files = (processed ++ [file]) ++ rest := by
    rw [split, List.append_assoc]
    rfl
  refine ⟨sound.files, State.at_bootstrapLoop complete further ?_⟩
  rw [List.map_append, ← recorded]
  rfl

theorem call_check {file : DirEntry} {rest : List DirEntry} (sound : s.Sound dir hasJobs)
    (phase : s.phase = .check file rest) : (s.call dir hasJobs).Sound dir hasJobs := by
  obtain ⟨agree, passed⟩ := sound.here phase
  simp only [State.call, phase]
  refine ⟨sound.files, ?_⟩
  dsimp only
  split
  next recorded =>
    refine State.at_loop agree (passed.pass fun script => ?_)
    exact (agree file passed.mem script).mp recorded
  next unrecorded =>
    split
    next none => exact State.at_loop agree (passed.pass fun script => absurd none script)
    next script => exact ⟨agree, passed, script, unrecorded⟩

theorem call_exec {file : DirEntry} {rest : List DirEntry} (sound : s.Sound dir hasJobs)
    (phase : s.phase = .exec file rest) : (s.call dir hasJobs).Sound dir hasJobs := by
  obtain ⟨agree, passed, script, unrecorded⟩ := sound.here phase
  simp only [State.call, phase]
  refine ⟨?_, ?_, List.mem_append_right _ (List.mem_singleton_self file), unrecorded, ?_⟩
  · intro f member
    rcases List.mem_append.mp member with earlier | new
    · exact sound.files f earlier
    · rw [List.mem_singleton] at new
      subst new
      exact ⟨passed.mem, script⟩
  · obtain ⟨processed, split, applied⟩ := passed
    exact ⟨processed, split, fun f member has =>
      List.mem_append_left _ (applied f member has)⟩
  · intro f listed has other
    rw [agree f listed has]
    dsimp only
    rw [List.mem_append, List.mem_singleton]
    exact ⟨.inl, fun either => either.resolve_right other⟩

theorem call_record {file : DirEntry} {rest : List DirEntry} (sound : s.Sound dir hasJobs)
    (phase : s.phase = .record file rest) : (s.call dir hasJobs).Sound dir hasJobs := by
  obtain ⟨passed, applied, unrecorded, others⟩ := sound.here phase
  simp only [State.call, phase, if_neg unrecorded]
  refine ⟨sound.files, State.at_loop ?_ (passed.pass fun _ => applied)⟩
  intro f listed script
  dsimp only
  rw [List.mem_append, List.mem_singleton]
  by_cases same : f = file
  · subst same
    exact iff_of_true (.inr rfl) applied
  · rw [← others f listed script same]
    exact ⟨fun either => either.resolve_right fun name =>
      same (dir.file_eq listed passed.mem name), .inl⟩

theorem call_sound (empty : hasJobs [] = false) (sound : s.Sound dir hasJobs) :
    (s.call dir hasJobs).Sound dir hasJobs := by
  cases phase : s.phase with
  | idle =>
      simp only [State.call, phase]
      exact sound
  | ensureTable =>
      have holds := sound.here phase
      simp only [State.call, phase]
      exact ⟨sound.files, holds.imp id fun untracked => untracked.move _⟩
  | count => exact call_count sound phase
  | jobsExists => exact call_jobsExists empty sound phase
  | bootstrap file rest => exact call_bootstrap sound phase
  | check file rest => exact call_check sound phase
  | exec file rest => exact call_exec sound phase
  | record file rest => exact call_record sound phase
  | done =>
      simp only [State.call, phase]
      exact sound

/-- A run that ends at a safe point leaves records that agree with what is applied, or none. -/
theorem exit_sound (sound : s.Sound dir hasJobs) (safe : s.Safe dir hasJobs .kill) :
    State.Sound dir hasJobs { s with phase := .idle } := by
  obtain ⟨unsent, between⟩ := safe
  refine ⟨sound.files, ?_⟩
  change s.Agree dir ∨ s.recorded = []
  cases phase : s.phase with
  | idle => exact sound.here phase
  | ensureTable | count => exact (sound.here phase).imp id State.Untracked.unrecorded
  | jobsExists => exact .inr (sound.here phase).1
  | bootstrap file rest =>
      obtain ⟨complete, processed, split, recorded⟩ := sound.here phase
      rcases between file rest phase with unrecorded | scriptless
      · exact .inr unrecorded
      · left
        intro f listed script
        refine iff_of_true ?_ (complete f listed script)
        rw [split, List.mem_append] at listed
        rcases listed with earlier | later
        · rw [recorded]
          exact List.mem_map_of_mem earlier
        · exact absurd (scriptless f later) script
  | check file rest => exact .inl (sound.here phase).1
  | exec file rest => exact .inl (sound.here phase).1
  | record file rest => exact absurd phase (unsent file rest)
  | done => exact .inl (sound.here phase).1

theorem start_sound (sound : s.Sound dir hasJobs) (ended : s.phase.ended)
    (safe : s.Safe dir hasJobs .start) :
    State.Sound dir hasJobs { s with phase := .ensureTable } := by
  refine ⟨sound.files, ?_⟩
  have records : s.Agree dir ∨ s.recorded = [] := by
    cases phase : s.phase with
    | idle => exact sound.here phase
    | done => exact .inl (sound.here phase).1
    | ensureTable | count | jobsExists | bootstrap | check | exec | record =>
        rw [phase] at ended
        cases ended
  rcases records with agree | unrecorded
  · exact .inl agree
  · rcases safe unrecorded with unapplied | ⟨jobs, complete⟩
    · exact .inl (State.agree_of_nil unrecorded unapplied)
    · exact .inr ⟨unrecorded, complete, jobs⟩

/-- A step is the start of a run, a call, or the end of a run. -/
theorem migrate_step_cases {s' : State} {a : Action} (taken : s.step dir hasJobs a = some s') :
    (a = .start ∧ s.phase.ended ∧ s' = { s with phase := .ensureTable }) ∨
    (a = .call true ∧ s' = s.call dir hasJobs) ∨
    ((a = .call false ∨ a = .kill) ∧ s' = { s with phase := .idle }) := by
  unfold State.step at taken
  split at taken
  · split at taken
    next ended =>
      cases taken
      exact .inl ⟨rfl, ended, rfl⟩
    · cases taken
  · split at taken
    · cases taken
    · cases taken
      exact .inr (.inl ⟨rfl, rfl⟩)
  · split at taken
    · cases taken
    · cases taken
      exact .inr (.inr ⟨.inl rfl, rfl⟩)
  · split at taken
    · cases taken
    · cases taken
      exact .inr (.inr ⟨.inr rfl, rfl⟩)

theorem step_sound (empty : hasJobs [] = false) {s' : State} {a : Action}
    (taken : s.step dir hasJobs a = some s') (safe : s.Safe dir hasJobs a)
    (sound : s.Sound dir hasJobs) : s'.Sound dir hasJobs := by
  obtain ⟨rfl, ended, rfl⟩ | ⟨rfl, rfl⟩ | ⟨rfl | rfl, rfl⟩ := migrate_step_cases taken
  · exact start_sound sound ended safe
  · exact call_sound empty sound
  · exact exit_sound sound safe
  · exact exit_sound sound safe

theorem initial_sound (initial : (migrating dir hasJobs).initial s) : s.Sound dir hasJobs := by
  obtain ⟨unrecorded, idle, n, applied⟩ := initial
  refine ⟨?_, ?_⟩
  · intro f member
    rw [applied, List.mem_filter, decide_eq_true_eq] at member
    exact ⟨List.mem_of_mem_take member.1, member.2⟩
  · rw [idle]
    exact .inr unrecorded

end Steps

/-- **Migrations are applied once.** In every sequence of runs of the tool whose steps are safe, no
script is sent that has been applied before, and whenever a run ends with `all migrations applied`,
every file with a script has been applied. -/
theorem migrations_once {dir : Directory} {hasJobs : List String → Bool}
    (empty : hasJobs [] = false) {trace : List (State × Action)} {last : State}
    (run : Run (migrating dir hasJobs) trace last) (safe : Meets (State.Safe dir hasJobs) trace) :
    Meets (fun s a => ¬ s.Resends a) trace ∧
      Throughout (fun s => s.phase = .done → s.Complete dir) trace last := by
  have sound := run.throughout safe (fun _ => initial_sound)
    fun _ _ _ taken safe => step_sound empty taken safe
  constructor
  · rintro ⟨s, a⟩ member ⟨ok, file, rest, _, phase, applied⟩
    obtain ⟨agree, passed, script, unrecorded⟩ := (sound.1 _ member).here phase
    exact unrecorded ((agree file passed.mem script).mpr applied)
  · have complete : ∀ s : State, s.Sound dir hasJobs → s.phase = .done → s.Complete dir := by
      intro s sound done
      exact (sound.here done).2
    exact ⟨fun entry member => complete _ (sound.1 entry member), complete _ sound.2⟩

/-! ## A kill after the first script -/

/-- The first migration, shortened. -/
def init : DirEntry where
  name := "00001_init.sql"
  isDir := false
  content := "-- +goose Up\nCREATE TYPE job_status;-- +goose Down\nDROP TYPE job_status;"

theorem init_script : init.script = "\nCREATE TYPE job_status;" := by decide

/-- A directory with that file. -/
def oneFile : Directory := ⟨[init], List.nodup_singleton _⟩

/-- Whether one of the scripts creates the table. -/
def createsJobs (scripts : List String) : Bool :=
  scripts.any fun script => (index "CREATE TABLE jobs".toList script.toList).isSome

theorem migrations_once_oneFile :
    ∃ trace last, Run (migrating oneFile createsJobs) trace last ∧ last.phase = .done ∧
      Meets (fun s a => ¬ s.Resends a) trace ∧ last.Complete oneFile := by
  have executed : ∃ trace last, Run (migrating oneFile createsJobs) trace last ∧
      last.phase = .done ∧ ∀ entry ∈ trace, entry.2 = .call true ∨
        entry.2 = .start ∧ entry.1.applied = [] := by
    refine exists_run_of_execute (migrating oneFile createsJobs)
      (.start :: List.replicate 6 (.call true)) ⟨[], [], .idle⟩ _ ⟨rfl, rfl, 0, rfl⟩ ?_
    decide
  obtain ⟨trace, last, run, done, calls⟩ := executed
  have safe : Meets (State.Safe oneFile createsJobs) trace := by
    rintro ⟨s, a⟩ member
    rcases calls _ member with rfl | ⟨rfl, unapplied⟩
    · trivial
    · exact fun _ => .inl unapplied
  obtain ⟨once, complete⟩ := migrations_once rfl run safe
  exact ⟨trace, last, run, done, once, complete.2 done⟩

/-- Without records and without jobs, a run comes to send the script. -/
theorem run_sends {trace : List (State × Action)} {applied : List DirEntry}
    (run : Run (migrating oneFile createsJobs) trace ⟨[], applied, .idle⟩)
    (jobless : createsJobs (applied.map (·.script)) = false) :
    ∃ trace', Run (migrating oneFile createsJobs) trace' ⟨[], applied, .exec init []⟩ := by
  have started : Run (migrating oneFile createsJobs) _ ⟨[], applied, .ensureTable⟩ :=
    run.next .start rfl
  have ensured : Run (migrating oneFile createsJobs) _ ⟨[], applied, .count⟩ :=
    started.next (.call true) rfl
  have counted : Run (migrating oneFile createsJobs) _ ⟨[], applied, .jobsExists⟩ :=
    ensured.next (.call true) rfl
  have absent : (migrating oneFile createsJobs).step ⟨[], applied, .jobsExists⟩ (.call true) =
      some ⟨[], applied, .check init []⟩ := by
    simp only [migrating, State.step, State.call, State.scripts, jobless]
    rfl
  have unrecorded : (migrating oneFile createsJobs).step ⟨[], applied, .check init []⟩
      (.call true) = some ⟨[], applied, .exec init []⟩ := by
    simp only [migrating, State.step, State.call, init_script]
    rfl
  exact ⟨_, (counted.next (.call true) absent).next (.call true) unrecorded⟩

/-- The process is killed after the script of the first file and before its record, and the next run
sends the script again. -/
theorem kill_before_record :
    ¬ ∀ (dir : Directory) (hasJobs : List String → Bool), hasJobs [] = false →
      ∀ trace last, Run (migrating dir hasJobs) trace last →
        Meets (fun s a => ¬ s.Resends a) trace ∧
          Throughout (fun s => s.phase = .done → s.Complete dir) trace last := by
  intro always
  obtain ⟨_, sends⟩ := run_sends (.start ⟨rfl, rfl, 0, rfl⟩) rfl
  have applied : Run (migrating oneFile createsJobs) _ ⟨[], [init], .record init []⟩ :=
    sends.next (.call true) rfl
  have killed : Run (migrating oneFile createsJobs) _ ⟨[], [init], .idle⟩ :=
    applied.next .kill rfl
  have jobless : createsJobs ([init].map (·.script)) = false := by
    simp only [List.map_cons, List.map_nil, init_script]
    decide
  obtain ⟨trace, again⟩ := run_sends killed jobless
  have once := (always oneFile createsJobs rfl _ _ (again.next (.call true) rfl)).1
  exact once _ List.mem_cons_self ⟨true, init, [], rfl, rfl, List.mem_singleton_self init⟩

end Migrate

end JobScheduler
