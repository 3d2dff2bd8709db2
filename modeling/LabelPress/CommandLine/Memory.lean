import LabelPress.CommandLine.FileTree
import LabelPress.CommandLine.Run

/-!
# Running in memory

A command may run on files in memory, with what it prints kept as text. No printer is reached from
there.

## Main definitions

* `Session` - files, output and reports.
* `Shell.memory` - a shell on them.
* `executeIn` - runs arguments on files.
-/

namespace LabelPress.CommandLine

/-- Files, and what was printed and reported. -/
structure Session where
  files : FileTree
  output : String := ""
  reports : List String := []
deriving Repr

namespace Session

/-- Replaces the files, unless there is a fault. -/
def update (change : FileTree → Except FileFault FileTree) : StateM Session (Except FileFault Unit) :=
  fun session =>
    match change session.files with
    | .ok files => (.ok (), { session with files })
    | .error fault => (.error fault, session)

end Session

/-- A shell on files in memory. -/
def Shell.memory : Shell (StateM Session) where
  readFile path := return (← get).files.read path
  writeFile path bytes := Session.update (·.write path bytes)
  createDirectory path := Session.update (·.createDirectory path)
  deliver address _ := return .error ("No connection to " ++ address.host)
  print text := modify fun session => { session with output := session.output ++ text }
  report line := modify fun session => { session with reports := session.reports ++ [line] }

/-! ## Runs of steps -/

section Runs

variable {σ ε α β : Type}

/-- The rest of a run starts where a step stopped, unless that failed. -/
theorem run_bind (step : ExceptT ε (StateM σ) α) (rest : α → ExceptT ε (StateM σ) β) (state : σ) :
    (step >>= rest).run.run state =
      match step.run.run state with
      | (.ok a, after) => (rest a).run.run after
      | (.error e, after) => (.error e, after) := by
  rw [ExceptT.run_bind, StateT.run_bind]
  rcases step.run.run state with ⟨answer, after⟩
  cases answer <;> rfl

theorem run_lift (step : StateM σ α) (state : σ) :
    (liftM step : ExceptT ε (StateM σ) α).run.run state =
      (.ok (step.run state).1, (step.run state).2) :=
  rfl

theorem run_bind_eq_ok_iff {step : ExceptT ε (StateM σ) α} {rest : α → ExceptT ε (StateM σ) β}
    {state after : σ} {b : β} : (step >>= rest).run.run state = (.ok b, after) ↔
      ∃ a between, step.run.run state = (.ok a, between) ∧
        (rest a).run.run between = (.ok b, after) := by
  rw [run_bind]
  rcases step.run.run state with ⟨answer, between⟩
  cases answer with
  | ok a =>
    constructor
    · intro h
      exact ⟨a, between, rfl, h⟩
    · intro ⟨_, _, hstep, hrest⟩
      cases hstep
      exact hrest
  | error e => exact iff_of_false nofun nofun

theorem run_lift_eq_ok_iff {step : StateM σ α} {state after : σ} {a : α} :
    (liftM step : ExceptT ε (StateM σ) α).run.run state = (.ok a, after) ↔
      step.run state = (a, after) := by
  rw [run_lift]
  rcases step.run state with ⟨answer, between⟩
  constructor
  · intro h
    cases h
    rfl
  · intro h
    cases h
    rfl

/-- Steps that leave the state as it is do so one after another. -/
theorem run_mapM {step : α → StateM σ β} {result : α → β} {state : σ}
    (h : ∀ a, (step a).run state = (result a, state)) (list : List α) :
    (list.mapM step).run state = (list.map result, state) := by
  induction list with
  | nil => rfl
  | cons a list ih =>
    rw [List.mapM_cons, StateT.run_bind, h]
    show (list.mapM step >>= _).run state = _
    rw [StateT.run_bind, ih]
    rfl

theorem run_update_eq_ok_iff (change : FileTree → Except FileFault FileTree)
    (session after : Session) : (Session.update change).run session = (.ok (), after) ↔
      ∃ files, change session.files = .ok files ∧ after = { session with files } := by
  show (match change session.files with | .ok files => _ | .error fault => _) = _ ↔ _
  cases change session.files with
  | ok files =>
    constructor
    · intro h
      cases h
      exact ⟨files, rfl, rfl⟩
    · intro ⟨_, hfiles, hafter⟩
      cases hfiles
      rw [hafter]
  | error fault => exact iff_of_false nofun nofun

theorem run_readFile (session : Session) (path : String) :
    (Shell.memory.readFile path).run session = (session.files.read path, session) :=
  rfl

theorem run_writeFile_eq_ok_iff {session after : Session} {path : String} {bytes : List UInt8} :
    (Shell.memory.writeFile path bytes).run session = (.ok (), after) ↔
      ∃ files, session.files.write path bytes = .ok files ∧ after = { session with files } :=
  run_update_eq_ok_iff (·.write path bytes) session after

theorem run_createDirectory_eq_ok_iff {session after : Session} {path : String} :
    (Shell.memory.createDirectory path).run session = (.ok (), after) ↔
      ∃ files, session.files.createDirectory path = .ok files ∧ after = { session with files } :=
  run_update_eq_ok_iff (·.createDirectory path) session after

end Runs

/-- Runs arguments on files: the exit code and what is left. -/
def executeIn (files : FileTree) (arguments : List String) : UInt32 × Session :=
  (execute Shell.memory arguments).run { files }

end LabelPress.CommandLine
