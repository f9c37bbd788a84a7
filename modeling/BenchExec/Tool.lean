import BenchExec.Task
import BenchExec.ResourceLimits

/-!
# The two generations of the tool-info contract

`BaseTool2` is the current base class of tool-info modules and `BaseTool` the
legacy one. Every method with a default body is a definition here, under its
class's namespace; `name` and `executable` of `BaseTool2` are abstract and have
none. The methods whose bodies are the same in both classes are one definition,
applied by each class. The helpers of `benchexec.util` they call,
`expand_filename_pattern` and `find_executable`, and the label
`result.RESULT_DONE` are parameters.

The current `cmdline` reads the task's `input_files_or_identifier`, the legacy
one appends its list of task files. `TaskSpec.cmdline` is the command line the
spec describes, and `cmdline_eq_spec_iff` says on which tasks the current one
builds it: on a task without files the code passes the identifier's
characters, one argument each.
-/

namespace BenchExec

section Shared

variable (expandFilenamePattern : String → String → List String)

/-- `_program_files_from_executable`: the expansions of the patterns, relative
to the executable's directory or, with `parentDir`, to its parent. -/
def programFilesFromExecutable (executable : String) (requiredPaths : List String)
    (parentDir : Bool := false) : List String :=
  let baseDir := Py.dirname executable
  let baseDir := if parentDir then Py.join baseDir Py.pardir else baseDir
  (requiredPaths.map (expandFilenamePattern · baseDir)).flatten

/-- `program_files`, with `requiredPaths` for `self.REQUIRED_PATHS`. -/
def programFiles (requiredPaths : List String) (executable : String) : List String :=
  [executable] ++ programFilesFromExecutable expandFilenamePattern executable requiredPaths

end Shared

/-- `version`: no version unless a tool-info module finds one. -/
def version (_executable : String) : String := ""

/-- `working_directory`. -/
def workingDirectory (_executable : String) : String := Py.curdir

/-- `get_value_from_output`, whose body is only its docstring. -/
def getValueFromOutput (_lines : List String) (_identifier : String) : Option String := none

/-- The dict of dicts `environment` returns, as a list of its entries. -/
abbrev Environment : Type := List (String × List (String × String))

/-- `environment`: the empty dict. -/
def environment (_executable : String) : Environment := []

namespace BaseTool2

def requiredPaths : List String := []

def version (executable : String) : String := BenchExec.version executable

def environment (executable : String) : Environment := BenchExec.environment executable

def programFiles (expandFilenamePattern : String → String → List String)
    (requiredPaths : List String) (executable : String) : List String :=
  BenchExec.programFiles expandFilenamePattern requiredPaths executable

def workingDirectory (executable : String) : String := BenchExec.workingDirectory executable

/-- `cmdline`: `[executable, *options, *task.input_files_or_identifier]`. -/
def cmdline {ω : Type} (executable : String) (options : List String) (task : Task ω)
    (_rlimits : ResourceLimits) : Except PyError (List String) := do
  let files ← task.inputFilesOrIdentifier
  return [executable] ++ options ++ files

/-- `determine_result`, with the exit code of type `E`. -/
def determineResult {E : Type} (resultDone : String) (_exitCode : E) (_output : List String)
    (_isTimeout : Bool) : String := resultDone

def getValueFromOutput (lines : List String) (identifier : String) : Option String :=
  BenchExec.getValueFromOutput lines identifier

end BaseTool2

namespace BaseTool

def requiredPaths : List String := []

def executable (findExecutable : String → String) : String := findExecutable "tool"

def name : String := "UNKOWN"

def version (executable : String) : String := BenchExec.version executable

def environment (executable : String) : Environment := BenchExec.environment executable

def programFiles (expandFilenamePattern : String → String → List String)
    (requiredPaths : List String) (executable : String) : List String :=
  BenchExec.programFiles expandFilenamePattern requiredPaths executable

def workingDirectory (executable : String) : String := BenchExec.workingDirectory executable

/-- `cmdline`: `[executable] + options + tasks`; the property file and the limits
are not read. -/
def cmdline (executable : String) (options tasks : List String)
    (_propertyfile : Option String := none) (_rlimits : List (String × Int) := []) :
    List String :=
  [executable] ++ options ++ tasks

def determineResult (resultDone : String) (_returncode _returnsignal : Int)
    (_output : List String) (_isTimeout : Bool) : String := resultDone

def getValueFromOutput (lines : List String) (identifier : String) : Option String :=
  BenchExec.getValueFromOutput lines identifier

end BaseTool

/-! ### Program files -/

section ProgramFiles

variable (expandFilenamePattern : String → String → List String) (requiredPaths : List String)

/-- For an executable `dir/name`, the default `program_files` is the executable
followed by the expansions of the patterns relative to `dir`. -/
theorem programFiles_of_dir {d name : List Char} {c : Char} (hc : c ≠ '/')
    (hname : '/' ∉ name) :
    programFiles expandFilenamePattern requiredPaths ⟨d ++ c :: '/' :: name⟩ =
      ⟨d ++ c :: '/' :: name⟩ ::
        (requiredPaths.map (expandFilenamePattern · ⟨d ++ [c]⟩)).flatten := by
  simp [programFiles, programFilesFromExecutable, Py.dirname_append_name hc hname]

theorem programFiles_of_dir_bin :
    'n' ≠ '/' ∧ '/' ∉ "tool".data ∧
      programFiles (fun pattern dir => [dir ++ "/" ++ pattern]) ["lib/*.so"] "bin/tool" =
        ["bin/tool", "bin/lib/*.so"] :=
  ⟨by decide, by decide,
    programFiles_of_dir (d := ['b', 'i']) (fun pattern dir => [dir ++ "/" ++ pattern]) _
      (by decide) (by decide)⟩

/-- `_program_files_from_executable` expands the patterns of an executable
`dir/name` relative to `dir/..` when asked for the parent directory, and those of
an executable given by its bare name relative to `""`, the current directory, or
to `..`. -/
theorem programFilesFromExecutable_baseDir :
    (∀ {d name : List Char} {c : Char}, c ≠ '/' → '/' ∉ name →
      programFilesFromExecutable expandFilenamePattern ⟨d ++ c :: '/' :: name⟩ requiredPaths
          true =
        (requiredPaths.map
          (expandFilenamePattern · (⟨d ++ [c]⟩ ++ "/" ++ Py.pardir))).flatten) ∧
      ∀ {executable : String} (parentDir : Bool), '/' ∉ executable.data →
        programFilesFromExecutable expandFilenamePattern executable requiredPaths parentDir =
          (requiredPaths.map
            (expandFilenamePattern · (if parentDir then Py.pardir else ""))).flatten := by
  refine ⟨fun hc hname => ?_, fun parentDir h => ?_⟩
  · simp [programFilesFromExecutable, Py.dirname_append_name hc hname, Py.join_pardir hc]
  · cases parentDir <;>
      simp [programFilesFromExecutable, Py.dirname_of_not_mem h, Py.join, Py.startswith]

end ProgramFiles

/-! ### The command line -/

namespace BaseTool2

variable {ω : Type} (executable : String) (options : List String)

/-- On every task the constructor returns, `cmdline` succeeds, whatever the
limits, and passes the files or else the characters of the identifier. -/
theorem cmdline_of_wellFormed {t : Task ω} (ht : t.WellFormed) (rlimits : ResourceLimits) :
    cmdline executable options t rlimits =
      .ok ([executable] ++ options ++
        if t.inputFilesOrEmpty = [] then (t.identifier.getD "").data.map Char.toString
        else t.inputFilesOrEmpty) := by
  rw [cmdline, Task.inputFilesOrIdentifier_of_wellFormed ht]
  rfl

theorem cmdline_of_wellFormed_id :
    (⟨[], some "id", none, none⟩ : Task Unit).WellFormed ∧
      cmdline "exe" ["-v"] (⟨[], some "id", none, none⟩ : Task Unit) (ResourceLimits.new) =
        .ok ["exe", "-v", "i", "d"] :=
  ⟨by decide, cmdline_of_wellFormed _ _ (by decide) _⟩

theorem cmdline_eq_ok_iff {t : Task ω} (rlimits : ResourceLimits) {files : List String} :
    cmdline executable options t rlimits = .ok ([executable] ++ options ++ files) ↔
      t.inputFilesOrIdentifier = .ok files := by
  rw [cmdline]
  cases t.inputFilesOrIdentifier <;> simp [bind, Except.bind, pure, Except.pure]

/-- The default command line of the spec, `[executable, *options,
*task.files-or-identifier]`. -/
def TaskSpec.cmdline (executable : String) (options : List String) (task : TaskSpec) :
    List String :=
  [executable] ++ options ++ task.filesOrIdentifier

/-- On every task the constructor returns, the default `cmdline` builds the
spec's command line exactly when the task has files or an identifier of one
character. -/
theorem cmdline_eq_spec_iff {inputFiles : List String}
    {identifier propertyFile : Option String} {taskOptions : Option ω} {t : Task ω}
    (h : Task.new inputFiles identifier propertyFile taskOptions = .ok t)
    (rlimits : ResourceLimits) :
    cmdline executable options t rlimits =
        .ok ((Task.Valid.toSpec ⟨t, Task.wellFormed_of_new_eq_ok h⟩).cmdline executable
          options) ↔
      inputFiles ≠ [] ∨ (identifier.getD "").length = 1 := by
  obtain ⟨-, rfl⟩ := Task.new_eq_ok_iff.1 h
  exact (cmdline_eq_ok_iff executable options rlimits).trans
    (Task.inputFilesOrIdentifier_eq_spec_iff ⟨_, Task.wellFormed_of_new_eq_ok h⟩)

theorem cmdline_eq_spec_iff_ab :
    Task.new [] (some "ab") none (none : Option Unit) = .ok ⟨[], some "ab", none, none⟩ ∧
      (cmdline "exe" [] (⟨[], some "ab", none, none⟩ : Task Unit) ResourceLimits.new =
          .ok (TaskSpec.cmdline "exe" []
            (Task.Valid.toSpec (⟨⟨[], some "ab", none, none⟩, by decide⟩ : Task.Valid Unit))) ↔
        ([] : List String) ≠ [] ∨ ("ab" : String).length = 1) :=
  have h : Task.new [] (some "ab") none (none : Option Unit) =
      .ok ⟨[], some "ab", none, none⟩ := rfl
  ⟨h, cmdline_eq_spec_iff "exe" [] h ResourceLimits.new⟩

/-- The identifier `"ab"` reaches the command line as the two arguments `"a"`
and `"b"`. -/
theorem cmdline_withoutFiles_splits_identifier :
    ∃ t, Task.withoutFiles (ω := Unit) (some "ab") = .ok t ∧
      t.inputFilesOrIdentifier = .ok ["a", "b"] ∧
      ∀ rlimits, cmdline "exe" [] t rlimits = .ok ["exe", "a", "b"] :=
  ⟨_, rfl, rfl, fun _ => rfl⟩

end BaseTool2

end BenchExec
