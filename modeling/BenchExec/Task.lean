import BenchExec.Python
import Mathlib.Logic.Basic

/-!
# `BaseTool2.Task`

A task is the namedtuple `(input_files_or_empty, identifier, property_file,
options)`. Its constructor `__new__` turns `input_files` into a tuple, asserts
that exactly one of that tuple and the identifier is truthy, and deep-copies the
options, which is the identity on values. The options are whatever the
task-definition file holds and no method reads them, so their type `ω` is a
parameter, with `none` for Python's `None`; an iterable of input files is the
list of paths it yields.

`Task.WellFormed` is the assertion read as an invariant, and `Task.Valid` the
tasks that carry it; `wellFormed_of_new_eq_ok` gives one for every task the
constructor returns. Over them `TaskSpec` is the task the spec describes, a
non-empty list of files or a non-empty name, with its accessor
"files-or-identifier"; `inputFilesOrIdentifier_eq_spec_iff` says where the
code's accessor agrees with it.
-/

namespace BenchExec

namespace BaseTool2

/-- The namedtuple `Task`. -/
structure Task (ω : Type) where
  inputFilesOrEmpty : List String
  identifier : Option String
  propertyFile : Option String
  options : Option ω
  deriving DecidableEq, Repr

namespace Task

variable {ω : Type}

/-- `Task.__new__`. -/
def new (inputFiles : List String) (identifier propertyFile : Option String)
    (options : Option ω) : Except PyError (Task ω) :=
  if (!inputFiles.isEmpty) != Py.truthy identifier then
    .ok ⟨inputFiles, identifier, propertyFile, options⟩
  else .error (.assertionError inputFiles identifier)

/-- `Task.with_files`. -/
def withFiles (inputFiles : List String) (propertyFile : Option String := none)
    (options : Option ω := none) : Except PyError (Task ω) :=
  new inputFiles none propertyFile options

/-- `Task.without_files`. -/
def withoutFiles (identifier : Option String) (propertyFile : Option String := none)
    (options : Option ω := none) : Except PyError (Task ω) :=
  new [] identifier propertyFile options

/-- The message of the exception of `require_input_files`. -/
def unsupportedMessage : String :=
  "Tool does not support tasks without input files"

/-- `Task.require_input_files`. -/
def requireInputFiles (t : Task ω) : Except PyError Unit :=
  if t.inputFilesOrEmpty.isEmpty then .error (.unsupportedFeature unsupportedMessage)
  else .ok ()

/-- The property `Task.input_files`. -/
def inputFiles (t : Task ω) : Except PyError (List String) := do
  t.requireInputFiles
  return t.inputFilesOrEmpty

/-- The property `Task.input_files_or_identifier`, that is
`input_files_or_empty or tuple(identifier)`. -/
def inputFilesOrIdentifier (t : Task ω) : Except PyError (List String) :=
  if !t.inputFilesOrEmpty.isEmpty then .ok t.inputFilesOrEmpty else Py.tuple t.identifier

/-! ### The constructor -/

/-- The assertion of `__new__`, read as an invariant: exactly one of the files
and the identifier is given. -/
def WellFormed (t : Task ω) : Prop :=
  Xor' (t.inputFilesOrEmpty ≠ []) (Py.truthy t.identifier = true)

instance : DecidablePred (@WellFormed ω) :=
  fun _ => inferInstanceAs (Decidable (Xor' _ _))

/-- The tasks the constructor can return. -/
def Valid (ω : Type) : Type := {t : Task ω // t.WellFormed}

theorem bne_truthy_iff (inputFiles : List String) (identifier : Option String) :
    ((!inputFiles.isEmpty) != Py.truthy identifier) = true ↔
      Xor' (inputFiles ≠ []) (Py.truthy identifier = true) := by
  cases inputFiles <;> cases Py.truthy identifier <;> simp [Xor']

/-- The one spec lemma of `__new__`: it returns the record of its arguments
exactly when they pass the assertion. -/
theorem new_eq_ok_iff {inputFiles : List String} {identifier propertyFile : Option String}
    {options : Option ω} {t : Task ω} :
    new inputFiles identifier propertyFile options = .ok t ↔
      Xor' (inputFiles ≠ []) (Py.truthy identifier = true) ∧
        t = ⟨inputFiles, identifier, propertyFile, options⟩ := by
  rw [← bne_truthy_iff, new]
  split
  · simpa [*] using eq_comm
  · simp [*]

theorem new_of_not_xor {inputFiles : List String} {identifier : Option String}
    (propertyFile : Option String) (options : Option ω)
    (h : ¬Xor' (inputFiles ≠ []) (Py.truthy identifier = true)) :
    new inputFiles identifier propertyFile options =
      .error (.assertionError inputFiles identifier) := by
  rw [← bne_truthy_iff] at h
  simp [new, h]

theorem wellFormed_of_new_eq_ok {inputFiles : List String}
    {identifier propertyFile : Option String} {options : Option ω} {t : Task ω}
    (h : new inputFiles identifier propertyFile options = .ok t) : t.WellFormed := by
  obtain ⟨hx, rfl⟩ := new_eq_ok_iff.1 h
  exact hx

/-! ### The accessors -/

theorem inputFiles_eq (t : Task ω) :
    t.inputFiles =
      if t.inputFilesOrEmpty = [] then .error (.unsupportedFeature unsupportedMessage)
      else .ok t.inputFilesOrEmpty := by
  cases h : t.inputFilesOrEmpty <;> simp [inputFiles, requireInputFiles, h]

/-- On a task the constructor returned, `input_files_or_identifier` never
raises: it gives the files, or the characters of the identifier. -/
theorem inputFilesOrIdentifier_of_wellFormed {t : Task ω} (ht : t.WellFormed) :
    t.inputFilesOrIdentifier =
      .ok (if t.inputFilesOrEmpty = [] then (t.identifier.getD "").data.map Char.toString
        else t.inputFilesOrEmpty) := by
  rcases t with ⟨_ | ⟨f, fs⟩, _ | id, pf, o⟩ <;>
    simp_all [WellFormed, inputFilesOrIdentifier, Py.tuple]

/-- Every task the constructor returns holds the given files in the given order;
reading `input_files` raises exactly when there are none, and returns them
otherwise. `with_files` and `without_files` succeed exactly when their one
argument is truthy. -/
theorem new_returns_iff_exactly_one (inputFiles : List String)
    (identifier propertyFile : Option String) (options : Option ω) :
    ((∃ t, new inputFiles identifier propertyFile options = .ok t) ↔
        Xor' (inputFiles ≠ []) (Py.truthy identifier = true)) ∧
      (¬Xor' (inputFiles ≠ []) (Py.truthy identifier = true) →
        new inputFiles identifier propertyFile options =
          .error (.assertionError inputFiles identifier)) ∧
      ((∃ t, withFiles inputFiles propertyFile options = .ok t) ↔ inputFiles ≠ []) ∧
      ((∃ t, withoutFiles identifier propertyFile options = .ok t) ↔
        Py.truthy identifier = true) ∧
      ∀ t, new inputFiles identifier propertyFile options = .ok t →
        t.inputFilesOrEmpty = inputFiles ∧
          (inputFiles = [] →
            t.inputFiles = .error (.unsupportedFeature unsupportedMessage)) ∧
          (inputFiles ≠ [] → t.inputFiles = .ok t.inputFilesOrEmpty) := by
  have hreturns : ∀ (fs : List String) (id : Option String),
      (∃ t, new fs id propertyFile options = .ok t) ↔
        Xor' (fs ≠ []) (Py.truthy id = true) :=
    fun _ _ => ⟨fun ⟨_, ht⟩ => (new_eq_ok_iff.1 ht).1,
      fun hx => ⟨_, new_eq_ok_iff.2 ⟨hx, rfl⟩⟩⟩
  refine ⟨hreturns _ _, new_of_not_xor propertyFile options, ?_, ?_, ?_⟩
  · simpa [Xor'] using hreturns inputFiles none
  · simpa [Xor'] using hreturns [] identifier
  · rintro t ht
    obtain ⟨-, rfl⟩ := new_eq_ok_iff.1 ht
    simp [inputFiles_eq]

/-! ### The class methods -/

/-- `with_files` and `without_files` build exactly the tasks that pass the
assertion and, as the docstring of `identifier` says, have no identifier when
they have files. `__new__` itself also accepts files beside a falsy identifier
such as `""`, which neither class method builds. -/
theorem withFiles_or_withoutFiles_iff (t : Task ω) :
    ((∃ fs pf o, withFiles fs pf o = .ok t) ∨ ∃ id pf o, withoutFiles id pf o = .ok t) ↔
      t.WellFormed ∧ (t.inputFilesOrEmpty ≠ [] → t.identifier = none) := by
  simp only [withFiles, withoutFiles, new_eq_ok_iff]
  rcases t with ⟨_ | ⟨f, fs⟩, _ | id, pf, o⟩ <;> simp [WellFormed, Xor']

example :
    new ["a.c"] (some "") none (none : Option Unit) = .ok ⟨["a.c"], some "", none, none⟩ :=
  rfl

end Task

/-! ### The task of the spec -/

/-- The task the spec describes: a non-empty sequence of files, or a bare
non-empty name. -/
inductive TaskSpec where
  | files (inputFiles : List String) (h : inputFiles ≠ [])
  | name (identifier : String) (h : identifier ≠ "")

/-- The spec's accessor "files-or-identifier": the files, or a one-element
sequence wrapping the name. -/
def TaskSpec.filesOrIdentifier : TaskSpec → List String
  | .files inputFiles _ => inputFiles
  | .name identifier _ => [identifier]

namespace Task

variable {ω : Type}

/-- The task of the spec that a valid task stands for. -/
def Valid.toSpec : Valid ω → TaskSpec
  | ⟨⟨f :: fs, _, _, _⟩, _⟩ => .files (f :: fs) (List.cons_ne_nil f fs)
  | ⟨⟨[], some id, _, _⟩, h⟩ => .name id (by simpa [WellFormed] using h)
  | ⟨⟨[], none, _, _⟩, h⟩ => absurd h (by simp [WellFormed])

theorem map_toString_eq_singleton_iff (s : String) :
    s.data.map Char.toString = [s] ↔ s.length = 1 := by
  rcases s with ⟨_ | ⟨c, cs⟩⟩
  · simp
  · simp [String.length, Char.toString, String.singleton, String.push, String.ext_iff]

/-- The code's `input_files_or_identifier` agrees with the spec's accessor on
every task with files, and on a task without files exactly when its identifier
is one character long. -/
theorem inputFilesOrIdentifier_eq_spec_iff (t : Valid ω) :
    t.1.inputFilesOrIdentifier = .ok t.toSpec.filesOrIdentifier ↔
      t.1.inputFilesOrEmpty ≠ [] ∨ (t.1.identifier.getD "").length = 1 := by
  rcases t with ⟨⟨_ | ⟨f, fs⟩, _ | id, pf, o⟩, h⟩
  · simp [WellFormed] at h
  all_goals simp [Valid.toSpec, TaskSpec.filesOrIdentifier, inputFilesOrIdentifier, Py.tuple,
    map_toString_eq_singleton_iff]

end Task

end BaseTool2

end BenchExec
