import BenchExec.Python

/-!
# The version probe `_version_from_tool`

`BaseTool2._version_from_tool` and `BaseTool._version_from_tool` have one body:
run `[executable, arg]`; give up with a logged warning when the launch fails,
when there is error output that was neither asked for nor to be ignored, or
when the exit code is not zero; and otherwise return the selected stream
stripped or, given a `line_prefix`, the stripped rest of the first line that
starts with it. Both are the one definition `versionFromTool`.

The subprocess is the function `run` from a command line to what
`communicate()` and `returncode` give, or to the `OSError` it raised. The
decoding of bytes, `util.decode_to_string`, is the parameter `decode`; it may
raise, a `UnicodeDecodeError` on bytes that are not UTF-8, and the probe does
not catch that, so the probe returns an `Except`. `VersionSpec` is the probe as
the spec words it, one constructor per clause, and `version_probe_meets_spec`
says that on a run whose streams decode the code returns exactly the value it
allows. The laws after it say what the result depends on;
`version_eq_nextMatch` says that the strip of the whole output before the line
search matters only at its start.
-/

namespace BenchExec

/-- What the finished subprocess gave: its two captured streams and its exit
code. -/
structure Completed where
  stdout : List UInt8
  stderr : List UInt8
  returncode : Int
  deriving DecidableEq, Repr

/-- The `OSError` of a launch that failed. -/
structure OSError where
  strerror : String
  deriving DecidableEq, Repr

/-- One call of the probe: the string it returns and the warning it logs. -/
structure Probe where
  version : String
  warning : Option String
  deriving DecidableEq, Repr

section Probe

variable (decode : List UInt8 → Except PyError String)

/-- `next(matches, "")` for the generator `matches` of the `lines` that start
with `linePrefix`, each cut after the prefix and stripped. -/
def firstMatch (linePrefix : String) (lines : List String) : String :=
  ((lines.filter (Py.startswith · linePrefix)).map
    fun line => Py.strip (Py.sliceFrom line linePrefix.length)).headD ""

/-- `next(matches, "")` over the lines of `output.splitlines()`. -/
def nextMatch (linePrefix output : String) : String :=
  firstMatch linePrefix (Py.splitlines output)

/-- The last step of the probe, `if line_prefix: output = next(matches, "")`. -/
def afterLinePrefix (linePrefix : Option String) (output : String) : String :=
  match linePrefix with
  | some pre => if pre != "" then nextMatch pre output else output
  | none => output

@[simp] theorem afterLinePrefix_none (output : String) :
    afterLinePrefix none output = output := rfl

@[simp] theorem afterLinePrefix_some (pre output : String) :
    afterLinePrefix (some pre) output = if pre != "" then nextMatch pre output else output :=
  rfl

@[simp] theorem nextMatch_empty (linePrefix : String) : nextMatch linePrefix "" = "" := rfl

@[simp] theorem afterLinePrefix_empty (linePrefix : Option String) :
    afterLinePrefix linePrefix "" = "" := by
  rcases linePrefix with _ | pre <;> simp

/-- `_version_from_tool`. -/
def versionFromTool (run : List String → Except OSError Completed) (executable : String)
    (arg : String := "--version") (useStderr ignoreStderr : Bool := false)
    (linePrefix : Option String := none) : Except PyError Probe :=
  match run [executable, arg] with
  | .error e =>
      .ok ⟨"", some ("Cannot run " ++ executable ++ " to determine version: " ++ e.strerror)⟩
  | .ok process =>
      if !process.stderr.isEmpty && !useStderr && !ignoreStderr then do
        let errorOutput ← decode process.stderr
        return ⟨"", some ("Cannot determine " ++ executable ++ " version, error output: " ++
          errorOutput)⟩
      else if process.returncode != 0 then
        .ok ⟨"", some ("Cannot determine " ++ executable ++ " version, exit code " ++
          toString process.returncode)⟩
      else do
        let output ← decode (if useStderr then process.stderr else process.stdout)
        return ⟨afterLinePrefix linePrefix (Py.strip output), none⟩

/-- `BaseTool2._version_from_tool`. -/
def BaseTool2.versionFromTool (run : List String → Except OSError Completed)
    (executable : String) (arg : String := "--version") (useStderr ignoreStderr : Bool := false)
    (linePrefix : Option String := none) : Except PyError Probe :=
  BenchExec.versionFromTool decode run executable arg useStderr ignoreStderr linePrefix

/-- `BaseTool._version_from_tool`. -/
def BaseTool.versionFromTool (run : List String → Except OSError Completed)
    (executable : String) (arg : String := "--version") (useStderr ignoreStderr : Bool := false)
    (linePrefix : Option String := none) : Except PyError Probe :=
  BenchExec.versionFromTool decode run executable arg useStderr ignoreStderr linePrefix

example : versionFromTool (fun _ => .error (.unicodeDecodeError "invalid start byte"))
    (fun _ => .ok ⟨[255], [], 0⟩) "tool" =
      .error (.unicodeDecodeError "invalid start byte") := by
  decide

/-- The checks the spec names: no error output unless it was asked for or is to
be ignored, and the exit code zero. -/
def Passed (process : Completed) (useStderr ignoreStderr : Bool) : Prop :=
  (process.stderr = [] ∨ useStderr = true ∨ ignoreStderr = true) ∧ process.returncode = 0

instance (process : Completed) (useStderr ignoreStderr : Bool) :
    Decidable (Passed process useStderr ignoreStderr) :=
  inferInstanceAs (Decidable (_ ∧ _))

/-- The probe as the spec words it: `VersionSpec decode outcome useStderr
ignoreStderr linePrefix r` says that `r` is what the spec allows for the run
`outcome`. -/
inductive VersionSpec (outcome : Except OSError Completed) (useStderr ignoreStderr : Bool)
    (linePrefix : Option String) : String → Prop
  /-- The launch failed. -/
  | launchFailed (e : OSError) : outcome = .error e →
      VersionSpec outcome useStderr ignoreStderr linePrefix ""
  /-- There is error output, neither asked for nor to be ignored. -/
  | stderrOutput (process : Completed) : outcome = .ok process → process.stderr ≠ [] →
      useStderr = false → ignoreStderr = false →
      VersionSpec outcome useStderr ignoreStderr linePrefix ""
  /-- The exit code is not zero. -/
  | exitCode (process : Completed) : outcome = .ok process → process.returncode ≠ 0 →
      VersionSpec outcome useStderr ignoreStderr linePrefix ""
  /-- No prefix, or an empty one: the selected stream, decoded and stripped. -/
  | whole (process : Completed) (output : String) : outcome = .ok process →
      Passed process useStderr ignoreStderr →
      decode (if useStderr then process.stderr else process.stdout) = .ok output →
      Py.truthy linePrefix = false →
      VersionSpec outcome useStderr ignoreStderr linePrefix (Py.strip output)
  /-- The stripped rest of the first line of the stripped stream that starts
  with the prefix. -/
  | firstLine (process : Completed) (output pre line : String) (before after : List String) :
      outcome = .ok process → Passed process useStderr ignoreStderr →
      decode (if useStderr then process.stderr else process.stdout) = .ok output →
      linePrefix = some pre → pre ≠ "" →
      Py.splitlines (Py.strip output) = before ++ line :: after →
      (∀ l ∈ before, Py.startswith l pre = false) → Py.startswith line pre = true →
      VersionSpec outcome useStderr ignoreStderr linePrefix
        (Py.strip (Py.sliceFrom line pre.length))
  /-- No line starts with the prefix. -/
  | noLine (process : Completed) (output pre : String) : outcome = .ok process →
      Passed process useStderr ignoreStderr →
      decode (if useStderr then process.stderr else process.stdout) = .ok output →
      linePrefix = some pre → pre ≠ "" →
      (∀ l ∈ Py.splitlines (Py.strip output), Py.startswith l pre = false) →
      VersionSpec outcome useStderr ignoreStderr linePrefix ""

/-! ### The first matching line -/

theorem nextMatch_of_first {pre output line : String} {before after : List String}
    (hlines : Py.splitlines output = before ++ line :: after)
    (hbefore : ∀ l ∈ before, Py.startswith l pre = false)
    (hline : Py.startswith line pre = true) :
    nextMatch pre output = Py.strip (Py.sliceFrom line pre.length) := by
  have hfilter : (Py.splitlines output).filter (Py.startswith · pre) =
      line :: after.filter (Py.startswith · pre) :=
    List.filter_eq_cons_iff.2 ⟨before, after, hlines, by simpa using hbefore, hline, rfl⟩
  simp [nextMatch, firstMatch, hfilter]

theorem nextMatch_of_forall {pre output : String}
    (h : ∀ l ∈ Py.splitlines output, Py.startswith l pre = false) :
    nextMatch pre output = "" := by
  have hfilter : (Py.splitlines output).filter (Py.startswith · pre) = [] :=
    List.filter_eq_nil_iff.2 (by simpa using h)
  simp [nextMatch, firstMatch, hfilter]

theorem first_or_forall (pre output : String) :
    (∃ line before after, Py.splitlines output = before ++ line :: after ∧
        (∀ l ∈ before, Py.startswith l pre = false) ∧ Py.startswith line pre = true) ∨
      ∀ l ∈ Py.splitlines output, Py.startswith l pre = false := by
  cases h : (Py.splitlines output).filter (Py.startswith · pre) with
  | nil => exact .inr (by simpa using List.filter_eq_nil_iff.1 h)
  | cons line _ =>
      obtain ⟨before, after, hlines, hbefore, hline, -⟩ := List.filter_eq_cons_iff.1 h
      exact .inl ⟨line, before, after, hlines, by simpa using hbefore, hline⟩

/-! ### White space around the output -/

@[simp] theorem firstMatch_nil (linePrefix : String) : firstMatch linePrefix [] = "" := rfl

theorem firstMatch_cons (linePrefix l : String) (lines : List String) :
    firstMatch linePrefix (l :: lines) =
      if Py.startswith l linePrefix then Py.strip (Py.sliceFrom l linePrefix.length)
      else firstMatch linePrefix lines := by
  by_cases h : Py.startswith l linePrefix <;> simp [firstMatch, List.filter_cons, h]

theorem firstMatch_of_isBlank (linePrefix : String) {lines : List String}
    (h : ∀ l ∈ lines, Py.IsBlank l) : firstMatch linePrefix lines = "" := by
  induction lines with
  | nil => rfl
  | cons l lines ih =>
      rw [firstMatch_cons, ih fun l' hl' => h l' (List.mem_cons_of_mem l hl')]
      split_ifs
      · exact Py.strip_of_isBlank fun c hc =>
          h l (List.mem_cons_self l lines) c (List.mem_of_mem_drop hc)
      · rfl

/-- White space at the end of the last line changes no match: the rest after the
prefix is stripped anyway, and a prefix that reaches into the white space leaves
only white space. -/
theorem firstMatch_last (linePrefix l : String) {w : List Char}
    (hw : ∀ c ∈ w, Py.isSpace c = true) {tail : List String}
    (htail : ∀ l ∈ tail, Py.IsBlank l) :
    firstMatch linePrefix (⟨l.data ++ w⟩ :: tail) = firstMatch linePrefix [l] := by
  rw [firstMatch_cons, firstMatch_cons, firstMatch_of_isBlank _ htail, firstMatch_nil]
  by_cases hl : Py.startswith l linePrefix
  · have hpre := List.isPrefixOf_iff_prefix.1 hl
    have hlen : linePrefix.length ≤ l.data.length := hpre.length_le
    have hlw : Py.startswith ⟨l.data ++ w⟩ linePrefix :=
      List.isPrefixOf_iff_prefix.2 (hpre.trans (List.prefix_append _ _))
    rw [if_pos hlw, if_pos hl]
    show Py.strip ⟨(l.data ++ w).drop linePrefix.length⟩ = Py.strip ⟨l.data.drop _⟩
    rw [List.drop_append_of_le_length hlen]
    exact Py.strip_append_blank _ hw
  · rw [if_neg hl]
    split_ifs with hlw
    · have hlen : l.data.length ≤ linePrefix.length := by
        by_contra hlt
        exact hl (List.isPrefixOf_iff_prefix.2 (List.prefix_of_prefix_length_le
          (List.isPrefixOf_iff_prefix.1 hlw) (List.prefix_append _ _) (Nat.le_of_not_le hlt)))
      refine Py.strip_of_isBlank fun c hc => ?_
      have hcw : c ∈ w.drop (linePrefix.length - l.data.length) := by
        simpa [Py.sliceFrom, List.drop_append_eq_append_drop, List.drop_eq_nil_of_le hlen]
          using hc
      exact hw c (List.mem_of_mem_drop hcw)
    · rfl

theorem firstMatch_of_blankExtension (linePrefix : String) {lines lines' : List String}
    (h : Py.BlankExtension lines lines') :
    firstMatch linePrefix lines' = firstMatch linePrefix lines := by
  induction h with
  | blanks htail => exact firstMatch_of_isBlank _ htail
  | last l hw htail => exact firstMatch_last _ l hw htail
  | cons l _ ih => rw [firstMatch_cons, firstMatch_cons, ih]

/-- White space at the end of the output never changes the search for a line
prefix. -/
theorem nextMatch_rdropWhile (linePrefix : String) (t : List Char) :
    nextMatch linePrefix ⟨t.rdropWhile Py.isSpace⟩ = nextMatch linePrefix ⟨t⟩ := by
  have hsplit : t.rdropWhile Py.isSpace ++ t.rtakeWhile Py.isSpace = t := by
    rw [List.rdropWhile, List.rtakeWhile, ← List.reverse_append,
      List.takeWhile_append_dropWhile, List.reverse_reverse]
  have hlast : ∀ c ∈ (t.rdropWhile Py.isSpace).getLast?, Py.isLineBreak c = false :=
    fun c hc => Bool.eq_false_iff.2 (mt Py.isSpace_of_isLineBreak
      (Bool.eq_false_iff.1 (Py.getLast?_rdropWhile Py.isSpace t c hc)))
  conv_rhs => rw [← hsplit]
  exact (firstMatch_of_blankExtension _ (Py.splitlinesFrom_append_blank
    (fun _ hc => List.mem_rtakeWhile_imp hc) [] _ hlast)).symm

theorem nextMatch_strip (linePrefix : String) {output : String}
    (hlead : ∀ c ∈ output.data.head?, Py.isSpace c = false) :
    nextMatch linePrefix (Py.strip output) = nextMatch linePrefix output := by
  have hdrop : output.data.dropWhile Py.isSpace = output.data := by
    cases h : output.data with
    | nil => rfl
    | cons c cs => exact List.dropWhile_cons_of_neg (by simp [hlead c (by simp [h])])
  rw [Py.strip, hdrop]
  exact nextMatch_rdropWhile linePrefix output.data

/-! ### The code meets the spec -/

variable {decode}

theorem stderr_test_iff (process : Completed) (useStderr ignoreStderr : Bool) :
    (!process.stderr.isEmpty && !useStderr && !ignoreStderr) = true ↔
      ¬(process.stderr = [] ∨ useStderr = true ∨ ignoreStderr = true) := by
  cases useStderr <;> cases ignoreStderr <;> simp

theorem version_of_ok {run : List String → Except OSError Completed}
    {executable arg : String} {useStderr ignoreStderr : Bool} (linePrefix : Option String)
    {process : Completed} (hrun : run [executable, arg] = .ok process) :
    Probe.version <$> versionFromTool decode run executable arg useStderr ignoreStderr
        linePrefix =
      if Passed process useStderr ignoreStderr then
        (fun output => afterLinePrefix linePrefix (Py.strip output)) <$>
          decode (if useStderr then process.stderr else process.stdout)
      else if process.stderr = [] ∨ useStderr = true ∨ ignoreStderr = true then .ok ""
      else (fun _ => "") <$> decode process.stderr := by
  simp only [versionFromTool, hrun]
  by_cases hs : process.stderr = [] ∨ useStderr = true ∨ ignoreStderr = true
  · rw [if_neg (mt (stderr_test_iff ..).1 (not_not.2 hs)), if_pos hs]
    by_cases hr : process.returncode = 0
    · have hp : Passed process useStderr ignoreStderr := ⟨hs, hr⟩
      rw [if_neg (by simpa using hr), if_pos hp]
      cases decode (if useStderr then process.stderr else process.stdout) <;> rfl
    · rw [if_pos (by simpa using hr), if_neg fun hp => hr hp.2]
      rfl
  · rw [if_pos ((stderr_test_iff ..).2 hs), if_neg fun hp => hs hp.1, if_neg hs]
    cases decode process.stderr <;> rfl

theorem version_eq_empty_of_not_passed {run : List String → Except OSError Completed}
    {executable arg : String} {useStderr ignoreStderr : Bool} {linePrefix : Option String}
    {process : Completed} {r : String} (hrun : run [executable, arg] = .ok process)
    (hp : ¬Passed process useStderr ignoreStderr)
    (h : Probe.version <$> versionFromTool decode run executable arg useStderr ignoreStderr
      linePrefix = .ok r) : r = "" := by
  rw [version_of_ok _ hrun, if_neg hp] at h
  split_ifs at h
  · exact (Except.ok.inj h).symm
  · obtain ⟨_, _, rfl⟩ := map_eq_ok.1 h
    rfl

theorem VersionSpec.of_passed {process : Completed} {useStderr ignoreStderr : Bool}
    {output : String} (hp : Passed process useStderr ignoreStderr)
    (hout : decode (if useStderr then process.stderr else process.stdout) = .ok output)
    (linePrefix : Option String) :
    VersionSpec decode (.ok process) useStderr ignoreStderr linePrefix
      (afterLinePrefix linePrefix (Py.strip output)) := by
  rcases linePrefix with _ | pre
  · exact .whole process output rfl hp hout rfl
  by_cases hpre : pre = ""
  · subst hpre
    exact .whole process output rfl hp hout rfl
  rw [afterLinePrefix_some, if_pos (by simpa using hpre)]
  rcases first_or_forall pre (Py.strip output) with
    ⟨line, before, after, hlines, hbefore, hline⟩ | hnone
  · rw [nextMatch_of_first hlines hbefore hline]
    exact .firstLine process output pre line before after rfl hp hout rfl hpre hlines hbefore
      hline
  · rw [nextMatch_of_forall hnone]
    exact .noLine process output pre rfl hp hout rfl hpre hnone

theorem VersionSpec.of_not_passed {process : Completed} {useStderr ignoreStderr : Bool}
    (hp : ¬Passed process useStderr ignoreStderr) (linePrefix : Option String) :
    VersionSpec decode (.ok process) useStderr ignoreStderr linePrefix "" := by
  by_cases hr : process.returncode = 0
  · have hs : ¬(process.stderr = [] ∨ useStderr = true ∨ ignoreStderr = true) :=
      fun hs => hp ⟨hs, hr⟩
    simp only [not_or, Bool.not_eq_true] at hs
    exact .stderrOutput process rfl hs.1 hs.2.1 hs.2.2
  · exact .exitCode process rfl hr

/-- The code returns only values the spec allows. -/
theorem versionFromTool_spec {run : List String → Except OSError Completed}
    {executable arg : String} {useStderr ignoreStderr : Bool} {linePrefix : Option String}
    {r : String}
    (h : Probe.version <$> versionFromTool decode run executable arg useStderr ignoreStderr
      linePrefix = .ok r) :
    VersionSpec decode (run [executable, arg]) useStderr ignoreStderr linePrefix r := by
  cases hrun : run [executable, arg] with
  | error e =>
      simp only [versionFromTool, hrun, Except.map_ok, Except.ok.injEq] at h
      subst h
      exact .launchFailed e rfl
  | ok process =>
      by_cases hp : Passed process useStderr ignoreStderr
      · rw [version_of_ok _ hrun, if_pos hp] at h
        obtain ⟨output, hout, rfl⟩ := map_eq_ok.1 h
        exact .of_passed hp hout linePrefix
      · rw [version_eq_empty_of_not_passed hrun hp h]
        exact .of_not_passed hp linePrefix

example : versionFromTool (fun _ => .ok "tool version 1.2.3\n") (fun _ => .ok ⟨[], [], 0⟩)
    "tool" "--version" false false (some "tool version") = .ok ⟨"1.2.3", none⟩ := by
  decide

section SpecFacts

variable {outcome : Except OSError Completed} {useStderr ignoreStderr : Bool}
  {linePrefix : Option String} {r : String}

theorem VersionSpec.isStripped
    (h : VersionSpec decode outcome useStderr ignoreStderr linePrefix r) : Py.IsStripped r := by
  cases h with
  | whole => exact Py.strip_isStripped _
  | firstLine => exact Py.strip_isStripped _
  | _ => exact Py.isStripped_empty

theorem VersionSpec.noLineBreak
    (h : VersionSpec decode outcome useStderr ignoreStderr linePrefix r) {pre : String}
    (hpre : linePrefix = some pre) (hne : pre ≠ "") : Py.NoLineBreak r := by
  cases h with
  | whole _ _ _ _ _ hl => simp [hpre, hne] at hl
  | firstLine _ output _ line _ _ _ _ _ _ _ hlines =>
      have hmem : line ∈ Py.splitlines (Py.strip output) := by simp [hlines]
      exact ((Py.noLineBreak_of_mem_splitlines hmem).sliceFrom _).strip
  | _ => exact fun _ h => nomatch h

theorem VersionSpec.isInfix
    (h : VersionSpec decode outcome useStderr ignoreStderr linePrefix r) :
    r = "" ∨ ∃ process output, outcome = .ok process ∧
      decode (if useStderr then process.stderr else process.stdout) = .ok output ∧
      r.data <:+: output.data := by
  cases h with
  | whole process output h _ hout => exact .inr ⟨process, output, h, hout, Py.strip_isInfix _⟩
  | firstLine process output _ line _ _ h _ hout _ _ hlines =>
      have hmem : line ∈ Py.splitlines (Py.strip output) := by simp [hlines]
      refine .inr ⟨process, output, h, hout, (Py.strip_isInfix _).trans ?_⟩
      exact (List.drop_suffix _ _).isInfix.trans
        ((Py.isInfix_of_mem_splitlines hmem).trans (Py.strip_isInfix _))
  | _ => exact .inl rfl

end SpecFacts

variable (decode) (run : List String → Except OSError Completed) (executable arg : String)
  (useStderr ignoreStderr : Bool) (linePrefix : Option String) {r : String}

/-- The version the probe returns has no whitespace at either end. -/
theorem versionFromTool_isStripped
    (h : Probe.version <$> versionFromTool decode run executable arg useStderr ignoreStderr
      linePrefix = .ok r) :
    Py.IsStripped r :=
  (versionFromTool_spec h).isStripped

theorem versionFromTool_isStripped_tool :
    Probe.version <$> versionFromTool (fun _ => .ok " 1.2.3\n") (fun _ => .ok ⟨[], [], 0⟩)
        "tool" = .ok "1.2.3" ∧ Py.IsStripped "1.2.3" :=
  ⟨by decide, versionFromTool_isStripped (fun _ => .ok " 1.2.3\n") (fun _ => .ok ⟨[], [], 0⟩)
    "tool" "--version" false false none (by decide)⟩

/-- Given a non-empty `line_prefix`, the probe returns the rest of one line. -/
theorem versionFromTool_noLineBreak (pre : String) (hpre : pre ≠ "")
    (h : Probe.version <$> versionFromTool decode run executable arg useStderr ignoreStderr
      (some pre) = .ok r) :
    Py.NoLineBreak r :=
  (versionFromTool_spec h).noLineBreak rfl hpre

theorem versionFromTool_noLineBreak_tool :
    "tool version" ≠ "" ∧
      Probe.version <$> versionFromTool (fun _ => .ok "tool version 1.2.3\n")
        (fun _ => .ok ⟨[], [], 0⟩) "tool" "--version" false false (some "tool version") =
        .ok "1.2.3" ∧ Py.NoLineBreak "1.2.3" :=
  ⟨by decide, by decide, versionFromTool_noLineBreak (fun _ => .ok "tool version 1.2.3\n")
    (fun _ => .ok ⟨[], [], 0⟩) "tool" "--version" false false "tool version" (by decide)
    (by decide)⟩

/-- The probe reads of a run only its exit code, whether there was error output,
and the stream it selects: two runs that agree on these and both return get the
same version. -/
theorem version_congr (run' : List String → Except OSError Completed)
    {process process' : Completed} {r' : String} (hrun : run [executable, arg] = .ok process)
    (hrun' : run' [executable, arg] = .ok process')
    (hcode : process.returncode = process'.returncode)
    (hstderr : process.stderr = [] ↔ process'.stderr = [])
    (hselected : (if useStderr then process.stderr else process.stdout) =
      if useStderr then process'.stderr else process'.stdout)
    (h : Probe.version <$> versionFromTool decode run executable arg useStderr ignoreStderr
      linePrefix = .ok r)
    (h' : Probe.version <$> versionFromTool decode run' executable arg useStderr ignoreStderr
      linePrefix = .ok r') :
    r = r' := by
  have hpassed :
      Passed process useStderr ignoreStderr ↔ Passed process' useStderr ignoreStderr := by
    rw [Passed, Passed, hstderr, hcode]
  by_cases hp : Passed process useStderr ignoreStderr
  · rw [version_of_ok _ hrun, if_pos hp, hselected] at h
    rw [version_of_ok _ hrun', if_pos (hpassed.1 hp)] at h'
    exact Except.ok.inj (h.symm.trans h')
  · rw [version_eq_empty_of_not_passed hrun hp h,
      version_eq_empty_of_not_passed hrun' (mt hpassed.2 hp) h']

theorem version_congr_ignored_stderr :
    Probe.version <$> versionFromTool (fun b => .ok (if b = [] then "" else "1.0"))
        (fun _ => .ok ⟨[1], [1], 0⟩) "tool" "--version" false true = .ok "1.0" ∧
      Probe.version <$> versionFromTool (fun b => .ok (if b = [] then "" else "1.0"))
        (fun _ => .ok ⟨[1], [2], 0⟩) "tool" "--version" false true = .ok "1.0" ∧
      ("1.0" : String) = "1.0" :=
  ⟨by decide, by decide, version_congr (fun b => .ok (if b = [] then "" else "1.0"))
    (fun _ => .ok ⟨[1], [1], 0⟩) "tool" "--version" false true none
    (fun _ => .ok ⟨[1], [2], 0⟩) rfl rfl rfl (by simp) rfl (by decide) (by decide)⟩

/-- The probe returns only what the tool printed: its version is empty or a
contiguous piece of the decoded stream it selects. -/
theorem versionFromTool_isInfix
    (h : Probe.version <$> versionFromTool decode run executable arg useStderr ignoreStderr
      linePrefix = .ok r) :
    r = "" ∨ ∃ process output, run [executable, arg] = .ok process ∧
      decode (if useStderr then process.stderr else process.stdout) = .ok output ∧
      r.data <:+: output.data :=
  (versionFromTool_spec h).isInfix

theorem versionFromTool_isInfix_tool :
    Probe.version <$> versionFromTool (fun _ => .ok "tool version 1.2.3\n")
        (fun _ => .ok ⟨[], [], 0⟩) "tool" "--version" false false (some "tool version") =
        .ok "1.2.3" ∧
      ("1.2.3" = "" ∨ ∃ process output,
        (fun _ => .ok ⟨[], [], 0⟩ : List String → Except OSError Completed)
          ["tool", "--version"] = .ok process ∧
        (fun _ => .ok "tool version 1.2.3\n" : List UInt8 → Except PyError String)
          (if false then process.stderr else process.stdout) = .ok output ∧
        "1.2.3".data <:+: output.data) :=
  ⟨by decide, versionFromTool_isInfix (fun _ => .ok "tool version 1.2.3\n")
    (fun _ => .ok ⟨[], [], 0⟩) "tool" "--version" false false (some "tool version")
    (by decide)⟩

/-- The line-prefix search is a last step on top of the probe: with any
`line_prefix`, the probe returns what the search makes of the version it
returns without one, and raises exactly when it raises without one. -/
theorem version_eq_afterLinePrefix :
    Probe.version <$> versionFromTool decode run executable arg useStderr ignoreStderr
        linePrefix =
      (fun probe => afterLinePrefix linePrefix probe.version) <$>
        versionFromTool decode run executable arg useStderr ignoreStderr none := by
  cases hrun : run [executable, arg] with
  | error e => simp [versionFromTool, hrun]
  | ok process =>
      have hmap : ∀ x : Except PyError Probe,
          (fun probe => afterLinePrefix linePrefix probe.version) <$> x =
            afterLinePrefix linePrefix <$> (Probe.version <$> x) :=
        fun x => by cases x <;> rfl
      rw [hmap, version_of_ok _ hrun, version_of_ok _ hrun]
      by_cases hp : Passed process useStderr ignoreStderr
      · rw [if_pos hp, if_pos hp]
        cases decode (if useStderr then process.stderr else process.stdout) <;> rfl
      · rw [if_neg hp, if_neg hp]
        split_ifs
        · simp
        · cases decode process.stderr <;> simp

/-- `ignore_stderr` matters only for a launched run with error output that is
read without `use_stderr`: there the probe returns `""` unless the flag is set
(for error output that decodes), and on every other run the flag changes
nothing. -/
theorem version_ignoreStderr :
    (∀ process, run [executable, arg] = .ok process → process.stderr ≠ [] →
        useStderr = false → (∃ err, decode process.stderr = .ok err) →
        Probe.version <$> versionFromTool decode run executable arg useStderr false
          linePrefix = .ok "") ∧
      ((∀ process, run [executable, arg] = .ok process →
          process.stderr = [] ∨ useStderr = true) →
        versionFromTool decode run executable arg useStderr false linePrefix =
          versionFromTool decode run executable arg useStderr true linePrefix) := by
  refine ⟨fun process hrun hs hu ⟨err, herr⟩ => ?_, fun hread => ?_⟩
  · rw [version_of_ok _ hrun, if_neg (by simp [Passed, hs, hu]), if_neg (by simp [hs, hu]),
      herr]
    rfl
  · cases hrun : run [executable, arg] with
    | error e => simp [versionFromTool, hrun]
    | ok process =>
        simp only [versionFromTool, hrun]
        rcases hread process hrun with hs | hs <;> simp [hs]

/-- When the stream the probe reads decodes to text that does not begin with
white space, the search for `line_prefix` reads the lines as the tool printed
them: stripping the whole output first changes nothing. -/
theorem version_eq_nextMatch {pre output : String} {process : Completed} (hpre : pre ≠ "")
    (hrun : run [executable, arg] = .ok process)
    (hpassed : Passed process useStderr ignoreStderr)
    (hout : decode (if useStderr then process.stderr else process.stdout) = .ok output)
    (hlead : ∀ c ∈ output.data.head?, Py.isSpace c = false) :
    Probe.version <$> versionFromTool decode run executable arg useStderr ignoreStderr
      (some pre) = .ok (nextMatch pre output) := by
  rw [version_of_ok _ hrun, if_pos hpassed, hout, ← nextMatch_strip pre hlead]
  simp [hpre]

theorem version_eq_nextMatch_tool :
    "tool version" ≠ "" ∧ Passed ⟨[], [], 0⟩ false false ∧
      Probe.version <$> versionFromTool (fun _ => .ok "Checker\ntool version 1.2.3 \n")
          (fun _ => .ok ⟨[], [], 0⟩) "tool" "--version" false false (some "tool version") =
        .ok (nextMatch "tool version" "Checker\ntool version 1.2.3 \n") :=
  ⟨by decide, ⟨.inl rfl, rfl⟩,
    version_eq_nextMatch _ _ _ _ _ _ (by decide) rfl ⟨.inl rfl, rfl⟩ rfl (by decide)⟩

/- Leading white space is stripped before the lines are cut, so an indented first
line still matches the prefix. -/
example : Probe.version <$> versionFromTool (fun _ => .ok " tool version 1.2.3\n")
      (fun _ => .ok ⟨[], [], 0⟩) "tool" "--version" false false (some "tool version") =
      .ok "1.2.3" ∧
    nextMatch "tool version" " tool version 1.2.3\n" = "" := by
  decide

end Probe

end BenchExec
