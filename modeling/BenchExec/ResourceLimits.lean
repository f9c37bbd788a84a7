import Mathlib.Data.Option.Defs
import Mathlib.Order.Basic

/-!
# `BaseTool2.ResourceLimits`

The namedtuple `(cputime, cputime_hard, walltime, memory, cpu_cores)`. Its
docstring says that each field is a positive int or `None`, and that the two
CPU-time limits are both given, `cputime_hard` not below `cputime`, or both
`None`. Its constructor `__new__` only puts `None` for each argument left out,
and checks none of this. `ResourceLimits.WellFormed` is the documented rule: a
record the constructor returns satisfies it exactly when the caller's arguments
do (`new_wellFormed_iff`).
-/

namespace BenchExec

namespace BaseTool2

/-- The namedtuple `ResourceLimits`, with `none` for Python's `None`. -/
structure ResourceLimits where
  cputime : Option Int
  cputimeHard : Option Int
  walltime : Option Int
  memory : Option Int
  cpuCores : Option Int
  deriving DecidableEq, Repr

namespace ResourceLimits

/-- `ResourceLimits.__new__`. -/
def new (cputime cputimeHard walltime memory cpuCores : Option Int := none) :
    ResourceLimits :=
  ⟨cputime, cputimeHard, walltime, memory, cpuCores⟩

/-- A field as documented: no limit, or a positive int. -/
def PositiveOrNone (v : Option Int) : Prop :=
  ∀ n ∈ v, 0 < n

instance : DecidablePred PositiveOrNone :=
  fun v => inferInstanceAs (Decidable (∀ n ∈ v, 0 < n))

/-- The documented rule: the CPU-time limits are both given or both `None`,
the soft one not above the hard one, and every field is positive or `None`. -/
def WellFormed (r : ResourceLimits) : Prop :=
  r.cputime.isSome = r.cputimeHard.isSome ∧
    (∀ s ∈ r.cputime, ∀ h ∈ r.cputimeHard, s ≤ h) ∧
    ∀ v ∈ [r.cputime, r.cputimeHard, r.walltime, r.memory, r.cpuCores], PositiveOrNone v

instance : DecidablePred WellFormed :=
  fun _ => inferInstanceAs (Decidable (_ ∧ _ ∧ _))

@[simp] theorem new_eq (cputime cputimeHard walltime memory cpuCores : Option Int) :
    new cputime cputimeHard walltime memory cpuCores =
      ⟨cputime, cputimeHard, walltime, memory, cpuCores⟩ := rfl

/-- The pairing rule in the spec's words: both CPU-time limits `None`, or both
positive with the soft one not above the hard one. -/
theorem cputime_paired_iff (cputime cputimeHard : Option Int) :
    (cputime.isSome = cputimeHard.isSome ∧ (∀ s ∈ cputime, ∀ h ∈ cputimeHard, s ≤ h) ∧
        PositiveOrNone cputime ∧ PositiveOrNone cputimeHard) ↔
      (cputime = none ∧ cputimeHard = none) ∨
        ∃ s h, cputime = some s ∧ cputimeHard = some h ∧ 0 < s ∧ s ≤ h := by
  rcases cputime with _ | s <;> rcases cputimeHard with _ | h <;> simp [PositiveOrNone]
  omega

/-- The constructor checks nothing: the record it returns holds exactly the
given arguments, `None` for those left out, and it satisfies the documented
rule exactly when the arguments do. -/
theorem new_wellFormed_iff (cputime cputimeHard walltime memory cpuCores : Option Int) :
    new cputime cputimeHard walltime memory cpuCores =
        ⟨cputime, cputimeHard, walltime, memory, cpuCores⟩ ∧
      ((new cputime cputimeHard walltime memory cpuCores).WellFormed ↔
        ((cputime = none ∧ cputimeHard = none) ∨
            ∃ s h, cputime = some s ∧ cputimeHard = some h ∧ 0 < s ∧ s ≤ h) ∧
          PositiveOrNone walltime ∧ PositiveOrNone memory ∧ PositiveOrNone cpuCores) := by
  refine ⟨rfl, ?_⟩
  rw [← cputime_paired_iff]
  simp [WellFormed, and_assoc]

/-- A soft CPU-time limit given without a hard one is stored without one. -/
theorem new_cputime_without_hard :
    (new (some 5)).cputimeHard = none ∧ ¬(new (some 5)).WellFormed :=
  ⟨rfl, by decide⟩

end ResourceLimits

end BaseTool2

end BenchExec
