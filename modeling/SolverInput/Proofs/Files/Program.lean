import SolverInput.Files.Program
import Mathlib.Logic.Basic

/-!
# Programs that fail without a trace

A failure undoes nothing, so whether a program that fails leaves the files as they were
(`FileM.Atomic`) is a matter of the order of its steps. A single write is atomic (`atomic_write`),
and it stays so behind steps that only look (`atomic_reading_bind`) and before steps that cannot
fail (`Atomic.bind_pure`). A write before anything that can fail is not.
-/

namespace SolverInput.FileM

variable {ε ε' α β : Type}

/-- A program that leaves the files as they were if it fails. -/
def Atomic (program : FileM ε α) : Prop :=
  ∀ files error left, program files = .error error left → left = files

/-! ## Looking before going on -/

section

variable {look : FileTree → Except ε α} {files : FileTree}

/-- What is seen is passed on, with the files as they are. -/
lemma reading_bind_of_ok {value : α} (h : look files = .ok value) (next : α → FileM ε β) :
    (reading look >>= next) files = next value files := by
  simp only [bind, EStateM.bind, reading, h]

/-- A look that fails ends a program. -/
lemma reading_bind_of_error {error : ε} (h : look files = .error error) (next : α → FileM ε β) :
    (reading look >>= next) files = .error error files := by
  simp only [bind, EStateM.bind, reading, h]

end

/-! ## Atomic programs -/

lemma atomic_write (path : Path) (content : ByteArray) : Atomic (write path content) := by
  intro files error left h
  unfold write at h
  split at h
  · cases h
  · cases h
    rfl

/-- The name of an error does not matter. -/
lemma Atomic.adaptExcept {program : FileM ε α} (h : Atomic program) (rename : ε → ε') :
    Atomic (program.adaptExcept rename) := by
  intro files error left hrun
  unfold EStateM.adaptExcept at hrun
  cases hprogram : program files with
  | ok value after =>
    rw [hprogram] at hrun
    cases hrun
  | error first after =>
    rw [hprogram] at hrun
    cases hrun
    exact h files _ _ hprogram

/-- Steps that only look come first. -/
lemma atomic_reading_bind (look : FileTree → Except ε α) {next : α → FileM ε β}
    (h : ∀ value, Atomic (next value)) : Atomic (reading look >>= next) := by
  intro files error left hrun
  cases hlook : look files with
  | ok value =>
    rw [reading_bind_of_ok hlook] at hrun
    exact h value files error left hrun
  | error first =>
    rw [reading_bind_of_error hlook] at hrun
    cases hrun
    rfl

/-- Steps that cannot fail come last. -/
lemma Atomic.bind_pure {program : FileM ε α} (h : Atomic program) (result : α → β) :
    Atomic (program >>= fun value => pure (result value)) := by
  intro files error left hrun
  simp only [bind, EStateM.bind] at hrun
  cases hprogram : program files with
  | ok value after =>
    rw [hprogram] at hrun
    cases hrun
  | error first after =>
    rw [hprogram] at hrun
    cases hrun
    exact h files _ _ hprogram

/-- A file that is written before another one turns out to be missing stays there. -/
example : ¬ Atomic (write ⟨"a"⟩ .empty >>= fun _ => reading (·.read ⟨"b"⟩)) := by
  intro h
  have hleft := h {} .notFound (FileTree.put {} ["work".toList, "a".toList] (.file .empty)) rfl
  exact absurd (congrArg FileTree.entries hleft) (List.cons_ne_nil _ _)

end SolverInput.FileM
