import Companion.Program.Shell

/-!
# What scripts leave behind

What a script does depends neither on what has been written before nor on the time that has passed:
it writes behind the one, and its time is added to the other.
-/

set_option autoImplicit false

namespace Companion.Shell

variable {output errors : Bytes} {elapsed : Nat}

/-- The shell when something had been written, and some time had passed, before it started. -/
def behind (shell : Shell) (output errors : Bytes) (elapsed : Nat) : Shell :=
  { shell with
    output := output ++ shell.output
    errors := errors ++ shell.errors
    elapsed := elapsed + shell.elapsed }

theorem expandFrom_behind (shell : Shell) (fields : List Text) (word : Word) :
    (shell.behind output errors elapsed).expandFrom fields word = shell.expandFrom fields word := by
  induction word generalizing fields with
  | nil => rfl
  | cons piece rest ih =>
      cases piece with
      | literal text => exact ih _
      | parameter name quoted => exact ih _

theorem expand_behind (shell : Shell) :
    (shell.behind output errors elapsed).expand = shell.expand :=
  funext fun word => expandFrom_behind shell [] word

theorem after_behind (shell : Shell) (result : Tool.Result) (redirections : List Redirection) :
    (shell.behind output errors elapsed).after result redirections =
      (shell.after result redirections).behind output errors elapsed := by
  simp [after, behind, List.append_assoc, Nat.add_assoc]

theorem runTool_behind (shell : Shell) (redirections : List Redirection) (name : Text)
    (arguments : List Text) :
    (shell.behind output errors elapsed).runTool redirections name arguments =
      (shell.runTool redirections name arguments).behind output errors elapsed := by
  unfold runTool
  cases readsInput name with
  | false => exact after_behind ..
  | true => exact after_behind { shell with input := [] } ..

theorem runCommand_behind (shell : Shell) (redirections : List Redirection) (words : List Text) :
    (shell.behind output errors elapsed).runCommand redirections words =
      (shell.runCommand redirections words).behind output errors elapsed := by
  cases words with
  | nil => rfl
  | cons name arguments =>
      by_cases exits : name = "exit".toList
      · simp only [runCommand, if_pos exits]
        rfl
      by_cases replaces : name = "exec".toList
      · simp only [runCommand, if_neg exits, if_pos replaces]
        cases arguments with
        | nil => rfl
        | cons tool rest =>
            dsimp only
            rw [runTool_behind]
            rfl
      by_cases kills : name = "kill".toList
      · simp only [runCommand, if_neg exits, if_neg replaces, if_pos kills]
        split <;> rfl
      · simp only [runCommand, if_neg exits, if_neg replaces, if_neg kills]
        exact runTool_behind ..

/-- What follows a part of a script unless it is over. -/
theorem ite_behind {ended : Prop} [Decidable ended] (left : Shell) {later others : Shell}
    (follows : later = others.behind output errors elapsed) :
    (if ended then left.behind output errors elapsed else later) =
      (if ended then left else others).behind output errors elapsed := by
  rw [follows, apply_ite (behind · output errors elapsed)]

/-- A script runs alike whatever has been written and however much time has passed. -/
theorem run_behind (shell : Shell) (output errors : Bytes) (elapsed : Nat) (script : Script) :
    (shell.behind output errors elapsed).run script =
      (shell.run script).behind output errors elapsed := by
  induction script generalizing shell output with
  | nothing => rfl
  | command words redirections =>
      rw [run, run, expand_behind]
      exact runCommand_behind ..
  | sequence first second runFirst runSecond =>
      rw [run, run, runFirst]
      exact ite_behind (shell.run first) (runSecond (shell.run first) output)
  | both first second runFirst runSecond =>
      rw [run, run, runFirst]
      exact ite_behind (shell.run first) (runSecond (shell.run first) output)
  | either first second runFirst runSecond =>
      rw [run, run, runFirst]
      exact ite_behind (shell.run first) (runSecond (shell.run first) output)
  | pipe first second runFirst runSecond =>
      have writes : run { shell.behind output errors elapsed with output := [] } first =
          (run { shell with output := [] } first).behind [] errors elapsed :=
        runFirst { shell with output := [] } []
      rw [run, run, writes]
      let writer := run { shell with output := [] } first
      exact congrArg (fun reader : Shell => { reader with input := writer.input, stopped := false })
        (runSecond { shell with
          input := writer.output, errors := writer.errors, elapsed := writer.elapsed } output)
  | negation body runBody =>
      rw [run, run, runBody]
      exact ite_behind (shell.run body) rfl
  | choice condition body otherwise runCondition runBody runOtherwise =>
      rw [run, run, runCondition]
      refine ite_behind (shell.run condition) ?_
      let tested : Shell := { shell.run condition with status := 0 }
      have runs := runBody tested output
      have runsOtherwise := runOtherwise tested output
      rw [apply_ite (behind · output errors elapsed), ← runs, ← runsOtherwise]
      rfl

/-- Nothing that has been written is lost, and time does not run back. -/
theorem run_extends (shell : Shell) (script : Script) :
    shell.output <+: (shell.run script).output ∧ shell.errors <+: (shell.run script).errors ∧
      shell.elapsed ≤ (shell.run script).elapsed := by
  let fresh : Shell := { shell with output := [], errors := [], elapsed := 0 }
  have starts : shell = fresh.behind shell.output shell.errors shell.elapsed := by
    simp [fresh, behind]
  have runs : shell.run script =
      (fresh.run script).behind shell.output shell.errors shell.elapsed :=
    (congrArg (run · script) starts).trans (run_behind ..)
  rw [runs]
  exact ⟨List.prefix_append .., List.prefix_append .., Nat.le_add_right ..⟩

end Companion.Shell
