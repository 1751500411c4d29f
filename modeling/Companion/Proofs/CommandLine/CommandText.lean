import Companion.CommandLine.CommandText
import Companion.Proofs.Failure

/-!
# The words of a command

A command shows a text for each parameter that has one, behind the flag of the parameter if it has
one, and the flags of the switches that are turned on. So it can be made exactly if each text can be
looked up, and then its words are known.
-/

set_option autoImplicit false

namespace Companion.CommandText

variable {lookup : Lookup} {parameters : Parameters} {parameter : Parameter}

/-! ## What a parameter shows -/

/-- The text that is given, if it is not empty. -/
def given (text : Option Text) : List Text := text.toList.filter fun text => !text.isEmpty

/-- The texts that a parameter shows. -/
def textsOf (parameters : Parameters) : Parameter → List Text
  | .config => given parameters.config
  | .pattern => given parameters.pattern
  | .generators => parameters.generators
  | .tag => given parameters.tag
  | .sourceRoot => given parameters.sourceRoot
  | .prettier | .addGenerationComment | .verbose => []

theorem textsOf_of_isSwitch (isSwitch : parameter.isSwitch = true) :
    textsOf parameters parameter = [] := by
  cases parameter with
  | prettier | addGenerationComment | verbose => rfl
  | config | pattern | generators | tag | sourceRoot => cases isSwitch

/-- Whether a switch is turned on. -/
def isOn (parameters : Parameters) : Parameter → Bool
  | .prettier => parameters.prettier = some true
  | .addGenerationComment => parameters.addGenerationComment
  | .verbose => parameters.verbose
  | _ => false

/-- The words for a parameter, given what is shown for its texts. -/
def spell (parameters : Parameters) (parameter : Parameter) (shown : List Text) : List Text :=
  match parameter.flags with
  | [] => shown
  | flag :: _ =>
    if parameter.isSwitch then if isOn parameters parameter then [flag] else []
    else shown.flatMap fun text => [flag, text]

theorem spell_nil (valued : parameter.isSwitch = false) : spell parameters parameter [] = [] := by
  unfold spell
  rw [valued]
  cases parameter.flags <;> rfl

theorem mapM_showValue (texts : List Text) :
    (texts.map Value.string).mapM (showValue lookup) = texts.mapM (showText lookup) := by
  rw [List.mapM_map]
  rfl

private theorem wordsOf_optional (valued : parameter.isSwitch = false) (text : Option Text) :
    (if (optional text).isTruthy then words lookup parameter (optional text) else .ok []) =
      (given text).mapM (showText lookup) >>= fun shown =>
        .ok (spell parameters parameter shown) := by
  have empty : (.ok [] : Except Failure (List Text)) = .ok (spell parameters parameter []) := by
    rw [spell_nil valued]
  match text with
  | none => exact empty
  | some [] => exact empty
  | some (c :: rest) =>
      have shown : (given (some (c :: rest))).mapM (showText lookup) =
          showText lookup (c :: rest) >>= fun shown => .ok [shown] := by
        rw [given, Option.toList_some, List.filter_singleton]
        rfl
      rw [shown]
      change words lookup parameter (.string (c :: rest)) = _
      unfold words spell
      rw [valued]
      cases parameter.flags with
      | nil =>
          change (showText lookup (c :: rest) >>= fun shown => .ok [shown]) = _
          cases showText lookup (c :: rest) <;> rfl
      | cons flag others =>
          change (showText lookup (c :: rest) >>= fun shown => .ok [flag, shown]) = _
          cases showText lookup (c :: rest) <;> rfl

private theorem wordsOf_generators (texts : List Text) :
    (if (Value.array (texts.map Value.string)).isTruthy then
        words lookup .generators (.array (texts.map Value.string)) else .ok []) =
      texts.mapM (showText lookup) >>= fun shown => .ok (spell parameters .generators shown) := by
  cases texts with
  | nil => rfl
  | cons first rest =>
      rw [← mapM_showValue]
      rfl

private theorem wordsOf_switch {flag : Text} {others : List Text} {value : Value}
    (flags : parameter.flags = flag :: others) (isSwitch : parameter.isSwitch = true)
    (on : value.isTruthy = isOn parameters parameter) :
    (if value.isTruthy then words lookup parameter value else .ok []) =
      .ok (spell parameters parameter []) := by
  unfold words spell
  rw [on, flags, isSwitch]
  cases isOn parameters parameter <;> rfl

/-- The words for a parameter are those for its texts, once these have been looked up. -/
theorem wordsOf_eq (lookup : Lookup) (parameters : Parameters) (parameter : Parameter) :
    wordsOf lookup (valuesOf parameters) parameter =
      (textsOf parameters parameter).mapM (showText lookup) >>= fun shown =>
        .ok (spell parameters parameter shown) := by
  cases parameter with
  | config => exact wordsOf_optional rfl parameters.config
  | pattern => exact wordsOf_optional rfl parameters.pattern
  | tag => exact wordsOf_optional rfl parameters.tag
  | sourceRoot => exact wordsOf_optional rfl parameters.sourceRoot
  | generators => exact wordsOf_generators parameters.generators
  | prettier =>
      refine wordsOf_switch rfl rfl ?_
      unfold isOn
      rcases parameters.prettier with _ | _ | _ <;> rfl
  | addGenerationComment => exact wordsOf_switch rfl rfl rfl
  | verbose => exact wordsOf_switch rfl rfl rfl

/-! ## Texts that are shown as they are -/

/-- It can be told whether a text is a path. -/
def IsTold (lookup : Lookup) (text : Text) : Prop := ∃ found, lookup text = .ok found

/-- A text that is shown as it is, even if it is a path. -/
def IsShownWhole (lookup : Lookup) (text : Text) : Prop :=
  lookup text = .ok true → lastName text = text

theorem showText_eq_ok_iff {text : Text} (whole : IsShownWhole lookup text) (shown : Text) :
    showText lookup text = .ok shown ↔ IsTold lookup text ∧ shown = text := by
  unfold showText IsTold
  cases found : lookup text with
  | error failure => simp [bind, Except.bind]
  | ok isPath =>
      cases isPath with
      | false => simp [bind, Except.bind, pure, Except.pure, eq_comm]
      | true => simp [bind, Except.bind, pure, Except.pure, whole found, eq_comm]

theorem wordsOf_eq_ok_iff (whole : ∀ text ∈ textsOf parameters parameter, IsShownWhole lookup text)
    (found : List Text) : wordsOf lookup (valuesOf parameters) parameter = .ok found ↔
      (∀ text ∈ textsOf parameters parameter, IsTold lookup text) ∧
        found = spell parameters parameter (textsOf parameters parameter) := by
  have each : ∀ shown, (textsOf parameters parameter).mapM (showText lookup) = .ok shown ↔
      (∀ text ∈ textsOf parameters parameter, IsTold lookup text) ∧
        shown = (textsOf parameters parameter).map id :=
    fun shown => Failure.mapM_eq_ok_iff fun text member => showText_eq_ok_iff (whole text member)
  rw [wordsOf_eq, Failure.bind_eq_ok_iff]
  simp only [each, List.map_id, Except.ok.injEq, and_assoc, exists_and_left, exists_eq_left]
  exact and_congr_right' eq_comm

/-- The parameters in the order in which a command shows them, the positional one first. -/
def shownOrder : List Parameter :=
  Parameter.all.filter (·.isPositional) ++
    Parameter.all.filter fun parameter => !parameter.isPositional

/-- Every parameter is shown once. -/
theorem flatMap_shownOrder {α : Type} (parameter : Parameter) (found : List α) :
    (shownOrder.flatMap fun other => if other = parameter then found else []) = found := by
  cases parameter <;> simp [shownOrder, Parameter.all, Parameter.isPositional]

/-- The words behind the name of a command that shows each text as it is. -/
def commandWords (parameters : Parameters) : List Text :=
  shownOrder.flatMap fun parameter => spell parameters parameter (textsOf parameters parameter)

theorem render_eq_ok_iff
    (whole : ∀ parameter, ∀ text ∈ textsOf parameters parameter, IsShownWhole lookup text)
    (command : Text) : render lookup (valuesOf parameters) = .ok command ↔
      (∀ text ∈ Parameter.all.flatMap (textsOf parameters), IsTold lookup text) ∧
        command = Text.join [' '] ("ts_ppx".toList :: commandWords parameters) := by
  have each : ∀ parameter ∈ Parameter.all, ∀ part : Parameter × List Text,
      (wordsOf lookup (valuesOf parameters) parameter >>= fun words => pure (parameter, words)) =
          (.ok part : Except Failure (Parameter × List Text)) ↔
        (∀ text ∈ textsOf parameters parameter, IsTold lookup text) ∧
          part = (parameter, spell parameters parameter (textsOf parameters parameter)) := by
    intro parameter _ part
    rw [Failure.bind_eq_ok_iff]
    simp only [wordsOf_eq_ok_iff (whole parameter), pure, Except.pure, Except.ok.injEq, and_assoc]
    simp [eq_comm]
  unfold render
  rw [Failure.bind_eq_ok_iff]
  simp only [Failure.mapM_eq_ok_iff each, List.forall_mem_flatMap, and_assoc]
  simp [commandWords, shownOrder, List.filter_map, List.flatMap_map, pure, Except.pure, eq_comm,
    Function.comp_def]

end Companion.CommandText
