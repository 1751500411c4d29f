import Companion.Proofs.CommandLine.Arguments
import Companion.Proofs.CommandLine.CommandText
import Companion.Proofs.Text.Words

/-!
# Commands read back

The words of a command, read as arguments, give back the parameters that the command was made for,
if its texts are plain words. There is no word for a switch that is turned off, so such a switch is
read back as one that is not given: the two are told apart for `prettier` only.
-/

set_option autoImplicit false

namespace Companion.CommandText

variable {lookup : Lookup} {parameters : Parameters} {parameter : Parameter}

/-! ## What the words give -/

/-- What the words for a parameter give. -/
def entries (parameters : Parameters) (parameter : Parameter) : List Given :=
  if parameter.isSwitch then if isOn parameters parameter then [.switch parameter true] else []
  else if parameter.isPositional then []
  else (textsOf parameters parameter).map (.text parameter)

/-- The positional arguments among the words for a parameter. -/
def places (parameters : Parameters) (parameter : Parameter) : List Text :=
  if parameter.isPositional then textsOf parameters parameter else []

theorem gives_spell_switch {flag : Text} (isSwitch : parameter.isSwitch = true)
    (option : parameter.isPositional = false) (flags : parameter.flags.head? = some flag) :
    Arguments.Gives (spell parameters parameter (textsOf parameters parameter))
      (entries parameters parameter) (places parameters parameter) := by
  obtain ⟨others, whole⟩ := List.head?_eq_some_iff.mp flags
  unfold spell entries places
  rw [whole, isSwitch, option]
  cases isOn parameters parameter with
  | true => exact Arguments.gives_switch isSwitch flags
  | false => exact Arguments.gives_nil

theorem gives_spell_valued {flag : Text} (valued : parameter.isSwitch = false)
    (option : parameter.isPositional = false) (flags : parameter.flags.head? = some flag) :
    Arguments.Gives (spell parameters parameter (textsOf parameters parameter))
      (entries parameters parameter) (places parameters parameter) := by
  obtain ⟨others, whole⟩ := List.head?_eq_some_iff.mp flags
  have each := Arguments.gives_flatMap (textsOf parameters parameter)
    fun text _ => Arguments.gives_valued valued flags text
  have noPlaces : ((textsOf parameters parameter).flatMap fun _ => ([] : List Text)) = [] := by simp
  rw [← List.map_eq_flatMap, noPlaces] at each
  unfold spell entries places
  rw [whole, valued, option]
  exact each

theorem gives_spell (plain : ∀ text ∈ parameters.sourceRoot, text.head? ≠ some '-')
    (parameter : Parameter) :
    Arguments.Gives (spell parameters parameter (textsOf parameters parameter))
      (entries parameters parameter) (places parameters parameter) := by
  cases parameter with
  | prettier | addGenerationComment | verbose => exact gives_spell_switch rfl rfl rfl
  | config | pattern | generators | tag => exact gives_spell_valued rfl rfl rfl
  | sourceRoot =>
      change Arguments.Gives (given parameters.sourceRoot) [] (given parameters.sourceRoot)
      match root : parameters.sourceRoot with
      | none => exact Arguments.gives_nil
      | some [] => exact Arguments.gives_nil
      | some (c :: rest) => exact Arguments.gives_positional (plain _ root)

theorem isOn_eq_false (valued : parameter.isSwitch = false) :
    isOn parameters parameter = false := by
  cases parameter with
  | config | pattern | generators | tag | sourceRoot => rfl
  | prettier | addGenerationComment | verbose => cases valued

theorem help_not_mem_entries : .help ∉ entries parameters parameter := by
  unfold entries
  cases parameter.isSwitch <;> cases parameter.isPositional <;>
    cases isOn parameters parameter <;> simp

/-- What the words of a command give, the positional argument last. -/
def allEntries (parameters : Parameters) : List Given :=
  shownOrder.flatMap (entries parameters) ++
    (shownOrder.flatMap (places parameters)).map (.text .sourceRoot)

theorem flatMap_places (parameters : Parameters) :
    shownOrder.flatMap (places parameters) = given parameters.sourceRoot := by
  have each : places parameters = fun other =>
      if other = .sourceRoot then given parameters.sourceRoot else [] := by
    funext other
    cases other <;> rfl
  rw [each, flatMap_shownOrder]

theorem valuesOf_append (first second : List Given) (parameter : Parameter) :
    Arguments.valuesOf (first ++ second) parameter =
      Arguments.valuesOf first parameter ++ Arguments.valuesOf second parameter :=
  List.filterMap_append

theorem switchOf_append (first second : List Given) (parameter : Parameter) :
    Arguments.switchOf (first ++ second) parameter =
      (Arguments.switchOf second parameter).or (Arguments.switchOf first parameter) := by
  unfold Arguments.switchOf
  rw [List.filterMap_append, List.getLast?_append]

theorem valuesOf_entries (other : Parameter) :
    Arguments.valuesOf (entries parameters other) parameter =
      if other = parameter then
        if parameter.isPositional then [] else textsOf parameters parameter else [] := by
  unfold entries
  cases isSwitch : other.isSwitch with
  | true =>
      have noTexts : textsOf parameters other = [] := textsOf_of_isSwitch isSwitch
      have none : (if other = parameter then
          if parameter.isPositional then [] else textsOf parameters parameter else []) = [] := by
        split
        · next same => simp [← same, noTexts]
        · rfl
      rw [none]
      cases isOn parameters other <;> rfl
  | false =>
      by_cases same : other = parameter
      · subst same
        cases other.isPositional <;> simp [Arguments.valuesOf, List.filterMap_map]
      · cases other.isPositional <;> simp [same, Arguments.valuesOf, List.filterMap_map]

/-- Every text is found again. -/
theorem valuesOf_allEntries (parameters : Parameters) (parameter : Parameter) :
    Arguments.valuesOf (allEntries parameters) parameter = textsOf parameters parameter := by
  have options : Arguments.valuesOf (shownOrder.flatMap (entries parameters)) parameter =
      if parameter.isPositional then [] else textsOf parameters parameter := by
    calc Arguments.valuesOf (shownOrder.flatMap (entries parameters)) parameter
        = shownOrder.flatMap fun other => Arguments.valuesOf (entries parameters other) parameter :=
          List.filterMap_flatMap
      _ = if parameter.isPositional then [] else textsOf parameters parameter := by
          simp only [valuesOf_entries, flatMap_shownOrder]
  rw [allEntries, valuesOf_append, options, flatMap_places]
  by_cases positional : parameter = .sourceRoot
  · subst positional
    simp [Parameter.isPositional, Arguments.valuesOf, List.filterMap_map, textsOf]
  · simp [Parameter.isPositional, positional, Ne.symm positional, Arguments.valuesOf,
      List.filterMap_map]

theorem switchOf_entries (other : Parameter) :
    Arguments.switchOf (entries parameters other) parameter =
      if other = parameter then if isOn parameters parameter then some true else none else none := by
  unfold entries
  cases isSwitch : other.isSwitch with
  | true =>
      by_cases same : other = parameter
      · subst same
        cases isOn parameters other <;> simp [Arguments.switchOf]
      · cases isOn parameters other <;> simp [same, Arguments.switchOf]
  | false =>
      have off : isOn parameters other = false := isOn_eq_false isSwitch
      have none : (if other = parameter then
          if isOn parameters parameter then some true else none else none) = none := by
        split
        · next same => rw [← same, off, if_neg Bool.false_ne_true]
        · rfl
      rw [none]
      cases other.isPositional <;> simp [Arguments.switchOf, List.filterMap_map]

/-- A switch is found if it is turned on. -/
theorem switchOf_allEntries (parameters : Parameters) (parameter : Parameter) :
    Arguments.switchOf (allEntries parameters) parameter =
      if isOn parameters parameter then some true else none := by
  have noSwitch : ∀ texts : List Text,
      Arguments.switchOf (texts.map (.text .sourceRoot)) parameter = none := by
    intro texts
    simp [Arguments.switchOf, List.filterMap_map]
  rw [allEntries, switchOf_append, noSwitch, Option.none_or]
  cases parameter <;>
    simp [shownOrder, Parameter.all, Parameter.isPositional, switchOf_append, switchOf_entries]

/-! ## Reading a command -/

/-- A text that is read as one word and is no path. Of paths it is only known that none was found:
that it cannot be told is not ruled out. -/
structure IsPlainWord (lookup : Lookup) (text : Text) : Prop where
  isWord : Text.IsWord text
  noFlag : text.head? ≠ .some '-'
  noPath : lookup text ≠ .ok true

/-- Parameters without a configuration, whose texts are plain words and whose generators are those
of libraries. -/
structure IsPlain (lookup : Lookup) (parameters : Parameters) : Prop where
  config : parameters.config = none
  pattern : ∀ text ∈ parameters.pattern, IsPlainWord lookup text
  generators : ∀ name ∈ parameters.generators, (Library.ofName? name).isSome = true
  tag : ∀ text ∈ parameters.tag, IsPlainWord lookup text
  sourceRoot : ∀ text ∈ parameters.sourceRoot, IsPlainWord lookup text

/-- Parameters with `prettier` not given where it is turned off. -/
def withoutOff (parameters : Parameters) : Parameters :=
  { parameters with prettier := parameters.prettier.filter (· = true) }

/-- A command that is read as an assignment of parameters: its words are the name of the program and
arguments that assign them, and the command takes these where they pass its checks. -/
def ReadsAs (command : Text) (parameters : Parameters) : Prop :=
  ∃ arguments, Text.splitOn ' ' command = "ts_ppx".toList :: arguments ∧
    Arguments.assignment? arguments = some parameters ∧
    ∀ disk, Arguments.Passes disk parameters →
      Arguments.parameters disk arguments = .ok (some parameters)

theorem withoutOff_eq_self_iff :
    withoutOff parameters = parameters ↔ parameters.prettier ≠ some false := by
  obtain ⟨config, pattern, generators, tag, prettier, comment, verbose, root⟩ := parameters
  rcases prettier with _ | _ | _ <;> simp [withoutOff]

theorem getLast?_given {text : Option Text} (nonempty : ∀ word ∈ text, word ≠ []) :
    (given text).getLast? = text := by
  match text with
  | none => rfl
  | some [] => exact absurd rfl (nonempty [] rfl)
  | some (c :: rest) => rfl

theorem eq_of_ofName? {name : Text} (isName : (Library.ofName? name).isSome = true) :
    name = "zod".toList ∨ name = "fast-check".toList := by
  obtain ⟨library, found⟩ := Option.isSome_iff_exists.mp isName
  have same : library.name = name := by simpa using List.find?_some found
  cases library with
  | zod => exact .inl same.symm
  | fastCheck => exact .inr same.symm

theorem not_mem_spell {shown : List Text} (clean : ∀ text ∈ shown, ' ' ∉ text) :
    ∀ word ∈ spell parameters parameter shown, ' ' ∉ word := by
  have cleanFlags : ∀ flag ∈ parameter.flags, ' ' ∉ flag := by
    cases parameter <;> decide
  unfold spell
  cases flags : parameter.flags with
  | nil => exact clean
  | cons flag others =>
      have cleanFlag : ' ' ∉ flag := cleanFlags flag (flags ▸ List.mem_cons_self)
      cases parameter.isSwitch with
      | true => cases isOn parameters parameter <;> simp [cleanFlag]
      | false =>
          change ∀ word ∈ shown.flatMap fun text => [flag, text], ' ' ∉ word
          rw [List.forall_mem_flatMap]
          intro text member
          rw [List.forall_mem_cons, List.forall_mem_singleton]
          exact ⟨cleanFlag, clean text member⟩

namespace IsPlain

/-- Each text that is shown is a plain word or the name of a library. -/
theorem cases_textsOf (plain : IsPlain lookup parameters) {text : Text}
    (member : text ∈ textsOf parameters parameter) :
    IsPlainWord lookup text ∨ text = "zod".toList ∨ text = "fast-check".toList := by
  have inGiven : ∀ {option : Option Text}, text ∈ given option → text ∈ option := by
    intro option member
    simpa using (List.mem_filter.mp member).1
  cases parameter with
  | config =>
      rw [textsOf, plain.config] at member
      cases member
  | pattern => exact .inl (plain.pattern text (inGiven member))
  | tag => exact .inl (plain.tag text (inGiven member))
  | sourceRoot => exact .inl (plain.sourceRoot text (inGiven member))
  | generators => exact .inr (eq_of_ofName? (plain.generators text member))
  | prettier | addGenerationComment | verbose => cases member

theorem isShownWhole (plain : IsPlain lookup parameters) (parameter : Parameter) :
    ∀ text ∈ textsOf parameters parameter, IsShownWhole lookup text := by
  intro text member isPath
  rcases plain.cases_textsOf member with word | rfl | rfl
  · exact absurd isPath word.noPath
  · rfl
  · rfl

theorem not_mem_textsOf (plain : IsPlain lookup parameters) (parameter : Parameter) :
    ∀ text ∈ textsOf parameters parameter, ' ' ∉ text := by
  intro text member space
  rcases plain.cases_textsOf member with word | rfl | rfl
  · exact absurd (word.isWord.2 ' ' space) (by decide)
  · exact absurd space (by decide)
  · exact absurd space (by decide)

/-- No word of the command holds a space, so the words are found between the spaces. -/
theorem splitOn_join (plain : IsPlain lookup parameters) :
    Text.splitOn ' ' (Text.join [' '] ("ts_ppx".toList :: commandWords parameters)) =
      "ts_ppx".toList :: commandWords parameters := by
  refine Text.splitOn_join (by simp) (List.forall_mem_cons.mpr ⟨by decide, ?_⟩)
  exact List.forall_mem_flatMap.mpr fun parameter _ =>
    not_mem_spell (plain.not_mem_textsOf parameter)

theorem assigned_allEntries (plain : IsPlain lookup parameters) :
    Arguments.assigned (allEntries parameters) = withoutOff parameters := by
  have config : (given parameters.config).getLast? = parameters.config := by rw [plain.config]; rfl
  have pattern := getLast?_given fun text member => (plain.pattern text member).isWord.1
  have tag := getLast?_given fun text member => (plain.tag text member).isWord.1
  have root := getLast?_given fun text member => (plain.sourceRoot text member).isWord.1
  have prettier : (if isOn parameters .prettier then some true else none) =
      parameters.prettier.filter (· = true) := by
    unfold isOn
    rcases parameters.prettier with _ | _ | _ <;> rfl
  have default : ∀ on : Bool, (if on then some true else none).getD false = on := by decide
  have comment : isOn parameters .addGenerationComment = parameters.addGenerationComment := rfl
  have verbose : isOn parameters .verbose = parameters.verbose := rfl
  simp only [Arguments.assigned, valuesOf_allEntries, switchOf_allEntries, textsOf, config, pattern,
    tag, root, prettier, default, comment, verbose, withoutOff]

theorem assignment?_commandWords (plain : IsPlain lookup parameters) :
    Arguments.assignment? (commandWords parameters) = some (withoutOff parameters) := by
  have gives := Arguments.gives_flatMap shownOrder fun parameter _ =>
    gives_spell (fun text member => (plain.sourceRoot text member).noFlag) parameter
  refine Arguments.assignment?_eq_some_iff.mpr
    ⟨_, _, gives.read_eq, ?_, ?_, plain.assigned_allEntries⟩
  · intro help
    obtain ⟨parameter, -, member⟩ := List.mem_flatMap.mp help
    exact help_not_mem_entries member
  · rw [flatMap_places]
    cases parameters.sourceRoot with
    | none => simp [given]
    | some root => exact List.length_filter_le _ [root]

theorem readsAs_withoutOff (plain : IsPlain lookup parameters) :
    ReadsAs (Text.join [' '] ("ts_ppx".toList :: commandWords parameters))
      (withoutOff parameters) := by
  have assigned := plain.assignment?_commandWords
  exact ⟨_, plain.splitOn_join, assigned, fun _ => Arguments.parameters_eq_ok assigned⟩

end IsPlain

theorem ReadsAs.unique {command : Text} {other : Parameters} (first : ReadsAs command parameters)
    (second : ReadsAs command other) : parameters = other := by
  obtain ⟨arguments, split, assigned, -⟩ := first
  obtain ⟨others, splitOther, assignedOther, -⟩ := second
  obtain rfl : arguments = others := List.tail_eq_of_cons_eq (split.symm.trans splitOther)
  exact Option.some.inj (assigned.symm.trans assignedOther)

/-- A command whose texts are plain words is read back, but for a `prettier` that is turned off: it
reads as if that were not given. So there is a command that reads as the parameters it is made for
exactly if each text can be looked up and `prettier` is not turned off. -/
theorem render_readsAs_iff (plain : IsPlain lookup parameters) :
    (∀ command, render lookup (valuesOf parameters) = .ok command →
      ReadsAs command (withoutOff parameters)) ∧
    ((∃ command, render lookup (valuesOf parameters) = .ok command ∧ ReadsAs command parameters) ↔
      (∀ text ∈ Parameter.all.flatMap (textsOf parameters), IsTold lookup text) ∧
        parameters.prettier ≠ some false) := by
  have made := render_eq_ok_iff plain.isShownWhole
  have readsBack : ∀ command, render lookup (valuesOf parameters) = .ok command →
      ReadsAs command (withoutOff parameters) := by
    intro command rendered
    obtain ⟨-, rfl⟩ := (made command).mp rendered
    exact plain.readsAs_withoutOff
  refine ⟨readsBack, ?_, ?_⟩
  · rintro ⟨command, rendered, reads⟩
    refine ⟨((made command).mp rendered).1, withoutOff_eq_self_iff.mp ?_⟩
    exact (readsBack command rendered).unique reads
  · rintro ⟨told, on⟩
    have rendered := (made _).mpr ⟨told, rfl⟩
    have reads := readsBack _ rendered
    rw [withoutOff_eq_self_iff.mpr on] at reads
    exact ⟨_, rendered, reads⟩

/-- A directory has the name of a generator, which is shown all the same. -/
theorem render_readsAs_repeated :
    let lookup := lookupOn (Disk.ofEntries ["zod"] [])
    let parameters : Parameters :=
      { pattern := some "\\.ppx", generators := ["zod", "fast-check", "zod"], tag := some "a-tag",
        prettier := some true, verbose := true, sourceRoot := some "no/such/dir" }
    let command : Text := "ts_ppx no/such/dir --pattern \\.ppx --generator zod " ++
      "--generator fast-check --generator zod --tag a-tag --prettier --verbose".toList
    IsPlain lookup parameters ∧ parameters.prettier ≠ some false ∧
      render lookup (valuesOf parameters) = .ok command ∧ ReadsAs command parameters := by
  intro lookup parameters command
  have word : ∀ {text : Text}, Text.IsWord text ∧ text.head? ≠ some '-' →
      lookup text = .ok false → IsPlainWord lookup text :=
    fun spelled absent => ⟨spelled.1, spelled.2, by rw [absent]; nofun⟩
  have plain : IsPlain lookup parameters := by
    refine ⟨rfl, ?_, by decide, ?_, ?_⟩
    all_goals
      intro text member
      obtain rfl := Option.some.inj member
      exact word (by decide) rfl
  have rendered : render lookup (valuesOf parameters) = .ok command := by rfl
  exact ⟨plain, by decide, rendered, (render_readsAs_iff plain).1 command rendered⟩

/-- A `prettier` that is turned off leaves no word behind. -/
theorem render_forgets_off :
    let lookup := lookupOn (Disk.ofEntries [] [])
    let parameters : Parameters := { prettier := some false, sourceRoot := some "no-such-dir" }
    IsPlain lookup parameters ∧
      render lookup (valuesOf parameters) = .ok "ts_ppx no-such-dir" ∧
      ReadsAs "ts_ppx no-such-dir" { parameters with prettier := none } ∧
      ¬ ReadsAs "ts_ppx no-such-dir" parameters := by
  intro lookup parameters
  have absent : lookup "no-such-dir" = .ok false := by rfl
  have plain : IsPlain lookup parameters := by
    refine ⟨rfl, nofun, by decide, nofun, ?_⟩
    intro text member
    obtain rfl := Option.some.inj member
    exact ⟨by decide, by decide, by rw [absent]; nofun⟩
  have rendered : render lookup (valuesOf parameters) = .ok "ts_ppx no-such-dir" := by rfl
  have reads : ReadsAs "ts_ppx no-such-dir" (withoutOff parameters) := plain.readsAs_withoutOff
  refine ⟨plain, rendered, reads, ?_⟩
  intro same
  exact absurd (reads.unique same) (by decide)

end Companion.CommandText
