import Companion.CommandLine.Arguments

/-!
# What arguments give

Arguments that spell options and positional arguments out give these and leave what stands behind
them alone, so a command is read part by part. What is given assigns a value to each parameter,
whatever the values are; the command takes the values that pass its checks.
-/

set_option autoImplicit false

namespace Companion.Arguments

/-! ## Reading part by part -/

/-- Arguments that give options and positional arguments, whatever stands behind them. -/
def Gives (arguments : List Text) (given : List Given) (positional : List Text) : Prop :=
  ∀ rest, read (arguments ++ rest) =
    read rest >>= fun found => .ok (given ++ found.1, positional ++ found.2)

variable {arguments others : List Text} {given more : List Given} {positional extra : List Text}
  {parameter : Parameter} {flag text : Text}

theorem gives_nil : Gives [] [] [] := by
  intro rest
  rw [List.nil_append]
  cases read rest <;> rfl

theorem Gives.append (first : Gives arguments given positional) (second : Gives others more extra) :
    Gives (arguments ++ others) (given ++ more) (positional ++ extra) := by
  intro rest
  rw [List.append_assoc, first, second]
  cases read rest with
  | error failure => rfl
  | ok found => simp [bind, Except.bind]

theorem gives_flatMap {α : Type} {words : α → List Text} {entries : α → List Given}
    {places : α → List Text} (items : List α)
    (each : ∀ item ∈ items, Gives (words item) (entries item) (places item)) :
    Gives (items.flatMap words) (items.flatMap entries) (items.flatMap places) := by
  induction items with
  | nil => exact gives_nil
  | cons item rest ih =>
      exact (each item List.mem_cons_self).append
        (ih fun other member => each other (List.mem_cons_of_mem _ member))

theorem Gives.read_eq (gives : Gives arguments given positional) :
    read arguments = .ok (given, positional) := by
  have whole := gives []
  rw [List.append_nil, read] at whole
  simpa [bind, Except.bind] using whole

/-- An option that takes a value takes the next argument, be it a flag or not. -/
theorem gives_valued (valued : parameter.isSwitch = false)
    (flags : parameter.flags.head? = some flag) (text : Text) :
    Gives [flag, text] [.text parameter text] [] := by
  intro rest
  cases parameter with
  | config | pattern | generators | tag =>
      obtain rfl := Option.some.inj flags
      rfl
  | prettier | addGenerationComment | verbose => cases valued
  | sourceRoot => cases flags

theorem gives_switch (isSwitch : parameter.isSwitch = true)
    (flags : parameter.flags.head? = some flag) : Gives [flag] [.switch parameter true] [] := by
  intro rest
  cases parameter with
  | prettier | addGenerationComment | verbose =>
      obtain rfl := Option.some.inj flags
      rfl
  | config | pattern | generators | tag | sourceRoot => cases isSwitch

theorem gives_positional (plain : text.head? ≠ some '-') : Gives [text] [] [text] := by
  intro rest
  have noEnd : text ≠ "--".toList := by
    rintro rfl
    exact plain rfl
  rw [List.singleton_append, read, if_neg noEnd, if_neg (by simp [plain])]
  rfl

/-! ## What is assigned -/

/-- The values that are given for the parameters, as they are. -/
def assigned (given : List Given) : Parameters where
  config := (valuesOf given .config).getLast?
  pattern := (valuesOf given .pattern).getLast?
  generators := valuesOf given .generators
  tag := (valuesOf given .tag).getLast?
  prettier := switchOf given .prettier
  addGenerationComment := (switchOf given .addGenerationComment).getD false
  verbose := (switchOf given .verbose).getD false
  sourceRoot := (valuesOf given .sourceRoot).getLast?

/-- What arguments assign to the parameters, unless they cannot be read, wish for help or hold more
than one positional argument. -/
def assignment? (arguments : List Text) : Option Parameters :=
  match read arguments with
  | .error _ => none
  | .ok (given, positional) =>
    if given.contains .help || 1 < positional.length then none
    else some (assigned (given ++ positional.map (.text .sourceRoot)))

theorem assignment?_eq_some_iff {target : Parameters} : assignment? arguments = some target ↔
    ∃ given positional, read arguments = .ok (given, positional) ∧ .help ∉ given ∧
      positional.length ≤ 1 ∧ assigned (given ++ positional.map (.text .sourceRoot)) = target := by
  unfold assignment?
  cases read arguments with
  | error failure => simp
  | ok found =>
      obtain ⟨given, positional⟩ := found
      simp only [List.contains_eq_mem, Bool.or_eq_true, decide_eq_true_eq,
        Option.ite_none_left_eq_some, not_or, Nat.not_lt, Option.some.injEq, Except.ok.injEq,
        Prod.mk.injEq, and_assoc]
      constructor
      · exact fun holds => ⟨given, positional, rfl, rfl, holds⟩
      · rintro ⟨_, _, rfl, rfl, holds⟩
        exact holds

/-! ## What the command takes -/

/-- Parameters with the value of one of them taken from others. -/
def adopt (target parameters : Parameters) : Parameter → Parameters
  | .config => { parameters with config := target.config }
  | .pattern => { parameters with pattern := target.pattern }
  | .generators => { parameters with generators := target.generators }
  | .tag => { parameters with tag := target.tag }
  | .prettier => { parameters with prettier := target.prettier }
  | .addGenerationComment =>
    { parameters with addGenerationComment := target.addGenerationComment }
  | .verbose => { parameters with verbose := target.verbose }
  | .sourceRoot => { parameters with sourceRoot := target.sourceRoot }

variable {target current : Parameters}

theorem adopt_comm (target current : Parameters) (first second : Parameter) :
    adopt target (adopt target current first) second =
      adopt target (adopt target current second) first := by
  cases first <;> cases second <;> rfl

theorem adopt_adopt (target current : Parameters) (parameter : Parameter) :
    adopt target (adopt target current parameter) parameter = adopt target current parameter := by
  cases parameter <;> rfl

theorem eq_of_adopt (each : ∀ parameter, adopt target current parameter = current) :
    current = target := by
  have config := congrArg Parameters.config (each .config)
  have pattern := congrArg Parameters.pattern (each .pattern)
  have generators := congrArg Parameters.generators (each .generators)
  have tag := congrArg Parameters.tag (each .tag)
  have prettier := congrArg Parameters.prettier (each .prettier)
  have comment := congrArg Parameters.addGenerationComment (each .addGenerationComment)
  have verbose := congrArg Parameters.verbose (each .verbose)
  have root := congrArg Parameters.sourceRoot (each .sourceRoot)
  cases current
  cases target
  simp_all [adopt]

/-- Adopting some parameters after each other adopts each of them, and leaves alone what is already
the same. -/
theorem adopt_foldl {order : List Parameter}
    (settled : parameter ∈ order ∨ adopt target current parameter = current) :
    adopt target (order.foldl (adopt target) current) parameter =
      order.foldl (adopt target) current := by
  induction order generalizing current with
  | nil => exact settled.resolve_left (by simp)
  | cons first rest ih =>
      refine ih ?_
      rcases settled with member | same
      · rcases List.mem_cons.mp member with rfl | member
        · exact .inr (adopt_adopt target current parameter)
        · exact .inl member
      · exact .inr (by rw [adopt_comm, same])

theorem mem_orderOf_iff :
    parameter ∈ orderOf given ↔ ∃ entry ∈ given, entry.parameter? = some parameter := by
  have folded : ∀ (parameters found : List Parameter),
      parameter ∈ parameters.foldl (fun found parameter =>
        if found.contains parameter then found else found ++ [parameter]) found ↔
          parameter ∈ found ∨ parameter ∈ parameters := by
    intro parameters
    induction parameters with
    | nil => simp
    | cons first rest ih =>
        intro found
        rw [List.foldl_cons, ih]
        by_cases known : first ∈ found
        · simp only [List.contains_eq_mem, known, decide_true, if_true, List.mem_cons]
          grind
        · simp only [List.contains_eq_mem, known, decide_false, Bool.false_eq_true, if_false,
            List.mem_append, List.mem_cons, List.not_mem_nil, or_false, or_assoc]
  rw [orderOf, folded]
  simp

/-- Values that pass the checks of the command and are kept as they are. -/
structure Passes (disk : Disk) (target : Parameters) : Prop where
  config : ∀ path ∈ target.config, configPath disk path = .ok path
  generators : ∀ name ∈ target.generators, generatorName name = .ok name
  sourceRoot : ∀ path ∈ target.sourceRoot, rootPath disk path = .ok path

/-- Paths that are not given or not settled yet. -/
structure Awaits (target current : Parameters) : Prop where
  config : current.config = none ∨ current.config = target.config
  sourceRoot : current.sourceRoot = none ∨ current.sourceRoot = target.sourceRoot

theorem Awaits.adopt (awaits : Awaits target current) (parameter : Parameter) :
    Awaits target (adopt target current parameter) := by
  obtain ⟨config, root⟩ := awaits
  cases parameter with
  | config => exact ⟨.inr rfl, root⟩
  | sourceRoot => exact ⟨config, .inr rfl⟩
  | _ => exact ⟨config, root⟩

variable {disk : Disk}

private theorem mapM_generatorName {texts : List Text}
    (each : ∀ text ∈ texts, generatorName text = .ok text) :
    texts.mapM generatorName = .ok texts := by
  induction texts with
  | nil => rfl
  | cons text rest ih =>
      obtain ⟨first, others⟩ := List.forall_mem_cons.mp each
      rw [List.mapM_cons, first, ih others]
      rfl

/-- A path that passes its check is set; one that is not given is left as it is. -/
private theorem settle_path {check : Text → Except UsageError Text} {value kept : Option Text}
    {set : Option Text → Parameters} (passes : ∀ path ∈ value, check path = .ok path)
    (awaits : kept = none ∨ kept = value) (unchanged : set kept = current) :
    (match value with
      | some value => check value >>= fun path => .ok (set (some path))
      | none => .ok current) = .ok (set value) := by
  cases value with
  | none =>
      obtain rfl : kept = none := by simpa using awaits
      rw [unchanged]
  | some path =>
      change (check path >>= fun path => .ok (set (some path))) = _
      rw [passes path rfl]
      rfl

theorem settle_eq_adopt (passes : Passes disk (assigned given))
    (awaits : Awaits (assigned given) current) (parameter : Parameter) :
    settle disk given current parameter = .ok (adopt (assigned given) current parameter) := by
  cases parameter with
  | pattern | tag | prettier | addGenerationComment | verbose => rfl
  | generators =>
      have names : (valuesOf given .generators).mapM generatorName =
          .ok (valuesOf given .generators) := mapM_generatorName passes.generators
      change ((valuesOf given .generators).mapM generatorName >>= fun names =>
        .ok { current with generators := names }) = _
      rw [names]
      rfl
  | config =>
      exact @settle_path _ _ _ _ (fun path => { current with config := path }) passes.config
        awaits.config rfl
  | sourceRoot =>
      exact @settle_path _ _ _ _ (fun path => { current with sourceRoot := path })
        passes.sourceRoot awaits.sourceRoot rfl

theorem foldlM_settle (passes : Passes disk (assigned given)) (order : List Parameter)
    (awaits : Awaits (assigned given) current) : order.foldlM (settle disk given) current =
      .ok (order.foldl (adopt (assigned given)) current) := by
  induction order generalizing current with
  | nil => rfl
  | cons parameter rest ih =>
      rw [List.foldlM_cons, settle_eq_adopt passes awaits, List.foldl_cons,
        ← ih (awaits.adopt parameter)]
      rfl

/-- A parameter that is not given keeps its usual value. -/
theorem adopt_of_not_mem_orderOf (absent : parameter ∉ orderOf given) :
    adopt (assigned given) {} parameter = {} := by
  have noEntry : ∀ entry ∈ given, entry.parameter? ≠ some parameter := by
    intro entry member names
    exact absent (mem_orderOf_iff.mpr ⟨entry, member, names⟩)
  have noValue : valuesOf given parameter = [] := by
    rw [valuesOf, List.filterMap_eq_nil_iff]
    intro entry member
    have other := noEntry entry member
    cases entry <;> simp_all [Given.parameter?]
  have noSwitch : switchOf given parameter = none := by
    rw [switchOf, List.getLast?_eq_none_iff, List.filterMap_eq_nil_iff]
    intro entry member
    have other := noEntry entry member
    cases entry <;> simp_all [Given.parameter?]
  cases parameter <;> simp [adopt, assigned, noValue, noSwitch]

theorem foldlM_settle_orderOf (passes : Passes disk (assigned given)) :
    (orderOf given).foldlM (settle disk given) {} = .ok (assigned given) := by
  rw [foldlM_settle passes _ ⟨.inl rfl, .inl rfl⟩]
  refine congrArg _ (eq_of_adopt fun parameter => adopt_foldl ?_)
  by_cases member : parameter ∈ orderOf given
  · exact .inl member
  · exact .inr (adopt_of_not_mem_orderOf member)

/-- The command takes what its arguments assign if the values pass its checks. -/
theorem parameters_eq_ok {target : Parameters} (found : assignment? arguments = some target)
    (passes : Passes disk target) : parameters disk arguments = .ok (some target) := by
  obtain ⟨given, positional, isRead, noHelp, single, rfl⟩ := assignment?_eq_some_iff.mp found
  have root : (positional.head?.map (Given.text .sourceRoot)).toList =
      positional.map (.text .sourceRoot) := by
    match positional, single with
    | [], _ => rfl
    | [_], _ => rfl
  have noMore : positional.drop 1 = [] := List.drop_eq_nil_of_le single
  have help : given.contains .help = false := by simpa using noHelp
  unfold parameters
  rw [isRead]
  change (if given.contains .help then _ else _) = _
  rw [help, root, noMore, if_neg Bool.false_ne_true, foldlM_settle_orderOf passes]
  rfl

end Companion.Arguments
