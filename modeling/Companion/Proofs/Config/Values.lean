import Companion.Config.Settings
import Companion.Proofs.Failure

/-!
# Configurations and their values

A configuration is written as a value and read back. Main statement: what is written is read back as
the same configuration exactly when its generators and its formatter are settings and not raw values
and no operation has been taken away; and whatever a value was, reading and writing it settles it: its
written form is read and written as itself.
-/

set_option autoImplicit false

namespace Companion

variable {value : Value}

theorem RelocationSettings.pairsOf_pairs (pairs : List (Value × Value)) :
    pairsOf (.array (pairs.map fun pair => .array [pair.1, pair.2])) = .ok pairs := by
  change (pairs.map fun pair => Value.array [pair.1, pair.2]).mapM pairOf = .ok pairs
  induction pairs with
  | nil => rfl
  | cons pair rest ih =>
      rw [List.map_cons, List.mapM_cons, ih]
      rfl

theorem RelocationSettings.ofValue_toValue (settings : RelocationSettings) :
    ofValue settings.toValue = .ok settings := by
  change (pairsOf _ >>= fun replace => _) = _
  rw [pairsOf_pairs]
  rfl

theorem GeneratorSettings.ofValue_toValue (settings : GeneratorSettings) :
    ofValue settings.toValue = .ok settings := by
  change (RelocationSettings.ofValue settings.fileRelocation.toValue >>= fun files =>
    RelocationSettings.ofValue settings.specifierRelocation.toValue >>= fun specifiers => _) = _
  rw [RelocationSettings.ofValue_toValue, RelocationSettings.ofValue_toValue]
  rfl

theorem GeneratorSettings.mapM_ofValue_toValue (generators : List GeneratorSettings) :
    (generators.map toValue).mapM ofValue = .ok generators := by
  induction generators with
  | nil => rfl
  | cons settings rest ih =>
      rw [List.map_cons, List.mapM_cons, ofValue_toValue, ih]
      rfl

namespace Config

variable {config : Config}

/-- The generators and the formatter are settings, and no operation has been taken away. -/
structure IsSettled (config : Config) : Prop where
  generators : ∃ generators, config.generators = .listed generators
  formatter : ∃ settings, config.formatter = .given settings
  describable : config.isDescribable = true
  runnable : config.isRunnable = true

/-- The value of a configuration with given generators and formatter. -/
def valueWith (config : Config) (generators : List GeneratorSettings)
    (formatter : FormatterSettings) : Value :=
  .object [("source_root", config.sourceRoot), ("source_pattern", config.sourcePattern),
    ("directive_tag", config.directiveTag),
    ("generators", .array (generators.map GeneratorSettings.toValue)),
    ("formatter", formatter.toValue), ("add_generation_comment", config.addGenerationComment)]

/-- The configuration with given generators and formatter and all of its operations. -/
def settledWith (config : Config) (generators : List GeneratorSettings)
    (formatter : FormatterSettings) : Config :=
  { config with
    generators := .listed generators
    formatter := .given formatter
    isDescribable := true
    isRunnable := true }

theorem toValue_eq_ok_iff : config.toValue = .ok value ↔
    config.isDescribable = true ∧ ∃ generators formatter,
      config.generators.toList = .ok generators ∧ config.formatter.settings = .ok formatter ∧
        config.valueWith generators formatter = value := by
  cases describable : config.isDescribable with
  | false => simp [toValue, describable, throw, throwThe, MonadExceptOf.throw, bind, Except.bind]
  | true =>
      simp only [toValue, describable, Bool.not_true, Bool.false_eq_true, if_false, true_and,
        Failure.bind_eq_ok_iff, pure, Except.pure, Except.ok.injEq]
      simp [valueWith]

theorem set_generators (config : Config) (generators : List GeneratorSettings) :
    config.set "generators" (.array (generators.map GeneratorSettings.toValue)) =
      .ok { config with generators := .listed generators } := by
  change ((generators.map GeneratorSettings.toValue).mapM GeneratorSettings.ofValue >>=
    fun read => _) = _
  rw [GeneratorSettings.mapM_ofValue_toValue]
  rfl

theorem ofValue_valueWith (generators : List GeneratorSettings) (formatter : FormatterSettings) :
    ofValue (config.valueWith generators formatter) =
      .ok (config.settledWith generators formatter) := by
  change (set _ "generators" _ >>= fun read => set read "formatter" _ >>= fun read => _) = _
  rw [set_generators]
  rfl

theorem isSettled_settledWith (generators : List GeneratorSettings) (formatter : FormatterSettings) :
    (config.settledWith generators formatter).IsSettled :=
  ⟨⟨generators, rfl⟩, ⟨formatter, rfl⟩, rfl, rfl⟩

theorem toValue_settledWith (generators : List GeneratorSettings) (formatter : FormatterSettings) :
    (config.settledWith generators formatter).toValue =
      .ok (config.valueWith generators formatter) :=
  toValue_eq_ok_iff.mpr ⟨rfl, generators, formatter, rfl, rfl, rfl⟩

theorem IsSettled.exists_eq (settled : config.IsSettled) :
    ∃ generators formatter, config = config.settledWith generators formatter := by
  obtain ⟨⟨generators, listed⟩, ⟨formatter, given⟩, describable, runnable⟩ := settled
  refine ⟨generators, formatter, ?_⟩
  cases config
  simp_all [settledWith]

/-- What is written is read back exactly if the configuration is settled, and what has been read from
any members and written is read and written as itself. -/
theorem value_settles (config : Config) :
    ((∃ value, config.toValue = .ok value ∧ ofValue value = .ok config) ↔ config.IsSettled) ∧
      ∀ members value, (ofValue (.object members) >>= toValue) = .ok value →
        (ofValue value >>= toValue) = .ok value := by
  refine ⟨⟨?_, ?_⟩, ?_⟩
  · intro returns
    obtain ⟨value, written, read⟩ := returns
    obtain ⟨-, generators, formatter, -, -, rfl⟩ := toValue_eq_ok_iff.mp written
    have same := Except.ok.inj ((ofValue_valueWith generators formatter).symm.trans read)
    exact same ▸ isSettled_settledWith generators formatter
  · intro settled
    obtain ⟨generators, formatter, same⟩ := settled.exists_eq
    rw [same]
    exact ⟨_, toValue_settledWith generators formatter, ofValue_valueWith generators formatter⟩
  · intro members value written
    obtain ⟨first, -, written⟩ := Failure.bind_eq_ok_iff.mp written
    obtain ⟨-, generators, formatter, -, -, rfl⟩ := toValue_eq_ok_iff.mp written
    rw [ofValue_valueWith]
    exact toValue_settledWith generators formatter

/-- A generator without a name that replaces by a text, a formatter with a strange time limit, and a
name that means nothing. -/
theorem value_settles_strange :
    let members : List (Text × Value) :=
      [("nonsense", .integer 1), ("formatter", .object [("timeout", .string "soon")]),
        ("generators", .array [.object [("target_path", .object [("replace", .array [.string "ab"])])]])]
    let value := Value.object
      [("source_root", .string "."), ("source_pattern", .null), ("directive_tag", .string "ts-ppx"),
        ("generators", .array [.object [("name", .string []),
          ("target_path", .object
            [("replace", .array [.array [.string "a", .string "b"]]), ("subdirectory", .null)]),
          ("target_import_path", .object
            [("replace", .array [.array [.string ".ppx", .string []]]), ("subdirectory", .null)])]]),
        ("formatter", .object [("enabled", .boolean false), ("command", .array [.string "prettier"]),
          ("parser", .string "typescript"), ("print_width", .null), ("timeout", .string "soon"),
          ("extra_args", .array [])]),
        ("add_generation_comment", .boolean false)]
    (ofValue (.object members) >>= toValue) = .ok value ∧
      (ofValue value >>= toValue) = .ok value := by
  intro members value
  have written : (ofValue (.object members) >>= toValue) = .ok value := by rfl
  exact ⟨written, (value_settles {}).2 members value written⟩

end Config

end Companion
