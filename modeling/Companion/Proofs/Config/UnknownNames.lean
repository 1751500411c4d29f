import Companion.Config.RunSettings
import Companion.Proofs.Config.Values

/-!
# Unknown names

Members under names that are no settings, put anywhere among the members of a configuration. They are
ignored unless their names are reserved: reading then runs through the same configurations as without
them. A reserved name does not pass unseen, since a configuration without other members either is not
read, or has lost an operation, or names no generators.
-/

set_option autoImplicit false

namespace Companion.Config

variable {config last : Config} {extra members whole : List (Text × Value)}

/-- The names of the settings. -/
def settingNames : List Text :=
  ["source_root", "source_pattern", "directive_tag", "generators", "formatter",
    "add_generation_comment"]

/-- The names that are no settings and still mean something. -/
def reservedNames : List Text :=
  ["to_dict", "build_run_config", "__class__", "__weakref__", "__dict__"]

/-- Members with extra ones put anywhere among them. -/
inductive Extends (extra : List (Text × Value)) :
    List (Text × Value) → List (Text × Value) → Prop
  | nil : Extends extra [] []
  | keep {members whole : List (Text × Value)} (entry : Text × Value)
      (rest : Extends extra members whole) : Extends extra (entry :: members) (entry :: whole)
  | insert {members whole : List (Text × Value)} (entry : Text × Value) (isExtra : entry ∈ extra)
      (rest : Extends extra members whole) : Extends extra members (entry :: whole)

/-- Two outcomes of reading a configuration have the same values and the same run settings, or the
same failures instead of them. -/
structure SameUse (left right : Except Failure Config) : Prop where
  values : (left >>= toValue) = (right >>= toValue)
  runs : ∀ comment, (left >>= (·.runSettings comment)) = (right >>= (·.runSettings comment))

/-! ## Names without a meaning -/

theorem set_of_not_mem_settingNames {name : Text} (unknown : name ∉ settingNames) (value : Value) :
    config.set name value = config.setReserved name value := by
  simp only [settingNames, List.mem_cons, List.not_mem_nil, or_false, not_or] at unknown
  obtain ⟨noRoot, noPattern, noTag, noGenerators, noFormatter, noComment⟩ := unknown
  rw [set, if_neg noRoot, if_neg noPattern, if_neg noTag, if_neg noComment, if_neg noGenerators,
    if_neg noFormatter]

theorem setReserved_of_not_mem_reservedNames {name : Text} (free : name ∉ reservedNames)
    (value : Value) : config.setReserved name value = .ok config := by
  simp only [reservedNames, List.mem_cons, List.not_mem_nil, or_false, not_or] at free
  obtain ⟨noValue, noRun, noClass, noReference, noAttributes⟩ := free
  unfold setReserved
  rw [if_neg noValue, if_neg noRun, if_neg, if_neg noAttributes]
  simp only [Bool.or_eq_true, decide_eq_true_eq, noClass, noReference, or_self, not_false_eq_true]

theorem foldlM_set_of_extends (extended : Extends extra members whole)
    (ignored : ∀ entry ∈ extra, ∀ config : Config, config.set entry.1 entry.2 = .ok config)
    (config : Config) :
    (whole.foldlM (fun config member => config.set member.1 member.2) config : Except Failure Config) =
      members.foldlM (fun config member => config.set member.1 member.2) config := by
  induction extended generalizing config with
  | nil => rfl
  | keep entry rest ih =>
      rw [List.foldlM_cons, List.foldlM_cons]
      exact bind_congr ih
  | insert entry isExtra rest ih =>
      rw [List.foldlM_cons, ignored entry isExtra config]
      exact ih config

theorem extends_nil (extra : List (Text × Value)) : Extends extra [] extra := by
  suffices every : ∀ part, part ⊆ extra → Extends extra [] part from every extra (List.Subset.refl _)
  intro part within
  induction part with
  | nil => exact .nil
  | cons entry rest ih =>
      obtain ⟨isExtra, others⟩ := List.cons_subset.mp within
      exact .insert entry isExtra (ih others)

/-! ## Reserved names -/

/-- The configuration has its operations and names generators. -/
structure IsWhole (config : Config) : Prop where
  describable : config.isDescribable = true
  runnable : config.isRunnable = true
  generators : ∃ first rest, config.generators.toList = .ok (first :: rest)

theorem toList_ofRaw_ne (value : Value) (first : GeneratorSettings) (rest : List GeneratorSettings) :
    (GeneratorList.ofRaw value).toList ≠ .ok (first :: rest) := by
  unfold GeneratorList.ofRaw GeneratorList.toList
  grind

theorem not_isWhole_ofAttributes : ¬ (ofAttributes members).IsWhole := by
  intro isWhole
  obtain ⟨first, rest, listed⟩ := isWhole.generators
  unfold ofAttributes at listed
  cases found : Value.member? members "generators".toList with
  | none =>
      rw [found] at listed
      cases listed
  | some value =>
      rw [found] at listed
      exact toList_ofRaw_ne value first rest listed

theorem setReserved_eq_ok {name : Text} {value : Value} (isWhole : last.IsWhole)
    (read : config.setReserved name value = .ok last) : name ∉ reservedNames ∧ config = last := by
  by_cases isReserved : name ∈ reservedNames
  · exfalso
    simp only [reservedNames, List.mem_cons, List.not_mem_nil, or_false] at isReserved
    obtain rfl | rfl | rfl | rfl | rfl := isReserved
    · obtain rfl : { config with isDescribable := false } = last := Except.ok.inj read
      cases isWhole.describable
    · obtain rfl : { config with isRunnable := false } = last := Except.ok.inj read
      cases isWhole.runnable
    · cases (read : Except.error Failure.badShape = .ok last)
    · cases (read : Except.error Failure.badShape = .ok last)
    · cases value with
      | object members =>
          obtain rfl : ofAttributes members = last := Except.ok.inj read
          exact not_isWhole_ofAttributes isWhole
      | null | boolean | integer | decimal | string | array =>
          cases (read : Except.error Failure.badShape = .ok last)
  · rw [setReserved_of_not_mem_reservedNames isReserved] at read
    exact ⟨isReserved, Except.ok.inj read⟩

/-- The last configuration is whole only if no name on the way was reserved. -/
theorem not_mem_reservedNames_of_foldlM (unknown : ∀ entry ∈ extra, entry.1 ∉ settingNames)
    (isWhole : last.IsWhole)
    (read : extra.foldlM (fun config member => config.set member.1 member.2) config =
      (.ok last : Except Failure Config)) :
    (∀ entry ∈ extra, entry.1 ∉ reservedNames) ∧ config = last := by
  -- The hypothesis is about the last configuration, so the steps are gone through from there back:
  -- what follows the first step shows that it led to a whole configuration.
  induction extra generalizing config with
  | nil => exact ⟨List.forall_mem_nil _, Except.ok.inj read⟩
  | cons entry rest ih =>
      obtain ⟨entryUnknown, restUnknown⟩ := List.forall_mem_cons.mp unknown
      rw [List.foldlM_cons, Failure.bind_eq_ok_iff] at read
      obtain ⟨next, first, others⟩ := read
      obtain ⟨restFree, rfl⟩ := ih restUnknown others
      rw [set_of_not_mem_settingNames entryUnknown] at first
      obtain ⟨entryFree, same⟩ := setReserved_eq_ok isWhole first
      exact ⟨List.forall_mem_cons.mpr ⟨entryFree, restFree⟩, same⟩

theorem isWhole_of_sameUse (same : SameUse (.ok config) (ofValue (.object []))) :
    config.IsWhole := by
  have usualValue : (ofValue (.object []) >>= toValue) =
      .ok (valueWith {} GeneratorSettings.defaults {}) := rfl
  obtain ⟨describable, generators, formatter, listed, -, written⟩ :=
    toValue_eq_ok_iff.mp (same.values.trans usualValue)
  refine ⟨describable, ?_, ?_⟩
  · cases runnable : config.isRunnable with
    | true => rfl
    | false =>
        have refused : config.runSettings none = .error .badShape := by
          unfold runSettings
          rw [runnable]
          rfl
        cases refused.symm.trans (same.runs none)
  · cases generators with
    | nil => simp [valueWith, GeneratorSettings.defaults] at written
    | cons first rest => exact ⟨first, rest, listed⟩

/-- Extra members that are no settings are ignored wherever they stand exactly if none of their names
is reserved. -/
theorem ofValue_ignores_iff (unknown : ∀ entry ∈ extra, entry.1 ∉ settingNames) :
    (∀ members whole, Extends extra members whole →
      SameUse (ofValue (.object whole)) (ofValue (.object members))) ↔
    ∀ entry ∈ extra, entry.1 ∉ reservedNames := by
  constructor
  · intro same
    have alone := same [] extra (extends_nil extra)
    cases read : ofValue (.object extra) with
    | error failure =>
        rw [read] at alone
        cases alone.values
    | ok last =>
        rw [read] at alone
        exact (not_mem_reservedNames_of_foldlM unknown (isWhole_of_sameUse alone) read).1
  · intro free members whole extended
    have ignored : ∀ entry ∈ extra, ∀ config : Config, config.set entry.1 entry.2 = .ok config := by
      intro entry isExtra config
      rw [set_of_not_mem_settingNames (unknown entry isExtra)]
      exact setReserved_of_not_mem_reservedNames (free entry isExtra) entry.2
    have read : ofValue (.object whole) = ofValue (.object members) :=
      foldlM_set_of_extends extended ignored {}
    rw [read]
    exact ⟨rfl, fun _ => rfl⟩

theorem ofValue_ignores_nonsense :
    let extra : List (Text × Value) := [("nonsense", .integer 1), ("from_dict", .null)]
    (∀ entry ∈ extra, entry.1 ∉ settingNames) ∧ ∀ members whole, Extends extra members whole →
      SameUse (ofValue (.object whole)) (ofValue (.object members)) := by
  intro extra
  have unknown : ∀ entry ∈ extra, entry.1 ∉ settingNames := by decide
  exact ⟨unknown, (ofValue_ignores_iff unknown).mpr (by decide)⟩

/-- With a member under the name of the operation that writes a configuration, nothing can be
written. -/
theorem not_sameUse_toDict :
    ("to_dict".toList ∉ settingNames) ∧
      Extends [("to_dict".toList, .integer 1)] [] [("to_dict".toList, .integer 1)] ∧
        ¬ SameUse (ofValue (.object [("to_dict".toList, .integer 1)])) (ofValue (.object [])) := by
  refine ⟨by decide, extends_nil _, ?_⟩
  intro same
  cases same.values

end Companion.Config
