import Companion.Failure
import Mathlib.Data.List.Forall2

/-! Computations that may fail, seen through the failure they end in. A list of computations made one
after the other ends in the failure of the first one that fails. -/

set_option autoImplicit false

namespace Companion

/-- The failure that a computation ended in. -/
def Failure.of? {α : Type} : Except Failure α → Option Failure
  | .ok _ => none
  | .error failure => some failure

namespace Failure

variable {α β : Type}

@[simp] theorem of?_ok (value : α) : of? (.ok value : Except Failure α) = none := rfl

@[simp] theorem of?_error (failure : Failure) :
    of? (.error failure : Except Failure α) = some failure := rfl

theorem of?_eq_some_iff {outcome : Except Failure α} {failure : Failure} :
    of? outcome = some failure ↔ outcome = .error failure := by
  cases outcome <;> simp

theorem toOption_eq_some_iff {outcome : Except Failure α} {value : α} :
    outcome.toOption = some value ↔ outcome = .ok value := by
  cases outcome <;> simp [Except.toOption]

theorem eq_error_of_map {change : α → β} {outcome : Except Failure α} {failure : Failure}
    (fails : outcome.map change = .error failure) : outcome = .error failure := by
  cases outcome with
  | error => exact congrArg _ (Except.error.inj fails)
  | ok => cases fails

theorem bind_eq_ok_iff {first : Except Failure α} {next : α → Except Failure β} {result : β} :
    (first >>= next) = .ok result ↔ ∃ value, first = .ok value ∧ next value = .ok result := by
  cases first with
  | error failure => simp [bind, Except.bind]
  | ok value => simp [bind, Except.bind]

theorem of?_mapM (step : α → Except Failure β) (items : List α) :
    of? (items.mapM step) = items.findSome? fun item => of? (step item) := by
  induction items with
  | nil => rfl
  | cons item rest ih =>
      rw [List.mapM_cons, List.findSome?_cons]
      cases outcome : step item with
      | error failure => rfl
      | ok value =>
          rw [of?_ok, ← ih]
          cases others : rest.mapM step <;> rfl

theorem findSome?_cons_eq_or (failing : α → Option β) (item : α) (rest : List α) :
    (item :: rest).findSome? failing = (failing item).or (rest.findSome? failing) := by
  rw [List.findSome?_cons]
  cases failing item <;> rfl

theorem findSome?_flatMap {γ : Type} (failing : β → Option γ) (parts : α → List β) (items : List α) :
    (items.flatMap parts).findSome? failing =
      items.findSome? fun item => (parts item).findSome? failing := by
  induction items with
  | nil => rfl
  | cons item rest ih =>
      rw [List.flatMap_cons, List.findSome?_append, ih, List.findSome?_cons]
      cases (parts item).findSome? failing <;> rfl

theorem findSome?_congr {γ : Type} {failing other : α → Option γ} {items : List α}
    (each : ∀ item ∈ items, failing item = other item) :
    items.findSome? failing = items.findSome? other := by
  induction items with
  | nil => rfl
  | cons item rest ih =>
      rw [List.findSome?_cons, List.findSome?_cons, each item List.mem_cons_self,
        ih fun next member => each next (List.mem_cons_of_mem _ member)]

theorem of?_bind_ok (first : Except Failure α) (value : α → β) :
    of? (first >>= fun found => .ok (value found)) = of? first := by
  cases first <;> rfl

/-- Each of a list of computations that succeed together yields one of the results. -/
theorem exists_of_mapM_eq_ok {step : α → Except Failure β} {items : List α} {values : List β}
    (success : items.mapM step = .ok values) {item : α} (member : item ∈ items) :
    ∃ value ∈ values, step item = .ok value := by
  induction items generalizing values with
  | nil => simp at member
  | cons first rest ih =>
      rw [List.mapM_cons, bind_eq_ok_iff] at success
      obtain ⟨value, found, success⟩ := success
      rw [bind_eq_ok_iff] at success
      obtain ⟨others, foundOthers, success⟩ := success
      obtain rfl := Except.ok.inj success
      rcases List.mem_cons.mp member with rfl | member
      · exact ⟨value, List.mem_cons_self, found⟩
      · obtain ⟨other, isOther, foundOther⟩ := ih foundOthers member
        exact ⟨other, List.mem_cons_of_mem _ isOther, foundOther⟩

/-- Each result of a list of computations that succeed together is that of one of them. -/
theorem exists_of_mem_of_mapM_eq_ok {step : α → Except Failure β} {items : List α} {values : List β}
    (success : items.mapM step = .ok values) {value : β} (member : value ∈ values) :
    ∃ item ∈ items, step item = .ok value := by
  induction items generalizing values with
  | nil =>
      obtain rfl := Except.ok.inj success
      cases member
  | cons first rest ih =>
      rw [List.mapM_cons, bind_eq_ok_iff] at success
      obtain ⟨found, isFound, success⟩ := success
      rw [bind_eq_ok_iff] at success
      obtain ⟨others, foundOthers, success⟩ := success
      obtain rfl := Except.ok.inj success
      rcases List.mem_cons.mp member with rfl | member
      · exact ⟨first, List.mem_cons_self, isFound⟩
      · obtain ⟨item, isItem, found⟩ := ih foundOthers member
        exact ⟨item, List.mem_cons_of_mem _ isItem, found⟩

theorem forall₂_of_mapM_eq_ok {step : α → Except Failure β} {items : List α} {values : List β}
    (success : items.mapM step = .ok values) :
    List.Forall₂ (fun item value => step item = .ok value) items values := by
  induction items generalizing values with
  | nil =>
      obtain rfl := Except.ok.inj success
      exact .nil
  | cons first rest ih =>
      rw [List.mapM_cons, bind_eq_ok_iff] at success
      obtain ⟨value, found, success⟩ := success
      rw [bind_eq_ok_iff] at success
      obtain ⟨others, foundOthers, success⟩ := success
      obtain rfl := Except.ok.inj success
      exact .cons found (ih foundOthers)

/-- What holds of each result holds of all results. -/
theorem forall_of_forall₂ {related : α → β → Prop} {holds : β → Prop} {items : List α}
    {values : List β} (implies : ∀ item value, related item value → holds value)
    (each : List.Forall₂ related items values) : ∀ value ∈ values, holds value := by
  induction each with
  | nil => exact fun _ member => nomatch member
  | cons first rest ih => exact List.forall_mem_cons.mpr ⟨implies _ _ first, ih⟩

theorem mapM_congr {step other : α → Except Failure β} {items : List α}
    (each : ∀ item ∈ items, step item = other item) : items.mapM step = items.mapM other := by
  induction items with
  | nil => rfl
  | cons item rest ih =>
      rw [List.mapM_cons, List.mapM_cons, each item List.mem_cons_self,
        ih fun next member => each next (List.mem_cons_of_mem _ member)]

theorem exists_mapM_eq_ok {step : α → Except Failure β} {items : List α}
    (each : ∀ item ∈ items, ∃ value, step item = .ok value) :
    ∃ values, items.mapM step = .ok values := by
  induction items with
  | nil => exact ⟨[], rfl⟩
  | cons item rest ih =>
      obtain ⟨value, found⟩ := each item List.mem_cons_self
      obtain ⟨others, foundOthers⟩ := ih fun next member => each next (List.mem_cons_of_mem _ member)
      exact ⟨value :: others, by rw [List.mapM_cons, found, foundOthers]; rfl⟩

/-- Computations succeed together with results of which something holds if each does. -/
theorem exists_mapM_and_forall_iff {step : α → Except Failure β} {items : List α} {holds : β → Prop} :
    (∃ values, items.mapM step = .ok values ∧ ∀ value ∈ values, holds value) ↔
      ∀ item ∈ items, ∃ value, step item = .ok value ∧ holds value := by
  constructor
  · intro together item member
    obtain ⟨values, success, all⟩ := together
    obtain ⟨value, isValue, found⟩ := exists_of_mapM_eq_ok success member
    exact ⟨value, found, all value isValue⟩
  · intro each
    obtain ⟨values, success⟩ := exists_mapM_eq_ok fun item member =>
      (each item member).imp fun _ found => found.1
    refine ⟨values, success, ?_⟩
    intro value isValue
    obtain ⟨item, member, found⟩ := exists_of_mem_of_mapM_eq_ok success isValue
    obtain ⟨other, foundOther, holdsOther⟩ := each item member
    exact Except.ok.inj (foundOther.symm.trans found) ▸ holdsOther

theorem mapM_eq_ok_map {step : α → Except Failure β} {value : α → β} {items : List α}
    (each : ∀ item ∈ items, step item = .ok (value item)) :
    items.mapM step = .ok (items.map value) := by
  induction items with
  | nil => rfl
  | cons item rest ih =>
      rw [List.mapM_cons, each item List.mem_cons_self,
        ih fun other member => each other (List.mem_cons_of_mem _ member)]
      rfl

/-- Computations succeed together exactly if each does, when it is known what each yields. -/
theorem mapM_eq_ok_iff {step : α → Except Failure β} {value : α → β} {holds : α → Prop}
    {items : List α} {values : List β}
    (each : ∀ item ∈ items, ∀ found, step item = .ok found ↔ holds item ∧ found = value item) :
    items.mapM step = .ok values ↔ (∀ item ∈ items, holds item) ∧ values = items.map value := by
  constructor
  · intro success
    have holdsEach : ∀ item ∈ items, holds item := by
      intro item member
      obtain ⟨found, -, success⟩ := exists_of_mapM_eq_ok success member
      exact ((each item member found).mp success).1
    have whole : items.mapM step = .ok (items.map value) :=
      mapM_eq_ok_map fun item member => (each item member _).mpr ⟨holdsEach item member, rfl⟩
    exact ⟨holdsEach, Except.ok.inj (success.symm.trans whole)⟩
  · rintro ⟨holdsEach, rfl⟩
    exact mapM_eq_ok_map fun item member => (each item member _).mpr ⟨holdsEach item member, rfl⟩

/-- Computations made one list after the other. -/
theorem mapM_flatMap {γ : Type} (step : α → Except Failure β) (parts : γ → List α)
    (items : List γ) :
    (items.flatMap parts).mapM step =
      (items.mapM fun item => (parts item).mapM step) >>= fun found => .ok found.flatten := by
  induction items with
  | nil => rfl
  | cons item rest ih =>
      rw [List.flatMap_cons, List.mapM_append, ih, List.mapM_cons]
      cases (parts item).mapM step with
      | error failure => rfl
      | ok found =>
          cases rest.mapM fun item => (parts item).mapM step with
          | error failure => rfl
          | ok others => rfl

/-- What a list of computations yields together when none of them fails. -/
theorem mapM_eq_ok {step : α → Except Failure β} {items : List α} (usual : β)
    (success : items.findSome? (fun item => of? (step item)) = none) :
    items.mapM step = .ok (items.map fun item => (step item).toOption.getD usual) := by
  induction items with
  | nil => rfl
  | cons item rest ih =>
      rw [List.findSome?_cons] at success
      cases outcome : step item with
      | error failure => simp [outcome] at success
      | ok value =>
          rw [outcome] at success
          simp [List.mapM_cons, ih success, outcome, bind, Except.bind, pure, Except.pure,
            Except.toOption]

/-! ## Computations alike -/

/-- Two computations that both fail, be it in different failures, or both succeed, with related
results. -/
inductive Alike {α β : Type} (related : α → β → Prop) : Except Failure α → Except Failure β → Prop
  | ok {value : α} {other : β} (same : related value other) : Alike related (.ok value) (.ok other)
  | error (failure other : Failure) : Alike related (.error failure) (.error other)

variable {γ δ : Type} {related : α → β → Prop} {relatedNext : γ → δ → Prop}

theorem Alike.refl (outcome : Except Failure α) : Alike Eq outcome outcome := by
  cases outcome with
  | ok value => exact .ok rfl
  | error failure => exact .error failure failure

theorem Alike.outcomes {outcome : Except Failure α} {other : Except Failure β}
    (alike : Alike related outcome other) :
    (∃ failure otherFailure, outcome = .error failure ∧ other = .error otherFailure) ∨
      ∃ value otherValue, related value otherValue ∧ outcome = .ok value ∧ other = .ok otherValue := by
  cases alike with
  | ok same => exact .inr ⟨_, _, same, rfl, rfl⟩
  | error failure otherFailure => exact .inl ⟨failure, otherFailure, rfl, rfl⟩

theorem Alike.bind {first : Except Failure α} {other : Except Failure β} {next : α → Except Failure γ}
    {otherNext : β → Except Failure δ} (alike : Alike related first other)
    (continues : ∀ value otherValue, related value otherValue →
      Alike relatedNext (next value) (otherNext otherValue)) :
    Alike relatedNext (first >>= next) (other >>= otherNext) := by
  cases alike with
  | ok same => exact continues _ _ same
  | error failure otherFailure => exact .error failure otherFailure

theorem Alike.bind_same {first other : Except Failure α} {next : α → Except Failure γ}
    {otherNext : α → Except Failure δ} (alike : Alike Eq first other)
    (continues : ∀ value, Alike relatedNext (next value) (otherNext value)) :
    Alike relatedNext (first >>= next) (other >>= otherNext) :=
  alike.bind fun value _ same => same ▸ continues value

theorem Alike.mapM {items : List γ} {step : γ → Except Failure α} {otherStep : γ → Except Failure α}
    (each : ∀ item ∈ items, Alike Eq (step item) (otherStep item)) :
    Alike Eq (items.mapM step) (items.mapM otherStep) := by
  induction items with
  | nil => exact .ok rfl
  | cons item rest ih =>
      have others := ih fun other member => each other (List.mem_cons_of_mem _ member)
      rw [List.mapM_cons, List.mapM_cons]
      exact (each item List.mem_cons_self).bind_same fun value => others.bind_same fun values => .ok rfl

end Failure

end Companion
