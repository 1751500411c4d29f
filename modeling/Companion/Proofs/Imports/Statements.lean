import Companion.Imports
import Companion.Proofs.Failure
import Mathlib.Data.List.Induction

/-!
# Import statements

The first statement that binds a name decides what the name is imported as, and only the source of that
statement matters. A source can be used if it is a string that is not empty.
-/

set_option autoImplicit false

namespace Companion.Imports

open Syntax

variable {path name : Text} {statement : Node} {statements : List Node} {failure : Failure}

/-! ## Sources -/

/-- A text stands between two quotes of one kind. -/
def IsQuoted (specifier text : Text) : Prop :=
  specifier ≠ [] ∧ ∃ quote, text = quote :: specifier ++ [quote]

def NamesModule (specifier : Text) (statement : Node) : Prop :=
  ∃ source, statement.child? .source = some source ∧ source.kind = .string ∧
    IsQuoted specifier source.text

def HasUsableSource (statement : Node) : Prop := ∃ specifier, NamesModule specifier statement

/-- How an import statement without a usable source is reported: a source that is no string at all by
the statement, another one by what stands in its place. -/
def IsMalformed (path : Text) (statement : Node) (failure : Failure) : Prop :=
  ((∀ source, statement.child? .source = some source → source.kind ≠ .string) ∧
      failure = .inconsistent (.malformedImport path statement.line)) ∨
    ∃ source, statement.child? .source = some source ∧ source.kind = .string ∧
      (∀ specifier, ¬ IsQuoted specifier source.text) ∧
      failure = .inconsistent (.malformedImportSource source.text path statement.line)

theorem IsQuoted.inner_eq {specifier text : Text} (quoted : IsQuoted specifier text) :
    Text.inner text = specifier := by
  obtain ⟨-, quote, rfl⟩ := quoted
  simp [Text.inner]

theorem isQuoted_inner_iff {text : Text} : IsQuoted (Text.inner text) text ↔
    ¬ (text.length < 2 || text.head? ≠ text.getLast? || (Text.inner text).isEmpty) = true := by
  cases text with
  | nil => simp [IsQuoted, Text.inner]
  | cons quote rest =>
      cases rest using List.reverseRecOn with
      | nil => simp [IsQuoted, Text.inner]
      | append_singleton specifier last =>
          have inner : Text.inner (quote :: (specifier ++ [last])) = specifier := by
            simp [Text.inner]
          have final : (quote :: (specifier ++ [last])).getLast? = some last := by
            rw [← List.cons_append, List.getLast?_concat]
          rw [IsQuoted, inner, final]
          by_cases same : quote = last
          · simp [same]
          · simp [same, Ne.symm same]

theorem NamesModule.unique {specifier other : Text} (names : NamesModule specifier statement)
    (namesOther : NamesModule other statement) : specifier = other := by
  obtain ⟨source, isSource, -, quoted⟩ := names
  obtain ⟨_, isOther, -, quotedOther⟩ := namesOther
  obtain rfl := Option.some.inj (isSource.symm.trans isOther)
  exact quoted.inner_eq.symm.trans quotedOther.inner_eq

theorem IsMalformed.unique {other : Failure} (malformed : IsMalformed path statement failure)
    (malformedOther : IsMalformed path statement other) : failure = other := by
  rcases malformed with ⟨noString, rfl⟩ | ⟨source, isSource, isString, -, rfl⟩ <;>
    rcases malformedOther with ⟨noOther, rfl⟩ | ⟨_, isOther, isOtherString, -, rfl⟩
  · rfl
  · exact absurd isOtherString (noString _ isOther)
  · exact absurd isString (noOther _ isSource)
  · obtain rfl := Option.some.inj (isSource.symm.trans isOther)
    rfl

theorem IsMalformed.not_hasUsableSource (malformed : IsMalformed path statement failure) :
    ¬ HasUsableSource statement := by
  intro usable
  obtain ⟨specifier, source, isSource, isString, quoted⟩ := usable
  rcases malformed with ⟨noString, -⟩ | ⟨_, isOther, -, unquoted, -⟩
  · exact noString source isSource isString
  · obtain rfl := Option.some.inj (isSource.symm.trans isOther)
    exact unquoted specifier quoted

theorem moduleSpecifier_cases (path : Text) (statement : Node) :
    (∃ specifier, NamesModule specifier statement ∧
        moduleSpecifier path statement = .ok specifier) ∨
      ∃ failure, IsMalformed path statement failure ∧
        moduleSpecifier path statement = .error failure := by
  unfold moduleSpecifier
  cases named : statement.child? .source with
  | none =>
      have noString : ∀ source, statement.child? .source = some source → source.kind ≠ .string :=
        fun source isSource => nomatch (named.symm.trans isSource)
      exact .inr ⟨_, .inl ⟨noString, rfl⟩, rfl⟩
  | some source =>
      dsimp only
      by_cases isString : source.kind = .string
      · rw [if_neg (not_not.mpr isString)]
        by_cases quoted : IsQuoted (Text.inner source.text) source.text
        · rw [if_neg (isQuoted_inner_iff.mp quoted)]
          exact .inl ⟨_, ⟨source, named, isString, quoted⟩, rfl⟩
        · rw [if_pos (not_not.mp (mt isQuoted_inner_iff.mpr quoted))]
          have unquoted : ∀ specifier, ¬ IsQuoted specifier source.text :=
            fun specifier holds => quoted (holds.inner_eq ▸ holds)
          exact .inr ⟨_, .inr ⟨source, named, isString, unquoted, rfl⟩, rfl⟩
      · rw [if_pos isString]
        have noString : ∀ other, statement.child? .source = some other → other.kind ≠ .string := by
          intro other isOther
          obtain rfl := Option.some.inj (named.symm.trans isOther)
          exact isString
        exact .inr ⟨_, .inl ⟨noString, rfl⟩, rfl⟩

theorem moduleSpecifier_eq_ok_iff {specifier : Text} :
    moduleSpecifier path statement = .ok specifier ↔ NamesModule specifier statement := by
  cases moduleSpecifier_cases path statement with
  | inl reads =>
      obtain ⟨other, names, read⟩ := reads
      rw [read, Except.ok.injEq]
      exact ⟨fun same => same ▸ names, names.unique⟩
  | inr fails =>
      obtain ⟨failure, malformed, failed⟩ := fails
      rw [failed]
      exact ⟨nofun, fun names => absurd ⟨specifier, names⟩ malformed.not_hasUsableSource⟩

theorem moduleSpecifier_eq_error_iff :
    moduleSpecifier path statement = .error failure ↔ IsMalformed path statement failure := by
  cases moduleSpecifier_cases path statement with
  | inl reads =>
      obtain ⟨specifier, names, read⟩ := reads
      rw [read]
      exact ⟨nofun, fun malformed => absurd ⟨specifier, names⟩ malformed.not_hasUsableSource⟩
  | inr fails =>
      obtain ⟨other, malformed, failed⟩ := fails
      rw [failed, Except.error.injEq]
      exact ⟨fun same => same ▸ malformed, malformed.unique⟩

theorem exists_isMalformed (path : Text) (unusable : ¬ HasUsableSource statement) :
    ∃ failure, IsMalformed path statement failure := by
  cases moduleSpecifier_cases path statement with
  | inl reads => exact absurd ⟨reads.choose, reads.choose_spec.1⟩ unusable
  | inr fails => exact ⟨fails.choose, fails.choose_spec.1⟩

/-! ## Bindings -/

def Binds (name : Text) (statement : Node) : Prop :=
  ∃ specifier ∈ specifiers statement, ∃ imported, specifierNames specifier = some (imported, name)

def IsFirstBinding (name : Text) (statements : List Node) (statement : Node) : Prop :=
  ∃ before after, statements = before ++ statement :: after ∧
    (∀ other ∈ before, ¬ Binds name other) ∧ Binds name statement

theorem importedAs_eq_none_iff : importedAs name statement = none ↔ ¬ Binds name statement := by
  rw [importedAs, List.findSome?_eq_none_iff, Binds]
  constructor
  · intro none bound
    obtain ⟨specifier, member, imported, names⟩ := bound
    simpa [names] using none specifier member
  · intro unbound specifier member
    split
    · next imported localName names =>
      split
      · next same => exact absurd ⟨specifier, member, imported, same ▸ names⟩ unbound
      · rfl
    · rfl

theorem find_of_not_binds (unbound : ∀ statement ∈ statements, ¬ Binds name statement) :
    find path name statements = .ok none := by
  induction statements with
  | nil => rfl
  | cons statement rest ih =>
      rw [find, importedAs_eq_none_iff.mpr (unbound statement List.mem_cons_self)]
      exact ih fun other member => unbound other (List.mem_cons_of_mem _ member)

theorem find_of_isFirstBinding (path : Text)
    (first : IsFirstBinding name statements statement) :
    ∃ imported, find path name statements =
      (moduleSpecifier path statement).map fun specifier => some ⟨name, imported, specifier⟩ := by
  obtain ⟨before, after, rfl, unbound, binds⟩ := first
  induction before with
  | nil =>
      cases imports : importedAs name statement with
      | none => exact absurd binds (importedAs_eq_none_iff.mp imports)
      | some imported =>
          refine ⟨imported, ?_⟩
          rw [List.nil_append, find, imports]
          cases moduleSpecifier path statement <;> rfl
  | cons other others ih =>
      rw [List.cons_append, find, importedAs_eq_none_iff.mpr (unbound other List.mem_cons_self)]
      exact ih fun next member => unbound next (List.mem_cons_of_mem _ member)

theorem isFirstBinding_cases (name : Text) (statements : List Node) :
    (∀ statement ∈ statements, ¬ Binds name statement) ∨
      ∃ statement, IsFirstBinding name statements statement := by
  induction statements with
  | nil => exact .inl (List.forall_mem_nil _)
  | cons statement rest ih =>
      by_cases binds : Binds name statement
      · exact .inr ⟨statement, [], rest, rfl, List.forall_mem_nil _, binds⟩
      · cases ih with
        | inl unbound => exact .inl (List.forall_mem_cons.mpr ⟨binds, unbound⟩)
        | inr bound =>
            obtain ⟨first, before, after, rfl, unbound, bindsFirst⟩ := bound
            exact .inr ⟨first, statement :: before, after, rfl,
              List.forall_mem_cons.mpr ⟨binds, unbound⟩, bindsFirst⟩

/-- What binds a name has it as its local name, and the first statement that binds it names the
module. -/
theorem isFirstBinding_of_find_eq_ok {binding : ImportedName}
    (found : find path name statements = .ok (some binding)) :
    binding.localName = name ∧ ∃ statement, IsFirstBinding name statements statement ∧
      NamesModule binding.specifier statement := by
  cases isFirstBinding_cases name statements with
  | inl unbound => cases (find_of_not_binds unbound).symm.trans found
  | inr bound =>
      obtain ⟨statement, first⟩ := bound
      obtain ⟨imported, decides⟩ := find_of_isFirstBinding path first
      rw [decides] at found
      cases read : moduleSpecifier path statement with
      | error failure =>
          rw [read] at found
          cases found
      | ok specifier =>
          rw [read] at found
          obtain rfl := Option.some.inj (Except.ok.inj found)
          exact ⟨rfl, statement, first, moduleSpecifier_eq_ok_iff.mp read⟩

theorem localName_of_find_eq_ok {binding : ImportedName}
    (found : find path name statements = .ok (some binding)) : binding.localName = name :=
  (isFirstBinding_of_find_eq_ok found).1

theorem find_eq_error_iff : find path name statements = .error failure ↔
    ∃ statement, IsFirstBinding name statements statement ∧ IsMalformed path statement failure := by
  constructor
  · intro failed
    cases isFirstBinding_cases name statements with
    | inl unbound => cases (find_of_not_binds unbound).symm.trans failed
    | inr bound =>
        obtain ⟨statement, first⟩ := bound
        obtain ⟨imported, decides⟩ := find_of_isFirstBinding path first
        rw [decides] at failed
        cases read : moduleSpecifier path statement with
        | ok specifier =>
            rw [read] at failed
            cases failed
        | error other =>
            rw [read] at failed
            obtain rfl := Except.error.inj failed
            exact ⟨statement, first, moduleSpecifier_eq_error_iff.mp read⟩
  · intro bound
    obtain ⟨statement, first, malformed⟩ := bound
    obtain ⟨imported, decides⟩ := find_of_isFirstBinding path first
    rw [decides, moduleSpecifier_eq_error_iff.mpr malformed]
    rfl

theorem exists_find_eq_ok (path name : Text)
    (usable : ∀ statement ∈ statements, HasUsableSource statement) :
    ∃ found, find path name statements = .ok found := by
  cases looked : find path name statements with
  | ok found => exact ⟨found, rfl⟩
  | error failure =>
      obtain ⟨statement, ⟨before, after, rfl, -⟩, malformed⟩ := find_eq_error_iff.mp looked
      exact absurd (usable statement (by simp)) malformed.not_hasUsableSource

end Companion.Imports
