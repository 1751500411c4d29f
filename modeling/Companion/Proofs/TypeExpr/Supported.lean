import Companion.Proofs.Imports
import Companion.Proofs.Imports.Statements
import Companion.Proofs.TypeExpr.Constructs
import Companion.Proofs.TypeExpr.Numerals

/-!
# Supported constructs

Which constructs types are made of, and how each other construct is reported. A type can be elaborated
just if all its constructs are supported, each taken on its own; if not, the first one that is not
supported is reported.
-/

set_option autoImplicit false

namespace Companion

open Syntax

/-! ## Supported and offending constructs -/

namespace Syntax.Node

/-- A token that is read as a literal: a string, a keyword of the value language or a number. -/
def IsLiteral (token : Node) : Prop :=
  token.kind = .string ∨
    token.text.trim ∈ ([ "undefined", "null", "true", "false"] : List Text) ∨
    token.kind = .number ∨ token.kind = .unaryExpression ∨ Literal.IsNumeral token.text.trim

def IsKey (token : Node) : Prop :=
  token.kind = .string ∨ token.kind = .propertyIdentifier ∨ token.kind = .number

def keyName (key : Node) : Text :=
  if key.kind = .string then StringBody.betweenSingleQuotes key.text.inner else key.text

def typeKinds : List Kind := [.predefinedType, .typeIdentifier, .literalType, .objectType, .unionType,
  .parenthesizedType, .genericType]

end Syntax.Node

namespace Construct

open Imports

/-- The constructs that types are made of, in a module with the given import statements. What stands
inside a construct is one of its own. -/
inductive IsSupported (statements : List Node) : Construct → Prop where
  | keyword {node : Node} {primitive : PrimitiveType}
      (kind : node.kind = .predefinedType ∨ node.kind = .typeIdentifier)
      (text : node.text = primitive.keyword) : IsSupported statements (.type node)
  | name {node : Node} (kind : node.kind = .typeIdentifier)
      (usable : ∀ statement, IsFirstBinding node.text statements statement →
        HasUsableSource statement) : IsSupported statements (.type node)
  | literal {node : Node} (kind : node.kind = .literalType) (token : node.literalToken.IsLiteral) :
      IsSupported statements (.type node)
  | object {node : Node} (kind : node.kind = .objectType) : IsSupported statements (.type node)
  | union {node : Node} (kind : node.kind = .unionType) : IsSupported statements (.type node)
  | parentheses {node inner : Node} (kind : node.kind = .parenthesizedType)
      (holds : node.constituents = [inner]) : IsSupported statements (.type node)
  | readonly {node inner : Node} (kind : node.kind = .genericType)
      (named : node.genericName = "Readonly".toList) (holds : node.arguments = [inner]) :
      IsSupported statements (.type node)
  | property {node key inner : Node} (kind : node.kind = .propertySignature)
      (keyed : node.child? .name = some key) (isKey : key.IsKey)
      (typed : node.annotated? = some inner) : IsSupported statements (.member node)

/-- The constructs that types are not made of, each with the failure that reports it and its line. A
key and a missing annotation are reported at the line of the property, a malformed import at that of
the import statement. -/
inductive Offends (path : Text) (statements : List Node) : Construct → Failure → Prop where
  | keyword {node : Node} (kind : node.kind = .predefinedType)
      (other : ∀ primitive : PrimitiveType, node.text ≠ primitive.keyword) :
      Offends path statements (.type node)
        (.unsupportedType ("predefined_type ".toList ++ node.text) ⟨path, some node.line⟩)
  | name {node statement : Node} {failure : Failure} (kind : node.kind = .typeIdentifier)
      (other : ∀ primitive : PrimitiveType, node.text ≠ primitive.keyword)
      (first : IsFirstBinding node.text statements statement)
      (malformed : IsMalformed path statement failure) :
      Offends path statements (.type node) failure
  | literal {node : Node} (kind : node.kind = .literalType)
      (other : ¬ node.literalToken.IsLiteral) :
      Offends path statements (.type node) (.unsupportedType
        ("literal_type ".toList ++ node.literalToken.kind.name) ⟨path, some node.line⟩)
  | parentheses {node : Node} (kind : node.kind = .parenthesizedType)
      (other : node.constituents.length ≠ 1) :
      Offends path statements (.type node)
        (.unsupportedType "parenthesized_type" ⟨path, some node.line⟩)
  | generic {node : Node} (kind : node.kind = .genericType)
      (other : node.genericName ≠ "Readonly".toList) :
      Offends path statements (.type node)
        (.unsupportedType ("generic_type ".toList ++ node.genericName) ⟨path, some node.line⟩)
  | arguments {node : Node} (kind : node.kind = .genericType)
      (named : node.genericName = "Readonly".toList) (other : node.arguments.length ≠ 1) :
      Offends path statements (.type node)
        (.unsupportedType ("generic_type Readonly with ".toList ++
          Text.ofNat node.arguments.length ++ " type arguments".toList) ⟨path, some node.line⟩)
  | type {node : Node} (other : node.kind ∉ Node.typeKinds) :
      Offends path statements (.type node) (.unsupportedType node.kind.name ⟨path, some node.line⟩)
  | member {node : Node} (other : node.kind ≠ .propertySignature) :
      Offends path statements (.member node) (.unsupportedType node.kind.name ⟨path, some node.line⟩)
  | key {node key : Node} (kind : node.kind = .propertySignature)
      (keyed : node.child? .name = some key) (other : ¬ key.IsKey) :
      Offends path statements (.member node) (.unsupportedType key.kind.name ⟨path, some node.line⟩)
  | untyped {node key : Node} (kind : node.kind = .propertySignature)
      (keyed : node.child? .name = some key) (isKey : key.IsKey) (none : node.annotated? = none) :
      Offends path statements (.member node)
        (.untypedProperty key.keyName ⟨path, some node.line⟩)

end Construct

namespace TypeExpr

open Construct

variable {scope : Scope} {path : Text} {statements : List Node} {node token key : Node}

/-! ## Names, literals and keys on their own -/

theorem ofKeyword?_eq_some {text : Text} {primitive : PrimitiveType}
    (isKeyword : text = primitive.keyword) : PrimitiveType.ofKeyword? text = some primitive := by
  subst isKeyword
  cases primitive <;> rfl

theorem ofKeyword?_eq_none {text : Text}
    (other : ∀ primitive : PrimitiveType, text ≠ primitive.keyword) :
    PrimitiveType.ofKeyword? text = none := by
  rw [PrimitiveType.ofKeyword?, List.find?_eq_none]
  intro primitive _ isKeyword
  exact other primitive (of_decide_eq_true isKeyword).symm

theorem ofKeyword?_literal_eq_none_iff {text : Text} {line : Option Int} :
    Literal.ofKeyword? text line = none ↔
      text ∉ (["undefined", "null", "true", "false"] : List Text) := by
  unfold Literal.ofKeyword?
  simp only [List.mem_cons, List.not_mem_nil, or_false, not_or, Bool.or_eq_true, decide_eq_true_eq]
  split
  · next isUndefined => simp [isUndefined]
  · next noUndefined =>
    split
    · next isNull => simp [isNull]
    · next noNull =>
      split
      · next isBoolean => exact ⟨nofun, fun others => absurd isBoolean (not_or.mpr others.2.2)⟩
      · next noBoolean => exact ⟨fun _ => ⟨noUndefined, noNull, not_or.mp noBoolean⟩, fun _ => rfl⟩

theorem elaborateLiteral_cases (scope : Scope) (node : Node) :
    (node.literalToken.IsLiteral ∧ ∃ type, elaborateLiteral scope node = .ok type) ∨
      (¬ node.literalToken.IsLiteral ∧ elaborateLiteral scope node =
        scope.unsupported ("literal_type ".toList ++ node.literalToken.kind.name) node.line) := by
  unfold elaborateLiteral Node.IsLiteral
  rw [← Node.literalToken]
  generalize node.literalToken = token
  dsimp only
  split
  · next isString => exact .inl ⟨.inl isString, _, rfl⟩
  · next noString =>
    cases keyword : Literal.ofKeyword? token.text.trim (some node.line) with
    | some type =>
        have isKeyword := mt ofKeyword?_literal_eq_none_iff.mpr (by rw [keyword]; exact nofun)
        exact .inl ⟨.inr (.inl (Decidable.not_not.mp isKeyword)), type, rfl⟩
    | none =>
        have noKeyword := ofKeyword?_literal_eq_none_iff.mp keyword
        have isNumber : (token.kind = .number || token.kind = .unaryExpression ||
            Literal.isNumber token.text.trim) = true ↔ token.kind = .number ∨
              token.kind = .unaryExpression ∨ Literal.IsNumeral token.text.trim := by
          simp only [Bool.or_eq_true, decide_eq_true_eq, Literal.isNumber_iff, or_assoc]
        dsimp only
        split
        · next number => exact .inl ⟨.inr (.inr (isNumber.mp number)), _, rfl⟩
        · next noNumber =>
          refine .inr ⟨fun isLiteral => ?_, rfl⟩
          exact (isLiteral.resolve_left noString).elim noKeyword (mt isNumber.mpr noNumber)

theorem keyOf_eq_ok (isKey : key.IsKey) (scope : Scope) (line : Int) :
    ∃ quoted, keyOf scope key line = .ok (key.keyName, quoted) := by
  unfold keyOf Node.keyName
  by_cases isString : key.kind = .string
  · rw [if_pos isString, if_pos isString]
    exact ⟨true, rfl⟩
  · have plain := isKey.resolve_left isString
    rw [if_neg isString, if_neg isString, if_pos (by simpa using plain)]
    exact ⟨false, rfl⟩

theorem keyOf_eq_error (other : ¬ key.IsKey) (scope : Scope) (line : Int) :
    keyOf scope key line = scope.unsupported key.kind.name line := by
  unfold Node.IsKey at other
  simp only [not_or] at other
  rw [keyOf, if_neg other.1, if_neg (by simpa using other.2)]

/-! ## Constructs on their own -/

theorem typeForm_of_isName (kind : node.kind = .predefinedType ∨ node.kind = .typeIdentifier) :
    node.typeForm = .name := by
  cases kind with
  | inl keyword => rw [Node.typeForm, keyword]
  | inr identifier => rw [Node.typeForm, identifier]

theorem of?_elaborateName (kind : node.kind = .typeIdentifier)
    (other : ∀ primitive : PrimitiveType, node.text ≠ primitive.keyword) (path : Text)
    (statements : List Node) : Failure.of? (elaborateName (.ofImports path statements) node) =
      Failure.of? (Imports.find path node.text statements) := by
  rw [elaborateName, ofKeyword?_eq_none other]
  dsimp only
  rw [if_pos kind]
  exact Failure.of?_bind_ok _ _

theorem constructFailure?_of_isSupported {construct : Construct}
    (supported : construct.IsSupported statements) (path : Text) :
    constructFailure? (.ofImports path statements) construct = none := by
  cases supported with
  | @keyword node primitive kind text =>
      rw [constructFailure?, typeForm_of_isName kind]
      dsimp only
      rw [elaborateName, ofKeyword?_eq_some text]
      rfl
  | @name node kind usable =>
      rw [constructFailure?, typeForm_of_isName (.inr kind)]
      dsimp only
      by_cases keyword : ∃ primitive : PrimitiveType, node.text = primitive.keyword
      · obtain ⟨primitive, text⟩ := keyword
        rw [elaborateName, ofKeyword?_eq_some text]
        rfl
      · rw [of?_elaborateName kind (not_exists.mp keyword)]
        cases looked : Imports.find path node.text statements with
        | ok found => rfl
        | error failure =>
            obtain ⟨statement, first, malformed⟩ := Imports.find_eq_error_iff.mp looked
            exact absurd (usable statement first) malformed.not_hasUsableSource
  | @literal node kind token =>
      have read := (elaborateLiteral_cases (.ofImports path statements) node).resolve_right
        fun other => other.1 token
      obtain ⟨-, type, read⟩ := read
      simp only [constructFailure?, Node.typeForm, kind, read, Failure.of?_ok]
  | object kind => simp only [constructFailure?, Node.typeForm, kind]
  | union kind => simp only [constructFailure?, Node.typeForm, kind]
  | parentheses kind holds => simp only [constructFailure?, Node.typeForm, kind, holds]
  | @readonly node inner kind named holds =>
      have form : node.typeForm = .wrapper inner := by
        rw [Node.typeForm, kind]
        dsimp only
        rw [if_neg (show ¬ node.genericName ≠ transparentGeneric from not_not.mpr named), holds]
      rw [constructFailure?, form]
  | @property node key inner kind keyed isKey typed =>
      obtain ⟨quoted, named⟩ := keyOf_eq_ok isKey (.ofImports path statements) node.line
      simp [constructFailure?, kind, keyed, named, typed]

theorem constructFailure?_of_offends {construct : Construct} {failure : Failure}
    (offends : construct.Offends path statements failure) :
    constructFailure? (.ofImports path statements) construct = some failure := by
  cases offends with
  | @keyword node kind other =>
      have noName : node.kind ≠ .typeIdentifier := by simp [kind]
      rw [constructFailure?, typeForm_of_isName (.inl kind)]
      dsimp only
      rw [elaborateName, ofKeyword?_eq_none other]
      dsimp only
      rw [if_neg noName, kind]
      rfl
  | @name node statement failure kind other first malformed =>
      rw [constructFailure?, typeForm_of_isName (.inr kind)]
      dsimp only
      rw [of?_elaborateName kind other, Imports.find_eq_error_iff.mpr ⟨statement, first, malformed⟩]
      rfl
  | @literal node kind other =>
      have failed := (elaborateLiteral_cases (.ofImports path statements) node).resolve_left
        fun read => other read.1
      simp only [constructFailure?, Node.typeForm, kind, failed.2]
      rfl
  | @parentheses node kind other =>
      have form : node.typeForm = .unsupported "parenthesized_type" := by
        rw [Node.typeForm, kind]
        dsimp only
        split
        · next inner holds => exact absurd (congrArg List.length holds) other
        · rfl
      rw [constructFailure?, form]
      rfl
  | @generic node kind other =>
      have form : node.typeForm = .unsupported ("generic_type ".toList ++ node.genericName) := by
        rw [Node.typeForm, kind]
        exact if_pos other
      rw [constructFailure?, form]
      rfl
  | @arguments node kind named other =>
      have form : node.typeForm = .unsupported ("generic_type Readonly with ".toList ++
          Text.ofNat node.arguments.length ++ " type arguments".toList) := by
        rw [Node.typeForm, kind]
        dsimp only
        rw [if_neg (show ¬ node.genericName ≠ transparentGeneric from not_not.mpr named)]
        split
        · next inner holds => exact absurd (congrArg List.length holds) other
        · rw [named]
          rfl
      rw [constructFailure?, form]
      rfl
  | @type node other =>
      have form : node.typeForm = .unsupported node.kind.name := by
        simp only [Node.typeKinds, List.mem_cons, List.not_mem_nil, or_false, not_or] at other
        unfold Node.typeForm
        split <;> first | rfl | simp_all
      rw [constructFailure?, form]
      rfl
  | @member node other =>
      rw [constructFailure?, if_pos other]
      rfl
  | @key node key kind keyed other =>
      simp only [constructFailure?, kind, keyed, keyOf_eq_error other]
      rfl
  | @untyped node key kind keyed isKey none =>
      obtain ⟨quoted, named⟩ := keyOf_eq_ok isKey (.ofImports path statements) node.line
      simp [constructFailure?, kind, keyed, named, none]
      rfl

end TypeExpr

namespace Construct

variable {construct : Construct}

def IsNamed : Construct → Prop
  | .type _ => True
  | .member node => node.kind = .propertySignature → node.child? .name ≠ none

private theorem isSupported_or_offends_type (path : Text) (statements : List Node) (node : Node) :
    IsSupported statements (.type node) ∨
      ∃ failure, Offends path statements (.type node) failure := by
  by_cases other : node.kind ∈ Node.typeKinds
  · simp only [Node.typeKinds, List.mem_cons, List.not_mem_nil, or_false] at other
    have named : (∃ primitive : PrimitiveType, node.text = primitive.keyword) ∨
        ∀ primitive : PrimitiveType, node.text ≠ primitive.keyword :=
      (Classical.em _).imp_right not_exists.mp
    rcases other with kind | kind | kind | kind | kind | kind | kind
    · cases named with
      | inl keyword => exact .inl (.keyword (.inl kind) keyword.choose_spec)
      | inr other => exact .inr ⟨_, .keyword kind other⟩
    · cases named with
      | inl keyword => exact .inl (.keyword (.inr kind) keyword.choose_spec)
      | inr other =>
          by_cases usable : ∀ statement, Imports.IsFirstBinding node.text statements statement →
              Imports.HasUsableSource statement
          · exact .inl (.name kind usable)
          · obtain ⟨statement, bound⟩ := not_forall.mp usable
            obtain ⟨first, unusable⟩ := Classical.not_imp.mp bound
            obtain ⟨failure, malformed⟩ := Imports.exists_isMalformed path unusable
            exact .inr ⟨failure, .name kind other first malformed⟩
    · by_cases token : node.literalToken.IsLiteral
      · exact .inl (.literal kind token)
      · exact .inr ⟨_, .literal kind token⟩
    · exact .inl (.object kind)
    · exact .inl (.union kind)
    · by_cases single : node.constituents.length = 1
      · exact .inl (.parentheses kind (List.length_eq_one_iff.mp single).choose_spec)
      · exact .inr ⟨_, .parentheses kind single⟩
    · by_cases named : node.genericName = "Readonly".toList
      · by_cases single : node.arguments.length = 1
        · exact .inl (.readonly kind named (List.length_eq_one_iff.mp single).choose_spec)
        · exact .inr ⟨_, .arguments kind named single⟩
      · exact .inr ⟨_, .generic kind named⟩
  · exact .inr ⟨_, .type other⟩

theorem isSupported_or_offends (path : Text) (statements : List Node)
    (named : construct.IsNamed) : construct.IsSupported statements ∨
      ∃ failure, construct.Offends path statements failure := by
  cases construct with
  | type node => exact isSupported_or_offends_type path statements node
  | member node =>
      by_cases kind : node.kind = .propertySignature
      · obtain ⟨key, keyed⟩ := Option.ne_none_iff_exists'.mp (named kind)
        by_cases isKey : key.IsKey
        · cases typed : node.annotated? with
          | none => exact .inr ⟨_, .untyped kind keyed isKey typed⟩
          | some inner => exact .inl (.property kind keyed isKey typed)
        · exact .inr ⟨_, .key kind keyed isKey⟩
      · exact .inr ⟨_, .member kind⟩

end Construct

namespace Syntax.Node

theorem isNamed_of_mem_constructs {node : Node}
    (named : ∀ part : Node, part.Within node → part.kind = .propertySignature →
      part.child? .name ≠ none) : ∀ construct ∈ node.constructs, construct.IsNamed := by
  induction node using induction_below with
  | step node ih =>
      have inside : ∀ part : Node, part.IsBelow node → ∀ construct ∈ part.constructs,
          construct.IsNamed := fun part below =>
        ih part below fun inner within => named inner (within.trans below.within)
      have inside? : ∀ part? : Option Node, (∀ part, part? = some part → part.IsBelow node) →
          ∀ construct ∈ constructsOf? part?, construct.IsNamed := by
        intro part? below construct member
        cases part? with
        | none => cases member
        | some part => exact inside part (below part rfl) construct member
      intro construct member
      rw [constructs_eq] at member
      cases member with
      | head => trivial
      | tail _ member =>
          split at member
          · obtain ⟨child, isChild, inChild⟩ := List.mem_flatMap.mp member
            exact inside child (isBelow_of_mem_constituents isChild) construct inChild
          · obtain ⟨child, isChild, inChild⟩ := List.mem_flatMap.mp member
            exact inside child (isBelow_of_mem_constituents isChild) construct inChild
          · refine inside? _ (fun part found => ?_) construct member
            exact isBelow_of_mem_arguments (List.mem_of_mem_head? found)
          · obtain ⟨child, isChild, inChild⟩ := List.mem_flatMap.mp member
            have childBelow := isBelow_of_mem_constituents isChild
            rw [constructsOfMember_eq] at inChild
            cases inChild with
            | head => exact named child childBelow.within
            | tail _ inType =>
                refine inside? _ (fun part found => ?_) construct inType
                exact (isBelow_of_annotated?_eq_some found).trans childBelow
          · cases member

end Syntax.Node

namespace TypeExpr

section Deciding

variable {path : Text} {statements : List Node} {construct : Construct} (isNamed : construct.IsNamed)

include isNamed

theorem constructFailure?_eq_none_iff :
    constructFailure? (.ofImports path statements) construct = none ↔
      construct.IsSupported statements := by
  constructor
  · intro passes
    cases construct.isSupported_or_offends path statements isNamed with
    | inl supported => exact supported
    | inr offends => cases passes.symm.trans (constructFailure?_of_offends offends.choose_spec)
  · exact fun supported => constructFailure?_of_isSupported supported path

theorem constructFailure?_eq_some_iff {failure : Failure} :
    constructFailure? (.ofImports path statements) construct = some failure ↔
      construct.Offends path statements failure := by
  constructor
  · intro reported
    cases construct.isSupported_or_offends path statements isNamed with
    | inl supported => cases (constructFailure?_of_isSupported supported path).symm.trans reported
    | inr offends =>
        obtain ⟨other, offends⟩ := offends
        obtain rfl := Option.some.inj (reported.symm.trans (constructFailure?_of_offends offends))
        exact offends
  · exact constructFailure?_of_offends

end Deciding

open Imports.Resolver

/-- A type is elaborated just if all its constructs are supported. If they are not, the first one that
is not is reported, whatever the resolver was asked before. -/
theorem elaborate_eq_ok_iff_isSupported {node : Node} (source : Syntax.Module) (asked : List Text)
    (named : ∀ part : Node, part.Within node → part.kind = .propertySignature →
      part.child? .name ≠ none) :
    ((∃ type, elaborate ((ofModule source).after asked).scope node = .ok type) ↔
        ∀ construct ∈ node.constructs, construct.IsSupported source.imports) ∧
      ∀ failure, elaborate ((ofModule source).after asked).scope node = .error failure ↔
        ∃ before construct after, node.constructs = before ++ construct :: after ∧
          (∀ earlier ∈ before, earlier.IsSupported source.imports) ∧
          construct.Offends source.path source.imports failure := by
  rw [scope_after_ofModule]
  have isNamed := Node.isNamed_of_mem_constructs named
  have fails := of?_elaborate (.ofImports source.path source.imports) node
  constructor
  · have succeeds : (∃ type, elaborate (.ofImports source.path source.imports) node = .ok type) ↔
        node.constructs.findSome?
          (constructFailure? (.ofImports source.path source.imports)) = none := by
      rw [← fails]
      cases elaborate (.ofImports source.path source.imports) node <;> simp
    rw [succeeds, List.findSome?_eq_none_iff]
    exact forall₂_congr fun construct member =>
      constructFailure?_eq_none_iff (isNamed construct member)
  · intro failure
    rw [← Failure.of?_eq_some_iff, fails, List.findSome?_eq_some_iff]
    constructor
    · intro first
      obtain ⟨before, construct, after, shape, reported, passes⟩ := first
      refine ⟨before, construct, after, shape, fun earlier member => ?_, ?_⟩
      · have isNamed := isNamed earlier (by simp [shape, member])
        exact (constructFailure?_eq_none_iff isNamed).mp (passes earlier member)
      · exact (constructFailure?_eq_some_iff (isNamed construct (by simp [shape]))).mp reported
    · intro first
      obtain ⟨before, construct, after, shape, passes, offends⟩ := first
      refine ⟨before, construct, after, shape, constructFailure?_of_offends offends, ?_⟩
      exact fun earlier member => constructFailure?_of_isSupported (passes earlier member) _

/-- A module with an import that names no module. What is wrong with the last property does not matter,
since a name of that import stands in front of it. -/
def offendingModule : Syntax.Module :=
  .read "src/a.ppx.ts" ("import \x7b B \x7d from '';\n" ++
    "type T = \x7b a: string; 'b'?: Readonly<(- 1 | B)>; c \x7d;\n")

def offendingType : Node :=
  ((offendingModule.statements.drop 1).head?.bind fun statement =>
    statement.declaration.child? .value).getD default

theorem offends_offendingType :
    (∀ part : Node, part.Within offendingType → part.kind = .propertySignature →
      part.child? .name ≠ none) ∧
      ∃ before construct after, offendingType.constructs = before ++ construct :: after ∧
        (∀ earlier ∈ before, earlier.IsSupported offendingModule.imports) ∧
        construct.Offends offendingModule.path offendingModule.imports
          (.inconsistent (.malformedImportSource "''" "src/a.ppx.ts" 1)) := by
  have named : ∀ part : Node, part.Within offendingType → part.kind = .propertySignature →
      part.child? .name ≠ none := by
    have passes : offendingType.all (fun part =>
        !(part.kind = .propertySignature) || (part.child? .name).isSome) = true := by
      decide +kernel
    intro part within isProperty missing
    have passed := (Node.all_eq_true_iff _ offendingType).mp passes part within
    simp [isProperty, missing] at passed
  have failed : Failure.of? (elaborate ((ofModule offendingModule).after ["B".toList]).scope
      offendingType) =
        some (.inconsistent (.malformedImportSource "''" "src/a.ppx.ts" 1)) := by
    decide +kernel
  exact ⟨named, ((elaborate_eq_ok_iff_isSupported offendingModule ["B".toList] named).2 _).mp
    (Failure.of?_eq_some_iff.mp failed)⟩

end TypeExpr

end Companion
