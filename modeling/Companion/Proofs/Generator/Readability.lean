import Companion.Proofs.Generator.Layout
import Companion.Proofs.TypeExpr.Spelling

/-!
# Unique readability

No two spelled types have the same code. A layout is read from left to right: how it opens tells
what kind of type it is of, and each constituent in turn ends where it ends whatever stands behind
it. The constituents of a list are told from what closes the list by the first characters of either.
-/

set_option autoImplicit false

namespace Companion

namespace TypeExpr

def isLeaf : TypeExpr → Bool
  | .object _ _ => false
  | .union _ _ => false
  | _ => true

/-- A type as far as the opening of its layout tells: of objects and unions the kind only. -/
def head : TypeExpr → TypeExpr
  | .object _ _ => .object [] none
  | .union _ _ => .union [] none
  | leaf => leaf.bare

variable {left right : TypeExpr}

theorem head_of_isLeaf (leaf : left.isLeaf = true) : left.head = left.bare := by
  cases left <;> first | rfl | cases leaf

theorem isLeaf_of_head_eq (same : left.head = right.head) : left.isLeaf = right.isLeaf := by
  cases left <;> cases right <;> first | rfl | cases same

end TypeExpr

namespace Dialect

/-- How the layout of a type opens: for a leaf that is all of it. -/
def opening (dialect : Dialect) : TypeExpr → Text
  | .primitive kind _ => dialect.primitive kind
  | .literal kind raw _ => dialect.literal kind (literalCode kind raw)
  | .object _ _ => dialect.object.1
  | .union _ _ => dialect.union.1
  | .reference name _ _ => dialect.companionName name ++ dialect.call
  | .unclassified _ => []

/-- A dialect in which openings and closings are told apart by how they start. -/
structure IsReadable (dialect : Dialect) : Prop where
  opening : ∀ {left right : TypeExpr} {rest others : Text}, left.IsSpelled → right.IsSpelled →
    dialect.opening left ++ rest = dialect.opening right ++ others →
    left.head = right.head ∧ rest = others
  /-- Optional values are told from others behind their expressions or in front of them. -/
  optional :
    (dialect.optional.1 = [] ∧ ∀ {rest others : Text}, dialect.optional.2 ++ rest ≠ ',' :: others) ∨
      ∀ {type : TypeExpr} {rest others : Text}, type.IsSpelled →
        dialect.opening type ++ rest ≠ dialect.optional.1 ++ others
  union : ∀ {type : TypeExpr} {rest others : Text}, type.IsSpelled →
    dialect.opening type ++ rest ≠ dialect.union.2 ++ others
  comma : ∀ {rest others : Text}, dialect.union.2 ++ rest ≠ ',' :: others
  blank : ∀ {rest others : Text} {c : Char}, c = '\n' ∨ c = ' ' →
    dialect.object.2 ++ rest ≠ c :: others

section Reading

variable {dialect : Dialect}

theorem layout_of_isLeaf {type : TypeExpr} (leaf : type.isLeaf = true) (width : Nat) :
    dialect.layout width type = dialect.opening type := by
  cases type <;> first | rfl | cases leaf

theorem exists_layout_eq (dialect : Dialect) (width : Nat) (type : TypeExpr) :
    ∃ behind, dialect.layout width type = dialect.opening type ++ behind := by
  cases leaf : type.isLeaf with
  | true => exact ⟨[], by rw [layout_of_isLeaf leaf, List.append_nil]⟩
  | false =>
      cases type with
      | object properties line =>
          exact ⟨_, by rw [layout_object, List.append_assoc, List.append_assoc, opening]⟩
      | union members line => exact ⟨_, by rw [layout_union, enclose, List.append_assoc, opening]⟩
      | _ => cases leaf

/-- A type is read back from its layout, whatever stands behind it. -/
def ReadsBack (dialect : Dialect) (width : Nat) (type : TypeExpr) : Prop :=
  ∀ {other : TypeExpr} {rest others : Text}, other.IsSpelled →
    dialect.layout width type ++ rest = dialect.layout width other ++ others →
    type.bare = other.bare ∧ rest = others

variable {left right : TypeExpr} {width : Nat} {rest others : Text}

theorem IsReadable.head_eq (readable : dialect.IsReadable) (leftSpelled : left.IsSpelled)
    (rightSpelled : right.IsSpelled)
    (same : dialect.layout width left ++ rest = dialect.layout width right ++ others) :
    left.head = right.head := by
  obtain ⟨leftBehind, leftLayout⟩ := exists_layout_eq dialect width left
  obtain ⟨rightBehind, rightLayout⟩ := exists_layout_eq dialect width right
  rw [leftLayout, rightLayout, List.append_assoc, List.append_assoc] at same
  exact (readable.opening leftSpelled rightSpelled same).1

theorem IsReadable.readsBack_leaf (readable : dialect.IsReadable) (spelled : left.IsSpelled)
    (leaf : left.isLeaf = true) : dialect.ReadsBack width left := by
  intro other rest others otherSpelled same
  have alike := readable.head_eq spelled otherSpelled same
  have otherLeaf : other.isLeaf = true := by rw [← TypeExpr.isLeaf_of_head_eq alike, leaf]
  rw [layout_of_isLeaf leaf, layout_of_isLeaf otherLeaf] at same
  rw [← TypeExpr.head_of_isLeaf leaf, ← TypeExpr.head_of_isLeaf otherLeaf]
  exact readable.opening spelled otherSpelled same

/-- A list of items is read back up to what closes it, if each item is. -/
private theorem flatMap_append_inj {α β : Type} {text : α → Text} (bare : α → β) (ok : α → Prop)
    (closing : Text) {lefts rights : List α} {rest others : Text}
    (each : ∀ left ∈ lefts, ∀ right, ok right → ∀ rest others,
      text left ++ rest = text right ++ others → bare left = bare right ∧ rest = others)
    (closes : ∀ item rest others, text item ++ rest ≠ closing ++ others)
    (rightsOk : ∀ right ∈ rights, ok right)
    (same : lefts.flatMap text ++ (closing ++ rest) = rights.flatMap text ++ (closing ++ others)) :
    lefts.map bare = rights.map bare ∧ rest = others := by
  induction lefts generalizing rights with
  | nil =>
      cases rights with
      | nil => exact ⟨rfl, List.append_cancel_left same⟩
      | cons right rights =>
          rw [List.flatMap_cons, List.append_assoc] at same
          exact absurd same.symm (closes right _ _)
  | cons left lefts ih =>
      cases rights with
      | nil =>
          rw [List.flatMap_cons, List.append_assoc] at same
          exact absurd same (closes left _ _)
      | cons right rights =>
          rw [List.flatMap_cons, List.flatMap_cons, List.append_assoc, List.append_assoc] at same
          obtain ⟨first, behind⟩ := each left List.mem_cons_self right
            (rightsOk right List.mem_cons_self) _ _ same
          obtain ⟨more, rest⟩ := ih (fun item member => each item (List.mem_cons_of_mem _ member))
            (fun item member => rightsOk item (List.mem_cons_of_mem _ member)) behind
          exact ⟨by rw [List.map_cons, first, more, List.map_cons], rest⟩

/-- The value of a property is read up to the comma behind it. -/
private theorem IsReadable.value_inj (readable : dialect.IsReadable) {optional otherOptional : Bool}
    (leftSpelled : left.IsSpelled) (rightSpelled : right.IsSpelled)
    (reads : dialect.ReadsBack width left)
    (same : dialect.propertyValue optional (dialect.layout width left) ++ ',' :: rest =
      dialect.propertyValue otherOptional (dialect.layout width right) ++ ',' :: others) :
    optional = otherOptional ∧ left.bare = right.bare ∧ rest = others := by
  have unmarked : ∀ {type other : TypeExpr} {rest others : Text}, type.IsSpelled →
      (∀ {rest others : Text}, dialect.layout width type ++ rest =
        dialect.layout width other ++ others → rest = others) →
      dialect.layout width type ++ ',' :: rest ≠
        dialect.optional.1 ++ (dialect.layout width other ++ (dialect.optional.2 ++ others)) := by
    intro type other rest others spelled behind same
    rcases readable.optional with ⟨nothing, comma⟩ | never
    · rw [nothing, List.nil_append] at same
      exact comma (behind same).symm
    · obtain ⟨behind, layout⟩ := exists_layout_eq dialect width type
      rw [layout, List.append_assoc] at same
      exact never spelled same
  cases optional <;> cases otherOptional <;>
    simp only [propertyValue, enclose, Bool.false_eq_true, ↓reduceIte, List.append_assoc] at same
  · obtain ⟨bare, behind⟩ := reads rightSpelled same
    exact ⟨rfl, bare, List.tail_eq_of_cons_eq behind⟩
  · exact absurd same (unmarked leftSpelled fun same => (reads rightSpelled same).2)
  · exact absurd same.symm
      (unmarked rightSpelled fun same => (reads rightSpelled same.symm).2.symm)
  · obtain ⟨bare, behind⟩ := reads rightSpelled (List.append_cancel_left same)
    exact ⟨rfl, bare, List.tail_eq_of_cons_eq (List.append_cancel_left behind)⟩

private theorem IsReadable.propertyLines_inj (readable : dialect.IsReadable)
    {property other : Property TypeExpr} (key : property.KeyIsSpelled)
    (otherKey : other.KeyIsSpelled) (spelled : property.type.IsSpelled)
    (otherSpelled : other.type.IsSpelled) (reads : dialect.ReadsBack width property.type)
    (same : dialect.propertyLines width (keyCode property) property.optional
        (dialect.layout width property.type) ++ rest =
      dialect.propertyLines width (keyCode other) other.optional
        (dialect.layout width other.type) ++ others) :
    ({ property with type := property.type.bare } : Property TypeExpr) =
      { other with type := other.type.bare } ∧ rest = others := by
  simp only [propertyLines, List.append_assoc] at same
  obtain ⟨name, quoted, behind⟩ := key.append_inj otherKey (List.append_cancel_left same)
  obtain ⟨optional, bare, behind⟩ :=
    readable.value_inj spelled otherSpelled reads (List.tail_eq_of_cons_eq behind)
  exact ⟨by rw [name, quoted, optional, bare], behind⟩

/-- A property is told from the line that closes its object by its deeper indentation. -/
private theorem IsReadable.propertyLines_ne_closing (readable : dialect.IsReadable)
    {key code : Text} {optional : Bool} :
    dialect.propertyLines (width + 2) key optional code ++ rest ≠
      lineBreak width ++ dialect.object.2 ++ others := by
  have deeper : lineBreak (width + 2) = lineBreak width ++ [' ', ' '] := by
    rw [lineBreak, ← List.replicate_append_replicate]
    rfl
  intro same
  simp only [propertyLines, deeper, List.append_assoc] at same
  exact readable.blank (.inr rfl) (List.append_cancel_left same).symm

private theorem IsReadable.readsBack_object (readable : dialect.IsReadable)
    {properties : List (Property TypeExpr)} {line : Option Int}
    (keys : ∀ property ∈ properties, property.KeyIsSpelled)
    (types : ∀ property ∈ properties, property.type.IsSpelled)
    (reads : ∀ property ∈ properties, ∀ width, dialect.ReadsBack width property.type) :
    dialect.ReadsBack width (.object properties line) := by
  intro other rest others otherSpelled same
  have alike := readable.head_eq (.object keys types) otherSpelled same
  cases otherSpelled with
  | @object otherProperties otherLine otherKeys otherTypes =>
      simp only [layout_object, List.append_assoc] at same
      have behind := List.append_cancel_left same
      have atBreak : ∀ {width : Nat} {rest others : Text},
          dialect.object.2 ++ rest ≠ lineBreak width ++ others := readable.blank (.inl rfl)
      cases properties with
      | nil =>
          cases otherProperties with
          | nil => exact ⟨by simp, List.append_cancel_left behind⟩
          | cons property more =>
              simp only [List.flatMap_cons, propertyLines, List.append_assoc] at behind
              exact absurd behind atBreak
      | cons property more =>
          cases otherProperties with
          | nil =>
              simp only [List.flatMap_cons, propertyLines, List.append_assoc] at behind
              exact absurd behind.symm atBreak
          | cons otherProperty otherMore =>
              obtain ⟨bare, restSame⟩ := flatMap_append_inj
                (fun property : Property TypeExpr =>
                  ({ property with type := property.type.bare } : Property TypeExpr))
                (fun property => property.KeyIsSpelled ∧ property.type.IsSpelled)
                (lineBreak width ++ dialect.object.2)
                (fun property member other spelled _ _ => readable.propertyLines_inj (keys property member)
                  spelled.1 (types property member) spelled.2 (reads property member (width + 2)))
                (fun property rest others => readable.propertyLines_ne_closing)
                (fun property member => ⟨otherKeys property member, otherTypes property member⟩)
                (by simpa only [List.append_assoc, List.isEmpty_cons, Bool.false_eq_true,
                  ↓reduceIte] using behind)
              exact ⟨by rw [TypeExpr.bare_object, TypeExpr.bare_object, bare], restSame⟩
  | _ => cases alike

private theorem IsReadable.readsBack_union (readable : dialect.IsReadable)
    {members : List TypeExpr} {line : Option Int} (types : ∀ member ∈ members, member.IsSpelled)
    (reads : ∀ member ∈ members, dialect.ReadsBack width member) :
    dialect.ReadsBack width (.union members line) := by
  intro other rest others otherSpelled same
  have alike := readable.head_eq (.union types) otherSpelled same
  cases otherSpelled with
  | @union otherMembers otherLine otherTypes =>
      have noMember : ∀ {type : TypeExpr} {rest others : Text}, type.IsSpelled →
          dialect.layout width type ++ rest ≠ dialect.union.2 ++ others := by
        intro type rest others typeSpelled same
        obtain ⟨behind, layout⟩ := exists_layout_eq dialect width type
        rw [layout, List.append_assoc] at same
        exact readable.union typeSpelled same
      simp only [layout_union, enclose, List.append_assoc] at same
      have behind := List.append_cancel_left same
      cases members with
      | nil =>
          cases otherMembers with
          | nil => exact ⟨by simp, List.append_cancel_left behind⟩
          | cons member more =>
              rw [List.map_cons, Text.join_cons_eq_flatMap, List.append_assoc] at behind
              exact absurd behind.symm (noMember (otherTypes member List.mem_cons_self))
      | cons member more =>
          cases otherMembers with
          | nil =>
              rw [List.map_cons, Text.join_cons_eq_flatMap, List.append_assoc] at behind
              exact absurd behind (noMember (types member List.mem_cons_self))
          | cons otherMember otherMore =>
              simp only [List.map_cons, Text.join_cons_eq_flatMap, List.append_assoc,
                List.flatMap_map] at behind
              obtain ⟨first, behind⟩ := reads member List.mem_cons_self
                (otherTypes otherMember List.mem_cons_self) behind
              obtain ⟨bare, restSame⟩ := flatMap_append_inj TypeExpr.bare TypeExpr.IsSpelled
                dialect.union.2
                (fun item isItem other otherSpelled rest others same =>
                  reads item (List.mem_cons_of_mem _ isItem) otherSpelled
                    (List.append_cancel_left (by simpa only [List.append_assoc] using same)))
                (fun item rest others same => readable.comma same.symm)
                (fun item isItem => otherTypes item (List.mem_cons_of_mem _ isItem)) behind
              exact ⟨by simp [first, bare], restSame⟩
  | _ => cases alike

/-- Every spelled type is read back from its layout. -/
theorem IsReadable.readsBack (readable : dialect.IsReadable) (spelled : left.IsSpelled)
    (width : Nat) : dialect.ReadsBack width left := by
  induction spelled generalizing width with
  | primitive => exact readable.readsBack_leaf .primitive rfl
  | literal spells => exact readable.readsBack_leaf (.literal spells) rfl
  | object keys types ih => exact readable.readsBack_object keys types ih
  | union types ih => exact readable.readsBack_union types fun member isMember => ih member isMember width
  | reference identifier => exact readable.readsBack_leaf (.reference identifier) rfl

end Reading

/-! ## Calls

Both libraries open the expression of a type with a call: the text in front of the first parenthesis
tells what kind of type it is. -/

/-- What is called when an expression opens. -/
inductive Callee where
  | primitive (kind : PrimitiveType)
  | null
  | constant
  | object
  | union
  | companion
deriving DecidableEq

namespace Callee

def all : List Callee :=
  [primitive .string, primitive .number, primitive .bigint, primitive .undefined, null, constant,
   object, union, companion]

theorem mem_all (callee : Callee) : callee ∈ all := by
  cases callee with
  | primitive kind => cases kind <;> decide
  | _ => decide

/-- What the expression of a type calls first. -/
def ofType : TypeExpr → Callee
  | .primitive kind _ => primitive kind
  | .literal kind _ _ => if kind = .null then null else constant
  | .object _ _ => object
  | .union _ _ => union
  | .reference _ _ _ => companion
  | .unclassified _ => companion

/-- The name of the type whose companion is called. -/
def typeName : TypeExpr → Text
  | .reference name _ _ => name
  | _ => []

variable {type left right : TypeExpr} {c : Char}

theorem typeName_eq_nil (spelled : type.IsSpelled) (other : ofType type ≠ companion) :
    typeName type = [] := by
  cases spelled with
  | reference => exact absurd rfl other
  | _ => rfl

theorem not_mem_typeName (spelled : type.IsSpelled) (foreign : Syntax.isIdentifierChar c = false) :
    c ∉ typeName type := by
  cases spelled with
  | reference identifier =>
      intro member
      rw [identifier.2.2 c member] at foreign
      cases foreign
  | _ => exact List.not_mem_nil

/-- The source of the constant that a type consists of. -/
def source : TypeExpr → Text
  | .literal kind raw _ => literalCode kind raw
  | _ => []

/-- The opening that is known from what is called, unless that takes the source of a constant. -/
def head (name : Text) : Callee → TypeExpr
  | primitive kind => .primitive kind none
  | null => .literal .null "null" none
  | constant => .unclassified none
  | object => .object [] none
  | union => .union [] none
  | companion => .reference name none none

theorem head_eq (spelled : type.IsSpelled) (other : ofType type ≠ constant) :
    type.head = head (typeName type) (ofType type) := by
  cases spelled with
  | @literal kind raw line spells =>
      by_cases null : kind = .null
      · subst null
        obtain rfl : raw = _ := spells
        rfl
      · exact absurd (if_neg null) other
  | _ => rfl

theorem exists_literal (spelled : type.IsSpelled)
    (isLiteral : ofType type = null ∨ ofType type = constant) :
    ∃ kind raw line, type = .literal kind raw line ∧ kind.Spells raw := by
  cases spelled with
  | literal spells => exact ⟨_, _, _, rfl, spells⟩
  | _ => rcases isLiteral with other | other <;> cases other

/-- What is called, told from its text: the name of a type stands in the texts of companions only, and
functions with the same text are called with constants. -/
theorem write_inj (write : Text → Callee → Text) {isConstant : Callee → Bool}
    (named : ∀ {name other : Text}, write name companion = write other companion → name = other)
    (apart : ∀ {name : Text} {callee : Callee}, callee ≠ companion →
      write name companion ≠ write [] callee)
    (distinct : ∀ a ∈ all, ∀ b ∈ all, write [] a = write [] b →
      a = b ∨ (isConstant a = true ∧ isConstant b = true))
    (leftSpelled : left.IsSpelled) (rightSpelled : right.IsSpelled)
    (same : write (typeName left) (ofType left) = write (typeName right) (ofType right)) :
    (ofType left = ofType right ∧ typeName left = typeName right) ∨
      (isConstant (ofType left) = true ∧ isConstant (ofType right) = true) := by
  by_cases leftCompanion : ofType left = companion <;>
    by_cases rightCompanion : ofType right = companion
  · rw [leftCompanion, rightCompanion] at same
    exact .inl ⟨leftCompanion.trans rightCompanion.symm, named same⟩
  · rw [leftCompanion, typeName_eq_nil rightSpelled rightCompanion] at same
    exact absurd same (apart rightCompanion)
  · rw [rightCompanion, typeName_eq_nil leftSpelled leftCompanion] at same
    exact absurd same.symm (apart leftCompanion)
  · have leftName := typeName_eq_nil leftSpelled leftCompanion
    have rightName := typeName_eq_nil rightSpelled rightCompanion
    rw [leftName, rightName] at same
    exact (distinct _ (mem_all _) _ (mem_all _) same).imp_left fun callee =>
      ⟨callee, leftName.trans rightName.symm⟩

end Callee

/-- How the expressions of a dialect open with calls: the text in front of the parenthesis is known
to be a function of the library or to name a companion, and of the arguments only the sources of
constants depend on more than that. -/
structure Calls (dialect : Dialect) where
  text : TypeExpr → Text
  arguments : Text → Callee → Text
  isConstant : Callee → Bool
  opening_eq : ∀ {type : TypeExpr}, type.IsSpelled → dialect.opening type =
    text type ++ '(' :: arguments (Callee.source type) (Callee.ofType type)
  not_mem : ∀ {type : TypeExpr}, type.IsSpelled → ∀ c ∈ ['(', ')', ']'], c ∉ text type
  text_inj : ∀ {left right : TypeExpr}, left.IsSpelled → right.IsSpelled → text left = text right →
    (Callee.ofType left = Callee.ofType right ∧ Callee.typeName left = Callee.typeName right) ∨
      (isConstant (Callee.ofType left) = true ∧ isConstant (Callee.ofType right) = true)
  constant_inj : ∀ {left right : TypeExpr} {rest others : Text}, left.IsSpelled →
    right.IsSpelled → isConstant (Callee.ofType left) = true →
    isConstant (Callee.ofType right) = true →
    arguments (Callee.source left) (Callee.ofType left) ++ rest =
      arguments (Callee.source right) (Callee.ofType right) ++ others →
    left.head = right.head ∧ rest = others
  fixed : ∀ {callee : Callee}, isConstant callee = false →
    callee ≠ .constant ∧ ∀ source other, arguments source callee = arguments other callee

namespace Calls

variable {dialect : Dialect} {left right : TypeExpr} {rest others : Text}

theorem opening_inj (calls : dialect.Calls) (leftSpelled : left.IsSpelled)
    (rightSpelled : right.IsSpelled)
    (same : dialect.opening left ++ rest = dialect.opening right ++ others) :
    left.head = right.head ∧ rest = others := by
  rw [calls.opening_eq leftSpelled, calls.opening_eq rightSpelled, List.append_assoc,
    List.append_assoc] at same
  obtain ⟨texts, arguments⟩ := Text.append_cons_inj (calls.not_mem leftSpelled '(' (by decide))
    (calls.not_mem rightSpelled '(' (by decide)) same
  cases constant : calls.isConstant (Callee.ofType left) with
  | true =>
      have otherConstant : calls.isConstant (Callee.ofType right) = true := by
        rcases calls.text_inj leftSpelled rightSpelled texts with ⟨callee, -⟩ | ⟨-, other⟩
        · rw [← callee, constant]
        · exact other
      exact calls.constant_inj leftSpelled rightSpelled constant otherConstant arguments
  | false =>
      obtain ⟨callee, name⟩ := (calls.text_inj leftSpelled rightSpelled texts).resolve_right
        fun both => by rw [constant] at both; cases both.1
      obtain ⟨notConstant, fixed⟩ := calls.fixed constant
      refine ⟨?_, ?_⟩
      · rw [Callee.head_eq leftSpelled notConstant,
          Callee.head_eq rightSpelled (callee ▸ notConstant), callee, name]
      · rw [← callee, fixed _ (Callee.source right)] at arguments
        exact List.append_cancel_left arguments

theorem opening_ne_closing (calls : dialect.Calls) (spelled : left.IsSpelled) {c : Char}
    (closes : c = ')' ∨ c = ']') :
    dialect.opening left ++ rest ≠ c :: others := by
  have member : c ∈ ['(', ')', ']'] := by rcases closes with rfl | rfl <;> decide
  have notOpening : '(' ≠ c := by rcases closes with rfl | rfl <;> decide
  rw [calls.opening_eq spelled]
  intro same
  cases text : calls.text left with
  | nil =>
      rw [text] at same
      exact notOpening (List.head_eq_of_cons_eq same)
  | cons d more =>
      rw [text] at same
      obtain rfl := List.head_eq_of_cons_eq same
      exact calls.not_mem spelled d member (text ▸ List.mem_cons_self)

end Calls

/-! ### zod -/

/-- What is called by `zod` code, without the name of a type. -/
def zodCallee : Callee → Text
  | .primitive kind => "z." ++ kind.keyword
  | .null => "z.null"
  | .constant => "z.literal"
  | .object => "z.object"
  | .union => "z.union"
  | .companion => ".schema"

/-- The arguments of a `zod` call as far as they belong to the opening. -/
def zodArguments (source : Text) : Callee → Text
  | .constant => source ++ ")"
  | .object => "\x7b"
  | .union => "["
  | _ => ")"

/-- `zod` code calls a function of the library or a method of the companion of a type. -/
def zodCalls : Calls zod where
  text type := Callee.typeName type ++ zodCallee (Callee.ofType type)
  arguments := zodArguments
  isConstant callee := callee = .constant
  opening_eq := by
    intro type spelled
    cases spelled with
    | @primitive kind => cases kind <;> rfl
    | @literal kind raw =>
        cases kind with
        | null => rfl
        | _ => exact List.append_assoc "z.literal(".toList (literalCode _ raw) ")".toList
    | object => rfl
    | union => rfl
    | @reference name => exact (List.append_assoc name ".schema".toList "()".toList).symm
  not_mem := by
    intro type spelled c foreign member
    have fixed : ∀ callee ∈ Callee.all, ['(', ')', ']'].all (· ∉ zodCallee callee) = true := by
      decide
    rcases List.mem_append.mp member with inName | inCallee
    · exact Callee.not_mem_typeName spelled (Syntax.isIdentifierChar_of_mem_brackets foreign) inName
    · have clean := List.all_eq_true.mp (fixed _ (Callee.mem_all (Callee.ofType type))) c foreign
      exact of_decide_eq_true clean inCallee
  text_inj := by
    intro left right leftSpelled rightSpelled
    have distinct : ∀ a ∈ Callee.all, ∀ b ∈ Callee.all, zodCallee a = zodCallee b →
        a = b ∨ (decide (a = .constant) = true ∧ decide (b = .constant) = true) := by decide
    have last : ∀ callee ∈ Callee.all, (zodCallee callee).getLast? = some 'a' →
        callee = .companion := by decide
    refine Callee.write_inj (fun name callee => name ++ zodCallee callee)
      (fun same => List.append_cancel_right same) ?_ distinct leftSpelled rightSpelled
    intro name callee notCompanion same
    apply notCompanion (last callee callee.mem_all _)
    rw [← List.nil_append (zodCallee callee), ← same, List.getLast?_append]
    rfl
  constant_inj := by
    intro left right rest others leftSpelled rightSpelled constant otherConstant same
    simp only [decide_eq_true_eq] at constant otherConstant
    obtain ⟨kind, raw, line, rfl, spells⟩ := Callee.exists_literal leftSpelled (.inr constant)
    obtain ⟨otherKind, otherRaw, otherLine, rfl, otherSpells⟩ :=
      Callee.exists_literal rightSpelled (.inr otherConstant)
    rw [constant, otherConstant] at same
    have sources : literalCode kind raw ++ ')' :: rest =
        literalCode otherKind otherRaw ++ ')' :: others := by
      simpa [zodArguments, Callee.source] using same
    obtain ⟨rfl, rfl, behind⟩ := spells.append_inj otherSpells sources
    exact ⟨rfl, behind⟩
  fixed := by
    intro callee other
    cases callee with
    | constant => cases other
    | _ => exact ⟨fun same => (nomatch same), fun _ _ => rfl⟩

theorem zod_isReadable : zod.IsReadable where
  opening := zodCalls.opening_inj
  optional := .inl ⟨rfl, fun same => absurd (List.head_eq_of_cons_eq same) (by decide)⟩
  union := fun spelled => zodCalls.opening_ne_closing spelled (.inr rfl)
  comma := fun same => absurd (List.head_eq_of_cons_eq same) (by decide)
  blank := by
    rintro rest others c (rfl | rfl) same
    · exact absurd (List.head_eq_of_cons_eq same) (by decide)
    · exact absurd (List.head_eq_of_cons_eq same) (by decide)

/-! ### fast-check -/

/-- What is called by `fast-check` code, without the name of a type. -/
def fastCheckCallee : Callee → Text
  | .primitive .string => "fc.string"
  | .primitive .number => "fc.double"
  | .primitive .bigint => "fc.bigInt"
  | .primitive .undefined => "fc.constant"
  | .null => "fc.constant"
  | .constant => "fc.constant"
  | .object => "fc.record"
  | .union => "fc.oneof"
  | .companion => "arbitrary"

/-- The arguments of a `fast-check` call as far as they belong to the opening. -/
def fastCheckArguments (source : Text) : Callee → Text
  | .primitive .undefined => "undefined)"
  | .null => source ++ ")"
  | .constant => source ++ ")"
  | .object => "\x7b"
  | .union => []
  | _ => ")"

/-- Whether a `fast-check` call takes the source of a constant. -/
def fastCheckIsConstant (callee : Callee) : Bool :=
  callee ∈ [.primitive .undefined, .null, .constant]

section

variable {left right : TypeExpr}

private theorem fastCheckIsConstant_cases (spelled : left.IsSpelled)
    (constant : fastCheckIsConstant (Callee.ofType left) = true) :
    (∃ line, left = .primitive .undefined line) ∨
      ∃ kind raw line, left = .literal kind raw line ∧ kind.Spells raw ∧
        fastCheckArguments (Callee.source left) (Callee.ofType left) =
          literalCode kind raw ++ [')'] := by
  cases spelled with
  | @primitive kind line =>
      cases kind with
      | undefined => exact .inl ⟨line, rfl⟩
      | _ => cases constant
  | @literal kind raw line spells =>
      refine .inr ⟨kind, raw, line, rfl, spells, ?_⟩
      cases kind <;> rfl
  | _ => cases constant

private theorem fastCheckArguments_inj {rest others : Text} (leftSpelled : left.IsSpelled)
    (rightSpelled : right.IsSpelled)
    (constant : fastCheckIsConstant (Callee.ofType left) = true)
    (otherConstant : fastCheckIsConstant (Callee.ofType right) = true)
    (same : fastCheckArguments (Callee.source left) (Callee.ofType left) ++ rest =
      fastCheckArguments (Callee.source right) (Callee.ofType right) ++ others) :
    left.head = right.head ∧ rest = others := by
  rcases fastCheckIsConstant_cases leftSpelled constant with
    ⟨line, rfl⟩ | ⟨kind, raw, line, rfl, spells, code⟩ <;>
  rcases fastCheckIsConstant_cases rightSpelled otherConstant with
    ⟨otherLine, rfl⟩ | ⟨otherKind, otherRaw, otherLine, rfl, otherSpells, otherCode⟩
  · exact ⟨rfl, List.append_cancel_left same⟩
  · rw [otherCode, List.append_assoc] at same
    exact absurd same.symm otherSpells.append_ne_undefined
  · rw [code, List.append_assoc] at same
    exact absurd same spells.append_ne_undefined
  · rw [code, otherCode, List.append_assoc, List.append_assoc] at same
    obtain ⟨rfl, rfl, behind⟩ := spells.append_inj otherSpells same
    exact ⟨rfl, behind⟩

end

/-- `fast-check` code calls a function of the library or the companion of a type. -/
def fastCheckCalls : Calls fastCheck where
  text type := fastCheckCallee (Callee.ofType type) ++ Callee.typeName type
  arguments := fastCheckArguments
  isConstant := fastCheckIsConstant
  opening_eq := by
    intro type spelled
    cases spelled with
    | @primitive kind => cases kind <;> rfl
    | @literal kind raw =>
        cases kind <;> exact List.append_assoc "fc.constant(".toList (literalCode _ raw) ")".toList
    | object => rfl
    | union => rfl
    | reference => rfl
  not_mem := by
    intro type spelled c foreign member
    have fixed : ∀ callee ∈ Callee.all,
        ['(', ')', ']'].all (· ∉ fastCheckCallee callee) = true := by decide
    rcases List.mem_append.mp member with inCallee | inName
    · have clean := List.all_eq_true.mp (fixed _ (Callee.mem_all (Callee.ofType type))) c foreign
      exact of_decide_eq_true clean inCallee
    · exact Callee.not_mem_typeName spelled (Syntax.isIdentifierChar_of_mem_brackets foreign) inName
  text_inj := by
    intro left right leftSpelled rightSpelled
    have distinct : ∀ a ∈ Callee.all, ∀ b ∈ Callee.all,
        fastCheckCallee a ++ [] = fastCheckCallee b ++ [] →
        a = b ∨ (fastCheckIsConstant a = true ∧ fastCheckIsConstant b = true) := by decide
    have first : ∀ callee ∈ Callee.all, (fastCheckCallee callee).head? = some 'a' →
        callee = .companion := by decide
    refine Callee.write_inj (fun name callee => fastCheckCallee callee ++ name)
      (fun same => List.append_cancel_left same) ?_ distinct leftSpelled rightSpelled
    intro name callee notCompanion same
    apply notCompanion (first callee callee.mem_all _)
    rw [← List.append_nil (fastCheckCallee callee), ← same]
    rfl
  constant_inj := fastCheckArguments_inj
  fixed := by
    intro callee other
    cases callee with
    | null => cases other
    | constant => cases other
    | primitive kind =>
        cases kind with
        | undefined => cases other
        | _ => exact ⟨fun same => (nomatch same), fun _ _ => rfl⟩
    | _ => exact ⟨fun same => (nomatch same), fun _ _ => rfl⟩

theorem fastCheck_isReadable : fastCheck.IsReadable where
  opening := fastCheckCalls.opening_inj
  optional := by
    refine .inr ?_
    intro type rest others spelled same
    rw [fastCheckCalls.opening_eq spelled, List.append_assoc] at same
    have called : fastCheckCalls.text type ++
        '(' :: (fastCheckCalls.arguments (Callee.source type) (Callee.ofType type) ++ rest) =
          "fc.option".toList ++ '(' :: others := same
    have option : fastCheckCallee (Callee.ofType type) ++ Callee.typeName type =
        "fc.option".toList :=
      (Text.append_cons_inj (fastCheckCalls.not_mem spelled '(' (by decide)) (by decide) called).1
    by_cases companion : Callee.ofType type = .companion
    · rw [companion] at option
      exact absurd (List.head_eq_of_cons_eq option) (by decide)
    · have noFunction : ∀ callee ∈ Callee.all, fastCheckCallee callee ≠ "fc.option".toList := by
        decide
      rw [Callee.typeName_eq_nil spelled companion, List.append_nil] at option
      exact noFunction _ (Callee.mem_all _) option
  union := fun spelled => fastCheckCalls.opening_ne_closing spelled (.inl rfl)
  comma := fun same => absurd (List.head_eq_of_cons_eq same) (by decide)
  blank := by
    rintro rest others c (rfl | rfl) same
    · exact absurd (List.head_eq_of_cons_eq same) (by decide)
    · exact absurd (List.head_eq_of_cons_eq same) (by decide)

end Dialect

namespace Library

theorem isReadable (library : Library) : library.dialect.IsReadable := by
  cases library with
  | zod => exact Dialect.zod_isReadable
  | fastCheck => exact Dialect.fastCheck_isReadable

/-- Spelled types with the same code are the same but for lines and for where references lead. -/
theorem bare_eq_of_express_code_eq (library : Library) {leftContext rightContext : CompanionContext}
    {left right : TypeExpr} {leftCode rightCode : Code} (leftSpelled : left.IsSpelled)
    (rightSpelled : right.IsSpelled)
    (leftExpressed : library.dialect.express leftContext left = .ok leftCode)
    (rightExpressed : library.dialect.express rightContext right = .ok rightCode)
    (same : leftCode.code = rightCode.code) : left.bare = right.bare := by
  have layouts : library.dialect.layout 0 left ++ [] = library.dialect.layout 0 right ++ [] := by
    rw [← Dialect.codeOf_eq_layout library.breaksNoLine leftSpelled.allTexts,
      ← Dialect.codeOf_eq_layout library.breaksNoLine rightSpelled.allTexts,
      ← (Dialect.expresses_of_express_eq_ok leftExpressed).code,
      ← (Dialect.expresses_of_express_eq_ok rightExpressed).code, same]
  exact (library.isReadable.readsBack leftSpelled 0 rightSpelled layouts).1

/-- The type `'a), \'' | B` in a module of its own and in one that imports `B`. -/
theorem bare_eq_across_modules :
    fastCheck.dialect.express ⟨"/", "a.ppx.ts", "a.ts", none, .ok⟩
        (.union [.literal .string "a), \\'" (some 1), .reference "B" none (some 1)] (some 1)) =
      .ok ⟨"fc.oneof(fc.constant('a), \\''), arbitraryB())", []⟩ ∧
    fastCheck.dialect.express ⟨"/", "b.ppx.ts", "b.ts", none, .ok⟩
        (.union [.literal .string "a), \\'" (some 3), .reference "B" (some ⟨"B", "C", "./c"⟩) (some 4)]
          (some 3)) =
      .ok ⟨"fc.oneof(fc.constant('a), \\''), arbitraryB())",
        [⟨"arbitraryC", "arbitraryB", "./c"⟩]⟩ ∧
    TypeExpr.bare (.union [.literal .string "a), \\'" (some 1), .reference "B" none (some 1)]
        (some 1)) =
      TypeExpr.bare (.union [.literal .string "a), \\'" (some 3),
        .reference "B" (some ⟨"B", "C", "./c"⟩) (some 4)] (some 3)) := by
  have spelled : ∀ {first second third : Option Int} {origin : Option ImportedName},
      TypeExpr.IsSpelled (.union [.literal .string "a), \\'" first, .reference "B" origin second]
        third) := by
    intro first second third origin
    refine .union (List.forall_mem_cons.mpr ⟨?_, List.forall_mem_singleton.mpr ?_⟩)
    · exact .literal ⟨by decide, by decide⟩
    · exact .reference (by decide)
  have left : fastCheck.dialect.express ⟨"/", "a.ppx.ts", "a.ts", none, .ok⟩
      (.union [.literal .string "a), \\'" (some 1), .reference "B" none (some 1)] (some 1)) =
        .ok ⟨"fc.oneof(fc.constant('a), \\''), arbitraryB())", []⟩ := rfl
  have right : fastCheck.dialect.express ⟨"/", "b.ppx.ts", "b.ts", none, .ok⟩
      (.union [.literal .string "a), \\'" (some 3),
        .reference "B" (some ⟨"B", "C", "./c"⟩) (some 4)] (some 3)) =
        .ok ⟨"fc.oneof(fc.constant('a), \\''), arbitraryB())",
          [⟨"arbitraryC", "arbitraryB", "./c"⟩]⟩ := rfl
  exact ⟨left, right, bare_eq_of_express_code_eq fastCheck spelled spelled left right rfl⟩

end Library

end Companion
