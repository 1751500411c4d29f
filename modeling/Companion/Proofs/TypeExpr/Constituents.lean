import Companion.Generator.Expression

/-!
# Constituents of type expressions

Type expressions nest through lists of members and lists of properties. Induction over them, and what
is collected from them, goes from an expression to the types that it is put together from: the
references that it makes, the strings that it holds. Lines and origins are no constituents; without
them an expression is bare.
-/

set_option autoImplicit false

namespace Companion.TypeExpr

/-- What holds of an expression whenever it holds of its constituents holds of all expressions. -/
@[induction_eliminator]
theorem induction {motive : TypeExpr → Prop}
    (primitive : ∀ kind line, motive (.primitive kind line))
    (literal : ∀ kind raw line, motive (.literal kind raw line))
    (object : ∀ properties line, (∀ property ∈ properties, motive property.type) →
      motive (.object properties line))
    (union : ∀ members line, (∀ member ∈ members, motive member) → motive (.union members line))
    (reference : ∀ name origin line, motive (.reference name origin line))
    (unclassified : ∀ line, motive (.unclassified line)) (type : TypeExpr) : motive type :=
  TypeExpr.rec (motive_1 := motive) (motive_2 := fun properties => ∀ property ∈ properties,
      motive property.type) (motive_3 := fun members => ∀ member ∈ members, motive member)
    (motive_4 := fun property => motive property.type) primitive literal object union reference
    unclassified (fun _ member => nomatch member)
    (fun _ _ first others property member => by
      rcases List.mem_cons.mp member with rfl | member
      · exact first
      · exact others property member)
    (fun _ member => nomatch member)
    (fun _ _ first others type member => by
      rcases List.mem_cons.mp member with rfl | member
      · exact first
      · exact others type member)
    (fun _ _ _ _ holds => holds) type

/-! ## Collecting -/

section Collecting

variable {α : Type} (atKey : Property TypeExpr → List α) (atLeaf : TypeExpr → List α)

mutual

/-- What an expression holds at the keys of its properties and at its leaves, in source order. -/
def collect : TypeExpr → List α
  | .primitive kind line => atLeaf (.primitive kind line)
  | .literal kind raw line => atLeaf (.literal kind raw line)
  | .object properties _ => collectProperties properties
  | .union members _ => collectMembers members
  | .reference name origin line => atLeaf (.reference name origin line)
  | .unclassified line => atLeaf (.unclassified line)

def collectMembers : List TypeExpr → List α
  | [] => []
  | member :: rest => collect member ++ collectMembers rest

def collectProperties : List (Property TypeExpr) → List α
  | [] => []
  | property :: rest => collectProperty property ++ collectProperties rest

/-- What a property holds: first its key, then its type. -/
def collectProperty : Property TypeExpr → List α
  | ⟨name, type, optional, quoted⟩ => atKey ⟨name, type, optional, quoted⟩ ++ collect type

end

theorem collectMembers_eq (members : List TypeExpr) :
    collectMembers atKey atLeaf members = members.flatMap (collect atKey atLeaf) := by
  induction members with
  | nil => rfl
  | cons member rest ih => rw [collectMembers, ih, List.flatMap_cons]

theorem collectProperties_eq (properties : List (Property TypeExpr)) :
    collectProperties atKey atLeaf properties =
      properties.flatMap fun property => atKey property ++ collect atKey atLeaf property.type := by
  induction properties with
  | nil => rfl
  | cons property rest ih =>
      obtain ⟨name, type, optional, quoted⟩ := property
      rw [collectProperties, ih, List.flatMap_cons, collectProperty]

@[simp] theorem collect_object (properties : List (Property TypeExpr)) (line : Option Int) :
    collect atKey atLeaf (.object properties line) =
      properties.flatMap fun property => atKey property ++ collect atKey atLeaf property.type :=
  collectProperties_eq atKey atLeaf properties

@[simp] theorem collect_union (members : List TypeExpr) (line : Option Int) :
    collect atKey atLeaf (.union members line) = members.flatMap (collect atKey atLeaf) :=
  collectMembers_eq atKey atLeaf members

end Collecting

/-- A reference of a leaf: the name and the import that is known to bind it. -/
def leafReferences : TypeExpr → List (Text × Option ImportedName)
  | .reference name origin _ => [(name, origin)]
  | _ => []

/-- The references that an expression makes, repetitions included. -/
def references : TypeExpr → List (Text × Option ImportedName) :=
  collect (fun _ => []) leafReferences

def leafStrings : TypeExpr → List Text
  | .literal .string raw _ => [literalCode .string raw]
  | _ => []

def keyStrings (property : Property TypeExpr) : List Text :=
  if property.quoted then [keyCode property] else []

/-- The string literals and quoted keys of an expression as they are written. -/
def strings : TypeExpr → List Text := collect keyStrings leafStrings

def leafNames : TypeExpr → List Text
  | .literal .string _ _ => []
  | .literal _ raw _ => [raw]
  | .reference name _ _ => [name]
  | _ => []

def keyNames (property : Property TypeExpr) : List Text :=
  if property.quoted then [] else [property.name]

/-- The names and numbers of an expression: all of its texts that are no strings. -/
def names : TypeExpr → List Text := collect keyNames leafNames

/-- All names, numbers and strings of an expression are as required. -/
def AllTexts (required : Text → Prop) (type : TypeExpr) : Prop :=
  (∀ text ∈ type.names, required text) ∧ ∀ text ∈ type.strings, required text

variable {required : Text → Prop}

theorem AllTexts.imp {type : TypeExpr} {weaker : Text → Prop} (holds : type.AllTexts required)
    (implies : ∀ text, required text → weaker text) : type.AllTexts weaker :=
  ⟨fun text member => implies text (holds.1 text member),
    fun text member => implies text (holds.2 text member)⟩

theorem allTexts_literal {kind : LiteralForm} {raw : Text} {line : Option Int} :
    AllTexts required (.literal kind raw line) ↔ required (literalCode kind raw) := by
  cases kind <;> simp [AllTexts, names, strings, collect, leafNames, leafStrings, literalCode]

theorem allTexts_reference {name : Text} {origin : Option ImportedName} {line : Option Int} :
    AllTexts required (.reference name origin line) ↔ required name := by
  simp [AllTexts, names, strings, collect, leafNames, leafStrings]

theorem allTexts_union {members : List TypeExpr} {line : Option Int} :
    AllTexts required (.union members line) ↔ ∀ member ∈ members, AllTexts required member := by
  simp only [AllTexts, names, strings, collect_union, List.mem_flatMap]
  grind

theorem allTexts_object {properties : List (Property TypeExpr)} {line : Option Int} :
    AllTexts required (.object properties line) ↔
      ∀ property ∈ properties, required (keyCode property) ∧
        AllTexts required property.type := by
  have key : ∀ property : Property TypeExpr, required (keyCode property) ↔
      (∀ text ∈ keyNames property, required text) ∧
        ∀ text ∈ keyStrings property, required text := by
    intro property
    cases quoted : property.quoted <;> simp [keyNames, keyStrings, keyCode, quoted]
  simp only [AllTexts, names, strings, collect_object, List.mem_flatMap, List.mem_append, key]
  grind

/-! ## Bare expressions -/

mutual

/-- An expression without lines and origins. -/
def bare : TypeExpr → TypeExpr
  | .primitive kind _ => .primitive kind none
  | .literal kind raw _ => .literal kind raw none
  | .object properties _ => .object (bareProperties properties) none
  | .union members _ => .union (bareMembers members) none
  | .reference name _ _ => .reference name none none
  | .unclassified _ => .unclassified none

def bareMembers : List TypeExpr → List TypeExpr
  | [] => []
  | member :: rest => bare member :: bareMembers rest

def bareProperties : List (Property TypeExpr) → List (Property TypeExpr)
  | [] => []
  | property :: rest => bareProperty property :: bareProperties rest

def bareProperty : Property TypeExpr → Property TypeExpr
  | ⟨name, type, optional, quoted⟩ => ⟨name, bare type, optional, quoted⟩

end

@[simp] theorem bare_object (properties : List (Property TypeExpr)) (line : Option Int) :
    bare (.object properties line) = .object (properties.map fun property =>
      { property with type := property.type.bare }) none := by
  rw [bare, TypeExpr.object.injEq]
  refine ⟨?_, rfl⟩
  induction properties with
  | nil => rfl
  | cons property rest ih =>
      obtain ⟨name, type, optional, quoted⟩ := property
      rw [bareProperties, ih, bareProperty, List.map_cons]

@[simp] theorem bare_union (members : List TypeExpr) (line : Option Int) :
    bare (.union members line) = .union (members.map bare) none := by
  rw [bare, TypeExpr.union.injEq]
  refine ⟨?_, rfl⟩
  induction members with
  | nil => rfl
  | cons member rest ih => rw [bareMembers, ih, List.map_cons]

/-! ## Lines and origins replaced -/

section Mapping

variable (onLine : Option Int → Option Int) (onOrigin : Option ImportedName → Option ImportedName)

mutual

/-- A type with its lines and origins replaced. -/
def mapMarks : TypeExpr → TypeExpr
  | .primitive kind line => .primitive kind (onLine line)
  | .literal kind raw line => .literal kind raw (onLine line)
  | .object properties line => .object (mapMarksOfProperties properties) (onLine line)
  | .union members line => .union (mapMarksOfMembers members) (onLine line)
  | .reference name origin line => .reference name (onOrigin origin) (onLine line)
  | .unclassified line => .unclassified (onLine line)

def mapMarksOfMembers : List TypeExpr → List TypeExpr
  | [] => []
  | member :: rest => mapMarks member :: mapMarksOfMembers rest

def mapMarksOfProperties : List (Property TypeExpr) → List (Property TypeExpr)
  | [] => []
  | property :: rest => mapMarksOfProperty property :: mapMarksOfProperties rest

def mapMarksOfProperty : Property TypeExpr → Property TypeExpr
  | ⟨name, type, optional, quoted⟩ => ⟨name, mapMarks type, optional, quoted⟩

end

@[simp] theorem mapMarks_object (properties : List (Property TypeExpr)) (line : Option Int) :
    mapMarks onLine onOrigin (.object properties line) =
      .object (properties.map fun property =>
        { property with type := mapMarks onLine onOrigin property.type }) (onLine line) := by
  rw [mapMarks, TypeExpr.object.injEq]
  refine ⟨?_, rfl⟩
  induction properties with
  | nil => rfl
  | cons property rest ih =>
      obtain ⟨name, type, optional, quoted⟩ := property
      rw [mapMarksOfProperties, ih, mapMarksOfProperty, List.map_cons]

@[simp] theorem mapMarks_union (members : List TypeExpr) (line : Option Int) :
    mapMarks onLine onOrigin (.union members line) =
      .union (members.map (mapMarks onLine onOrigin)) (onLine line) := by
  rw [mapMarks, TypeExpr.union.injEq]
  refine ⟨?_, rfl⟩
  induction members with
  | nil => rfl
  | cons member rest ih => rw [mapMarksOfMembers, ih, List.map_cons]

end Mapping

theorem mapMarks_id (type : TypeExpr) : type.mapMarks id id = type := by
  induction type with
  | primitive kind line => rfl
  | literal kind raw line => rfl
  | object properties line ih =>
      rw [mapMarks_object, List.map_congr_left (g := id), List.map_id]
      · rfl
      · intro property member
        rw [ih property member]
        rfl
  | union members line ih =>
      rw [mapMarks_union, List.map_congr_left (g := id) ih, List.map_id]
      rfl
  | reference name origin line => rfl
  | unclassified line => rfl

/-- A type without its origins. -/
def withoutOrigins : TypeExpr → TypeExpr := mapMarks id fun _ => none

/-- A type without its lines. -/
def withoutLines : TypeExpr → TypeExpr := mapMarks (fun _ => none) id

end Companion.TypeExpr
