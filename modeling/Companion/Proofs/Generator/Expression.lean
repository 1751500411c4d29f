import Companion.Proofs.Failure
import Companion.Proofs.TypeExpr.Constituents

/-! What the expression of a type consists of. Its code depends on the type and the dialect alone; what
it is written for decides which imports come with it, one reference after the other, and whether there
is an expression at all. -/

set_option autoImplicit false

namespace Companion.Dialect

variable (dialect : Dialect)

mutual

/-- The code of a type, whatever it is written for. -/
def codeOf : TypeExpr → Text
  | .primitive kind _ => dialect.primitive kind
  | .literal kind raw _ => dialect.literal kind (literalCode kind raw)
  | .object properties _ => dialect.layOut (codesOfProperties properties)
  | .union members _ => enclose dialect.union (Text.join ", ".toList (codesOfMembers members))
  | .reference name _ _ => dialect.companionName name ++ dialect.call
  | .unclassified _ => []

/-- The codes of the members of a union. -/
def codesOfMembers : List TypeExpr → List Text
  | [] => []
  | member :: rest => codeOf member :: codesOfMembers rest

/-- The lines of the properties of an object. -/
def codesOfProperties : List (Property TypeExpr) → List Text
  | [] => []
  | property :: rest => codeOfProperty property :: codesOfProperties rest

/-- The line of a property. -/
def codeOfProperty : Property TypeExpr → Text
  | ⟨name, type, optional, quoted⟩ =>
    dialect.propertyLine ⟨name, type, optional, quoted⟩ (codeOf type)

end

@[simp] theorem codeOf_union (members : List TypeExpr) (line : Option Int) :
    dialect.codeOf (.union members line) =
      enclose dialect.union (Text.join ", ".toList (members.map dialect.codeOf)) := by
  have codes : dialect.codesOfMembers members = members.map dialect.codeOf := by
    induction members with
    | nil => rfl
    | cons member rest ih => rw [codesOfMembers, ih, List.map_cons]
  rw [codeOf, codes]

@[simp] theorem codeOf_object (properties : List (Property TypeExpr)) (line : Option Int) :
    dialect.codeOf (.object properties line) = dialect.layOut (properties.map fun property =>
      dialect.propertyLine property (dialect.codeOf property.type)) := by
  have codes : dialect.codesOfProperties properties = properties.map fun property =>
      dialect.propertyLine property (dialect.codeOf property.type) := by
    induction properties with
    | nil => rfl
    | cons property rest ih =>
        obtain ⟨name, type, optional, quoted⟩ := property
        rw [codesOfProperties, ih, codeOfProperty, List.map_cons]
  rw [codeOf, codes]

variable {dialect} {context : CompanionContext}

/-- A reference is code alone, or code with one import when a binding of its name is known. -/
theorem reference_eq_ok_iff {name : Text} {origin : Option ImportedName} {part : Code} :
    dialect.reference context name origin = .ok part ↔
      (context.binding name origin = .ok none ∧
          part = ⟨dialect.companionName name ++ dialect.call, []⟩) ∨
        ∃ binding specifier, context.binding name origin = .ok (some binding) ∧
          context.companionSpecifier binding.specifier = .ok specifier ∧
          part = ⟨dialect.companionName name ++ dialect.call,
            [⟨dialect.companionName binding.imported, dialect.companionName binding.localName,
              specifier⟩]⟩ := by
  unfold reference
  cases bound : context.binding name origin with
  | error failure => simp [bind, Except.bind]
  | ok found =>
      cases found with
      | none => simp [bind, Except.bind, pure, Except.pure, eq_comm]
      | some binding =>
          cases mapped : context.companionSpecifier binding.specifier with
          | error failure => simp [bind, Except.bind, mapped]
          | ok specifier => simp [bind, Except.bind, pure, Except.pure, mapped, eq_comm]

/-- Imports are those that references bring, in the order of the references. -/
def Brings (dialect : Dialect) (context : CompanionContext)
    (references : List (Text × Option ImportedName)) (imports : List NamedImport) : Prop :=
  ∃ parts, (references.mapM fun reference =>
      dialect.reference context reference.1 reference.2) = .ok parts ∧
    imports = parts.flatMap (·.imports)

theorem brings_nil : dialect.Brings context [] [] := ⟨[], rfl, rfl⟩

theorem Brings.append {left right : List (Text × Option ImportedName)}
    {leftImports rightImports : List NamedImport}
    (leftBrings : dialect.Brings context left leftImports)
    (rightBrings : dialect.Brings context right rightImports) :
    dialect.Brings context (left ++ right) (leftImports ++ rightImports) := by
  obtain ⟨leftParts, leftFound, rfl⟩ := leftBrings
  obtain ⟨rightParts, rightFound, rfl⟩ := rightBrings
  refine ⟨leftParts ++ rightParts, ?_, by rw [List.flatMap_append]⟩
  rw [List.mapM_append, leftFound, rightFound]
  rfl

/-- The import of an imported reference is among those that come with an expression. -/
theorem Brings.exists_part {references : List (Text × Option ImportedName)}
    {imports : List NamedImport} (brings : dialect.Brings context references imports)
    {reference : Text × Option ImportedName} (member : reference ∈ references) :
    ∃ part, dialect.reference context reference.1 reference.2 = .ok part ∧
      ∀ line ∈ part.imports, line ∈ imports := by
  obtain ⟨parts, found, rfl⟩ := brings
  obtain ⟨part, isPart, refers⟩ := Failure.exists_of_mapM_eq_ok found member
  exact ⟨part, refers, fun line inside => List.mem_flatMap.mpr ⟨part, isPart, inside⟩⟩

/-- Every import that comes with an expression is that of a reference. -/
theorem Brings.exists_reference {references : List (Text × Option ImportedName)}
    {imports : List NamedImport} (brings : dialect.Brings context references imports)
    {line : NamedImport} (member : line ∈ imports) :
    ∃ reference ∈ references, ∃ part,
      dialect.reference context reference.1 reference.2 = .ok part ∧ line ∈ part.imports := by
  obtain ⟨parts, found, rfl⟩ := brings
  obtain ⟨part, isPart, inside⟩ := List.mem_flatMap.mp member
  obtain ⟨reference, isReference, refers⟩ := Failure.exists_of_mem_of_mapM_eq_ok found isPart
  exact ⟨reference, isReference, part, refers, inside⟩

/-- What is expressed is the code of the type, with the imports that its references bring. -/
structure Expresses (dialect : Dialect) (context : CompanionContext) (type : TypeExpr)
    (expression : Code) : Prop where
  code : expression.code = dialect.codeOf type
  imports : dialect.Brings context type.references expression.imports

private theorem expressMembers_expresses {members : List TypeExpr} {parts : List Code}
    (each : ∀ member ∈ members, ∀ expression, dialect.express context member = .ok expression →
      dialect.Expresses context member expression)
    (expressed : dialect.expressMembers context members = .ok parts) :
    parts.map (·.code) = members.map dialect.codeOf ∧
      dialect.Brings context (members.flatMap (·.references)) (parts.flatMap (·.imports)) := by
  induction members generalizing parts with
  | nil =>
      obtain rfl := Except.ok.inj expressed
      exact ⟨rfl, brings_nil⟩
  | cons member rest ih =>
      rw [expressMembers, Failure.bind_eq_ok_iff] at expressed
      obtain ⟨part, isPart, expressed⟩ := expressed
      rw [Failure.bind_eq_ok_iff] at expressed
      obtain ⟨others, areOthers, success⟩ := expressed
      obtain rfl := Except.ok.inj success
      obtain ⟨code, imports⟩ := each member List.mem_cons_self part isPart
      obtain ⟨codes, importsOthers⟩ :=
        ih (fun other isOther => each other (List.mem_cons_of_mem _ isOther)) areOthers
      exact ⟨by rw [List.map_cons, code, codes, List.map_cons], imports.append importsOthers⟩

private theorem expressProperties_expresses {properties : List (Property TypeExpr)}
    {lines : List Code}
    (each : ∀ property ∈ properties, ∀ expression,
      dialect.express context property.type = .ok expression →
      dialect.Expresses context property.type expression)
    (expressed : dialect.expressProperties context properties = .ok lines) :
    (lines.map (·.code) = properties.map fun property =>
        dialect.propertyLine property (dialect.codeOf property.type)) ∧
      dialect.Brings context (properties.flatMap (·.type.references))
        (lines.flatMap (·.imports)) := by
  induction properties generalizing lines with
  | nil =>
      obtain rfl := Except.ok.inj expressed
      exact ⟨rfl, brings_nil⟩
  | cons property rest ih =>
      obtain ⟨name, type, optional, quoted⟩ := property
      rw [expressProperties, Failure.bind_eq_ok_iff] at expressed
      obtain ⟨line, isLine, expressed⟩ := expressed
      rw [Failure.bind_eq_ok_iff] at expressed
      obtain ⟨others, areOthers, success⟩ := expressed
      obtain rfl := Except.ok.inj success
      rw [expressProperty, Failure.bind_eq_ok_iff] at isLine
      obtain ⟨value, isValue, success⟩ := isLine
      obtain rfl := Except.ok.inj success
      obtain ⟨code, imports⟩ := each _ List.mem_cons_self value isValue
      obtain ⟨codes, importsOthers⟩ :=
        ih (fun other isOther => each other (List.mem_cons_of_mem _ isOther)) areOthers
      exact ⟨by rw [List.map_cons, code, codes, List.map_cons], imports.append importsOthers⟩

/-- Every expression that there is consists of the code of its type and the imports that the
references bring. -/
theorem expresses_of_express_eq_ok {type : TypeExpr} {expression : Code}
    (expressed : dialect.express context type = .ok expression) :
    dialect.Expresses context type expression := by
  induction type generalizing expression with
  | primitive kind line =>
      obtain rfl := Except.ok.inj expressed
      exact ⟨rfl, brings_nil⟩
  | literal kind raw line =>
      obtain rfl := Except.ok.inj expressed
      exact ⟨rfl, brings_nil⟩
  | object properties line ih =>
      rw [express, Failure.bind_eq_ok_iff] at expressed
      obtain ⟨lines, areLines, success⟩ := expressed
      obtain rfl := Except.ok.inj success
      obtain ⟨codes, imports⟩ :=
        expressProperties_expresses (fun property member _ => ih property member) areLines
      exact ⟨by rw [codes, codeOf_object], by simpa [TypeExpr.references] using imports⟩
  | union members line ih =>
      rw [express, Failure.bind_eq_ok_iff] at expressed
      obtain ⟨parts, areParts, success⟩ := expressed
      obtain rfl := Except.ok.inj success
      obtain ⟨codes, imports⟩ :=
        expressMembers_expresses (fun member isMember _ => ih member isMember) areParts
      exact ⟨by rw [codes, codeOf_union], by simpa [TypeExpr.references] using imports⟩
  | reference name origin line =>
      rw [express] at expressed
      constructor
      · rcases reference_eq_ok_iff.mp expressed with ⟨_, rfl⟩ | ⟨_, _, _, _, rfl⟩ <;> rfl
      · refine ⟨[expression], ?_, by simp⟩
        simp only [TypeExpr.references, TypeExpr.collect, TypeExpr.leafReferences,
          List.mapM_cons, List.mapM_nil, expressed]
        rfl
  | unclassified line => cases expressed

end Companion.Dialect
