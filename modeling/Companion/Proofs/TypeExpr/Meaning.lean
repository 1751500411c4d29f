import Companion.Proofs.TypeExpr.Constituents
import Companion.Proofs.TypeExpr.Forms

/-!
# Meaning of types

What a node means is the type that it is elaborated to, or the failure, lines left out. It depends on
what is read off the node: its kind, its text if it has no parts, and otherwise what its parts mean.
-/

set_option autoImplicit false

namespace Companion

open Syntax

/-- A failure without the line of the node that it is about. -/
def Failure.withoutLine : Failure → Failure
  | .unsupportedType construct location => .unsupportedType construct { location with line := none }
  | .untypedProperty name location => .untypedProperty name { location with line := none }
  | .inconsistent (.propertyWithoutName path _) => .inconsistent (.propertyWithoutName path 0)
  | failure => failure

/-- What a computation ends in, lines left out. -/
def Failure.unlined {α β : Type} (erase : α → β) : Except Failure α → Except Failure β
  | .ok value => .ok (erase value)
  | .error failure => .error failure.withoutLine

theorem Failure.unlined_bind {α β γ δ : Type} {erase : α → β} {next : α → γ} {eraseNext : γ → δ}
    {after : β → δ} (commutes : ∀ value, eraseNext (next value) = after (erase value))
    (outcome : Except Failure α) :
    unlined eraseNext (outcome >>= fun value => .ok (next value)) =
      unlined erase outcome >>= fun value => .ok (after value) := by
  cases outcome with
  | error failure => rfl
  | ok value => exact congrArg Except.ok (commutes value)

theorem Failure.unlined_mapM {α β γ : Type} (erase : β → γ) (step : α → Except Failure β)
    (items : List α) :
    unlined (List.map erase) (items.mapM step) =
      (items.map fun item => unlined erase (step item)).mapM id := by
  induction items with
  | nil => rfl
  | cons item rest ih =>
      rw [List.map_cons, List.mapM_cons, List.mapM_cons, ← ih]
      cases step item with
      | error failure => rfl
      | ok value =>
          cases rest.mapM step with
          | error failure => rfl
          | ok values => rfl

theorem Failure.unlined_mapM_bind {α β γ δ ε : Type} {erase : β → γ} {next : List β → δ}
    {eraseNext : δ → ε} {after : List γ → ε}
    (commutes : ∀ values, eraseNext (next values) = after (values.map erase))
    (step : α → Except Failure β) (items : List α) :
    unlined eraseNext (items.mapM step >>= fun values => .ok (next values)) =
      (items.map fun item => unlined erase (step item)).mapM id >>= fun values =>
        .ok (after values) := by
  rw [unlined_bind commutes, unlined_mapM]

def Property.withoutLines (property : Property TypeExpr) : Property TypeExpr :=
  { property with type := property.type.withoutLines }

namespace TypeExpr

variable (scope : Scope)

/-- What a node means where a type is expected. -/
def meaning (node : Node) : Except Failure TypeExpr :=
  Failure.unlined withoutLines (elaborate scope node)

/-- What a node means as a member of an object. -/
def propertyMeaning (node : Node) : Except Failure (Property TypeExpr) :=
  Failure.unlined Property.withoutLines (elaborateProperty scope node)

/-- What is read off a node where a type is expected: kinds and texts, and the meanings of its parts. -/
inductive Reading where
  | name (kind : Kind) (text : Text)
  | literal (kind : Kind) (text : Text)
  | object (members : List (Except Failure (Property TypeExpr)))
  | union (members : List (Except Failure TypeExpr))
  | parentheses (inner : List (Except Failure TypeExpr))
  | generic (name : Text) (arguments : List (Except Failure TypeExpr))
  | other (kind : Kind)

def tokenOf (node : Node) : Kind × Text := (node.kind, node.text)

def reading (node : Node) : Reading :=
  match node.kind with
  | .predefinedType => .name .predefinedType node.text
  | .typeIdentifier => .name .typeIdentifier node.text
  | .literalType =>
    let token := (node.constituents.map tokenOf).head?.getD (tokenOf node)
    .literal token.1 token.2
  | .objectType => .object (node.constituents.map (propertyMeaning scope))
  | .unionType => .union (node.unionMembers.map (meaning scope))
  | .parenthesizedType => .parentheses (node.constituents.map (meaning scope))
  | .genericType => .generic node.genericName (node.arguments.map (meaning scope))
  | kind => .other kind

/-- The failure for a construct that no type stands for, wherever it is. -/
def Scope.unsupportedAnywhere {α : Type} (construct : Text) : Except Failure α :=
  .error (.unsupportedType construct ⟨scope.path, none⟩)

/-- A union of members, without a line. -/
def unionOf : List TypeExpr → TypeExpr
  | [member] => member
  | members => .union members none

/-- What a reading comes to. -/
def Reading.outcome : Reading → Except Failure TypeExpr
  | .name kind text => Failure.unlined withoutLines (elaborateName scope { kind := kind, text := text })
  | .literal kind text =>
    Failure.unlined withoutLines (elaborateLiteral scope { kind := kind, text := text })
  | .object members => do
    let properties ← members.mapM id
    return .object properties none
  | .union members => do
    let types ← members.mapM id
    return unionOf types
  | .parentheses [inner] => inner
  | .parentheses _ => scope.unsupportedAnywhere Kind.parenthesizedType.name
  | .generic wrapper arguments =>
    if wrapper ≠ transparentGeneric then scope.unsupportedAnywhere ("generic_type " ++ wrapper)
    else
      match arguments with
      | [inner] => inner
      | arguments =>
        scope.unsupportedAnywhere ("generic_type " ++ wrapper ++ " with " ++
          Text.ofNat arguments.length ++ " type arguments")
  | .other kind => scope.unsupportedAnywhere kind.name

theorem withoutLines_ofMembers (line : Int) (types : List TypeExpr) :
    (ofMembers line types).withoutLines = unionOf (types.map withoutLines) := by
  cases types with
  | nil => rfl
  | cons first rest =>
      cases rest with
      | nil => rfl
      | cons second rest => exact mapMarks_union _ _ _ _

private theorem unlined_elaborateName (node : Node) :
    Failure.unlined withoutLines (elaborateName scope node) =
      Failure.unlined withoutLines (elaborateName scope { kind := node.kind, text := node.text }) := by
  unfold elaborateName
  dsimp only
  cases PrimitiveType.ofKeyword? node.text with
  | some kind => rfl
  | none =>
      dsimp only
      split
      · cases scope.find node.text with
        | error failure => rfl
        | ok origin => rfl
      · rfl

private theorem withoutLines_ofKeyword? (text : Text) (line other : Option Int) :
    (Literal.ofKeyword? text line).map withoutLines =
      (Literal.ofKeyword? text other).map withoutLines := by
  unfold Literal.ofKeyword?
  split
  · rfl
  · split
    · rfl
    · split
      · rfl
      · rfl

private theorem unlined_elaborateLiteral (node : Node) :
    Failure.unlined withoutLines (elaborateLiteral scope node) =
      Failure.unlined withoutLines (elaborateLiteral scope
        { kind := ((node.constituents.map tokenOf).head?.getD (tokenOf node)).1
          text := ((node.constituents.map tokenOf).head?.getD (tokenOf node)).2 }) := by
  have token : (node.constituents.map tokenOf).head?.getD (tokenOf node) =
      tokenOf (node.constituents.head?.getD node) := by
    cases node.constituents <;> rfl
  rw [token, tokenOf]
  unfold elaborateLiteral
  generalize node.constituents.head?.getD node = token
  -- a bare token has no constituents and is therefore read as itself
  have alone : (Node.constituents { kind := token.kind, text := token.text }).head?.getD
      { kind := token.kind, text := token.text } = { kind := token.kind, text := token.text } := rfl
  rw [alone]
  dsimp only
  have keyword := withoutLines_ofKeyword? token.text.trim (some node.line) (some 1)
  split
  · rfl
  · generalize Literal.ofKeyword? token.text.trim (some node.line) = first at keyword ⊢
    generalize Literal.ofKeyword? token.text.trim (some 1) = second at keyword ⊢
    cases first with
    | some type =>
        cases second with
        | some other => exact congrArg Except.ok (Option.some.inj keyword)
        | none => cases keyword
    | none =>
        cases second with
        | some other => cases keyword
        | none =>
            dsimp only
            split
            · rfl
            · rfl

/-- The meaning of a node is what its reading comes to. -/
theorem meaning_eq (node : Node) : meaning scope node = (reading scope node).outcome scope := by
  rw [meaning, elaborate_eq]
  -- forms and readings are told apart by the kind of the node and then by how much it holds
  cases node with
  | mk kind field named text line children =>
      cases kind with
      | predefinedType => exact unlined_elaborateName scope _
      | typeIdentifier => exact unlined_elaborateName scope _
      | literalType => exact unlined_elaborateLiteral scope _
      | objectType =>
          exact Failure.unlined_mapM_bind (fun properties => mapMarks_object _ _ properties _)
            (elaborateProperty scope) _
      | unionType =>
          exact Failure.unlined_mapM_bind (withoutLines_ofMembers line) (elaborate scope) _
      | parenthesizedType =>
          unfold Node.typeForm reading
          dsimp only
          cases Node.constituents ⟨.parenthesizedType, field, named, text, line, children⟩ with
          | nil => rfl
          | cons inner rest =>
              cases rest with
              | nil => rfl
              | cons next rest => rfl
      | genericType =>
          unfold Node.typeForm reading Reading.outcome
          dsimp only
          by_cases other : Node.genericName ⟨.genericType, field, named, text, line, children⟩ ≠
              transparentGeneric
          · rw [if_pos other, if_pos other]
            rfl
          · rw [if_neg other, if_neg other]
            cases Node.arguments ⟨.genericType, field, named, text, line, children⟩ with
            | nil => rfl
            | cons inner rest =>
                cases rest with
                | nil => rfl
                | cons next rest => simp only [List.map_cons, List.length_cons, List.length_map]; rfl
      | _ => rfl

/-- What the key of a property means: its name and whether it is quoted. -/
def keyMeaning (token : Kind × Text) : Except Failure (Text × Bool) :=
  Failure.unlined id (keyOf scope { kind := token.1, text := token.2 } 0)

private theorem unlined_keyOf (key : Node) (line : Int) :
    Failure.unlined id (keyOf scope key line) = keyMeaning scope (tokenOf key) := by
  unfold keyMeaning keyOf tokenOf
  split
  · rfl
  · split
    · rfl
    · rfl

/-- The meaning of a property is made of what its key and its annotation mean and of its mark. -/
theorem propertyMeaning_eq (node : Node) :
    propertyMeaning scope node =
      if node.kind ≠ .propertySignature then scope.unsupportedAnywhere node.kind.name
      else
        match (node.child? .name).map tokenOf with
        | none => .error (.inconsistent (.propertyWithoutName scope.path 0))
        | some token => do
          let key ← keyMeaning scope token
          match (node.annotations.map (meaning scope)).head? with
          | none => .error (.untypedProperty key.1 ⟨scope.path, none⟩)
          | some type => do
            let type ← type
            return ⟨key.1, type, node.children.any fun child => child.kind = .questionMark, key.2⟩ := by
  rw [propertyMeaning, elaborateProperty_eq]
  by_cases signature : node.kind ≠ .propertySignature
  · rw [if_pos signature, if_pos signature]
    rfl
  · rw [if_neg signature, if_neg signature]
    cases node.child? .name with
    | none => rfl
    | some key =>
        dsimp only [Option.map_some]
        rw [← unlined_keyOf scope key node.line]
        cases keyOf scope key node.line with
        | error failure => rfl
        | ok keyed =>
            rw [Node.annotated?]
            cases node.annotations with
            | nil => rfl
            | cons inner rest =>
                rw [List.head?_cons, List.map_cons, List.head?_cons, meaning]
                cases outcome : elaborate scope inner with
                | error failure => simp [Failure.unlined, outcome, bind, Except.bind]
                | ok type =>
                    simp [Failure.unlined, outcome, bind, Except.bind, pure, Except.pure,
                      Property.withoutLines]

theorem propertyMeaning_congr {scope : Scope} {node changed : Node} (kind : node.kind = changed.kind)
    (parts : node.kind = .propertySignature →
      (node.child? .name).map tokenOf = (changed.child? .name).map tokenOf ∧
      node.annotations.map (meaning scope) = changed.annotations.map (meaning scope) ∧
      (node.children.any fun child => child.kind = .questionMark) =
        changed.children.any fun child => child.kind = .questionMark) :
    propertyMeaning scope node = propertyMeaning scope changed := by
  rw [propertyMeaning_eq, propertyMeaning_eq]
  by_cases signature : node.kind = .propertySignature
  · obtain ⟨key, typed, mark⟩ := parts signature
    rw [if_neg (not_not_intro signature), if_neg (not_not_intro (kind ▸ signature)), key, typed, mark]
  · rw [if_pos signature, if_pos (kind ▸ signature), kind]

end TypeExpr

end Companion
