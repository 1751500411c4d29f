import Companion.Text.Basic

/-!
# Kinds of syntax

The kinds of syntax nodes that the library tells apart, each with its name. Every other kind is kept
by name, so that messages can report it.
-/

set_option autoImplicit false

namespace Companion.Syntax

inductive Kind where
  -- types
  | predefinedType
  | typeIdentifier
  | literalType
  | objectType
  | unionType
  | parenthesizedType
  | genericType
  | typeArguments
  | typeClause
  | propertySignature
  | propertyIdentifier
  -- leaves
  | string
  | number
  | unaryExpression
  | identifier
  | comment
  | questionMark
  -- declarations
  | typeAliasDeclaration
  | interfaceDeclaration
  | classDeclaration
  | abstractClassDeclaration
  | enumDeclaration
  | functionDeclaration
  | generatorFunctionDeclaration
  | functionSignature
  | lexicalDeclaration
  | variableDeclaration
  | variableDeclarator
  -- imports and exports
  | exportStatement
  | importStatement
  | importClause
  | namedImports
  | importSpecifier
  /-- Any other kind. -/
  | other (name : Text)
deriving DecidableEq, Repr, Inhabited

namespace Kind

def named : List (Kind × String) :=
  [(predefinedType, "predefined_type"), (typeIdentifier, "type_identifier"),
    (literalType, "literal_type"), (objectType, "object_type"), (unionType, "union_type"),
    (parenthesizedType, "parenthesized_type"), (genericType, "generic_type"),
    (typeArguments, "type_arguments"), (typeClause, "type_annotation"),
    (propertySignature, "property_signature"), (propertyIdentifier, "property_identifier"),
    (string, "string"), (number, "number"), (unaryExpression, "unary_expression"),
    (identifier, "identifier"), (comment, "comment"), (questionMark, "?"),
    (typeAliasDeclaration, "type_alias_declaration"),
    (interfaceDeclaration, "interface_declaration"), (classDeclaration, "class_declaration"),
    (abstractClassDeclaration, "abstract_class_declaration"),
    (enumDeclaration, "enum_declaration"), (functionDeclaration, "function_declaration"),
    (generatorFunctionDeclaration, "generator_function_declaration"),
    (functionSignature, "function_signature"), (lexicalDeclaration, "lexical_declaration"),
    (variableDeclaration, "variable_declaration"), (variableDeclarator, "variable_declarator"),
    (exportStatement, "export_statement"), (importStatement, "import_statement"),
    (importClause, "import_clause"), (namedImports, "named_imports"),
    (importSpecifier, "import_specifier")]

def name : Kind → Text
  | other name => name
  | kind =>
    match named.find? fun entry => entry.1 = kind with
    | some entry => entry.2
    | none => []

def ofName (name : Text) : Kind :=
  match named.find? fun entry => entry.2.toList = name with
  | some entry => entry.1
  | none => other name

/-- The entries of the table agree with `name`. -/
theorem name_of_mem_named : ∀ entry ∈ named, entry.1.name = entry.2.toList := by decide

/-- Every name belongs to the kind read from it. -/
theorem name_ofName (text : Text) : (ofName text).name = text := by
  unfold ofName
  split
  · next entry found =>
    have same := List.find?_some found
    simp only [decide_eq_true_eq] at same
    rw [← same]
    exact name_of_mem_named entry (List.mem_of_find?_eq_some found)
  · rfl

end Kind

inductive Field where
  | name
  | value
  | type
  | typeParameters
  | typeArguments
  | localName
  | source
  | declaration
  /-- Any other role. -/
  | other (name : Text)
deriving DecidableEq, Repr

def Field.named : List (Field × String) :=
  [(.name, "name"), (.value, "value"), (.type, "type"), (.typeParameters, "type_parameters"),
    (.typeArguments, "type_arguments"), (.localName, "alias"), (.source, "source"),
    (.declaration, "declaration")]

def Field.ofName (name : Text) : Field :=
  match Field.named.find? fun entry => entry.2.toList = name with
  | some entry => entry.1
  | none => .other name

end Companion.Syntax
