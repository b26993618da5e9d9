import QuerySchema.GraphQL.Document
import QuerySchema.GraphQL.Lexing

/-!
The grammar of GraphQL documents: a tree from a sequence of tokens.

Every rule looks at the current token only; a description in front of a definition is the one place
where the next token is looked at too. Taking a token moves to the next one at once, so a place that
starts no token is refused before anything else is said about what follows.

Selection sets, list and object values and list types may nest in each other up to 200 deep. The
rules for them take the number of levels that are left, so they are structural recursions; rules
that repeat take at most as many rounds as there are tokens.
-/

namespace QuerySchema.GraphQL

/-- What the grammar works on: the tokens from the current one on, and the number of tokens of the
whole text. -/
structure Source where
  tokens : Tokens
  count : Nat

namespace Grammar

/-- A rule: it takes tokens and yields a part of the tree, or refuses. -/
abbrev Rule (α : Type) := StateT Source (Except SyntaxError) α

/-- How many levels may be open at once. -/
def depthLimit : Nat := 200

/-- The current token. -/
def peek : Rule Token := do
  match (← get).tokens with
  | .last token => return token
  | .more token _ => return token
  | .refused e => throw e

/-- The token after the current one. -/
def peekNext : Rule Token := do
  match (← get).tokens with
  | .last token => return token
  | .more _ (.last token) => return token
  | .more _ (.more token _) => return token
  | .more _ (.refused e) => throw e
  | .refused e => throw e

/-- Moves to the next token. -/
def advance : Rule Unit := do
  let source ← get
  match source.tokens with
  | .more _ (.refused e) => throw e
  | .more _ rest => set { source with tokens := rest }
  | .last _ => return ()
  | .refused e => throw e

/-- Refuses at a token. -/
def refuseAt {α : Type} (token : Token) (cause : SyntaxError.Cause) : Rule α :=
  throw ⟨cause, token.place⟩

/-- Refuses a token that starts nothing the grammar allows here. -/
def unexpected {α : Type} (token : Token) : Rule α := refuseAt token (.unexpected token.lexeme)

/-- Whether the current token is a punctuator. -/
def isAt (mark : Punctuator) : Rule Bool := do
  return (← peek).lexeme == .punctuator mark

/-- Takes a punctuator if it is the current token. -/
def accept (mark : Punctuator) : Rule Bool := do
  if ← isAt mark then
    advance
    return true
  else return false

/-- Takes a punctuator that has to come here. -/
def expect (mark : Punctuator) : Rule Unit := do
  let token ← peek
  if token.lexeme == .punctuator mark then advance
  else refuseAt token (.expected (.punctuator mark) token.lexeme)

/-- Takes a keyword if it is the current token. -/
def acceptKeyword (word : String) : Rule Bool := do
  if (← peek).lexeme == .name word then
    advance
    return true
  else return false

/-- Takes a keyword that has to come here. -/
def expectKeyword (word : String) : Rule Unit := do
  let token ← peek
  if token.lexeme == .name word then advance
  else refuseAt token (.expected (.keyword word) token.lexeme)

/-- Takes a name. -/
def name : Rule String := do
  let token ← peek
  match token.lexeme with
  | .name text =>
    advance
    return text
  | other => refuseAt token (.expected .name other)

/-- Takes a name, for the tree. -/
def label : Rule Label := Label.text <$> name

/-- Whether the current token is a name. -/
def isAtName : Rule Bool := do
  match (← peek).lexeme with
  | .name _ => return true
  | _ => return false

/-! ## Repetition -/

/-- Items up to a closing mark. -/
def itemsUntil {α : Type} (item : Rule α) (close : Punctuator) : (rounds : Nat) → Rule (List α)
  | 0 => return []
  | rounds + 1 => do
    if ← accept close then return []
    else
      let first ← item
      let rest ← itemsUntil item close rounds
      return first :: rest

/-- Any number of items between two marks. -/
def anyBetween {α : Type} (open' : Punctuator) (item : Rule α) (close : Punctuator) :
    Rule (List α) := do
  expect open'
  itemsUntil item close (← get).count

/-- One item or more between two marks. -/
def someBetween {α : Type} (open' : Punctuator) (item : Rule α) (close : Punctuator) :
    Rule (List α) := do
  expect open'
  let first ← item
  let rest ← itemsUntil item close (← get).count
  return first :: rest

/-- One item or more between two marks, or nothing at all. -/
def optionalBetween {α : Type} (open' : Punctuator) (item : Rule α) (close : Punctuator) :
    Rule (List α) := do
  if ← isAt open' then someBetween open' item close else return []

/-- Items as long as a mark comes between them. -/
def itemsAfter {α : Type} (mark : Punctuator) (item : Rule α) : (rounds : Nat) → Rule (List α)
  | 0 => return []
  | rounds + 1 => do
    if ← accept mark then
      let first ← item
      let rest ← itemsAfter mark item rounds
      return first :: rest
    else return []

/-- One item or more with a mark between them; the mark may also come first. -/
def separatedBy {α : Type} (mark : Punctuator) (item : Rule α) : Rule (List α) := do
  let _ ← accept mark
  let first ← item
  let rest ← itemsAfter mark item (← get).count
  return first :: rest

/-- Items as long as a mark stands in front of them. -/
def itemsAt {α : Type} (mark : Punctuator) (item : Rule α) : (rounds : Nat) → Rule (List α)
  | 0 => return []
  | rounds + 1 => do
    if ← isAt mark then
      let first ← item
      let rest ← itemsAt mark item rounds
      return first :: rest
    else return []

/-! ## Values -/

/-- A variable, or its refusal where only constants are allowed. -/
def variableValue (constant : Bool) : Rule Value := do
  let start ← peek
  expect .dollar
  if constant then
    let token ← peek
    match token.lexeme with
    | .name text => refuseAt start (.variableInConstant text)
    | _ => unexpected start
  else return .variable (← name)

/-- A value that holds no other value. -/
def simpleValue (constant : Bool) : Rule Value := do
  let token ← peek
  match token.lexeme with
  | .int text => advance; return .int text
  | .float text => advance; return .float text
  | .string text => advance; return .string text false
  | .blockString text => advance; return .string text true
  | .name "true" => advance; return .boolean true
  | .name "false" => advance; return .boolean false
  | .name "null" => advance; return .null
  | .name text => advance; return .enum text
  | .punctuator .dollar => variableValue constant
  | _ => unexpected token

/-- A field of an object value. -/
def objectField (value : Rule Value) : Rule (String × Value) := do
  let field ← name
  expect .colon
  return (field, ← value)

/-- A value, when a number of further levels may be opened. -/
def value (constant : Bool) : (room : Nat) → Rule Value
  | 0 => do
    let token ← peek
    match token.lexeme with
    | .punctuator .bracketOpen | .punctuator .braceOpen => refuseAt token .nestedTooDeeply
    | _ => simpleValue constant
  | room + 1 => do
    match (← peek).lexeme with
    | .punctuator .bracketOpen =>
      return .list (← anyBetween .bracketOpen (value constant room) .bracketClose)
    | .punctuator .braceOpen =>
      return .object (← anyBetween .braceOpen (objectField (value constant room)) .braceClose)
    | _ => simpleValue constant

/-- An argument. -/
def argument (constant : Bool) (room : Nat) : Rule Argument := do
  let argumentName ← name
  expect .colon
  return ⟨argumentName, ← value constant room⟩

/-- The arguments of a field or of a directive. -/
def arguments (constant : Bool) (room : Nat) : Rule (List Argument) :=
  optionalBetween .parenOpen (argument constant room) .parenClose

/-- A directive. -/
def directive (constant : Bool) (room : Nat) : Rule Directive := do
  expect .at
  let directiveName ← name
  return ⟨directiveName, ← arguments constant room⟩

/-- Any number of directives. -/
def directives (constant : Bool) (room : Nat) : Rule (List Directive) := do
  itemsAt .at (directive constant room) (← get).count

/-- A constant value at the outermost level. -/
def constantValue : Rule Value := value true depthLimit

/-- Directives whose arguments are constants. -/
def constantDirectives : Rule (List Directive) := directives true depthLimit

/-! ## Types -/

/-- A type without its list brackets, with an optional mark that excludes null. -/
def nonNullMark (type : TypeRef) : Rule TypeRef := do
  if ← accept .bang then return .nonNull type else return type

/-- A type, when a number of further lists may be opened. -/
def typeRef : (room : Nat) → Rule TypeRef
  | 0 => do
    if ← accept .bracketOpen then refuseAt (← peek) .nestedTooDeeply
    else nonNullMark (.named (← name))
  | room + 1 => do
    if ← accept .bracketOpen then
      let item ← typeRef room
      expect .bracketClose
      nonNullMark (.list item)
    else nonNullMark (.named (← name))

/-! ## Selections -/

/-- The name of a fragment: any name but the keyword that would start a condition. -/
def fragmentName : Rule String := do
  let token ← peek
  if token.lexeme.value? == some "on" then unexpected token else name

/-- A fragment inside a selection set: the spread of a named one, or an inline one. -/
def fragment (room : Nat) (selectionSet : Rule (List Selection)) : Rule Selection := do
  expect .spread
  let conditional ← acceptKeyword "on"
  if !conditional && (← isAtName) then
    let spreadName ← fragmentName
    return .fragmentSpread spreadName (← directives false room)
  else
    let condition ← if conditional then some <$> label else pure none
    let marks ← directives false room
    return .inlineFragment condition marks (← selectionSet)

/-- A field inside a selection set. -/
def field (room : Nat) (selectionSet : Rule (List Selection)) : Rule Selection := do
  let first ← name
  let aliased ← accept .colon
  let fieldName ← if aliased then name else pure first
  let passed ← arguments false room
  let marks ← directives false room
  let nested ← if ← isAt .braceOpen then some <$> selectionSet else pure none
  return .field (if aliased then some (.ok first) else none) fieldName passed marks nested

/-- One selection. -/
def selection (room : Nat) (selectionSet : Rule (List Selection)) : Rule Selection := do
  if ← isAt .spread then fragment room selectionSet else field room selectionSet

/-- A selection set, when a number of levels may be opened. -/
def selectionSet : (room : Nat) → Rule (List Selection)
  | 0 => do refuseAt (← peek) .nestedTooDeeply
  | room + 1 => someBetween .braceOpen (selection room (selectionSet room)) .braceClose

/-! ## Operations and fragments -/

/-- A description, if there is one. -/
def description : Rule (Readable (Option Label)) := do
  match (← peek).lexeme with
  | .string text | .blockString text =>
    advance
    return .ok (some text)
  | _ => return .ok none

/-- The keyword of an operation type. -/
def operationType : Rule OperationType := do
  let token ← peek
  let word ← name
  match OperationType.ofText? word with
  | some type => return type
  | none => unexpected token

/-- The declaration of a variable. -/
def variableDefinition : Rule VariableDefinition := do
  let _ ← description
  expect .dollar
  let variableName ← name
  expect .colon
  let type ← typeRef depthLimit
  let default? ← if ← accept .equals then some <$> constantValue else pure none
  return ⟨variableName, type, default?, ← constantDirectives⟩

/-- An operation. A selection set alone is a query without a name. -/
def operation : Rule Definition := do
  if ← isAt .braceOpen then
    let selections ← selectionSet depthLimit
    return .operation ⟨some .query, .ok none, some [], [], some selections⟩
  else
    let _ ← description
    let type ← operationType
    let operationName ← if ← isAtName then some <$> label else pure none
    let declarations ← optionalBetween .parenOpen variableDefinition .parenClose
    let marks ← directives false depthLimit
    let selections ← selectionSet depthLimit
    return .operation ⟨some type, .ok operationName, some declarations, marks, some selections⟩

/-- The definition of a fragment. -/
def fragmentDefinition : Rule Definition := do
  let _ ← description
  expectKeyword "fragment"
  let definedName ← fragmentName
  expectKeyword "on"
  let _ ← name
  let _ ← directives false depthLimit
  let _ ← selectionSet depthLimit
  return .other .fragmentDefinition (named definedName)

/-! ## Type system definitions

The rules come in pairs: one for the content of a definition and one for the definition itself. An
extension has the same content and must have some of it. -/

/-- An operation type and the type behind it, inside the definition of a schema. -/
def rootOperation : Rule Unit := do
  let _ ← operationType
  expect .colon
  let _ ← name

/-- An input field, or an argument of a field or of a directive. -/
def inputValue : Rule FieldDefinition := do
  let text ← description
  let fieldName ← name
  expect .colon
  let type ← typeRef depthLimit
  if ← accept .equals then let _ ← constantValue
  let _ ← constantDirectives
  return ⟨fieldName, type, text⟩

/-- The declared arguments of a field or of a directive. -/
def argumentDefinitions : Rule (List FieldDefinition) :=
  optionalBetween .parenOpen inputValue .parenClose

/-- A field of an object or interface type. -/
def fieldDefinition : Rule FieldDefinition := do
  let text ← description
  let fieldName ← name
  let _ ← argumentDefinitions
  expect .colon
  let type ← typeRef depthLimit
  let _ ← constantDirectives
  return ⟨fieldName, type, text⟩

/-- The interfaces of a type. -/
def implemented : Rule (List String) := do
  if ← acceptKeyword "implements" then separatedBy .ampersand name else return []

/-- The members of a union type. -/
def unionMembers : Rule (List String) := do
  if ← accept .equals then separatedBy .pipe name else return []

/-- A value of an enum type. -/
def enumValue : Rule (Readable Label) := do
  let _ ← description
  let token ← peek
  match token.lexeme.value? with
  | some "true" | some "false" | some "null" =>
    refuseAt token (.reservedEnumValue token.lexeme)
  | _ =>
    let valueName ← name
    let _ ← constantDirectives
    return .ok valueName

/-- The places in which a directive can be allowed. -/
def directiveLocations : List String :=
  ["QUERY", "MUTATION", "SUBSCRIPTION", "FIELD", "FRAGMENT_DEFINITION", "FRAGMENT_SPREAD",
    "VARIABLE_DEFINITION", "INLINE_FRAGMENT", "SCHEMA", "SCALAR", "OBJECT", "FIELD_DEFINITION",
    "ARGUMENT_DEFINITION", "INTERFACE", "UNION", "ENUM", "ENUM_VALUE", "INPUT_OBJECT",
    "INPUT_FIELD_DEFINITION", "DIRECTIVE_DEFINITION"]

/-- A place in which a directive is allowed. -/
def directiveLocation : Rule String := do
  let token ← peek
  let word ← name
  if directiveLocations.contains word then return word else unexpected token

/-- The content of a type with fields, given the rule for one field, and whether there is any. -/
def fieldedContent (hasInterfaces : Bool) (item : Rule FieldDefinition) :
    Rule (List FieldDefinition × Bool) := do
  let interfaces ← if hasInterfaces then implemented else pure []
  let marks ← constantDirectives
  let fields ← optionalBetween .braceOpen item .braceClose
  return (fields, !(interfaces.isEmpty && marks.isEmpty && fields.isEmpty))

/-- The content of a union type: whether there is any. -/
def unionContent : Rule Bool := do
  let marks ← constantDirectives
  let members ← unionMembers
  return !(marks.isEmpty && members.isEmpty)

/-- The content of an enum type, and whether there is any. -/
def enumContent : Rule (List (Readable Label) × Bool) := do
  let marks ← constantDirectives
  let values ← optionalBetween .braceOpen enumValue .braceClose
  return (values, !(marks.isEmpty && values.isEmpty))

/-- The definition of a schema. -/
def schemaDefinition : Rule Definition := do
  let _ ← description
  expectKeyword "schema"
  let _ ← constantDirectives
  let _ ← someBetween .braceOpen rootOperation .braceClose
  return .other .schemaDefinition (.ok none)

/-- The definition of a scalar type. -/
def scalarDefinition : Rule Definition := do
  let _ ← description
  expectKeyword "scalar"
  let typeName ← name
  let _ ← constantDirectives
  return .other .scalarTypeDefinition (named typeName)

/-- The definition of a type with fields. -/
def fieldedDefinition (word : String) (kind : FieldedKind) (hasInterfaces : Bool)
    (item : Rule FieldDefinition) : Rule Definition := do
  let text ← description
  expectKeyword word
  let typeName ← name
  let (fields, _) ← fieldedContent hasInterfaces item
  return .fielded ⟨kind, named typeName, text, fields⟩

/-- The definition of a union type. -/
def unionDefinition : Rule Definition := do
  let _ ← description
  expectKeyword "union"
  let typeName ← name
  let _ ← unionContent
  return .other .unionTypeDefinition (named typeName)

/-- The definition of an enum type. -/
def enumDefinition : Rule Definition := do
  let text ← description
  expectKeyword "enum"
  let typeName ← name
  let (values, _) ← enumContent
  return .enum ⟨named typeName, text, values⟩

/-- The definition of a directive. -/
def directiveDefinition : Rule Definition := do
  let _ ← description
  expectKeyword "directive"
  expect .at
  let directiveName ← name
  let _ ← argumentDefinitions
  let _ ← acceptKeyword "repeatable"
  expectKeyword "on"
  let _ ← separatedBy .pipe directiveLocation
  return .other .directiveDefinition (named directiveName)

/-- Refuses the current token when an extension has no content. -/
def requireContent (present : Bool) : Rule Unit := do
  if present then return () else unexpected (← peek)

/-- The extension of a schema. -/
def schemaExtension : Rule Definition := do
  advance
  let marks ← constantDirectives
  let roots ← optionalBetween .braceOpen rootOperation .braceClose
  requireContent !(marks.isEmpty && roots.isEmpty)
  return .other .schemaExtension (.ok none)

/-- The extension of a type: its keyword, its name, and content that is present. -/
def typeExtension (kind : NodeKind) (content : Rule Bool) : Rule Definition := do
  advance
  let typeName ← name
  requireContent (← content)
  return .other kind (named typeName)

/-- The extension of a schema or of a type. -/
def extensionDefinition : Rule Definition := do
  let keyword ← peekNext
  let continueWith (rule : Rule Definition) : Rule Definition := do
    expectKeyword "extend"
    rule
  match keyword.lexeme with
  | .name "schema" => continueWith schemaExtension
  | .name "scalar" =>
    continueWith (typeExtension .scalarTypeExtension do
      return !(← constantDirectives).isEmpty)
  | .name "type" =>
    continueWith (typeExtension .objectTypeExtension do
      return (← fieldedContent true fieldDefinition).2)
  | .name "interface" =>
    continueWith (typeExtension .interfaceTypeExtension do
      return (← fieldedContent true fieldDefinition).2)
  | .name "union" => continueWith (typeExtension .unionTypeExtension unionContent)
  | .name "enum" =>
    continueWith (typeExtension .enumTypeExtension do
      return (← enumContent).2)
  | .name "input" =>
    continueWith (typeExtension .inputObjectTypeExtension do
      return (← fieldedContent false inputValue).2)
  | _ => unexpected keyword

/-! ## Documents -/

/-- A definition. Its keyword is the current token, or the next one behind a description. -/
def definition : Rule Definition := do
  let start ← peek
  let described := match start.lexeme with
    | .string _ | .blockString _ => true
    | _ => false
  let keyword ← if described then peekNext else pure start
  match keyword.lexeme with
  | .punctuator .braceOpen =>
    if described then refuseAt start .describedShorthand else operation
  | .name "query" | .name "mutation" | .name "subscription" => operation
  | .name "fragment" => fragmentDefinition
  | .name "schema" => schemaDefinition
  | .name "scalar" => scalarDefinition
  | .name "type" => fieldedDefinition "type" .object true fieldDefinition
  | .name "interface" => fieldedDefinition "interface" .interface true fieldDefinition
  | .name "union" => unionDefinition
  | .name "enum" => enumDefinition
  | .name "input" => fieldedDefinition "input" .input false inputValue
  | .name "directive" => directiveDefinition
  | .name word =>
    if described then refuseAt start .describedOther
    else if word = "extend" then extensionDefinition
    else unexpected keyword
  | _ => unexpected keyword

/-- Definitions up to the end of the input. -/
def definitionsUntilEnd : (rounds : Nat) → Rule (List Definition)
  | 0 => return []
  | rounds + 1 => do
    if (← peek).lexeme == .endOfInput then return []
    else
      let first ← definition
      let rest ← definitionsUntilEnd rounds
      return first :: rest

/-- A document: one definition or more. -/
def document : Rule Document := do
  let first ← definition
  let rest ← definitionsUntilEnd (← get).count
  return first :: rest

end Grammar

/-- The document that a text holds, or why it holds none. -/
def Document.ofText (text : String) : Except SyntaxError Document :=
  let tokens := Tokens.ofText text
  (Grammar.document.run ⟨tokens, tokens.count + 1⟩).map Prod.fst

end QuerySchema.GraphQL
