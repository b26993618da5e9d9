import QuerySchema.GraphQL.Document

/-!
Reading a document from a tree that was put together by hand.

Every place is read as what belongs there. What cannot be read becomes a flaw of that place, so a
reading never fails, and a flaw stands where the place is looked at first: in front of a list whose
items cannot be reached, or in the type of a field without a name.
-/

namespace QuerySchema.GraphQL

/-- The name of a tree, which may lack the part. -/
def RawTree.optionalName (tree : RawTree) : Readable (Option Label) := do
  match ← tree.part "name" with
  | .nothing => return none
  | found => return some (← found.value)

/-- The description of a tree. -/
def RawTree.description (tree : RawTree) : Readable (Option Label) := do
  match ← tree.part "description" with
  | .nothing => return none
  | found => return some (← found.value)

/-- The readings of the items of a list, or the flaw in front of them. -/
def readItems {α : Type} (flawed : Flaw → α) (read : RawTree → α) :
    Readable (List RawTree) → List α
  | .ok items => items.map read
  | .error flaw => [flawed flaw]

/-! ## Values -/

/-- A node that has a literal kind and says something. -/
def Value.ofLabel (kind : NodeKind) (said : Label) : Value :=
  match kind, said with
  | .intValue, .text word => .int word
  | .floatValue, .text word => .float word
  | .stringValue, .text word => .string word false
  | .booleanValue, .truth value => .boolean value
  | _, _ => .odd kind said

/-- The default of a variable. Of any value but a number, a text and a truth value only the kind is
looked at. -/
def Value.ofDefault (tree : RawTree) : Value :=
  match tree with
  | .node kind _ =>
    match kind with
    | .intValue | .floatValue | .stringValue | .booleanValue =>
      match tree.value with
      | .ok said => .ofLabel kind said
      | .error flaw => .flawed flaw
    | _ => .other kind
  | place => .flawed (.lacks place.found "kind")

/-- The value of an argument. Of any value but a variable only the kind is looked at. -/
def Value.ofPassed (tree : RawTree) : Value :=
  match tree with
  | .node .variable _ =>
    match tree.name with
    | .ok name => .variable name
    | .error flaw => .flawed flaw
  | .node kind _ => .other kind
  | place => .flawed (.lacks place.found "kind")

/-- An argument. -/
def Argument.ofTree (tree : RawTree) : Argument :=
  let read : Readable Argument := do
    return ⟨← tree.name, .ofPassed (← tree.part "value")⟩
  match read with
  | .ok argument => argument
  | .error flaw => ⟨.nothing, .flawed flaw⟩

/-- The arguments in a list. -/
def Argument.listOf (items : Readable (List RawTree)) : List Argument :=
  readItems (fun flaw => ⟨.nothing, .flawed flaw⟩) Argument.ofTree items

/-! ## Types -/

mutual

/-- A type. -/
def TypeRef.ofTree : RawTree → TypeRef
  | .node .namedType parts =>
    match (RawTree.node .namedType parts).name with
    | .ok name => .named name
    | .error flaw => .flawed flaw
  | .node .listType parts => .list (TypeRef.ofParts parts)
  | .node .nonNullType parts => .nonNull (TypeRef.ofParts parts)
  | place => .flawed (.misplaced place.found)

/-- The type among the parts of a node. -/
def TypeRef.ofParts : List (String × RawTree) → TypeRef
  | [] => .flawed (.misplaced .nothing)
  | (name, tree) :: rest => if name = "type" then TypeRef.ofTree tree else TypeRef.ofParts rest

end

/-- The type that is a part of a tree. -/
def TypeRef.ofPart (tree : RawTree) : TypeRef :=
  match tree.part "type" with
  | .ok found => .ofTree found
  | .error flaw => .flawed flaw

/-! ## Selections -/

mutual

/-- A selection. -/
def Selection.ofTree : RawTree → Selection
  | .node .field parts =>
    let tree := RawTree.node .field parts
    match tree.name with
    | .error flaw => .flawed flaw
    | .ok name =>
      let shown := RawTree.lookup "alias" parts
      .field (if shown.isBlank then none else some shown.value) name
        (Argument.listOf (RawTree.lookup "arguments" parts).itemsIfAny) []
        (Selection.setAmong parts)
  | .node .fragmentSpread parts =>
    match (RawTree.node .fragmentSpread parts).name with
    | .ok name => .fragmentSpread name []
    | .error flaw => .flawed flaw
  | .node .inlineFragment parts =>
    let condition := RawTree.lookup "type_condition" parts
    if condition.isBlank then .inlineFragment none [] []
    else match condition.name with
      | .ok name => .inlineFragment (some name) [] []
      | .error flaw => .flawed flaw
  | place => .flawed (.misplaced place.found)

/-- The selection set among the parts of a node, if there is one. -/
def Selection.setAmong : List (String × RawTree) → Option (List Selection)
  | [] => none
  | (name, tree) :: rest =>
    if name = "selection_set" then Selection.setOf tree else Selection.setAmong rest

/-- A selection set, if there is one. -/
def Selection.setOf : RawTree → Option (List Selection)
  | .nothing => none
  | .node kind parts =>
    if kind.parts.contains "selections" then some (Selection.listAmong parts)
    else some [.flawed (.lacks (.node kind) "selections")]
  | place => some [.flawed (.lacks place.found "selections")]

/-- The selections among the parts of a node. -/
def Selection.listAmong : List (String × RawTree) → List Selection
  | [] => [.flawed (.unlisted .nothing)]
  | (name, tree) :: rest =>
    if name = "selections" then Selection.listOf tree else Selection.listAmong rest

/-- The selections in a list. -/
def Selection.listOf : RawTree → List Selection
  | .list items => Selection.ofTrees items
  | .text word => word.toList.map fun _ => .flawed (.misplaced .text)
  | place => [.flawed (.unlisted place.found)]

/-- Selections one by one. -/
def Selection.ofTrees : List RawTree → List Selection
  | [] => []
  | tree :: rest => Selection.ofTree tree :: Selection.ofTrees rest

end

/-! ## Definitions -/

/-- A declaration of a variable that cannot be read. -/
def VariableDefinition.unreadable (flaw : Flaw) : VariableDefinition :=
  ⟨.nothing, .flawed flaw, none, []⟩

/-- The declaration of a variable. -/
def VariableDefinition.ofTree (tree : RawTree) : VariableDefinition :=
  let read : Readable VariableDefinition := do
    let name ← (← tree.part "variable").name
    let type ← tree.part "type"
    let default? := match ← tree.part "default_value" with
      | .nothing => none
      | found => some (Value.ofDefault found)
    return ⟨name, .ofTree type, default?, []⟩
  match read with
  | .ok declaration => declaration
  | .error flaw => .unreadable flaw

/-- The declarations of variables in a list. -/
def VariableDefinition.listOf (tree : RawTree) : List VariableDefinition :=
  readItems .unreadable VariableDefinition.ofTree tree.itemsIfAny

/-- An operation. -/
def Operation.ofTree (tree : RawTree) : Operation :=
  ⟨match tree.part "operation" with
    | .ok (.text word) => OperationType.ofText? word
    | _ => none,
    tree.optionalName,
    match tree.part "variable_definitions" with
    | .ok .nothing => none
    | .ok found => some (VariableDefinition.listOf found)
    | .error flaw => some [.unreadable flaw],
    [],
    match tree.part "selection_set" with
    | .ok found => Selection.setOf found
    | .error flaw => some [.flawed flaw]⟩

/-- A field of a type. -/
def FieldDefinition.ofTree (tree : RawTree) : FieldDefinition :=
  match tree.name with
  | .ok name => ⟨name, .ofPart tree, tree.description⟩
  | .error flaw => ⟨.nothing, .flawed flaw, .ok none⟩

/-- The definition of a type with fields. -/
def TypeDefinition.ofTree (kind : FieldedKind) (tree : RawTree) : TypeDefinition :=
  ⟨kind, tree.optionalName, tree.description,
    readItems (fun flaw => ⟨.nothing, .flawed flaw, .ok none⟩) FieldDefinition.ofTree do
      (← tree.part "fields").itemsIfAny⟩

/-- The definition of an enum type. -/
def EnumDefinition.ofTree (tree : RawTree) : EnumDefinition :=
  ⟨tree.optionalName, tree.description,
    readItems .error RawTree.name do (← tree.part "values").itemsIfAny⟩

/-- A definition. -/
def Definition.ofTree (tree : RawTree) : Definition :=
  match tree with
  | .node kind _ =>
    match kind with
    | .operationDefinition => .operation (.ofTree tree)
    | .objectTypeDefinition => .fielded (.ofTree .object tree)
    | .inputObjectTypeDefinition => .fielded (.ofTree .input tree)
    | .interfaceTypeDefinition => .fielded (.ofTree .interface tree)
    | .enumTypeDefinition => .enum (.ofTree tree)
    | kind =>
      .other kind (if kind.parts.contains "name" then tree.optionalName else .ok none)
  | place => .flawed (.lacks place.found "kind")

/-- The definitions of a document. -/
def Document.ofTree (tree : RawTree) : Readable Document := do
  return (← (← tree.part "definitions").items).map Definition.ofTree

end QuerySchema.GraphQL
