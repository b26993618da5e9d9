import QuerySchema.Proofs.OperationSteps
import QuerySchema.Proofs.PointerReading
import QuerySchema.Proofs.TypeSteps

/-!
What the mapped scalars decide.

Two conversions of one document that know different scalars are compared step by step. Work is
`Alike` when it makes the same reports, and fails for the same reason or yields results that are
related. When the name of a type is looked up differently, a variable of that type may say another
type and a field may have another innermost schema; `VariableAlike` and `FieldAlike` say how, and
what is built from such parts differs in nothing else. Where something is written under one name again
and again, what counts is the last that was written: so each relation is one to the parts that were
gone through, and a step goes through one more.

What is proved:
  1. `Alike.bind`, `Alike.foldlM`: steps that are alike are alike together; `Keyed.Alike.put`: a
     write changes one key.
  2. `addSelections_over`: selections do not depend on the scalars, by induction along them.
  3. `inputsOf_alike`, `fieldsOf_alike`: variables and fields are alike one by one.
  4. `addDefinition_alike`: one step of a conversion keeps two documents alike.
  5. `convertDocument_scalars`: two conversions fail alike, or say the same and have schemas that
     are alike; they are equal when every name that is used is looked up alike.
-/

namespace QuerySchema

/-! ## Work on two sides -/

namespace Reported

variable {ρ ε α β γ δ ι : Type} {R : α → β → Prop} {S : γ → δ → Prop}

/-- Two pieces of work make the same reports, and fail for the same reason or yield related
results. -/
inductive Alike (R : α → β → Prop) : Reported ρ ε α → Reported ρ ε β → Prop where
  | ok {reports a b} (h : R a b) : Alike R ⟨reports, .ok a⟩ ⟨reports, .ok b⟩
  | error {reports e} : Alike R ⟨reports, .error e⟩ ⟨reports, .error e⟩

theorem Alike.pure {a : α} {b : β} (h : R a b) :
    Alike R (Pure.pure a : Reported ρ ε α) (Pure.pure b) := .ok h

/-- The same work on both sides is alike when equal results are related. -/
theorem Alike.of_eq {R : α → α → Prop} (h : ∀ a, R a a) {x y : Reported ρ ε α} (hxy : x = y) :
    Alike R x y := by
  obtain ⟨reports, result⟩ := x
  subst hxy
  cases result with
  | ok a => exact .ok (h a)
  | error e => exact .error

theorem Alike.mono {R' : α → β → Prop} {x : Reported ρ ε α} {y : Reported ρ ε β}
    (hxy : Alike R x y) (h : ∀ a b, R a b → R' a b) : Alike R' x y := by
  cases hxy with
  | ok hab => exact .ok (h _ _ hab)
  | error => exact .error

theorem Alike.bind {x : Reported ρ ε α} {y : Reported ρ ε β} {f : α → Reported ρ ε γ}
    {g : β → Reported ρ ε δ} (hxy : Alike R x y) (h : ∀ a b, R a b → Alike S (f a) (g b)) :
    Alike S (x >>= f) (y >>= g) := by
  cases hxy with
  | @ok reports a b hab =>
    have hafter := h a b hab
    show Alike S ⟨reports ++ (f a).reports, (f a).result⟩ ⟨reports ++ (g b).reports, (g b).result⟩
    generalize f a = x, g b = y at hafter ⊢
    cases hafter with
    | ok hcd => exact .ok hcd
    | error => exact .error
  | error => exact .error

/-- The same step on both sides yields the same result for what comes after it. -/
theorem Alike.bind_same {x : Reported ρ ε α} {f : α → Reported ρ ε γ} {g : α → Reported ρ ε δ}
    (h : ∀ a, Alike S (f a) (g a)) : Alike S (x >>= f) (x >>= g) := by
  refine (Alike.of_eq (R := Eq) (fun _ => rfl) rfl).bind fun a b hab => ?_
  rw [← hab]
  exact h a

theorem Alike.map {x : Reported ρ ε α} {y : Reported ρ ε β} {f : α → γ} {g : β → δ}
    (hxy : Alike R x y) (h : ∀ a b, R a b → S (f a) (g b)) : Alike S (f <$> x) (g <$> y) := by
  rw [map_eq_pure_bind, map_eq_pure_bind]
  exact hxy.bind fun a b hab => .pure (h a b hab)

theorem ofExcept_bind (x : Except ε α) (f : α → Except ε β) :
    ofExcept (x >>= f) = (ofExcept x >>= fun a => ofExcept (f a) : Reported ρ ε β) := by
  cases x <;> rfl

/-- The results on the left are those of the work on the left. -/
theorem Alike.and_result {x : Reported ρ ε α} {y : Reported ρ ε β} (h : Alike R x y) :
    Alike (fun a b => R a b ∧ x.result = .ok a) x y := by
  cases h with
  | ok hab => exact .ok ⟨hab, rfl⟩
  | error => exact .error

/-- Steps along a list that keep two sides related by what was gone through keep them related by all
of it. -/
theorem Alike.foldlM {R : List ι → α → β → Prop} {f : α → ι → Reported ρ ε α}
    {g : β → ι → Reported ρ ε β}
    (h : ∀ before item a b, R before a b → Alike (R (before ++ [item])) (f a item) (g b item))
    (items : List ι) {a : α} {b : β} (hab : R [] a b) :
    Alike (R items) (items.foldlM f a) (items.foldlM g b) := by
  have hrest (before rest : List ι) {a : α} {b : β} (hab : R before a b) :
      Alike (R (before ++ rest)) (rest.foldlM f a) (rest.foldlM g b) := by
    induction rest generalizing before a b with
    | nil =>
      rw [List.append_nil]
      exact .pure hab
    | cons item rest ih =>
      rw [List.foldlM_cons, List.foldlM_cons, List.append_cons]
      exact (h before item a b hab).bind fun next next' hnext => ih (before ++ [item]) hnext
  exact hrest [] items hab

end Reported

/-! ## Maps on two sides -/

namespace Keyed

variable {κ α β : Type} {R S : κ → α → β → Prop}

/-- Two maps have the same keys in the same order, with values that are related under their key. -/
inductive Alike (R : κ → α → β → Prop) : Keyed κ α → Keyed κ β → Prop where
  | nil : Alike R [] []
  | cons {key a b m n} (h : R key a b) (rest : Alike R m n) : Alike R ((key, a) :: m) ((key, b) :: n)

theorem Alike.keys {m : Keyed κ α} {n : Keyed κ β} (h : Alike R m n) : m.keys = n.keys := by
  induction h with
  | nil => rfl
  | cons _ _ ih => rw [keys_cons, keys_cons, ih]

theorem Alike.eq_nil_iff {m : Keyed κ α} {n : Keyed κ β} (h : Alike R m n) : m = [] ↔ n = [] := by
  cases h with
  | nil => exact ⟨fun _ => rfl, fun _ => rfl⟩
  | cons => exact ⟨fun h => (nomatch h), fun h => (nomatch h)⟩

theorem Alike.eq_of {R : κ → α → α → Prop} (h : ∀ key a b, R key a b → a = b) {m n : Keyed κ α}
    (hmn : Alike R m n) : m = n := by
  induction hmn with
  | nil => rfl
  | cons hab _ ih => rw [h _ _ _ hab, ih]

theorem Alike.mono {m : Keyed κ α} {n : Keyed κ β} (h : Alike R m n)
    (hRS : ∀ key ∈ m.keys, ∀ a b, R key a b → S key a b) : Alike S m n := by
  induction h with
  | nil => exact .nil
  | cons hab rest ih =>
    rw [keys_cons] at hRS
    obtain ⟨hfirst, hrest⟩ := List.forall_mem_cons.mp hRS
    exact .cons (hfirst _ _ hab) (ih hrest)

/-- A write on both sides decides what is related under its key, and leaves the other keys alone. -/
theorem Alike.put [DecidableEq κ] {m : Keyed κ α} {n : Keyed κ β} (h : Alike R m n)
    (hn : m.keys.Nodup) {key : κ} {a : α} {b : β} (hab : S key a b)
    (hother : ∀ other ≠ key, ∀ c d, R other c d → S other c d) :
    Alike S (m.put key a) (n.put key b) := by
  induction h with
  | nil => exact .cons hab .nil
  | @cons k c d m n hcd rest ih =>
    rw [keys_cons, List.nodup_cons] at hn
    rw [Keyed.put, Keyed.put]
    split
    · next hk =>
      refine .cons hab (rest.mono fun other hmem => hother other fun he => hn.1 ?_)
      rwa [hk, ← he]
    · next hk => exact .cons (hother k hk c d hcd) (ih hn.2)

/-- What is selected from two maps by tests that agree. -/
theorem Alike.select {γ δ : Type} {S : κ → γ → δ → Prop} {p : α → Bool} {q : β → Bool} {f : α → γ}
    {g : β → δ} (htest : ∀ key a b, R key a b → p a = q b)
    (hvalue : ∀ key a b, R key a b → S key (f a) (g b))
    {m : Keyed κ α} {n : Keyed κ β} (h : Alike R m n) : Alike S (m.select p f) (n.select q g) := by
  induction h with
  | nil => exact .nil
  | @cons k a b m n hab rest ih =>
    unfold Keyed.select at ih ⊢
    have hq := htest k a b hab
    cases hp : p a with
    | true =>
      rw [List.filter_cons_of_pos (by exact hp), List.filter_cons_of_pos (by exact hq ▸ hp)]
      exact .cons (hvalue k a b hab) ih
    | false =>
      rw [List.filter_cons_of_neg (by simp [hp]), List.filter_cons_of_neg (by simp [← hq, hp])]
      exact ih

end Keyed

/-! ## The names of types -/

namespace GraphQL

/-- The name at the core of a type, inside lists and whatever excludes null. -/
def TypeRef.coreName? : TypeRef → Option String
  | .named (.text name) => some name
  | .named _ => none
  | .list item => item.coreName?
  | .nonNull inner => inner.coreName?
  | .flawed _ => none

/-- The names of types in a definition: those of the variables of an operation, those of the fields
of a type. -/
def Definition.typeNames : Definition → List String
  | .operation o => (o.declarations.getD []).filterMap fun d => d.type.coreName?
  | .fielded type => type.fields.filterMap fun field => field.type.coreName?
  | _ => []

/-- The names of types in a document. -/
def typeNames (definitions : Document) : List String := definitions.flatMap Definition.typeNames

end GraphQL

namespace Schema

open GraphQL Reported

/-! ## Schemas that differ by the scalars -/

/-- What is said of a variable's type by the scalars that map its name, if they do. -/
def typeKey (scalars : Scalars) (name : String) : Keyed String Json :=
  match scalars.get? name with
  | some type => [("type", .string type.text)]
  | none => []

/-- The schema of the values of a named type: its JSON type if it is mapped, else a reference. -/
def namedMembers (scalars : Scalars) (name : String) : Keyed String Json :=
  match scalars.get? name with
  | some type => [("type", .string type.text)]
  | none => [("$ref", .string (Json.pointer "#/definitions" [name]))]

/-- The name of the type in the last declaration of a key that has one. -/
def lastTypeName? (declarations : List VariableDefinition) (key : String) : Option Label :=
  Outcome.lastGiven (fun d => variableKey d.name = key) (fun d => d.type.typeName?) declarations

/-- The last definition of a name among those that are attempted: the only one, unless the name is
null. -/
def lastAttempted? (definitions : Document) (name : Label) : Option Definition :=
  Outcome.lastGiven (fun definition => definition.label = name) some (attempted definitions)

section
variable (a b : Scalars)

/-- Schemas of a variable of an operation: the same, or with different types because the name of its
type, as the last declaration has it, is looked up differently. -/
inductive VariableAlike (declarations : List VariableDefinition) (key : String) :
    Json → Json → Prop where
  | same (schema : Json) : VariableAlike declarations key schema schema
  | typed {name : String} (hlast : lastTypeName? declarations key = some (.text name))
    (hne : a.get? name ≠ b.get? name) (rest : Keyed String Json) :
    VariableAlike declarations key (.object (typeKey a name ++ rest))
      (.object (typeKey b name ++ rest))

/-- Schemas of the values of a type: the same, or those of the name at its core, which is looked up
differently, inside the same lists. -/
inductive MembersAlike : TypeRef → Keyed String Json → Keyed String Json → Prop where
  | same (type : TypeRef) (members : Keyed String Json) : MembersAlike type members members
  | named {name : String} (hne : a.get? name ≠ b.get? name) :
    MembersAlike (.named (.text name)) (namedMembers a name) (namedMembers b name)
  | list {item : TypeRef} {m n : Keyed String Json} (h : MembersAlike item m n) :
    MembersAlike (.list item) [("type", .string "array"), ("items", .object m)]
      [("type", .string "array"), ("items", .object n)]
  | nonNull {inner : TypeRef} {m n : Keyed String Json} (h : MembersAlike inner m n) :
    MembersAlike (.nonNull inner) m n

/-- Schemas under the name of a field: alike for the type of its last field, with the description of
that field. -/
inductive FieldAlike (fields : List FieldDefinition) (key : Label) : Json → Json → Prop where
  | described {field : FieldDefinition} (hlast : lastField? fields key = some field)
    {m n : Keyed String Json} (h : MembersAlike a b field.type m n) {text? : Option Label}
    (htext : field.description = .ok text?) :
    FieldAlike fields key (.object (described m text?)) (.object (described n text?))

/-- Schemas of a definition: the same; or those of an operation with variables that are alike, the
same ones required and the same selections; or those of a type with fields that are alike, the same
ones required and the same description. -/
inductive SchemaAlike : Definition → Json → Json → Prop where
  | same (definition : Definition) (schema : Json) : SchemaAlike definition schema schema
  | operation {operation : Operation} {m n : Keyed String Json}
    (h : m.Alike (VariableAlike a b (operation.declarations.getD [])) n) (required : List String)
    (selections : Json) :
    SchemaAlike (.operation operation)
      (operationObject (Inputs.schema ⟨m, required⟩) selections)
      (operationObject (Inputs.schema ⟨n, required⟩) selections)
  | fielded {type : TypeDefinition} {m n : Keyed Label Json}
    (h : m.Alike (FieldAlike a b type.fields) n) (required : List Label) (text? : Option Label) :
    SchemaAlike (.fielded type)
      (.object (described (fieldedMembers ⟨m, required⟩) text?))
      (.object (described (fieldedMembers ⟨n, required⟩) text?))

/-- Schemas under a name: alike for the definition of that name that is attempted, the last one if the
name is null. -/
def NamedAlike (definitions : Document) (name : Label) (x y : Json) : Prop :=
  ∃ definition, lastAttempted? definitions name = some definition ∧
    definition.name = .ok (some name) ∧ SchemaAlike a b definition x y

/-- Schemas with the same top-level keys in the same order, and with the same names in the same
order under each of them; the schemas under each name are alike. -/
def TopAlike (definitions : Document) (x y : Json) : Prop :=
  ∃ maps maps' : Keyed String (Keyed Label Json),
    x = .object (("$schema", .string draft06) :: maps.mapValues labelled) ∧
    y = .object (("$schema", .string draft06) :: maps'.mapValues labelled) ∧
    maps.Alike (fun _ => Keyed.Alike (NamedAlike a b definitions)) maps'

end

section
variable {a b : Scalars} {scope : Scope} {path : List Label}

/-! ## Variables -/

/-- A scope with other scalars. -/
def Scope.over (scope : Scope) (scalars : Scalars) : Scope := { scope with scalars }

theorem baseProperty_text (scalars : Scalars) (name : String) :
    baseProperty scalars (.text name) = typeKey scalars name := by
  rw [baseProperty, Scalars.schema?, typeKey]
  cases scalars.get? name <;> rfl

/-- What is said of the type of a variable is alike, with a default as without. -/
theorem baseProperty_alike {declarations : List VariableDefinition} {key : String} {typeName : Label}
    (hlast : lastTypeName? declarations key = some typeName) :
    VariableAlike a b declarations key (.object (baseProperty a typeName))
      (.object (baseProperty b typeName)) ∧
    ∀ literal, VariableAlike a b declarations key
      (.object ((baseProperty a typeName).put "default" literal))
      (.object ((baseProperty b typeName).put "default" literal)) := by
  cases typeName with
  | truth value => exact ⟨.same _, fun _ => .same _⟩
  | nothing => exact ⟨.same _, fun _ => .same _⟩
  | text name =>
    rw [baseProperty_text, baseProperty_text]
    by_cases heq : a.get? name = b.get? name
    · have hsame : typeKey a name = typeKey b name := by rw [typeKey, typeKey, heq]
      rw [hsame]
      exact ⟨.same _, fun _ => .same _⟩
    · have hput (scalars : Scalars) (literal : Json) : (typeKey scalars name).put "default" literal =
          typeKey scalars name ++ [("default", literal)] := by
        refine Keyed.put_eq_append ?_ literal
        unfold typeKey
        cases scalars.get? name <;> simp
      constructor
      · have htyped := VariableAlike.typed (a := a) (b := b) hlast heq []
        rwa [List.append_nil, List.append_nil] at htyped
      · intro literal
        rw [hput, hput]
        exact .typed hlast heq _

theorem variableProperty_alike {declarations : List VariableDefinition} {key : String}
    {typeName : Label} (hlast : lastTypeName? declarations key = some typeName)
    (default? : Option Value) (path : List Label) :
    Alike (VariableAlike a b declarations key)
      (variableProperty (scope.over a) typeName default? path)
      (variableProperty (scope.over b) typeName default? path) := by
  obtain ⟨hbase, hdefault⟩ := baseProperty_alike (a := a) (b := b) hlast
  unfold variableProperty
  cases default? with
  | none => exact .pure hbase
  | some value =>
    refine .bind_same fun found => ?_
    cases found with
    | some literal => exact .pure (hdefault literal)
    | none =>
      cases value.kind? with
      | none => exact .error
      | some kind => exact .bind_same fun _ => .pure hbase

theorem lastTypeName?_concat (declarations : List VariableDefinition) (d : VariableDefinition)
    (key : String) : lastTypeName? (declarations ++ [d]) key =
      (if variableKey d.name = key then d.type.typeName? else none).or
        (lastTypeName? declarations key) :=
  Outcome.lastGiven_concat declarations d

/-- Schemas of a variable are alike as long as its type has the same name. -/
theorem VariableAlike.of_last {declarations more : List VariableDefinition} {key : String} {v w : Json}
    (h : VariableAlike a b declarations key v w)
    (hlast : lastTypeName? more key = lastTypeName? declarations key) :
    VariableAlike a b more key v w := by
  cases h with
  | same => exact .same _
  | typed hname hne rest => exact .typed (hlast.trans hname) hne rest

/-- The properties of two lists of variables are alike, each under a key of its own, and the same ones
are required. -/
def InputsAlike (a b : Scalars) (declarations : List VariableDefinition) (x y : Inputs) : Prop :=
  x.properties.Alike (VariableAlike a b declarations) y.properties ∧ x.properties.keys.Nodup ∧
    x.required = y.required

/-- One more declaration writes under its key, if it has a named type. -/
theorem addVariable_alike (before : List VariableDefinition) (d : VariableDefinition) {x y : Inputs}
    (hxy : InputsAlike a b before x y) :
    Alike (InputsAlike a b (before ++ [d])) (addVariable (scope.over a) x d)
      (addVariable (scope.over b) y d) := by
  obtain ⟨hproperties, hnodup, hrequired⟩ := hxy
  have hnamed {typeName : Label} (ht : d.type.typeName? = some typeName) (path : List Label)
      (isRequired : Bool) :
      Alike (InputsAlike a b (before ++ [d]))
        (variableProperty (scope.over a) typeName d.default? path >>= fun property =>
          pure (x.add (variableKey d.name) property isRequired))
        (variableProperty (scope.over b) typeName d.default? path >>= fun property =>
          pure (y.add (variableKey d.name) property isRequired)) := by
    have hlast : lastTypeName? (before ++ [d]) (variableKey d.name) = some typeName := by
      rw [lastTypeName?_concat, if_pos rfl, ht, Option.some_or]
    refine (variableProperty_alike hlast d.default? path).bind fun _ _ hproperty => .pure ?_
    refine ⟨hproperties.put hnodup hproperty fun key hkey v w hvw => hvw.of_last ?_,
      Keyed.nodup_keys_put hnodup _ _, by rw [Inputs.add, Inputs.add, hrequired]⟩
    rw [lastTypeName?_concat, if_neg (Ne.symm hkey), Option.none_or]
  have hlisted (ht : d.type.typeName? = none) (path : List Label) :
      Alike (InputsAlike a b (before ++ [d]))
        (Build.report (.listVariable (variableKey d.name)) path >>= fun _ => pure x)
        (Build.report (.listVariable (variableKey d.name)) path >>= fun _ => pure y) := by
    refine .bind_same fun _ => .pure ⟨?_, hnodup, hrequired⟩
    refine hproperties.mono fun key _ v w hvw => hvw.of_last ?_
    rw [lastTypeName?_concat, ht, ite_self, Option.none_or]
  obtain ⟨name, type, default?, directives⟩ := d
  cases type with
  | named typeName => exact hnamed rfl _ _
  | list item => exact hlisted rfl _
  | flawed flaw => exact .error
  | nonNull inner =>
    cases inner with
    | named typeName => exact hnamed rfl _ _
    | list item => exact hlisted rfl _
    | nonNull inner => exact hlisted rfl _
    | flawed flaw =>
      cases flaw with
      | lacks holder part => exact .error
      | misplaced found => exact hlisted rfl _
      | unlisted found => exact hlisted rfl _

/-- The inputs of an operation are alike for any two sets of scalars. -/
theorem inputsOf_alike (declarations : List VariableDefinition) :
    Alike (InputsAlike a b declarations) (inputsOf (scope.over a) declarations)
      (inputsOf (scope.over b) declarations) :=
  Alike.foldlM (fun before d _ _ hxy => addVariable_alike before d hxy) declarations
    ⟨.nil, List.nodup_nil, rfl⟩

/-! ## Selections -/

theorem fieldSchema_over {scalars : Scalars} {sub : Option (List Selection)}
    (hsub : innerSchema (scope.over scalars) path sub = innerSchema scope path sub)
    (arguments : List Argument) :
    fieldSchema (scope.over scalars) path arguments sub = fieldSchema scope path arguments sub := by
  rw [fieldSchema_eq, fieldSchema_eq, hsub]
  rfl

/-- Selections do not depend on the scalars. -/
theorem addSelections_over (scalars : Scalars) (selections : List Selection)
    (properties : Keyed Label Json) :
    addSelections (scope.over scalars) path properties selections =
      addSelections scope path properties selections := by
  induction selections using selections_induction generalizing path properties with
  | nil => rfl
  | field alias? name arguments directives sub rest hsub ih =>
    have hinner : innerSchema (scope.over scalars) (path ++ [name]) sub =
        innerSchema scope (path ++ [name]) sub := by
      cases sub with
      | none => rfl
      | some selections => rw [innerSchema, innerSchema, hsub selections rfl]
    rw [addSelections, addSelections, addSelection_field_eq, addSelection_field_eq,
      fieldSchema_over hinner, funext ih]
  | fragmentSpread name directives rest ih => exact congrArg (_ >>= ·) (funext ih)
  | inlineFragment condition directives inner rest ih => exact congrArg (_ >>= ·) (funext ih)
  | flawed flaw rest ih => exact congrArg (_ >>= ·) (funext ih)

theorem selectionSetSchema_over (scope : Scope) (scalars : Scalars)
    (selectionSet : Option (List Selection)) :
    selectionSetSchema (scope.over scalars) path selectionSet =
      selectionSetSchema scope path selectionSet := by
  cases selectionSet with
  | none => rfl
  | some selections =>
    rw [selectionSetSchema, selectionSetSchema, selectionTree, selectionTree, addSelections_over]

/-! ## Operations -/

/-- What an operation says of its variables on two sides: alike, with the same keys. -/
def PartsAlike (a b : Scalars) (operation : Operation) (p q : Json × List String) : Prop :=
  p.2 = q.2 ∧ ∀ selections, SchemaAlike a b (.operation operation)
    (operationObject p.1 selections) (operationObject q.1 selections)

theorem variablesPart_alike (scope : Scope) (operation : Operation) :
    Alike (PartsAlike a b operation) (variablesPart (scope.over a) operation.declarations)
      (variablesPart (scope.over b) operation.declarations) := by
  cases hd : operation.declarations with
  | none => exact .pure ⟨rfl, fun _ => .same _ _⟩
  | some declarations =>
    cases declarations with
    | nil => exact .pure ⟨rfl, fun _ => .same _ _⟩
    | cons first rest =>
      refine (inputsOf_alike (first :: rest)).map fun x y hxy => ⟨hxy.1.keys, fun selections => ?_⟩
      obtain ⟨properties, required⟩ := x
      obtain ⟨properties', required'⟩ := y
      obtain ⟨hproperties, -, rfl⟩ := hxy
      rw [show first :: rest = operation.declarations.getD [] by rw [hd]; rfl] at hproperties
      exact .operation hproperties required selections

theorem operationSchema_alike (operation : Operation) (name : Label) :
    Alike (SchemaAlike a b (.operation operation)) (operationSchema (scope.over a) name operation)
      (operationSchema (scope.over b) name operation) := by
  rw [operationSchema_eq, operationSchema_eq]
  refine (variablesPart_alike (scope.within name) operation).bind fun p q hpq => ?_
  obtain ⟨inputs, keys⟩ := p
  obtain ⟨inputs', keys'⟩ := q
  obtain ⟨rfl, hinputs⟩ := hpq
  have hselections : selectionSetSchema (selectionScope (scope.over a) name keys) [name]
      operation.selectionSet =
        selectionSetSchema (selectionScope (scope.over b) name keys) [name] operation.selectionSet :=
    (selectionSetSchema_over (selectionScope scope name keys) a _).trans
      (selectionSetSchema_over (selectionScope scope name keys) b _).symm
  show Alike _ (selectionSetSchema _ [name] _ >>= _) (selectionSetSchema _ [name] _ >>= _)
  rw [hselections]
  exact .bind_same fun selections => .pure (hinputs selections)

/-- A name on both sides, with values that are related. -/
def PairAlike {α : Type} (R : α → α → Prop) (p q : Label × α) : Prop := p.1 = q.1 ∧ R p.2 q.2

theorem operationEntry_alike (scope : Scope) (operation : Operation) :
    Alike (PairAlike (SchemaAlike a b (.operation operation)))
      (operationEntry (scope.over a) operation) (operationEntry (scope.over b) operation) := by
  unfold operationEntry
  refine .bind_same fun found => ?_
  cases found with
  | none => exact .error
  | some name =>
    cases hblank : name.isBlank with
    | true => simp only [hblank, if_true]; exact .error
    | false =>
      simp only [hblank, Bool.false_eq_true, if_false]
      exact (operationSchema_alike operation name).bind fun _ _ hschema => .pure ⟨rfl, hschema⟩

/-! ## Types -/

theorem typeMembers_text (scalars : Scalars) (name : String) :
    typeMembers scalars (.named (.text name)) = .ok (namedMembers scalars name) := by
  rw [typeMembers, Scalars.schema?, namedMembers]
  cases scalars.get? name <;> rfl

theorem typeMembers_alike (type : TypeRef) :
    Alike (MembersAlike a b type) (Build.ofExcept (typeMembers a type))
      (Build.ofExcept (typeMembers b type)) := by
  induction type with
  | named name =>
    cases name with
    | truth value => exact .error
    | nothing => exact .error
    | text name =>
      rw [typeMembers_text, typeMembers_text]
      by_cases heq : a.get? name = b.get? name
      · have hsame : namedMembers a name = namedMembers b name := by
          rw [namedMembers, namedMembers, heq]
        rw [hsame]
        exact .ok (.same _ _)
      · exact .ok (.named heq)
  | list item ih =>
    rw [typeMembers, typeMembers, Build.ofExcept, Build.ofExcept, ofExcept_map, ofExcept_map]
    exact ih.map fun _ _ hmn => .list hmn
  | nonNull inner ih => exact ih.mono fun _ _ hmn => .nonNull hmn
  | flawed flaw => exact .error

/-- Descriptions are the same on both sides. -/
theorem describe_alike (m n : Keyed String Json) (description : Readable (Option Label)) :
    Alike (fun x y => ∃ text?, description = .ok text? ∧ x = described m text? ∧ y = described n text?)
      (Build.ofExcept (describe m description)) (Build.ofExcept (describe n description)) := by
  cases description with
  | error flaw => exact .error
  | ok text? =>
    cases text? with
    | none => exact .ok ⟨none, rfl, rfl, rfl⟩
    | some label => exact .ok ⟨some label, rfl, rfl, rfl⟩

theorem lastField?_concat (fields : List FieldDefinition) (field : FieldDefinition) (name : Label) :
    lastField? (fields ++ [field]) name =
      (if field.name = name then some field else none).or (lastField? fields name) :=
  Outcome.lastGiven_concat fields field

/-- The properties of two lists of fields are alike, each under a name of its own, and the same ones
are required. -/
def FieldsAlike (a b : Scalars) (definitions : List FieldDefinition) (x y : Fields) : Prop :=
  x.properties.Alike (FieldAlike a b definitions) y.properties ∧ x.properties.keys.Nodup ∧
    x.required = y.required

/-- One more field writes under its name. -/
theorem addField_alike (before : List FieldDefinition) (field : FieldDefinition) {x y : Fields}
    (hxy : FieldsAlike a b before x y) :
    Alike (FieldsAlike a b (before ++ [field])) (Build.ofExcept (addField a x field))
      (Build.ofExcept (addField b y field)) := by
  obtain ⟨hproperties, hnodup, hrequired⟩ := hxy
  unfold addField
  rw [Build.ofExcept, Build.ofExcept, ofExcept_bind, ofExcept_bind]
  refine (typeMembers_alike field.type).bind fun m n hmn => ?_
  rw [ofExcept_bind, ofExcept_bind]
  refine (describe_alike m n field.description).bind fun m' n' hdescribed => ?_
  obtain ⟨text?, htext, rfl, rfl⟩ := hdescribed
  have hlast : lastField? (before ++ [field]) field.name = some field := by
    rw [lastField?_concat, if_pos rfl, Option.some_or]
  refine .ok ⟨hproperties.put hnodup (.described hlast hmn htext) fun name hname v w hvw => ?_,
    Keyed.nodup_keys_put hnodup _ _, by rw [hrequired]⟩
  cases hvw with
  | described hother hmembers hsaid =>
    refine .described ?_ hmembers hsaid
    rw [lastField?_concat, if_neg (Ne.symm hname), Option.none_or, hother]

/-- The fields of a type are alike for any two sets of scalars. -/
theorem fieldsOf_alike (definitions : List FieldDefinition) :
    Alike (FieldsAlike a b definitions) (Build.ofExcept (fieldsOf a definitions))
      (Build.ofExcept (fieldsOf b definitions)) := by
  unfold fieldsOf
  rw [Build.ofExcept, Build.ofExcept, ← Reported.foldlM_ofExcept, ← Reported.foldlM_ofExcept]
  exact Alike.foldlM (fun before field _ _ hxy => addField_alike before field hxy) definitions
    ⟨.nil, List.nodup_nil, rfl⟩

theorem typeEntry_alike (type : TypeDefinition) :
    Alike (PairAlike (SchemaAlike a b (.fielded type)))
      (Build.ofExcept (typeEntry a type)) (Build.ofExcept (typeEntry b type)) := by
  unfold typeEntry
  rw [Build.ofExcept, Build.ofExcept, ofExcept_bind, ofExcept_bind]
  refine (fieldsOf_alike type.fields).bind fun x y hxy => ?_
  obtain ⟨properties, required⟩ := x
  obtain ⟨properties', required'⟩ := y
  obtain ⟨hproperties, -, rfl⟩ := hxy
  rw [ofExcept_bind, ofExcept_bind]
  refine (describe_alike _ _ type.description).bind fun m n hdescribed => ?_
  obtain ⟨text?, -, rfl, rfl⟩ := hdescribed
  rw [ofExcept_bind, ofExcept_bind]
  exact .bind_same fun name => .ok ⟨rfl, .fielded hproperties required text?⟩

/-! ## Documents -/

/-- Entries under a name: of one sort, with schemas that are alike. -/
def EntryAlike (a b : Scalars) (definitions : Document) (name : Label) (x y : Entry) : Prop :=
  x.isOperation = y.isOperation ∧ NamedAlike a b definitions name x.schema y.schema

/-- Documents of one layout with entries that are alike, each under a name of its own; they have the
names that the definitions take. -/
def DocumentAlike (a b : Scalars) (definitions : Document) (x y : SchemaDocument) : Prop :=
  x.layout = y.layout ∧ x.entries.Alike (EntryAlike a b definitions) y.entries ∧
    x.entries.keys.Nodup ∧ Converter.Holds x (definitions.foldl takenAfter [])

theorem DocumentAlike.holds {definitions : Document} {x y : SchemaDocument}
    (h : DocumentAlike a b definitions x y) :
    Converter.Holds y (definitions.foldl takenAfter []) := by
  obtain ⟨-, hentries, -, hnames⟩ := h
  rwa [Converter.Holds, ← hentries.keys]

theorem lastAttempted?_concat_of_attempted {before : Document} {definition : Definition}
    (h : fateOf (before.foldl takenAfter []) definition = .attempted) (name : Label) :
    lastAttempted? (before ++ [definition]) name =
      (if definition.label = name then some definition else none).or (lastAttempted? before name) := by
  rw [lastAttempted?, attempted_concat, if_pos h]
  exact Outcome.lastGiven_concat _ _

theorem lastAttempted?_concat_of_not_attempted {before : Document} {definition : Definition}
    (h : fateOf (before.foldl takenAfter []) definition ≠ .attempted) (name : Label) :
    lastAttempted? (before ++ [definition]) name = lastAttempted? before name := by
  rw [lastAttempted?, attempted_concat, if_neg h, List.append_nil, lastAttempted?]

namespace Converter

variable {layout : Layout} {definitions : Document} {definition : Definition}

theorem entry_alike (definition : Definition) :
    Alike (PairAlike fun x y => x.isOperation = y.isOperation ∧
        SchemaAlike a b definition x.schema y.schema)
      (entry ⟨layout, a⟩ definition) (entry ⟨layout, b⟩ definition) := by
  cases definition with
  | operation operation =>
    exact (operationEntry_alike (.top layout a) operation).map fun _ _ hpq =>
      ⟨hpq.1, rfl, hpq.2⟩
  | fielded type =>
    rw [entry, entry, Build.ofExcept, Build.ofExcept, ofExcept_map, ofExcept_map]
    exact (typeEntry_alike type).map fun _ _ hpq => ⟨hpq.1, rfl, hpq.2⟩
  | enum type => exact .of_eq (fun found => ⟨rfl, rfl, .same _ _⟩) rfl
  | other kind name => exact .error
  | flawed flaw => exact .error

/-- An entry that is added on both sides is that of the last attempted definition of its name. -/
theorem addEntry_alike {before : Document} {definition : Definition}
    (hfate : fateOf (before.foldl takenAfter []) definition = .attempted) {x y : SchemaDocument}
    (hxy : DocumentAlike a b before x y) :
    Alike (DocumentAlike a b (before ++ [definition]))
      ((fun found => x.add found.1 found.2) <$> entry ⟨layout, a⟩ definition)
      ((fun found => y.add found.1 found.2) <$> entry ⟨layout, b⟩ definition) := by
  obtain ⟨hlayout, hentries, hnodup, hnames⟩ := hxy
  refine (entry_alike definition).and_result.map fun p q hpq => ?_
  obtain ⟨⟨hname, hsort, hschema⟩, hentry⟩ := hpq
  -- the entry stands under the name of its definition
  have hdefinition := (entry_eq_ok (Reported.ext rfl hentry)).1
  have hlabel : definition.label = p.1 := by rw [Definition.label, hdefinition]
  have hlast : lastAttempted? (before ++ [definition]) p.1 = some definition := by
    rw [lastAttempted?_concat_of_attempted hfate, if_pos hlabel, Option.some_or]
  rw [SchemaDocument.add, SchemaDocument.add, ← hname]
  refine ⟨hlayout, hentries.put hnodup ⟨hsort, definition, hlast, hdefinition, hschema⟩ ?_,
    Keyed.nodup_keys_put hnodup _ _, ?_⟩
  · rintro other hother v w ⟨hsorts, found, hfound, hfoundName, halike⟩
    refine ⟨hsorts, found, ?_, hfoundName, halike⟩
    rw [lastAttempted?_concat_of_attempted hfate, if_neg fun he => hother (he.symm.trans hlabel),
      Option.none_or, hfound]
  · rw [List.foldl_append, List.foldl_cons, List.foldl_nil, takenAfter, hfate, hlabel]
    exact holds_add hnames p.1 p.2

/-- A definition that is left out changes nothing on both sides. -/
theorem leaveOut_alike {before : Document} {definition : Definition}
    (hfate : fateOf (before.foldl takenAfter []) definition ≠ .attempted) {x y : SchemaDocument}
    (hxy : DocumentAlike a b before x y) : DocumentAlike a b (before ++ [definition]) x y := by
  obtain ⟨hlayout, hentries, hnodup, hnames⟩ := hxy
  refine ⟨hlayout, hentries.mono fun name _ v w hvw => ?_, hnodup, ?_⟩
  · rwa [EntryAlike, NamedAlike, lastAttempted?_concat_of_not_attempted hfate]
  · rwa [List.foldl_append, List.foldl_cons, List.foldl_nil, takenAfter_eq_self hfate]

/-- One step of a conversion keeps two documents alike. -/
theorem addDefinition_alike (before : Document) (definition : Definition) {x y : SchemaDocument}
    (hxy : DocumentAlike a b before x y) :
    Alike (DocumentAlike a b (before ++ [definition])) (addDefinition ⟨layout, a⟩ x definition)
      (addDefinition ⟨layout, b⟩ y definition) := by
  cases hname : definition.name with
  | ok name =>
    rw [addDefinition_eq hxy.2.2.2 hname, addDefinition_eq hxy.holds hname]
    split
    · next hfate => exact addEntry_alike hfate hxy
    · next hfate => exact .ok (leaveOut_alike hfate hxy)
  | error flaw =>
    -- what has no readable name is not looked at any further
    cases definition with
    | operation | fielded | enum =>
      rw [addDefinition_of_isModelled rfl, addDefinition_of_isModelled rfl, hname]
      exact .error
    | other kind name =>
      obtain rfl : name = .error flaw := hname
      exact .error
    | flawed flaw => exact .error

theorem documentOf_alike (layout : Layout) (a b : Scalars) (definitions : Document) :
    Alike (DocumentAlike a b definitions) (documentOf ⟨layout, a⟩ definitions)
      (documentOf ⟨layout, b⟩ definitions) :=
  Alike.foldlM (fun before definition _ _ hxy => addDefinition_alike before definition hxy) definitions
    ⟨rfl, .nil, List.nodup_nil, holds_empty layout⟩

end Converter

variable {definitions : Document} {x y : SchemaDocument}

theorem DocumentAlike.under (h : DocumentAlike a b definitions x y) (key : String) :
    (x.under key).Alike (NamedAlike a b definitions) (y.under key) := by
  have hcontainer (name : Label) (entry entry' : Entry)
      (he : EntryAlike a b definitions name entry entry') :
      decide (entry.container x.layout = key) = decide (entry'.container y.layout = key) := by
    rw [Entry.container, Entry.container, he.1, h.1]
  exact h.2.1.select hcontainer fun _ _ _ he => he.2

theorem DocumentAlike.toJson (h : DocumentAlike a b definitions x y) :
    TopAlike a b definitions x.toJson y.toJson := by
  have hkeys (keys : List String) :
      Keyed.Alike (fun _ => Keyed.Alike (NamedAlike a b definitions))
        (keys.map fun key => (key, x.under key)) (keys.map fun key => (key, y.under key)) := by
    induction keys with
    | nil => exact .nil
    | cons key rest ih => exact .cons (h.under key) ih
  have hjson (document : SchemaDocument) (keys : List String) :
      keys.map (fun key => (key, labelled (document.under key))) =
        Keyed.mapValues labelled (keys.map fun key => (key, document.under key)) := by
    rw [Keyed.mapValues, List.map_map]
    rfl
  rw [SchemaDocument.toJson_eq, SchemaDocument.toJson_eq, h.1]
  simp only [ne_eq, (h.under "definitions").eq_nil_iff, hjson]
  exact ⟨_, _, rfl, rfl, hkeys _⟩

/-! ## Names that are looked up alike -/

theorem MembersAlike.eq_of {type : TypeRef} {m n : Keyed String Json} (h : MembersAlike a b type m n)
    (hagree : ∀ name ∈ type.coreName?, a.get? name = b.get? name) : m = n := by
  induction h with
  | same type members => rfl
  | named hne => exact absurd (hagree _ rfl) hne
  | list _ ih => rw [ih hagree]
  | nonNull _ ih => exact ih hagree

theorem coreName?_of_typeName? {type : TypeRef} {name : String}
    (h : type.typeName? = some (.text name)) : type.coreName? = some name := by
  unfold TypeRef.typeName? at h
  split at h
  · cases h; rfl
  · cases h; rfl
  · cases h

theorem SchemaAlike.eq_of {definition : Definition} {x y : Json} (h : SchemaAlike a b definition x y)
    (hagree : ∀ name ∈ definition.typeNames, a.get? name = b.get? name) : x = y := by
  cases h with
  | same definition schema => rfl
  | @operation operation m n hvariables required selections =>
    have hsame : ∀ key v w, VariableAlike a b (operation.declarations.getD []) key v w → v = w := by
      rintro key _ _ (schema | ⟨hlast, hne, rest⟩)
      · rfl
      · obtain ⟨d, hd, -, htype⟩ := Outcome.exists_of_lastGiven hlast
        exact absurd (hagree _ (List.mem_filterMap.mpr ⟨d, hd, coreName?_of_typeName? htype⟩)) hne
    rw [hvariables.eq_of hsame]
  | @fielded type m n hfields required text? =>
    have hsame : ∀ key v w, FieldAlike a b type.fields key v w → v = w := by
      rintro key _ _ ⟨hlast, hmembers, -⟩
      obtain ⟨_, hf, -, he⟩ := Outcome.exists_of_lastGiven hlast
      cases he
      rw [hmembers.eq_of fun name hn => hagree name (List.mem_filterMap.mpr ⟨_, hf, hn⟩)]
    rw [hfields.eq_of hsame]

theorem DocumentAlike.eq_of (h : DocumentAlike a b definitions x y)
    (hagree : ∀ name ∈ typeNames definitions, a.get? name = b.get? name) : x = y := by
  obtain ⟨layout, entries⟩ := x
  obtain ⟨layout', entries'⟩ := y
  obtain ⟨rfl, hentries, -⟩ := h
  have hsame : ∀ name v w, EntryAlike a b definitions name v w → v = w := by
    rintro name ⟨isOperation, schema⟩ ⟨_, schema'⟩ ⟨rfl, definition, hlast, -, hschema⟩
    refine congrArg (Entry.mk isOperation) (hschema.eq_of fun name hn => ?_)
    obtain ⟨found, hfound, -, he⟩ := Outcome.exists_of_lastGiven hlast
    cases he
    exact hagree name (List.mem_flatMap.mpr ⟨definition, (of_mem_attemptedOf hfound).1, hn⟩)
  exact congrArg (SchemaDocument.mk layout) (hentries.eq_of hsame)

end

namespace Converter

/-- For any two sets of scalars a document fails to convert for the same reason, or the conversions
make the same reports and have schemas that are alike; if each name of a type in the document is
looked up alike, they are equal. -/
theorem convertDocument_scalars (layout : Layout) (a b : Scalars) (definitions : Document) :
    ((∃ e, convertDocument ⟨layout, a⟩ definitions = .error e ∧
        convertDocument ⟨layout, b⟩ definitions = .error e) ∨
      ∃ c d, convertDocument ⟨layout, a⟩ definitions = .ok c ∧
        convertDocument ⟨layout, b⟩ definitions = .ok d ∧ c.diagnostics = d.diagnostics ∧
        TopAlike a b definitions c.document.toJson d.document.toJson) ∧
    ((∀ name ∈ typeNames definitions, a.get? name = b.get? name) →
      convertDocument ⟨layout, a⟩ definitions = convertDocument ⟨layout, b⟩ definitions) := by
  have halike := documentOf_alike layout a b definitions
  unfold convertDocument
  generalize documentOf ⟨layout, a⟩ definitions = x, documentOf ⟨layout, b⟩ definitions = y
    at halike ⊢
  cases halike with
  | error => exact ⟨.inl ⟨_, rfl, rfl⟩, fun _ => rfl⟩
  | ok hdocuments =>
    refine ⟨.inr ⟨_, _, rfl, rfl, rfl, hdocuments.toJson⟩, fun hagree => ?_⟩
    rw [hdocuments.eq_of hagree]

/-- A query with a variable of a type that is not built in, passed on as an argument, and a type with
a list of that type as a field. -/
def datedDocument : Document :=
  [.operation ⟨some .query, .ok (some "Q"),
      some [⟨"day", .nonNull (.named "Date"), some (.string "today" false), []⟩], [],
      some [.field none "f" [⟨"on", .variable "day"⟩] [] none]⟩,
    .fielded ⟨.object, .ok (some "T"), .ok none,
      [⟨"days", .nonNull (.list (.named "Date")), .ok (some "kept")⟩]⟩]

/-- With the type mapped, the variable and the items of the field say so; the reference of the
argument is there either way. -/
theorem convertDocument_scalars_datedDocument :
    ∃ c d, convertDocument ⟨.definitions, .builtin⟩ datedDocument = .ok c ∧
      convertDocument ⟨.definitions, ⟨[("Date", .string)]⟩⟩ datedDocument = .ok d ∧
      c.diagnostics = d.diagnostics ∧
      TopAlike .builtin ⟨[("Date", .string)]⟩ datedDocument c.document.toJson d.document.toJson ∧
      [c, d].map (fun result => result.document.toJson.descend
        ["definitions", "Q", "properties", "variables", "properties", "$day", "type"]) =
          [none, some (.string "string")] ∧
      [c, d].map (fun result => result.document.toJson.descend
        ["definitions", "T", "properties", "days", "items"]) =
          [some (.object [("$ref", .string "#/definitions/Date")]),
            some (.object [("type", .string "string")])] ∧
      [c, d].map (fun result => result.document.toJson.descend
        ["definitions", "Q", "properties", "selections", "properties", "f", "properties",
          "arguments", "properties", "on", "$ref"]) =
        List.replicate 2 (some (.string "#/definitions/Q/properties/variables/properties/$day")) := by
  rcases (convertDocument_scalars .definitions .builtin ⟨[("Date", .string)]⟩ datedDocument).1 with
    ⟨e, he, -⟩ | ⟨c, d, hc, hd, hsaid, halike⟩
  · cases he
  · cases hc
    cases hd
    exact ⟨_, _, rfl, rfl, hsaid, halike, rfl, rfl, rfl⟩

end Converter

end Schema

end QuerySchema
