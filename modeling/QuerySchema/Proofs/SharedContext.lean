import Mathlib.Data.List.Basic
import QuerySchema.Proofs.SelectionSteps
import QuerySchema.Schema.InPlace

/-!
What building in place changes.

Work that builds a part is done in a context, on a store in which there may be any number of other
contexts, some of them with the same collector. `CarriesOut` ties such work to a `Build`, which
changes nothing: on every store in which the context has a given scope, the work ends as the build
does, and the store has grown by the reports of the build, all of them in the collector of the
context, and otherwise only by things that were not there before (`Store.Grows`). So the context is
as it was, and whatever the collectors held plays no part.

What is proved:
  1. `CarriesOut` is closed under the ways in which work is put together: `pure`, `bind`, a choice,
     a loop, a report, a failure.
  2. `carriesOut_addSelections`, `carriesOut_operationEntry`, `carriesOut_perform`: every builder
     carries out the build of the same name. An operation is built in a context of its own, which
     is written to, but is not there for anyone else (`Store.Grows.declare`).
  3. `performAll_eq`: calls in one context end as they do each on its own, and leave their reports
     in its collector, one after the other.
-/

namespace QuerySchema.Schema

open GraphQL

/-! ## Stores that grow -/

/-- Whatever stands in a list stands at the same place in another one. -/
def Keeps {α : Type} (before after : List α) : Prop :=
  ∀ (place : Nat) (found : α), before[place]? = some found → after[place]? = some found

namespace Keeps

variable {α : Type} {first second third : List α}

theorem refl (items : List α) : Keeps items items := fun _ _ h => h

theorem trans (h : Keeps first second) (h' : Keeps second third) : Keeps first third :=
  fun place found hfound => h' place found (h place found hfound)

theorem append (items more : List α) : Keeps items (items ++ more) := by
  intro place found h
  have hplace : place < items.length := (List.getElem?_eq_some_iff.mp h).1
  rw [List.getElem?_append_left hplace]
  exact h

/-- What is changed further on was not there. -/
theorem modify (h : Keeps first second) {place : Nat} (hplace : first.length ≤ place)
    (change : α → α) : Keeps first (second.modify place change) := by
  intro other found hfound
  have hother : other < first.length := (List.getElem?_eq_some_iff.mp hfound).1
  rw [List.getElem?_modify_ne change second (by omega)]
  exact h other found hfound

end Keeps

namespace Store

/-- One store is another one after some reports to one collector and some new things. -/
structure Grows (before : Store) (collector : Nat) (reports : List Diagnostic) (after : Store) :
    Prop where
  layout : after.layout = before.layout
  scalars : after.scalars = before.scalars
  collectors : after.collectors = before.collectors.modify collector (· ++ reports)
  contexts : Keeps before.contexts after.contexts
  objects : Keeps before.objects after.objects

namespace Grows

variable {before middle after : Store} {collector : Nat} {reports further : List Diagnostic}

theorem refl (store : Store) (collector : Nat) : store.Grows collector [] store where
  layout := rfl
  scalars := rfl
  collectors := by
    simp only [List.append_nil]
    exact (List.modify_id collector store.collectors).symm
  contexts := Keeps.refl _
  objects := Keeps.refl _

theorem trans (h : before.Grows collector reports middle)
    (h' : middle.Grows collector further after) :
    before.Grows collector (reports ++ further) after where
  layout := h'.layout.trans h.layout
  scalars := h'.scalars.trans h.scalars
  collectors := by
    rw [h'.collectors, h.collectors, List.modify_modify_eq]
    refine congrArg (before.collectors.modify collector ·) (funext fun collected => ?_)
    exact List.append_assoc collected reports further
  contexts := h.contexts.trans h'.contexts
  objects := h.objects.trans h'.objects

theorem collect (store : Store) (collector : Nat) (report : Diagnostic) :
    store.Grows collector [report] (store.collect collector report) :=
  { refl store collector with collectors := rfl }

theorem addContext (store : Store) (collector : Nat) (context : Context) :
    store.Grows collector [] (store.addContext context) :=
  { refl store collector with contexts := Keeps.append _ _ }

theorem addObject (store : Store) (collector : Nat) (members : Keyed String Json) :
    store.Grows collector [] (store.addObject members) :=
  { refl store collector with objects := Keeps.append _ _ }

/-- Declarations in a context that was not there before change nothing that was. -/
theorem declare (h : before.Grows collector reports after) {context : Nat}
    (hnew : before.contexts.length ≤ context) (keys : List String) :
    before.Grows collector reports (after.declare context keys) :=
  { h with contexts := h.contexts.modify hnew _ }

/-- Writing to an object that was not there before changes nothing that was. -/
theorem putMember (h : before.Grows collector reports after) {object : Nat}
    (hnew : before.objects.length ≤ object) (key : String) (value : Json) :
    before.Grows collector reports (after.putMember object key value) :=
  { h with objects := h.objects.modify hnew _ }

end Grows

/-- A store has a context of a given scope, that reports to a given collector. -/
structure Hosts (store : Store) (context : Nat) (scope : Scope) (collector : Nat) : Prop where
  found : store.contexts[context]? = some ⟨scope.operation, scope.declared, collector⟩
  layout : store.layout = scope.layout
  scalars : store.scalars = scope.scalars

namespace Hosts

variable {store after : Store} {context collector : Nat} {scope : Scope}

theorem grows (h : store.Hosts context scope collector) {other : Nat} {reports : List Diagnostic}
    (hgrows : store.Grows other reports after) : after.Hosts context scope collector where
  found := hgrows.contexts _ _ h.found
  layout := hgrows.layout.trans h.layout
  scalars := hgrows.scalars.trans h.scalars

theorem contextAt_eq (h : store.Hosts context scope collector) :
    store.contextAt context = ⟨scope.operation, scope.declared, collector⟩ := by
  rw [contextAt, h.found]
  rfl

theorem scopeAt_eq (h : store.Hosts context scope collector) : store.scopeAt context = scope := by
  rw [scopeAt, h.contextAt_eq, h.layout, h.scalars]

/-- The context made for an operation sees the same configuration and reports to the same
collector. -/
theorem forOperation (h : store.Hosts context scope collector) (operation : Label) :
    (store.addContext ⟨some operation, [], collector⟩).Hosts store.contexts.length
      (scope.within operation) collector where
  found := List.getElem?_concat_length
  layout := h.layout
  scalars := h.scalars

theorem declare (h : store.Hosts context scope collector) (keys : List String) :
    (store.declare context keys).Hosts context (scope.declare keys) collector where
  found := by
    show (store.contexts.modify context _)[context]? = _
    rw [List.getElem?_modify, h.found]
    simp [Scope.declare]
  layout := h.layout
  scalars := h.scalars

end Hosts

end Store

/-! ## Work that carries out a build -/

namespace Building

variable {α β : Type} {context : Nat} {scope : Scope}

theorem outcome_bind (work : Building α) (next : α → Building β) (store : Store) :
    (work >>= next).outcome store =
      match work.outcome store with
      | (.ok a, after) => (next a).outcome after
      | (.error e, after) => (.error e, after) := by
  unfold outcome
  rw [ExceptT.run_bind, StateT.run_bind]
  show (fun ended => StateT.run _ ended.2 : Except BuildError α × Store → _)
    (work.run.run store) = _
  rcases work.run.run store with ⟨_ | _, after⟩ <;> rfl

/-- Work in a context carries out a build in a scope: wherever the context has this scope, the work
ends as the build does, and its reports are all that becomes of what was there. -/
def CarriesOut (work : Building α) (context : Nat) (scope : Scope) (build : Build α) : Prop :=
  ∀ (store : Store) (collector : Nat), store.Hosts context scope collector →
    (work.outcome store).1 = build.result ∧
      store.Grows collector build.reports (work.outcome store).2

namespace CarriesOut

theorem pure (a : α) : CarriesOut (Pure.pure a) context scope (Pure.pure a) :=
  fun store collector _ => ⟨rfl, .refl store collector⟩

theorem ofExcept (result : Except BuildError α) :
    CarriesOut (ofExcept result) context scope (Build.ofExcept result) :=
  fun store collector _ => ⟨rfl, .refl store collector⟩

theorem fail (e : BuildError) :
    CarriesOut (fail e : Building α) context scope (Build.fail e) :=
  fun store collector _ => ⟨rfl, .refl store collector⟩

theorem read (role : Role) (place : Readable α) :
    CarriesOut (read role place) context scope (Build.read role place) :=
  ofExcept _

theorem report (omission : Omission) (path : List Label) :
    CarriesOut (report context omission path) context scope (Build.report omission path) := by
  intro store collector h
  refine ⟨rfl, ?_⟩
  show store.Grows collector _ (store.collect (store.contextAt context).collector _)
  rw [h.contextAt_eq]
  exact .collect store collector _

/-- The second step starts from what the first one left, where the context still has its scope. -/
theorem bind {work : Building α} {build : Build α} {next : α → Building β} {goOn : α → Build β}
    (hwork : CarriesOut work context scope build)
    (hnext : ∀ a, CarriesOut (next a) context scope (goOn a)) :
    CarriesOut (work >>= next) context scope (build >>= goOn) := by
  intro store collector h
  obtain ⟨hresult, hgrows⟩ := hwork store collector h
  rw [outcome_bind, Reported.result_bind, Reported.reports_bind, ← hresult]
  rcases hout : work.outcome store with ⟨_ | a, after⟩
  · rw [hout] at hgrows
    simp only [List.append_nil]
    exact ⟨trivial, hgrows⟩
  · rw [hout] at hgrows
    obtain ⟨hresult', hgrows'⟩ := hnext a after collector (h.grows hgrows)
    exact ⟨hresult', hgrows.trans hgrows'⟩

theorem map (f : α → β) {work : Building α} {build : Build α}
    (h : CarriesOut work context scope build) :
    CarriesOut (f <$> work) context scope (f <$> build) := by
  rw [map_eq_pure_bind, map_eq_pure_bind]
  exact h.bind fun a => pure (f a)

theorem ite {p : Prop} [Decidable p] {work other : Building α} {build build' : Build α}
    (h : p → CarriesOut work context scope build) (h' : ¬p → CarriesOut other context scope build') :
    CarriesOut (if p then work else other) context scope (if p then build else build') := by
  by_cases hp : p
  · rw [if_pos hp, if_pos hp]
    exact h hp
  · rw [if_neg hp, if_neg hp]
    exact h' hp

theorem foldlM {step : β → α → Building β} {build : β → α → Build β} {items : List α}
    (h : ∀ b a, CarriesOut (step b a) context scope (build b a)) (start : β) :
    CarriesOut (items.foldlM step start) context scope (items.foldlM build start) := by
  induction items generalizing start with
  | nil => exact pure start
  | cons item rest ih =>
    rw [List.foldlM_cons, List.foldlM_cons]
    exact (h start item).bind fun next => ih next

/-- What is read of the store before anything is done is what the context sees. -/
theorem get {next : Store → Building α} {build : Build α}
    (h : ∀ store collector, store.Hosts context scope collector →
      CarriesOut (next store) context scope build) :
    CarriesOut (MonadState.get >>= next) context scope build := by
  intro store collector hosts
  exact h store collector hosts store collector hosts

end CarriesOut

/-! ## Variables -/

/-- What is read from an object that was just added, and what is left when a member is written. -/
theorem membersAt_addObject (store : Store) (found : Keyed String Json) :
    (store.addObject found).membersAt store.objects.length = found := by
  simp [Store.membersAt, Store.addObject]

theorem membersAt_putMember (store : Store) (found : Keyed String Json) (key : String)
    (value : Json) :
    ((store.addObject found).putMember store.objects.length key value).membersAt
      store.objects.length = found.put key value := by
  simp [Store.membersAt, Store.addObject, Store.putMember]

theorem outcome_variableProperty (typeName : Label) (default? : Option Value) (path : List Label)
    (store : Store) :
    (variableProperty context typeName default? path).outcome store =
      match (putDefault context store.objects.length path default?).outcome
        (store.addObject (baseProperty store.scalars typeName)) with
      | (.ok _, after) => (.ok (.object (after.membersAt store.objects.length)), after)
      | (.error e, after) => (.error e, after) := by
  show (putDefault context store.objects.length path default? >>= fun _ =>
      members store.objects.length >>= fun found => Pure.pure (Json.object found)).outcome
    (store.addObject (baseProperty store.scalars typeName)) = _
  rw [outcome_bind]
  rcases (putDefault context store.objects.length path default?).outcome
    (store.addObject (baseProperty store.scalars typeName)) with ⟨_ | _, after⟩ <;> rfl

/-- The object that the property is made in is a new one, so it is of no account to anything else
that it is written to. -/
theorem carriesOut_variableProperty (typeName : Label) (default? : Option Value)
    (path : List Label) :
    CarriesOut (variableProperty context typeName default? path) context scope
      (Schema.variableProperty scope typeName default? path) := by
  intro store collector hosts
  have hgrows := Store.Grows.addObject store collector (baseProperty scope.scalars typeName)
  have hadded := membersAt_addObject store (baseProperty scope.scalars typeName)
  rw [outcome_variableProperty, hosts.scalars]
  cases default? with
  | none =>
    show Except.ok (Json.object (Store.membersAt _ _)) = _ ∧ _
    rw [hadded]
    exact ⟨rfl, hgrows⟩
  | some value =>
    rw [putDefault, Schema.variableProperty]
    cases hdefault : defaultOf value with
    | error e => exact ⟨rfl, hgrows⟩
    | ok literal? =>
      cases literal? with
      | some literal =>
        show Except.ok (Json.object (Store.membersAt _ _)) = _ ∧ _
        rw [membersAt_putMember]
        exact ⟨rfl, hgrows.putMember (Nat.le_refl _) "default" literal⟩
      | none =>
        cases hkind : value.kind? with
        | none => exact ⟨rfl, hgrows⟩
        | some kind =>
          obtain ⟨-, hreport⟩ := CarriesOut.report (Omission.unsupportedDefault kind) path _
            collector (hosts.grows hgrows)
          refine ⟨?_, hgrows.trans hreport⟩
          show Except.ok (Json.object (Store.membersAt (store.addObject _) _)) = _
          rw [hadded]
          rfl

theorem carriesOut_addVariable (inputs : Inputs) (declaration : VariableDefinition) :
    CarriesOut (addVariable context inputs declaration) context scope
      (Schema.addVariable scope inputs declaration) := by
  unfold addVariable
  refine .get fun store collector hosts => ?_
  rw [hosts.contextAt_eq]
  unfold Schema.addVariable
  have hproperty (typeName : Label) (path : List Label) (isRequired : Bool) :
      CarriesOut (do
          let property ← variableProperty context typeName declaration.default? path
          return inputs.add (variableKey declaration.name) property isRequired) context scope (do
          let property ← Schema.variableProperty scope typeName declaration.default? path
          return inputs.add (variableKey declaration.name) property isRequired) :=
    (carriesOut_variableProperty typeName declaration.default? path).bind fun property =>
      .pure (inputs.add (variableKey declaration.name) property isRequired)
  have hlist (path : List Label) :
      CarriesOut (do
          report context (.listVariable (variableKey declaration.name)) path
          return inputs) context scope (do
          Build.report (.listVariable (variableKey declaration.name)) path
          return inputs) :=
    (CarriesOut.report _ path).bind fun _ => .pure inputs
  cases declaration.type with
  | named typeName => exact hproperty typeName _ false
  | list item => exact hlist _
  | flawed flaw => exact .fail _
  | nonNull inner =>
    cases inner with
    | named typeName => exact hproperty typeName _ true
    | list item => exact hlist _
    | nonNull inner => exact hlist _
    | flawed flaw =>
      cases flaw with
      | lacks holder part => exact .fail _
      | misplaced found => exact hlist _
      | unlisted found => exact hlist _

theorem carriesOut_inputs? (declarations : List VariableDefinition) :
    CarriesOut (inputs? context declarations) context scope
      (Schema.inputs? scope declarations) := by
  unfold inputs? Schema.inputs?
  refine .ite (fun _ => .pure none) fun _ => .map some ?_
  exact .foldlM (fun inputs declaration => carriesOut_addVariable inputs declaration) .empty

/-! ## Selections -/

theorem carriesOut_variablePointer (name : Label) :
    CarriesOut (variablePointer context name) context scope
      (Build.ofExcept (Schema.variablePointer scope name)) := by
  refine .get fun store collector hosts => ?_
  rw [hosts.scopeAt_eq]
  exact .ofExcept _

theorem carriesOut_addArgument (path : List Label) (properties : Keyed Label Json)
    (argument : Argument) :
    CarriesOut (addArgument context path properties argument) context scope
      (Schema.addArgument scope path properties argument) := by
  have hliteral (kind : NodeKind) :
      CarriesOut (do
          report context (.literalArgument kind argument.name) (path ++ [argument.name])
          return properties) context scope (do
          Build.report (.literalArgument kind argument.name) (path ++ [argument.name])
          return properties) :=
    (CarriesOut.report _ _).bind fun _ => .pure properties
  unfold addArgument Schema.addArgument
  generalize argument.value = value
  match value with
  | .variable variableName =>
    refine .get fun store collector hosts => ?_
    rw [hosts.contextAt_eq]
    refine .ite (fun _ => ?_) fun _ => ?_
    · exact (carriesOut_variablePointer variableName).bind fun pointer => .pure _
    · exact (CarriesOut.report _ _).bind fun _ => .pure _
  | .flawed flaw => exact .fail _
  | .int text => exact hliteral .intValue
  | .float text => exact hliteral .floatValue
  | .string text block => exact hliteral .stringValue
  | .boolean value => exact hliteral .booleanValue
  | .null => exact hliteral .nullValue
  | .enum name => exact hliteral .enumValue
  | .list values => exact hliteral .listValue
  | .object fields => exact hliteral .objectValue
  | .odd kind said => exact hliteral kind
  | .other kind => exact hliteral kind

theorem carriesOut_argumentsSchema (path : List Label) (arguments : List Argument) :
    CarriesOut (argumentsSchema context path arguments) context scope
      (Schema.argumentsSchema scope path arguments) := by
  refine .bind (.foldlM (fun properties argument => ?_) []) fun properties => .pure _
  exact carriesOut_addArgument path properties argument

/-- A field is built like what it selects. -/
theorem carriesOut_fieldSchema {sub : Option (List Selection)}
    (hsub : ∀ selections, sub = some selections → ∀ path properties,
      CarriesOut (addSelections context path properties selections) context scope
        (Schema.addSelections scope path properties selections))
    (path : List Label) (arguments : List Argument) :
    CarriesOut (fieldSchema context path arguments sub) context scope
      (Schema.fieldSchema scope path arguments sub) := by
  have hpassed : CarriesOut (argumentsSchema context path arguments) context scope
      (Schema.argumentsSchema scope path arguments) := carriesOut_argumentsSchema path arguments
  cases sub with
  | none =>
    rw [fieldSchema, Schema.fieldSchema]
    exact .ite (fun _ => .pure _) fun _ => hpassed.bind fun passed => .pure _
  | some inner =>
    rw [fieldSchema, Schema.fieldSchema]
    refine .bind (hsub inner rfl path []) fun selected => ?_
    exact .ite (fun _ => (CarriesOut.pure _).bind fun passed => .pure _)
      fun _ => hpassed.bind fun passed => .pure _

/-- Selections are followed into what their fields select, as far as the work comes. -/
theorem carriesOut_addSelections (selections : List Selection) (path : List Label)
    (properties : Keyed Label Json) :
    CarriesOut (addSelections context path properties selections) context scope
      (Schema.addSelections scope path properties selections) := by
  induction selections using selections_induction generalizing path properties with
  | nil => exact .pure properties
  | field alias? name arguments directives sub rest ihsub ihrest =>
    have hfield : CarriesOut (do
          let schema ← fieldSchema context (path ++ [name]) arguments sub
          return properties.put name schema) context scope (do
          let schema ← Schema.fieldSchema scope (path ++ [name]) arguments sub
          return properties.put name schema) :=
      (carriesOut_fieldSchema ihsub (path ++ [name]) arguments).bind fun schema =>
        .pure (properties.put name schema)
    have halias : CarriesOut (alias?.mapM (read Role.selection)) context scope
        (alias?.mapM (Build.read Role.selection)) := by
      cases alias? with
      | none => exact .pure none
      | some place => exact (CarriesOut.read .selection place).map some
    rw [addSelections, Schema.addSelections]
    refine .bind ?_ fun added => ihrest path added
    rw [addSelection, Schema.addSelection]
    refine .ite (fun _ => ?_) fun _ => hfield
    exact halias.bind fun shown => (CarriesOut.report _ _).bind fun _ => hfield
  | fragmentSpread name directives rest ih =>
    rw [addSelections, Schema.addSelections]
    refine .bind ?_ fun added => ih path added
    exact (CarriesOut.report _ path).bind fun _ => .pure properties
  | inlineFragment condition directives inner rest ih =>
    rw [addSelections, Schema.addSelections]
    refine .bind ?_ fun added => ih path added
    exact (CarriesOut.report _ path).bind fun _ => .pure properties
  | flawed flaw rest ih =>
    rw [addSelections, Schema.addSelections]
    exact .bind (.fail _) fun added => ih path added

theorem carriesOut_selectionSetSchema (path : List Label) (selectionSet : Option (List Selection)) :
    CarriesOut (selectionSetSchema context path selectionSet) context scope
      (Schema.selectionSetSchema scope path selectionSet) := by
  cases selectionSet with
  | none => exact .pure _
  | some selections => exact (carriesOut_addSelections selections path []).map selectedObject

/-! ## Operations -/

/-- Work of two steps in a context of its own, with declarations between them, seen from a store
that did not have the context. -/
theorem outcome_declare {work : Building α} {build : Build α} {keys : α → List String}
    {next : α → Building β} {goOn : α → Build β}
    (hwork : CarriesOut work context scope build)
    (hnext : ∀ a, CarriesOut (next a) context (scope.declare (keys a)) (goOn a))
    {before store : Store} {collector : Nat} (hbefore : before.Grows collector [] store)
    (hnew : before.contexts.length ≤ context) (hosts : store.Hosts context scope collector) :
    ((work >>= fun a => declare context (keys a) >>= fun _ => next a).outcome store).1 =
        (build >>= goOn).result ∧
      before.Grows collector (build >>= goOn).reports
        ((work >>= fun a => declare context (keys a) >>= fun _ => next a).outcome store).2 := by
  obtain ⟨hresult, hgrows⟩ := hwork store collector hosts
  rw [outcome_bind, Reported.result_bind, Reported.reports_bind, ← hresult]
  rcases hout : work.outcome store with ⟨_ | a, after⟩
  · rw [hout] at hgrows
    simp only [List.append_nil]
    exact ⟨trivial, hbefore.trans hgrows⟩
  · rw [hout] at hgrows
    have hdeclared := (hbefore.trans hgrows).declare hnew (keys a)
    have hosts' := (hosts.grows hgrows).declare (keys a)
    obtain ⟨hresult', hgrows'⟩ := hnext a _ collector hosts'
    exact ⟨hresult', hdeclared.trans hgrows'⟩

/-- An operation is built in a context made for it, and all that is left of it where it was asked
for are its reports. -/
theorem carriesOut_operationParts (name : Label) (operation : Operation) :
    CarriesOut (forOperation context name >>= fun inner => operationParts inner name operation)
      context scope (operationSchema scope name operation) := by
  intro store collector hosts
  have hmade : (forOperation context name >>= fun inner =>
        operationParts inner name operation).outcome store =
      (operationParts store.contexts.length name operation).outcome
        (store.addContext ⟨some name, [], collector⟩) := by
    rw [outcome_bind]
    show (operationParts _ name operation).outcome
      (store.addContext ⟨some name, [], (store.contextAt context).collector⟩) = _
    rw [hosts.contextAt_eq]
  have hgrows := Store.Grows.addContext store collector ⟨some name, [], collector⟩
  have hosts' := hosts.forOperation name
  rw [hmade]
  unfold operationParts operationSchema
  cases operation.declarations with
  | none =>
    have hselections : CarriesOut
        (selectionSetSchema store.contexts.length [name] operation.selectionSet)
        store.contexts.length (scope.within name)
        (Schema.selectionSetSchema (scope.within name) [name] operation.selectionSet) :=
      carriesOut_selectionSetSchema [name] operation.selectionSet
    obtain ⟨hresult, hgrows'⟩ := (hselections.bind fun selections =>
      .pure (operationObject (.object []) selections)) _ collector hosts'
    exact ⟨hresult, hgrows.trans hgrows'⟩
  | some declarations =>
    refine outcome_declare (carriesOut_inputs? declarations) (fun inputs => ?_) hgrows
      (Nat.le_refl _) hosts'
    exact (carriesOut_selectionSetSchema [name] operation.selectionSet).bind fun selections =>
      .pure (operationObject (inputsSchema inputs) selections)

theorem carriesOut_operationEntry (operation : Operation) :
    CarriesOut (operationEntry context operation) context scope
      (Schema.operationEntry scope operation) := by
  refine .bind (.read .definition operation.name) fun found => ?_
  cases found with
  | none => exact .fail _
  | some name =>
    refine .ite (fun _ => .fail _) fun _ => ?_
    rw [← bind_assoc]
    exact (carriesOut_operationParts name operation).bind fun schema => .pure (name, schema)

/-! ## Calls -/

/-- A step that only reads the scalars. -/
theorem carriesOut_scalars (f : Scalars → Except BuildError α) :
    CarriesOut (MonadState.get >>= fun store => ofExcept (f store.scalars)) context scope
      (Build.ofExcept (f scope.scalars)) := by
  refine .get fun store collector hosts => ?_
  rw [hosts.scalars]
  exact .ofExcept _

/-- A call in a context is carried out as it is in the scope of the context. -/
theorem carriesOut_perform (call : Call) :
    CarriesOut (perform context call) context scope (call.run scope) := by
  cases call with
  | inputs declarations => exact (carriesOut_inputs? declarations).map inputsSchema
  | arguments passed path => exact carriesOut_argumentsSchema path passed
  | selectionSet selections path => exact carriesOut_selectionSetSchema path selections
  | selectionTree selections path => exact (carriesOut_addSelections selections path []).map labelled
  | typeSchema type => exact carriesOut_scalars fun scalars => (typeMembers scalars type).map Json.object
  | operation node => exact (carriesOut_operationEntry node).map entryPair
  | fielded type =>
    rw [Call.run, Build.ofExcept_map]
    exact (carriesOut_scalars fun scalars => Schema.typeEntry scalars type).map entryPair
  | enum type =>
    rw [Call.run, Build.ofExcept_map]
    exact (CarriesOut.ofExcept (Schema.enumEntry type)).map entryPair
  | variablePointer name =>
    rw [Call.run, Build.ofExcept_map]
    exact (carriesOut_variablePointer name).map Json.string

end Building

namespace Store

variable {store : Store} {context : Nat}

/-- A store has a context at a place, and the collector that the context reports to. -/
def HasContext (store : Store) (context : Nat) : Prop :=
  context < store.contexts.length ∧ (store.contextAt context).collector < store.collectors.length

theorem HasContext.hosts (h : store.HasContext context) :
    store.Hosts context (store.scopeAt context) (store.contextAt context).collector where
  found := by
    show store.contexts[context]? = some (store.contextAt context)
    rw [contextAt, List.getElem?_eq_getElem h.1]
    rfl
  layout := rfl
  scalars := rfl

/-- What a store has become when all that happened is that some reports were made in a context. -/
structure Reports (before : Store) (context : Nat) (reports : List Diagnostic) (after : Store) :
    Prop where
  layout : after.layout = before.layout
  scalars : after.scalars = before.scalars
  /-- Every context is as it was, the one that was built in and all others. -/
  contexts : ∀ place < before.contexts.length, after.contextAt place = before.contextAt place
  /-- The reports were added to those that the collector of the context had. -/
  collected : after.collectedAt (before.contextAt context).collector =
    before.collectedAt (before.contextAt context).collector ++ reports
  /-- No other collector was written to. -/
  others : ∀ place ≠ (before.contextAt context).collector,
    after.collectedAt place = before.collectedAt place

theorem Grows.reports {after : Store} {reports : List Diagnostic} (hcontext : store.HasContext context)
    (h : store.Grows (store.contextAt context).collector reports after) :
    store.Reports context reports after where
  layout := h.layout
  scalars := h.scalars
  contexts := by
    intro place hplace
    have hfound := h.contexts place _ (List.getElem?_eq_getElem hplace)
    rw [contextAt, contextAt, hfound, List.getElem?_eq_getElem hplace]
  collected := by
    rw [collectedAt, collectedAt, h.collectors, List.getElem?_modify,
      List.getElem?_eq_getElem hcontext.2]
    simp
  others := by
    intro place hplace
    rw [collectedAt, collectedAt, h.collectors, List.getElem?_modify_ne _ _ hplace.symm]

theorem Grows.hasContext {after : Store} {collector : Nat} {reports : List Diagnostic}
    (hcontext : store.HasContext context) (h : store.Grows collector reports after) :
    after.HasContext context := by
  have hfound := h.contexts context _ (List.getElem?_eq_getElem hcontext.1)
  have hsame : after.contextAt context = store.contextAt context := by
    rw [contextAt, contextAt, hfound, List.getElem?_eq_getElem hcontext.1]
  refine ⟨(List.getElem?_eq_some_iff.mp hfound).1, ?_⟩
  rw [hsame, h.collectors, List.length_modify]
  exact hcontext.2

/-- One call ends as it does in the scope of its context, and the store grows by its reports. -/
theorem perform_grows (hcontext : store.HasContext context) (call : Call) :
    (store.perform context call).2 = (call.run (store.scopeAt context)).result ∧
      store.Grows (store.contextAt context).collector (call.run (store.scopeAt context)).reports
        (store.perform context call).1 :=
  Building.carriesOut_perform call store _ hcontext.hosts

/-- Calls in turn end as each of them does in the scope that the context had before the first. -/
theorem performAll_grows (hcontext : store.HasContext context) (calls : List Call) :
    (store.performAll context calls).2 =
        calls.map (fun call => (call.run (store.scopeAt context)).result) ∧
      store.Grows (store.contextAt context).collector
        (calls.flatMap fun call => (call.run (store.scopeAt context)).reports)
        (store.performAll context calls).1 := by
  induction calls generalizing store with
  | nil => exact ⟨rfl, .refl store _⟩
  | cons call rest ih =>
    obtain ⟨hended, hgrows⟩ := perform_grows hcontext call
    have hcontext' := hgrows.hasContext hcontext
    have hhosts := hcontext.hosts.grows hgrows
    obtain ⟨hothers, hgrows'⟩ := ih hcontext'
    rw [hhosts.scopeAt_eq, hhosts.contextAt_eq] at hgrows'
    rw [hhosts.scopeAt_eq] at hothers
    refine ⟨?_, hgrows.trans hgrows'⟩
    show (store.perform context call).2 ::
      ((store.perform context call).1.performAll context rest).2 = _
    rw [hended, hothers]
    rfl

/-- Builders that share a context only add reports. Whatever calls were made in a context before, a
further one finds the scope that the context had at first, and ends as it does in this scope,
whatever the collectors hold. All that it changes, also when it fails, is that its own reports are
added to the collector of the context; so all the calls together have added theirs, one after the
other. -/
theorem perform_after_calls (hcontext : store.HasContext context) (before : List Call)
    (call : Call) :
    let reached := (store.performAll context before).1
    reached.scopeAt context = store.scopeAt context ∧
    (reached.perform context call).2 = (call.run (store.scopeAt context)).result ∧
    reached.Reports context (call.run (store.scopeAt context)).reports
      (reached.perform context call).1 ∧
    store.Reports context
      ((before ++ [call]).flatMap fun call => (call.run (store.scopeAt context)).reports)
      (reached.perform context call).1 := by
  intro reached
  obtain ⟨-, hbefore⟩ := performAll_grows hcontext before
  have hhosts := hcontext.hosts.grows hbefore
  have hreached := hbefore.hasContext hcontext
  have hscope : reached.scopeAt context = store.scopeAt context := hhosts.scopeAt_eq
  obtain ⟨hended, hgrows⟩ := perform_grows hreached call
  rw [hscope] at hended hgrows
  refine ⟨hscope, hended, hgrows.reports hreached, Grows.reports hcontext ?_⟩
  rw [hhosts.contextAt_eq] at hgrows
  rw [List.flatMap_append, List.flatMap_singleton]
  exact hbefore.trans hgrows

/-- A store in which one context was made, outside of any operation. -/
def withContext : Store := (Building.newContext.outcome (.new .properties .builtin)).2

/-- A query that declares a variable, spreads a fragment and then selects something that is no
selection. -/
def brokenQuery : Operation :=
  ⟨some .query, named "Q", some [⟨"id", .named "ID", none, []⟩], [],
    some [.fragmentSpread "F" [], .flawed (.misplaced (.node .name))]⟩

/-- The query fails after it has reported the fragment, and leaves the context without an operation
and without variables, so that the same argument has no variable before it and after it. -/
theorem perform_after_calls_brokenQuery :
    let passing := Call.arguments [⟨"id", .variable "id"⟩] []
    let unresolved := (Omission.unresolvedVariable "id" "id").reportAt ["id"]
    let reached := (withContext.performAll 0 [passing]).1
    withContext.HasContext 0 ∧
    (reached.perform 0 (.operation brokenQuery)).2 =
      .error (.unreadable .selection (.misplaced (.node .name))) ∧
    (reached.perform 0 (.operation brokenQuery)).1.contextAt 0 = ⟨none, [], 0⟩ ∧
    (reached.perform 0 (.operation brokenQuery)).1.collectedAt 0 =
      [unresolved, (Omission.fragmentSpread "F").reportAt ["Q"]] := by
  intro passing unresolved reached
  have hcontext : withContext.HasContext 0 := by
    unfold HasContext
    decide
  obtain ⟨-, hended, -, hall⟩ := perform_after_calls hcontext [passing] (.operation brokenQuery)
  exact ⟨hcontext, hended, hall.contexts 0 hcontext.1, hall.collected⟩

end Store

end QuerySchema.Schema
