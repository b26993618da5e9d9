import QuerySchema.GraphQL.Grammar
import QuerySchema.Proofs.TokenTexts

/-!
What the grammar makes of tokens.

A tree put together by hand can have anything in any place. A tree that the grammar made of the
tokens of a text is `Grammatical`: names are texts that are not empty, numbers are written as
numbers are, no mark that excludes null stands behind another, and no place is flawed. It is
`Worded` as well: what operations, their variables and their selections are named by are words, of
letters, digits and underscores.

What is proved:
  1. `Yields.bind` and the lemmas beside it: what a rule yields follows from what its parts yield,
     as long as the tokens are those of a text; and what a rule leaves of them still is.
  2. `yields_itemsUntil`, `yields_value`, `yields_typeRef`, `yields_selectionSet`: rules that
     repeat, by induction on their rounds, and rules that nest, by induction on the levels left.
  3. `Definition.Worded.grammatical`: what is worded is grammatical.
  4. `yields_definition`: every definition that the grammar yields is worded.
  5. `worded_ofText`: so every definition of a text is both.
-/

namespace QuerySchema.GraphQL

open Decimal

/-! ## Trees that follow the grammar -/

/-- A label is a text. -/
def Label.IsText (label : Label) : Prop := ∃ text, label = .text text

/-- A place for a text holds one, or is empty. -/
def SaysText (place : Readable (Option Label)) : Prop :=
  ∃ label?, place = .ok label? ∧ ∀ label ∈ label?, label.IsText

theorem saysText_none : SaysText (.ok none) := ⟨none, rfl, fun _ h => nomatch h⟩

theorem saysText_some (text : String) : SaysText (.ok (some (.text text))) :=
  ⟨some (.text text), rfl, fun _ h => ⟨text, (Option.some.inj h).symm⟩⟩

/-- A label is a name: a text that is not empty. -/
def Label.IsName (label : Label) : Prop := ∃ text, label = .text text ∧ text ≠ ""

/-- A place for a name that may be missing holds a name or nothing. -/
def MaybeNamed (place : Readable (Option Label)) : Prop :=
  ∃ label?, place = .ok label? ∧ ∀ label ∈ label?, label.IsName

/-- A place for a name holds one. -/
def Named (place : Readable (Option Label)) : Prop :=
  ∃ label, place = .ok (some label) ∧ label.IsName

/-- A type is named, a list, or one of these without null. -/
def TypeRef.Grammatical : TypeRef → Prop
  | .named name => name.IsName
  | .list item => item.Grammatical
  | .nonNull (.nonNull _) => False
  | .nonNull inner => inner.Grammatical
  | .flawed _ => False

/-- A value is a literal of its kind, with numbers written as numbers are, or a variable. -/
def Value.Grammatical : Value → Prop
  | .variable name => name.IsName
  | .int text => IsIntLiteral text
  | .float text => IsFloatLiteral text
  | .odd _ _ | .flawed _ => False
  | _ => True

/-- An argument has a name and a value. -/
def Argument.Grammatical (argument : Argument) : Prop :=
  argument.name.IsName ∧ argument.value.Grammatical

/-- A selection is a field, a spread or an inline fragment, and so is what it selects. -/
inductive Selection.Grammatical : Selection → Prop where
  | field {alias? name arguments directives sub}
    (halias : ∀ place, alias? = some place → ∃ label, place = .ok label)
    (hname : name.IsName) (harguments : ∀ argument ∈ arguments, argument.Grammatical)
    (hsub : ∀ selections, sub = some selections →
      ∀ selection ∈ selections, selection.Grammatical) :
    Grammatical (.field alias? name arguments directives sub)
  | fragmentSpread {name directives} : Grammatical (.fragmentSpread name directives)
  | inlineFragment {condition directives selections} :
    Grammatical (.inlineFragment condition directives selections)

/-- A declaration of a variable has a name, a type, and a literal where it has a default. -/
def VariableDefinition.Grammatical (declaration : VariableDefinition) : Prop :=
  declaration.name.IsName ∧ declaration.type.Grammatical ∧
    ∀ value ∈ declaration.default?, value.Grammatical

/-- A field of a type has a name, a type, and a text where it is described. -/
def FieldDefinition.Grammatical (field : FieldDefinition) : Prop :=
  field.name.IsName ∧ field.type.Grammatical ∧ SaysText field.description

/-- A definition has what the grammar gives it: operations alone may lack a name, and definitions
without entries where their kind has none. -/
def Definition.Grammatical : Definition → Prop
  | .operation o => MaybeNamed o.name ∧ (∀ d ∈ o.declarations.getD [], d.Grammatical) ∧
      ∀ selection ∈ o.selectionSet.getD [], selection.Grammatical
  | .fielded type => Named type.name ∧ SaysText type.description ∧
      ∀ field ∈ type.fields, field.Grammatical
  | .enum type => Named type.name ∧ SaysText type.description ∧
      ∀ value ∈ type.values, ∃ label, value = .ok label ∧ label.IsName
  | .other _ name => MaybeNamed name
  | .flawed _ => False

/-! ## Trees whose names are words -/

/-- A label is a word: a text that can be a name. -/
def Label.IsWord (label : Label) : Prop := ∃ text, label = .text text ∧ IsNameText text

/-- A place for a name that may be missing holds a word or nothing. -/
def MaybeWord (place : Readable (Option Label)) : Prop :=
  ∃ label?, place = .ok label? ∧ ∀ label ∈ label?, label.IsWord

/-- A value that follows the grammar; a variable is named by a word. -/
def Value.Worded (value : Value) : Prop :=
  value.Grammatical ∧ ∀ name, value = .variable name → name.IsWord

/-- An argument is named by a word. -/
def Argument.Worded (argument : Argument) : Prop := argument.name.IsWord ∧ argument.value.Worded

/-- A selection follows the grammar, and what it names it names by words: fields and what they are
called instead, arguments, fragments and types. -/
inductive Selection.Worded : Selection → Prop where
  | field {alias? name arguments directives sub}
    (halias : ∀ place, alias? = some place → ∃ label, place = .ok label ∧ label.IsWord)
    (hname : name.IsWord) (harguments : ∀ argument ∈ arguments, argument.Worded)
    (hsub : ∀ selections, sub = some selections →
      ∀ selection ∈ selections, selection.Worded) :
    Worded (.field alias? name arguments directives sub)
  | fragmentSpread {name directives} (hname : name.IsWord) : Worded (.fragmentSpread name directives)
  | inlineFragment {condition directives selections} (hcondition : ∀ type ∈ condition, type.IsWord) :
    Worded (.inlineFragment condition directives selections)

/-- A declaration follows the grammar, and its variable is named by a word. -/
def VariableDefinition.Worded (declaration : VariableDefinition) : Prop :=
  declaration.Grammatical ∧ declaration.name.IsWord

/-- A definition follows the grammar and is named by a word, if it is named; so is what an operation
declares and selects. -/
def Definition.Worded : Definition → Prop
  | .operation o => MaybeWord o.name ∧ (∀ d ∈ o.declarations.getD [], d.Worded) ∧
      ∀ selection ∈ o.selectionSet.getD [], selection.Worded
  | definition => definition.Grammatical ∧ MaybeWord definition.name

theorem named_of_ne {text : String} (h : text ≠ "") : Named (named text) :=
  ⟨.text text, rfl, text, rfl, h⟩

theorem Named.maybeNamed {place : Readable (Option Label)} (h : Named place) :
    MaybeNamed place := by
  obtain ⟨label, rfl, hname⟩ := h
  exact ⟨some label, rfl, fun other ho => Option.some.inj ho ▸ hname⟩

theorem maybeNamed_none : MaybeNamed (.ok none) := ⟨none, rfl, fun _ h => nomatch h⟩

theorem maybeWord_none : MaybeWord (.ok none) := ⟨none, rfl, fun _ h => nomatch h⟩

theorem maybeWord_named {text : String} (h : IsNameText text) : MaybeWord (named text) :=
  ⟨some (.text text), rfl, fun _ he => Option.some.inj he ▸ ⟨text, rfl, h⟩⟩

theorem Label.IsWord.isName {label : Label} (h : label.IsWord) : label.IsName := by
  obtain ⟨text, rfl, htext⟩ := h
  exact ⟨text, rfl, htext.ne_empty⟩

theorem MaybeWord.maybeNamed {place : Readable (Option Label)} (h : MaybeWord place) :
    MaybeNamed place := by
  obtain ⟨label?, rfl, hword⟩ := h
  exact ⟨label?, rfl, fun label hl => (hword label hl).isName⟩

/-- A definition without an entry needs a name only. -/
theorem worded_other {kind : NodeKind} {text : String} (h : IsNameText text) :
    (Definition.other kind (named text)).Worded :=
  ⟨(maybeWord_named h).maybeNamed, maybeWord_named h⟩

theorem Argument.Worded.grammatical {argument : Argument} (h : argument.Worded) :
    argument.Grammatical :=
  ⟨h.1.isName, h.2.1⟩

theorem Selection.Worded.grammatical {selection : Selection} (h : selection.Worded) :
    selection.Grammatical := by
  induction h with
  | field halias hname harguments hsub ih =>
    refine .field (fun place hplace => ?_) hname.isName
      (fun argument ha => (harguments argument ha).grammatical) ih
    obtain ⟨label, hlabel, -⟩ := halias place hplace
    exact ⟨label, hlabel⟩
  | fragmentSpread => exact .fragmentSpread
  | inlineFragment => exact .inlineFragment

/-- A definition whose names are words follows the grammar. -/
theorem Definition.Worded.grammatical {definition : Definition} (h : definition.Worded) :
    definition.Grammatical := by
  cases definition with
  | operation operation =>
    obtain ⟨hname, hdeclarations, hselections⟩ := h
    exact ⟨hname.maybeNamed, fun d hd => (hdeclarations d hd).1,
      fun selection hs => (hselections selection hs).grammatical⟩
  | fielded type => exact h.1
  | enum type => exact h.1
  | other kind name => exact h.1
  | flawed flaw => exact h.1

namespace Grammar

/-! ## What a rule yields -/

/-- From the tokens of a text a rule yields what has a property, and leaves such tokens. -/
def Yields {α : Type} (P : α → Prop) (rule : Rule α) : Prop :=
  ∀ source : Source, source.tokens.WellFormed →
    ∀ a next, rule source = .ok (a, next) → P a ∧ next.tokens.WellFormed

/-- A rule leaves the tokens of a text, whatever it yields. -/
abbrev Keeps {α : Type} (rule : Rule α) : Prop := Yields (fun _ => True) rule

variable {α β : Type} {P : α → Prop} {Q : β → Prop}

theorem Yields.mono {P' : α → Prop} {rule : Rule α} (h : Yields P rule) (hp : ∀ a, P a → P' a) :
    Yields P' rule := fun source hs a next hrun =>
  ⟨hp a (h source hs a next hrun).1, (h source hs a next hrun).2⟩

theorem Yields.keeps {rule : Rule α} (h : Yields P rule) : Keeps rule := h.mono fun _ _ => trivial

theorem Yields.pure {a : α} (h : P a) : Yields P (Pure.pure a) := by
  intro source hs b next hrun
  cases hrun
  exact ⟨h, hs⟩

theorem Yields.bind {x : Rule α} {f : α → Rule β} (hx : Yields P x)
    (hf : ∀ a, P a → Yields Q (f a)) : Yields Q (x >>= f) := by
  intro source hs b next hrun
  obtain ⟨⟨a, between⟩, hfirst, hrest⟩ := Outcome.bind_eq_ok.mp hrun
  obtain ⟨ha, hbetween⟩ := hx source hs a between hfirst
  exact hf a ha between hbetween b next hrest

/-- What comes first may yield anything. -/
theorem Yields.after {x : Rule α} {f : α → Rule β} (hx : Keeps x) (hf : ∀ a, Yields Q (f a)) :
    Yields Q (x >>= f) := hx.bind fun a _ => hf a

theorem Yields.map {x : Rule α} {f : α → β} (hx : Yields P x) (hf : ∀ a, P a → Q (f a)) :
    Yields Q (f <$> x) := by
  rw [map_eq_pure_bind]
  exact hx.bind fun a ha => .pure (hf a ha)

/-- A rule that branches yields what both of its branches do. -/
theorem Yields.ite {condition : Prop} [Decidable condition] {x y : Rule α} (hx : Yields P x)
    (hy : Yields P y) : Yields P (if condition then x else y) := by
  split
  · exact hx
  · exact hy

/-- Two branches that come together again: what follows decides. -/
theorem Yields.join {condition : Prop} [Decidable condition] {x y : Rule α} {f : α → Rule β}
    (hx : Yields P x) (hy : Yields P y) (hf : ∀ a, P a → Yields Q (f a)) :
    Yields Q (if condition then x >>= f else y >>= f) := .ite (hx.bind hf) (hy.bind hf)

theorem yields_refuseAt (token : Token) (cause : SyntaxError.Cause) :
    Yields P (refuseAt token cause) :=
  fun _ _ _ _ h => nomatch h

theorem yields_unexpected (token : Token) : Yields P (unexpected token) :=
  yields_refuseAt token _

/-! ## Single tokens -/

theorem keeps_get : Keeps (get : Rule Source) := by
  intro source hs a next hrun
  cases hrun
  exact ⟨trivial, hs⟩

theorem yields_peek : Yields (fun token => token.lexeme.WellFormed) peek := by
  rintro ⟨tokens, count⟩ hs a next hrun
  cases tokens with
  | last token =>
    cases hrun
    exact ⟨hs, hs⟩
  | more token rest =>
    cases hrun
    exact ⟨hs.1, hs⟩
  | refused e => cases hrun

theorem keeps_peekNext : Keeps peekNext := by
  rintro ⟨tokens, count⟩ hs a next hrun
  refine ⟨trivial, ?_⟩
  cases tokens with
  | last token =>
    cases hrun
    exact hs
  | more token rest =>
    cases rest with
    | refused e => cases hrun
    | last following =>
      cases hrun
      exact hs
    | more following rest =>
      cases hrun
      exact hs
  | refused e => cases hrun

theorem keeps_advance : Keeps advance := by
  rintro ⟨tokens, count⟩ hs a next hrun
  refine ⟨trivial, ?_⟩
  -- at the end of the tokens nothing is taken; before it, what is left is the rest
  cases tokens with
  | last token =>
    cases hrun
    exact hs
  | more token rest =>
    cases rest with
    | refused e => cases hrun
    | last following =>
      cases hrun
      exact hs.2
    | more following rest =>
      cases hrun
      exact hs.2
  | refused e => cases hrun

theorem keeps_isAt (mark : Punctuator) : Keeps (isAt mark) :=
  .after yields_peek.keeps fun _ => .pure trivial

theorem keeps_isAtName : Keeps isAtName := by
  refine .after yields_peek.keeps fun token => ?_
  split <;> exact .pure trivial

theorem keeps_accept (mark : Punctuator) : Keeps (accept mark) :=
  .after (keeps_isAt mark) fun _ =>
    .ite (.after keeps_advance fun _ => .pure trivial) (.pure trivial)

theorem keeps_acceptKeyword (word : String) : Keeps (acceptKeyword word) :=
  .after yields_peek.keeps fun _ =>
    .ite (.after keeps_advance fun _ => .pure trivial) (.pure trivial)

theorem keeps_expect (mark : Punctuator) : Keeps (expect mark) :=
  .after yields_peek.keeps fun token => .ite keeps_advance (yields_refuseAt token _)

theorem keeps_expectKeyword (word : String) : Keeps (expectKeyword word) :=
  .after yields_peek.keeps fun token => .ite keeps_advance (yields_refuseAt token _)

theorem yields_name : Yields IsNameText name := by
  refine yields_peek.bind fun token htoken => ?_
  split
  · next hlexeme =>
    rw [hlexeme] at htoken
    exact .after keeps_advance fun _ => .pure htoken
  · exact yields_refuseAt token _

theorem yields_label : Yields Label.IsWord label := yields_name.map fun text h => ⟨text, rfl, h⟩

/-- A name in a place where none has to stand. -/
theorem yields_maybeLabel :
    Yields (fun found => ∀ label ∈ found, label.IsWord) (some <$> label) :=
  yields_label.map fun _ h _ he => Option.some.inj he ▸ h

/-! ## Repetition -/

theorem yields_itemsUntil {item : Rule α} (h : Yields P item) (close : Punctuator) (rounds : Nat) :
    Yields (fun items => ∀ a ∈ items, P a) (itemsUntil item close rounds) := by
  induction rounds with
  | zero => exact .pure fun _ ha => nomatch ha
  | succ rounds ih =>
    refine .after (keeps_accept close) fun closed => ?_
    split
    · exact .pure fun _ ha => nomatch ha
    · refine h.bind fun first hfirst => ih.bind fun rest hrest => .pure ?_
      exact List.forall_mem_cons.mpr ⟨hfirst, hrest⟩

theorem yields_anyBetween {item : Rule α} (h : Yields P item) (open' close : Punctuator) :
    Yields (fun items => ∀ a ∈ items, P a) (anyBetween open' item close) :=
  .after (keeps_expect open') fun _ => .after keeps_get fun source =>
    yields_itemsUntil h close source.count

theorem yields_someBetween {item : Rule α} (h : Yields P item) (open' close : Punctuator) :
    Yields (fun items => ∀ a ∈ items, P a) (someBetween open' item close) := by
  refine .after (keeps_expect open') fun _ => h.bind fun first hfirst => ?_
  refine .after keeps_get fun source => ?_
  refine (yields_itemsUntil h close source.count).bind fun rest hrest => .pure ?_
  exact List.forall_mem_cons.mpr ⟨hfirst, hrest⟩

theorem yields_optionalBetween {item : Rule α} (h : Yields P item) (open' close : Punctuator) :
    Yields (fun items => ∀ a ∈ items, P a) (optionalBetween open' item close) := by
  refine .after (keeps_isAt open') fun opens => ?_
  split
  · exact yields_someBetween h open' close
  · exact .pure fun _ ha => nomatch ha

theorem keeps_separatedBy (mark : Punctuator) {item : Rule α} (h : Keeps item) :
    Keeps (separatedBy mark item) := by
  have hitems (rounds : Nat) : Keeps (itemsAfter mark item rounds) := by
    induction rounds with
    | zero => exact .pure trivial
    | succ rounds ih =>
      refine .after (keeps_accept mark) fun found => .ite ?_ (.pure trivial)
      exact .after h fun _ => .after ih fun _ => .pure trivial
  refine .after (keeps_accept mark) fun _ => .after h fun _ => .after keeps_get fun source => ?_
  exact .after (hitems source.count) fun _ => .pure trivial

theorem keeps_itemsAt (mark : Punctuator) {item : Rule α} (h : Keeps item) (rounds : Nat) :
    Keeps (itemsAt mark item rounds) := by
  induction rounds with
  | zero => exact .pure trivial
  | succ rounds ih =>
    refine .after (keeps_isAt mark) fun found => .ite ?_ (.pure trivial)
    exact .after h fun _ => .after ih fun _ => .pure trivial

/-! ## Values -/

theorem yields_variableValue (constant : Bool) :
    Yields Value.Worded (variableValue constant) := by
  refine .after yields_peek.keeps fun start => .after (keeps_expect .dollar) fun _ => .ite ?_ ?_
  · refine .after yields_peek.keeps fun token => ?_
    split
    · exact yields_refuseAt start _
    · exact yields_unexpected start
  · exact yields_name.bind fun text h => .pure ⟨⟨text, rfl, h.ne_empty⟩,
      fun _ he => Value.variable.inj he ▸ ⟨text, rfl, h⟩⟩

theorem yields_simpleValue (constant : Bool) : Yields Value.Worded (simpleValue constant) := by
  refine yields_peek.bind fun token htoken => ?_
  have htaken {value : Value} (h : value.Grammatical) (hplain : ∀ name, value ≠ .variable name) :
      Yields Value.Worded (do
        advance
        return value) :=
    .after keeps_advance fun _ => .pure ⟨h, fun name he => absurd he (hplain name)⟩
  split
  · next text hlexeme =>
    rw [hlexeme] at htoken
    exact htaken htoken fun _ he => nomatch he
  · next text hlexeme =>
    rw [hlexeme] at htoken
    exact htaken htoken fun _ he => nomatch he
  all_goals first
    | exact yields_variableValue constant
    | exact yields_unexpected token
    | exact htaken trivial fun _ he => nomatch he

theorem yields_value (constant : Bool) (room : Nat) :
    Yields Value.Worded (value constant room) := by
  -- what stands inside a list or an object plays no part in how it is written
  induction room with
  | zero =>
    refine .after yields_peek.keeps fun token => ?_
    split
    · exact yields_refuseAt token _
    · exact yields_refuseAt token _
    · exact yields_simpleValue constant
  | succ room ih =>
    refine .after yields_peek.keeps fun token => ?_
    split
    · exact .after (yields_anyBetween ih _ _).keeps fun _ =>
        .pure ⟨trivial, fun _ he => nomatch he⟩
    · have hfield : Keeps (objectField (value constant room)) :=
        .after yields_name.keeps fun _ => .after (keeps_expect .colon) fun _ =>
          .after ih.keeps fun _ => .pure trivial
      exact .after (yields_anyBetween hfield _ _).keeps fun _ =>
        .pure ⟨trivial, fun _ he => nomatch he⟩
    · exact yields_simpleValue constant

theorem yields_argument (constant : Bool) (room : Nat) :
    Yields Argument.Worded (argument constant room) :=
  yields_name.bind fun argumentName hname => .after (keeps_expect .colon) fun _ =>
    (yields_value constant room).bind fun _ hvalue => .pure ⟨⟨argumentName, rfl, hname⟩, hvalue⟩

theorem yields_arguments (constant : Bool) (room : Nat) :
    Yields (fun passed => ∀ argument ∈ passed, argument.Worded) (arguments constant room) :=
  yields_optionalBetween (yields_argument constant room) _ _

theorem keeps_directives (constant : Bool) (room : Nat) : Keeps (directives constant room) := by
  have hdirective : Keeps (directive constant room) :=
    .after (keeps_expect .at) fun _ => .after yields_name.keeps fun _ =>
      .after (yields_arguments constant room).keeps fun _ => .pure trivial
  exact .after keeps_get fun source => keeps_itemsAt .at hdirective source.count

theorem keeps_constantDirectives : Keeps constantDirectives := keeps_directives true depthLimit

/-! ## Types -/

/-- A type to which a mark that excludes null may be put. -/
def TakesMark (type : TypeRef) : Prop := type.Grammatical ∧ ∀ inner, type ≠ .nonNull inner

theorem yields_nonNullMark {type : TypeRef} (h : TakesMark type) :
    Yields TypeRef.Grammatical (nonNullMark type) := by
  refine .after (keeps_accept .bang) fun marked => .ite (.pure ?_) (.pure h.1)
  cases type with
  | nonNull inner => exact absurd rfl (h.2 inner)
  | _ => exact h.1

theorem yields_typeRef (room : Nat) : Yields TypeRef.Grammatical (typeRef room) := by
  have hnamed : Yields TypeRef.Grammatical (do nonNullMark (.named (← name))) :=
    yields_name.bind fun text h =>
      yields_nonNullMark ⟨⟨text, rfl, h.ne_empty⟩, fun _ he => nomatch he⟩
  -- a mark is put to a name or a list only, so never to another mark
  induction room with
  | zero =>
    refine .after (keeps_accept .bracketOpen) fun opens => .ite ?_ hnamed
    exact .after yields_peek.keeps fun token => yields_refuseAt token _
  | succ room ih =>
    refine .after (keeps_accept .bracketOpen) fun opens => .ite ?_ hnamed
    refine ih.bind fun item hitem => .after (keeps_expect .bracketClose) fun _ => ?_
    exact yields_nonNullMark ⟨hitem, fun _ he => nomatch he⟩

/-! ## Selections -/

theorem yields_fragmentName : Yields IsNameText fragmentName :=
  .after yields_peek.keeps fun token => .ite (yields_unexpected token) yields_name

theorem yields_fragment (room : Nat) {selectionSet : Rule (List Selection)}
    (h : Keeps selectionSet) : Yields Selection.Worded (fragment room selectionSet) := by
  have hinline (condition : Option Label) (hcondition : ∀ type ∈ condition, type.IsWord) :
      Yields Selection.Worded (do
        let marks ← directives false room
        return .inlineFragment condition marks (← selectionSet)) :=
    .after (keeps_directives false room) fun _ => .after h fun _ => .pure (.inlineFragment hcondition)
  refine .after (keeps_expect .spread) fun _ => .after (keeps_acceptKeyword "on") fun _ => ?_
  refine .after keeps_isAtName fun _ => .ite ?_ ?_
  · exact yields_fragmentName.bind fun text htext => .after (keeps_directives false room) fun _ =>
      .pure (.fragmentSpread ⟨text, rfl, htext⟩)
  · exact .join yields_maybeLabel (.pure fun _ ht => nomatch ht) hinline

theorem yields_field {room : Nat} {selectionSet : Rule (List Selection)}
    (h : Yields (fun selections => ∀ selection ∈ selections, selection.Worded) selectionSet) :
    Yields Selection.Worded (field room selectionSet) := by
  have hsome : Yields (fun nested => ∀ selections, nested = some selections →
      ∀ selection ∈ selections, selection.Worded) (some <$> selectionSet) :=
    h.map fun selections hs _ he => Option.some.inj he ▸ hs
  have hnone : Yields (fun nested : Option (List Selection) => ∀ selections,
      nested = some selections → ∀ selection ∈ selections, selection.Worded) (pure none) :=
    .pure fun _ he => nomatch he
  have hrest {alias? : Option (Readable Label)} (halias : ∀ place, alias? = some place →
      ∃ label, place = .ok label ∧ label.IsWord) (fieldName : String)
      (hname : IsNameText fieldName) : Yields Selection.Worded (do
        let passed ← arguments false room
        let marks ← directives false room
        let nested ← if ← isAt .braceOpen then some <$> selectionSet else pure none
        return .field alias? fieldName passed marks nested) := by
    refine (yields_arguments false room).bind fun passed hpassed => ?_
    refine .after (keeps_directives false room) fun _ => .after (keeps_isAt .braceOpen) fun _ => ?_
    refine .join hsome hnone fun nested hs => .pure ?_
    exact .field halias ⟨fieldName, rfl, hname⟩ hpassed hs
  refine yields_name.bind fun first hfirst => .after (keeps_accept .colon) fun aliased => ?_
  -- the first name is the alias when a colon comes behind it
  refine .join yields_name (.pure hfirst) fun fieldName hname => hrest (fun place he => ?_) _ hname
  cases aliased with
  | false => cases he
  | true => exact ⟨first, (Option.some.inj he).symm, first, rfl, hfirst⟩

theorem yields_selectionSet (room : Nat) :
    Yields (fun selections => ∀ selection ∈ selections, selection.Worded) (selectionSet room) := by
  induction room with
  | zero => exact .after yields_peek.keeps fun token => yields_refuseAt token _
  | succ room ih =>
    refine yields_someBetween ?_ _ _
    exact .after (keeps_isAt .spread) fun _ =>
      .ite (yields_fragment room ih.keeps) (yields_field ih)

/-! ## Operations and fragments -/

theorem yields_description : Yields SaysText description := by
  refine .after yields_peek.keeps fun token => ?_
  split
  · exact .after keeps_advance fun _ => .pure (saysText_some _)
  · exact .after keeps_advance fun _ => .pure (saysText_some _)
  · exact .pure saysText_none

theorem keeps_operationType : Keeps operationType := by
  refine .after yields_peek.keeps fun token => .after yields_name.keeps fun word => ?_
  split
  · exact .pure trivial
  · exact yields_unexpected token

theorem yields_variableDefinition : Yields VariableDefinition.Worded variableDefinition := by
  refine .after yields_description.keeps fun _ => .after (keeps_expect .dollar) fun _ => ?_
  refine yields_name.bind fun variableName hname => .after (keeps_expect .colon) fun _ => ?_
  refine (yields_typeRef depthLimit).bind fun type htype => ?_
  refine .after (keeps_accept .equals) fun _ => ?_
  have hsome : Yields (fun default? => ∀ value ∈ default?, value.Grammatical)
      (some <$> constantValue) :=
    (yields_value true depthLimit).map fun value h _ he => Option.some.inj he ▸ h.1
  have hnone : Yields (fun default? : Option Value => ∀ value ∈ default?, value.Grammatical)
      (pure none) := .pure fun _ he => nomatch he
  exact .join hsome hnone fun default? hdefault => .after keeps_constantDirectives fun _ =>
    .pure ⟨⟨⟨variableName, rfl, hname.ne_empty⟩, htype, hdefault⟩, variableName, rfl, hname⟩

theorem yields_operation : Yields Definition.Worded operation := by
  refine .after (keeps_isAt .braceOpen) fun shorthand => .ite ?_ ?_
  · refine (yields_selectionSet depthLimit).bind fun selections hs => .pure ?_
    exact ⟨maybeWord_none, fun _ h => (nomatch h), hs⟩
  · refine .after yields_description.keeps fun _ => .after keeps_operationType fun type => ?_
    refine .after keeps_isAtName fun named => ?_
    refine .join yields_maybeLabel (.pure fun _ he => nomatch he) fun operationName hname => ?_
    refine (yields_optionalBetween yields_variableDefinition _ _).bind fun declarations hd => ?_
    refine .after (keeps_directives false depthLimit) fun _ => ?_
    refine (yields_selectionSet depthLimit).bind fun selections hs => .pure ?_
    exact ⟨⟨operationName, rfl, hname⟩, hd, hs⟩

theorem yields_fragmentDefinition : Yields Definition.Worded fragmentDefinition := by
  refine .after yields_description.keeps fun _ => .after (keeps_expectKeyword _) fun _ => ?_
  refine yields_fragmentName.bind fun definedName hname => ?_
  refine .after (keeps_expectKeyword _) fun _ => ?_
  refine .after yields_name.keeps fun _ => .after (keeps_directives false depthLimit) fun _ => ?_
  exact .after (yields_selectionSet depthLimit).keeps fun _ => .pure (worded_other hname)

/-! ## Type system definitions -/

theorem keeps_rootOperation : Keeps rootOperation :=
  .after keeps_operationType fun _ => .after (keeps_expect .colon) fun _ =>
    .after yields_name.keeps fun _ => .pure trivial

theorem yields_inputValue : Yields FieldDefinition.Grammatical inputValue := by
  refine yields_description.bind fun text htext => yields_name.bind fun fieldName hname => ?_
  refine .after (keeps_expect .colon) fun _ => (yields_typeRef depthLimit).bind fun type htype => ?_
  have hrest : Yields FieldDefinition.Grammatical (do
      let _ ← constantDirectives
      return ⟨fieldName, type, text⟩) :=
    .after keeps_constantDirectives fun _ =>
      .pure ⟨⟨fieldName, rfl, hname.ne_empty⟩, htype, htext⟩
  refine .after (keeps_accept .equals) fun _ => .ite ?_ hrest
  exact .after (yields_value true depthLimit).keeps fun _ => hrest

theorem keeps_argumentDefinitions : Keeps argumentDefinitions :=
  (yields_optionalBetween yields_inputValue _ _).keeps

theorem yields_fieldDefinition : Yields FieldDefinition.Grammatical fieldDefinition := by
  refine yields_description.bind fun text htext => yields_name.bind fun fieldName hname => ?_
  refine .after keeps_argumentDefinitions fun _ => .after (keeps_expect .colon) fun _ => ?_
  refine (yields_typeRef depthLimit).bind fun type htype => ?_
  exact .after keeps_constantDirectives fun _ =>
    .pure ⟨⟨fieldName, rfl, hname.ne_empty⟩, htype, htext⟩

theorem yields_enumValue :
    Yields (fun value : Readable Label => ∃ label, value = .ok label ∧ label.IsName) enumValue := by
  refine .after yields_description.keeps fun _ => .after yields_peek.keeps fun token => ?_
  split
  · exact yields_refuseAt token _
  · exact yields_refuseAt token _
  · exact yields_refuseAt token _
  · exact yields_name.bind fun valueName hname => .after keeps_constantDirectives fun _ =>
      .pure ⟨.text valueName, rfl, valueName, rfl, hname.ne_empty⟩

theorem keeps_directiveLocation : Keeps directiveLocation :=
  .after yields_peek.keeps fun token => .after yields_name.keeps fun _ =>
    .ite (.pure trivial) (yields_unexpected token)

theorem yields_fieldedContent (hasInterfaces : Bool) {item : Rule FieldDefinition}
    (h : Yields FieldDefinition.Grammatical item) :
    Yields (fun content : List FieldDefinition × Bool => ∀ field ∈ content.1, field.Grammatical)
      (fieldedContent hasInterfaces item) := by
  have himplemented : Keeps implemented := .after (keeps_acceptKeyword _) fun _ =>
    .ite (keeps_separatedBy _ yields_name.keeps) (.pure trivial)
  refine .join himplemented (.pure trivial) fun interfaces _ => ?_
  exact .after keeps_constantDirectives fun _ => (yields_optionalBetween h _ _).bind fun _ hf =>
    .pure hf

theorem keeps_unionContent : Keeps unionContent := by
  have hmembers : Keeps unionMembers := .after (keeps_accept .equals) fun _ =>
    .ite (keeps_separatedBy _ yields_name.keeps) (.pure trivial)
  exact .after keeps_constantDirectives fun _ => .after hmembers fun _ => .pure trivial

theorem yields_enumContent :
    Yields (fun content : List (Readable Label) × Bool =>
      ∀ value ∈ content.1, ∃ label, value = .ok label ∧ label.IsName) enumContent :=
  .after keeps_constantDirectives fun _ =>
    (yields_optionalBetween yields_enumValue _ _).bind fun _ hv => .pure hv

theorem yields_schemaDefinition : Yields Definition.Worded schemaDefinition := by
  refine .after yields_description.keeps fun _ => .after (keeps_expectKeyword _) fun _ => ?_
  refine .after keeps_constantDirectives fun _ => ?_
  exact .after (yields_someBetween keeps_rootOperation _ _).keeps fun _ => .pure ⟨maybeNamed_none, maybeWord_none⟩

theorem yields_scalarDefinition : Yields Definition.Worded scalarDefinition := by
  refine .after yields_description.keeps fun _ => .after (keeps_expectKeyword _) fun _ => ?_
  refine yields_name.bind fun typeName hname => .after keeps_constantDirectives fun _ => ?_
  exact .pure (worded_other hname)

theorem yields_fieldedDefinition (word : String) (kind : FieldedKind) (hasInterfaces : Bool)
    {item : Rule FieldDefinition} (h : Yields FieldDefinition.Grammatical item) :
    Yields Definition.Worded (fieldedDefinition word kind hasInterfaces item) := by
  refine yields_description.bind fun text htext => .after (keeps_expectKeyword word) fun _ => ?_
  refine yields_name.bind fun typeName hname => ?_
  refine (yields_fieldedContent hasInterfaces h).bind fun content hfields => .pure ?_
  exact ⟨⟨named_of_ne hname.ne_empty, htext, hfields⟩, maybeWord_named hname⟩

theorem yields_unionDefinition : Yields Definition.Worded unionDefinition := by
  refine .after yields_description.keeps fun _ => .after (keeps_expectKeyword _) fun _ => ?_
  refine yields_name.bind fun typeName hname => .after keeps_unionContent fun _ => ?_
  exact .pure (worded_other hname)

theorem yields_enumDefinition : Yields Definition.Worded enumDefinition := by
  refine yields_description.bind fun text htext => .after (keeps_expectKeyword _) fun _ => ?_
  refine yields_name.bind fun typeName hname => yields_enumContent.bind fun content hvalues => ?_
  exact .pure ⟨⟨named_of_ne hname.ne_empty, htext, hvalues⟩, maybeWord_named hname⟩

theorem yields_directiveDefinition : Yields Definition.Worded directiveDefinition := by
  refine .after yields_description.keeps fun _ => .after (keeps_expectKeyword _) fun _ => ?_
  refine .after (keeps_expect .at) fun _ => yields_name.bind fun directiveName hname => ?_
  refine .after keeps_argumentDefinitions fun _ => .after (keeps_acceptKeyword _) fun _ => ?_
  refine .after (keeps_expectKeyword _) fun _ => ?_
  refine .after (keeps_separatedBy _ keeps_directiveLocation) fun _ => ?_
  exact .pure (worded_other hname)

theorem keeps_requireContent (present : Bool) : Keeps (requireContent present) :=
  .ite (.pure trivial) (.after yields_peek.keeps fun token => yields_unexpected token)

theorem yields_schemaExtension : Yields Definition.Worded schemaExtension := by
  refine .after keeps_advance fun _ => .after keeps_constantDirectives fun _ => ?_
  refine .after (yields_optionalBetween keeps_rootOperation _ _).keeps fun _ => ?_
  exact .after (keeps_requireContent _) fun _ => .pure ⟨maybeNamed_none, maybeWord_none⟩

theorem yields_typeExtension (kind : NodeKind) {content : Rule Bool} (h : Keeps content) :
    Yields Definition.Worded (typeExtension kind content) :=
  .after keeps_advance fun _ => yields_name.bind fun _ hname => .after h fun _ =>
    .after (keeps_requireContent _) fun _ => .pure (worded_other hname)

theorem yields_extensionDefinition : Yields Definition.Worded extensionDefinition := by
  refine .after keeps_peekNext fun keyword => ?_
  have hfielded (hasInterfaces : Bool) {item : Rule FieldDefinition}
      (h : Yields FieldDefinition.Grammatical item) :
      Keeps (do return (← fieldedContent hasInterfaces item).2) :=
    .after (yields_fieldedContent hasInterfaces h).keeps fun _ => .pure trivial
  have hmarks : Keeps (do return !(← constantDirectives).isEmpty) :=
    .after keeps_constantDirectives fun _ => .pure trivial
  have henum : Keeps (do return (← enumContent).2) :=
    .after yields_enumContent.keeps fun _ => .pure trivial
  have hbehind {rule : Rule Definition} (h : Yields Definition.Worded rule) :
      Yields Definition.Worded (do
        expectKeyword "extend"
        rule) :=
    .after (keeps_expectKeyword _) fun _ => h
  -- one case for each keyword, in the order of the grammar
  split
  · exact hbehind yields_schemaExtension
  · exact hbehind (yields_typeExtension _ hmarks)
  · exact hbehind (yields_typeExtension _ (hfielded true yields_fieldDefinition))
  · exact hbehind (yields_typeExtension _ (hfielded true yields_fieldDefinition))
  · exact hbehind (yields_typeExtension _ keeps_unionContent)
  · exact hbehind (yields_typeExtension _ henum)
  · exact hbehind (yields_typeExtension _ (hfielded false yields_inputValue))
  · exact yields_unexpected keyword

/-! ## Documents -/

/-- The names in every definition that the grammar yields are words. -/
theorem yields_definition : Yields Definition.Worded definition := by
  refine .after yields_peek.keeps fun start => ?_
  refine .join keeps_peekNext (.pure trivial) fun keyword _ => ?_
  dsimp only
  -- one case for each keyword, in the order of the grammar
  split
  · exact .ite (yields_refuseAt start _) yields_operation
  · exact yields_operation
  · exact yields_operation
  · exact yields_operation
  · exact yields_fragmentDefinition
  · exact yields_schemaDefinition
  · exact yields_scalarDefinition
  · exact yields_fieldedDefinition _ _ _ yields_fieldDefinition
  · exact yields_fieldedDefinition _ _ _ yields_fieldDefinition
  · exact yields_unionDefinition
  · exact yields_enumDefinition
  · exact yields_fieldedDefinition _ _ _ yields_inputValue
  · exact yields_directiveDefinition
  · refine .ite (yields_refuseAt start _) ?_
    exact .ite yields_extensionDefinition (yields_unexpected keyword)
  · exact yields_unexpected keyword

theorem yields_document :
    Yields (fun definitions => ∀ d ∈ definitions, d.Worded) document := by
  have huntilEnd (rounds : Nat) :
      Yields (fun definitions => ∀ d ∈ definitions, d.Worded)
        (definitionsUntilEnd rounds) := by
    induction rounds with
    | zero => exact .pure fun _ h => nomatch h
    | succ rounds ih =>
      refine .after yields_peek.keeps fun token => .ite (.pure fun _ h => nomatch h) ?_
      refine yields_definition.bind fun first hfirst => ih.bind fun rest hrest => .pure ?_
      exact List.forall_mem_cons.mpr ⟨hfirst, hrest⟩
  refine yields_definition.bind fun first hfirst => .after keeps_get fun source => ?_
  refine (huntilEnd source.count).bind fun rest hrest => .pure ?_
  exact List.forall_mem_cons.mpr ⟨hfirst, hrest⟩

end Grammar

/-- The names in the definitions of a text are words. -/
theorem worded_ofText {text : String} {definitions : Document}
    (h : Document.ofText text = .ok definitions) :
    ∀ definition ∈ definitions, definition.Worded := by
  obtain ⟨⟨found, next⟩, hrun, rfl⟩ := Outcome.map_eq_ok.mp h
  exact (Grammar.yields_document _ (wellFormed_ofText text) found next hrun).1

end QuerySchema.GraphQL
