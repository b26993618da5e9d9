import QuerySchema.Proofs.ParsedGrammar

/-!
The names in a document that was read from text.

A tree put together by hand can have anything in the place of a name. In a tree that the grammar
made every name and every description is a text, and no place is flawed where a selection belongs;
such a tree is `Spelled`. A document may be put together from the definitions of several texts.

What is proved:
  1. `Definition.Grammatical.spelled`: what follows the grammar is spelled.
  2. `ReadFromText.worded`: the names in a document that was read from text are words.
  3. `ReadFromText.grammatical`, `ReadFromText.spelled`: so its definitions follow the grammar, and
     they are spelled.
-/

namespace QuerySchema.GraphQL

/-! ## Trees in which all names are texts -/

/-- The names in a selection are texts, at any depth. -/
inductive Selection.Spelled : Selection → Prop where
  | field {alias? name arguments directives sub} (hname : name.IsText)
    (harguments : ∀ argument ∈ arguments, argument.name.IsText)
    (hsub : ∀ selections, sub = some selections → ∀ selection ∈ selections, selection.Spelled) :
    Spelled (.field alias? name arguments directives sub)
  | fragmentSpread {name directives} : Spelled (.fragmentSpread name directives)
  | inlineFragment {condition directives selections} :
    Spelled (.inlineFragment condition directives selections)

/-- The name and the description of a field of a type are texts. -/
def FieldDefinition.Spelled (field : FieldDefinition) : Prop :=
  field.name.IsText ∧ SaysText field.description

theorem Selection.spelled_field {alias? : Option (Readable Label)} {name : Label}
    {arguments : List Argument} {directives : List Directive} {sub : Option (List Selection)} :
    (Selection.field alias? name arguments directives sub).Spelled ↔
      name.IsText ∧ (∀ argument ∈ arguments, argument.name.IsText) ∧
        ∀ selections, sub = some selections → ∀ selection ∈ selections, selection.Spelled := by
  constructor
  · intro h
    cases h with
    | field hname harguments hsub => exact ⟨hname, harguments, hsub⟩
  · rintro ⟨hname, harguments, hsub⟩
    exact .field hname harguments hsub

/-- The names and descriptions in a definition are texts. -/
def Definition.Spelled : Definition → Prop
  | .operation o => SaysText o.name ∧ (∀ d ∈ o.declarations.getD [], d.name.IsText) ∧
      ∀ selection ∈ o.selectionSet.getD [], selection.Spelled
  | .fielded type => SaysText type.name ∧ SaysText type.description ∧
      ∀ field ∈ type.fields, field.Spelled
  | .enum type => SaysText type.name ∧ SaysText type.description
  | .other _ name => SaysText name
  | .flawed _ => False

theorem saysText_eq_ok {place : Readable (Option Label)} (h : SaysText place)
    {label? : Option Label} (hread : place = .ok label?) : ∀ label ∈ label?, label.IsText := by
  obtain ⟨found, hfound, htext⟩ := h
  rw [hread, Except.ok.injEq] at hfound
  rw [hfound]
  exact htext

/-- The names under which texts are written in a schema are the texts. -/
theorem map_json_of_isText (labels : List Label) (h : ∀ label ∈ labels, label.IsText) :
    ∃ texts : List String, labels = texts.map .text ∧
      labels.map Label.json = texts.map .string := by
  induction labels with
  | nil => exact ⟨[], rfl, rfl⟩
  | cons label rest ih =>
    obtain ⟨text, rfl⟩ := h label List.mem_cons_self
    obtain ⟨texts, rfl, hjson⟩ := ih fun other ho => h other (List.mem_cons_of_mem _ ho)
    exact ⟨text :: texts, rfl, by rw [List.map_cons, hjson]; rfl⟩

/-- Each definition of a document stands in some text. -/
def ReadFromText (definitions : Document) : Prop :=
  ∀ definition ∈ definitions, ∃ text parsed,
    Document.ofText text = .ok parsed ∧ definition ∈ parsed

/-! ## Trees that follow the grammar -/

theorem Label.IsName.isText {label : Label} (h : label.IsName) : label.IsText := by
  obtain ⟨text, rfl, -⟩ := h
  exact ⟨text, rfl⟩

theorem MaybeNamed.saysText {place : Readable (Option Label)} (h : MaybeNamed place) :
    SaysText place := by
  obtain ⟨label?, rfl, hname⟩ := h
  exact ⟨label?, rfl, fun label hl => (hname label hl).isText⟩

/-- A selection that follows the grammar is spelled, and so is what it selects. -/
theorem Selection.Grammatical.spelled {selection : Selection} (h : selection.Grammatical) :
    selection.Spelled := by
  induction h with
  | field halias hname harguments hsub ih =>
    exact .field hname.isText (fun argument ha => (harguments argument ha).1.isText) ih
  | fragmentSpread => exact .fragmentSpread
  | inlineFragment => exact .inlineFragment

/-- A definition that follows the grammar is spelled. -/
theorem Definition.Grammatical.spelled {definition : Definition} (h : definition.Grammatical) :
    definition.Spelled := by
  cases definition with
  | operation operation =>
    obtain ⟨hname, hdeclarations, hselections⟩ := h
    exact ⟨hname.saysText, fun d hd => (hdeclarations d hd).1.isText,
      fun selection hs => (hselections selection hs).spelled⟩
  | fielded type =>
    obtain ⟨hname, htext, hfields⟩ := h
    exact ⟨hname.maybeNamed.saysText, htext,
      fun field hf => ⟨(hfields field hf).1.isText, (hfields field hf).2.2⟩⟩
  | enum type => exact ⟨h.1.maybeNamed.saysText, h.2.1⟩
  | other kind name => exact MaybeNamed.saysText h
  | flawed flaw => exact h

/-- The names in a document that was read from text are words. -/
theorem ReadFromText.worded {definitions : Document} (h : ReadFromText definitions) :
    ∀ definition ∈ definitions, definition.Worded := by
  intro definition hd
  obtain ⟨text, parsed, hparsed, hmem⟩ := h definition hd
  exact worded_ofText hparsed definition hmem

/-- The definitions of a document that was read from text follow the grammar. -/
theorem ReadFromText.grammatical {definitions : Document} (h : ReadFromText definitions) :
    ∀ definition ∈ definitions, definition.Grammatical :=
  fun definition hd => (h.worded definition hd).grammatical

/-- The definitions of a document that was read from text are spelled. -/
theorem ReadFromText.spelled {definitions : Document} (h : ReadFromText definitions) :
    ∀ definition ∈ definitions, definition.Spelled :=
  fun definition hd => (h.grammatical definition hd).spelled

end QuerySchema.GraphQL
