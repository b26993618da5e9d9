import QuerySchema.Proofs.DocumentMerge
import QuerySchema.Proofs.LastWrites
import QuerySchema.Proofs.SharedContext

/-!
A converter in use, and the registrations that were made on it.

A converter in use is a store: the configuration, in which registrations are made, and all that was
left behind by the conversions so far. What was left behind plays no part. After any requests the
registry is that of the built-in scalars with the accepted registrations written into it in turn,
and every reply is that of a converter on which nothing but these registrations were made.

What is proved:
  1. `outcome_convert`, `outcome_convertDocument`: a conversion in place yields what it yields for
     the configuration alone, and leaves the configuration as it was.
  2. `serve_converter`: a request is served as by the configuration alone; `Converter.serve_eq`: what
     one request does to it, and `serveAll_converter`: what any number of them have done.
  3. `serve_after_requests`: the registry and the replies after any requests.
-/

namespace QuerySchema.Schema

open GraphQL

/-! ## Conversions in place -/

namespace Building

variable {context : Nat} {scope : Scope}

theorem carriesOut_entry (converter : Converter) (definition : Definition) :
    CarriesOut (entry context definition) context converter.scope (converter.entry definition) := by
  cases definition with
  | operation operation => exact (carriesOut_operationEntry operation).map _
  | fielded type =>
    rw [Converter.entry, Build.ofExcept_map]
    exact (carriesOut_scalars fun scalars => Schema.typeEntry scalars type).map _
  | enum type =>
    rw [Converter.entry, Build.ofExcept_map]
    exact (CarriesOut.ofExcept (Schema.enumEntry type)).map _
  | other kind name => exact .fail _
  | flawed flaw => exact .fail _

theorem carriesOut_addEntry (converter : Converter) (document : SchemaDocument)
    (definition : Definition) :
    CarriesOut (addDefinition.addEntry context document definition) context converter.scope
      (Converter.addDefinition.addEntry converter document definition) :=
  (carriesOut_entry converter definition).bind fun found => .pure (document.add found.1 found.2)

theorem carriesOut_addDefinition (converter : Converter) (document : SchemaDocument)
    (definition : Definition) :
    CarriesOut (addDefinition context document definition) context converter.scope
      (converter.addDefinition document definition) := by
  -- a name that is taken is reported, and whatever else is found the entry is added
  have htaken (definition : Definition) (name : Label) : CarriesOut (do
      if name ≠ .nothing && document.isTaken name then
        report context (.duplicateDefinition name) [name]
        return document
      else addDefinition.addEntry context document definition) context converter.scope (do
      if name ≠ .nothing && document.isTaken name then
        Build.report (.duplicateDefinition name) [name]
        return document
      else Converter.addDefinition.addEntry converter document definition) := by
    refine .ite (fun _ => ?_) fun _ => carriesOut_addEntry converter document definition
    exact (CarriesOut.report _ _).bind fun _ => .pure document
  have hread (place : Readable (Option Label)) {f : Option Label → Building SchemaDocument}
      {g : Option Label → Build SchemaDocument}
      (hnone : CarriesOut (f none) context converter.scope (g none))
      (hsome : ∀ name, CarriesOut (f (some name)) context converter.scope (g (some name))) :
      CarriesOut (read .definition place >>= f) context converter.scope
        (Build.read .definition place >>= g) := by
    refine .bind (.read .definition place) fun found => ?_
    cases found with
    | none => exact hnone
    | some name => exact hsome name
  cases definition with
  | operation operation =>
    exact hread operation.name (carriesOut_addEntry converter document (.operation operation))
      (htaken _)
  | fielded type =>
    exact hread type.name (carriesOut_addEntry converter document (.fielded type)) (htaken _)
  | enum type =>
    exact hread type.name (carriesOut_addEntry converter document (.enum type)) (htaken _)
  | flawed flaw =>
    exact hread (.error flaw) (carriesOut_addEntry converter document (.flawed flaw)) (htaken _)
  | other kind name =>
    exact .bind (.read .definition name) fun found =>
      (CarriesOut.report _ _).bind fun _ => .pure document

theorem outcome_collecting (work : Nat → Building SchemaDocument) (store : Store) :
    (collecting work).outcome store =
      match (work store.contexts.length).outcome
        (store.addCollector.addContext ⟨none, [], store.collectors.length⟩) with
      | (.ok document, after) =>
        (.ok ⟨document, after.collectedAt (after.contextAt store.contexts.length).collector⟩, after)
      | (.error e, after) => (.error e, after) := by
  unfold collecting
  rw [outcome_bind]
  show (work store.contexts.length >>= fun document => collected store.contexts.length >>=
      fun reports => pure (Conversion.mk document reports)).outcome
    (store.addCollector.addContext ⟨none, [], store.collectors.length⟩) = _
  rw [outcome_bind]
  rcases (work store.contexts.length).outcome
    (store.addCollector.addContext ⟨none, [], store.collectors.length⟩) with ⟨_ | _, after⟩ <;> rfl

/-- Work in a new context yields what the build yields, and leaves the configuration alone. -/
theorem outcome_collecting_eq {work : Nat → Building SchemaDocument} {build : Build SchemaDocument}
    {store : Store}
    (hwork : ∀ context, CarriesOut (work context) context (.top store.layout store.scalars) build) :
    ((collecting work).outcome store).1 =
        build.result.map (fun document => ⟨document, build.reports⟩) ∧
      ((collecting work).outcome store).2.layout = store.layout ∧
      ((collecting work).outcome store).2.scalars = store.scalars := by
  -- the collector of the new context has collected nothing before
  have hosts : (store.addCollector.addContext ⟨none, [], store.collectors.length⟩).Hosts
      store.contexts.length (.top store.layout store.scalars) store.collectors.length :=
    ⟨List.getElem?_concat_length, rfl, rfl⟩
  obtain ⟨hresult, hgrows⟩ := hwork store.contexts.length _ _ hosts
  have hcontext := (hosts.grows hgrows).contextAt_eq
  rw [outcome_collecting, ← hresult]
  rcases hout : (work store.contexts.length).outcome
    (store.addCollector.addContext ⟨none, [], store.collectors.length⟩) with ⟨_ | document, after⟩
  · rw [hout] at hgrows
    exact ⟨rfl, hgrows.layout, hgrows.scalars⟩
  · rw [hout] at hgrows hcontext
    refine ⟨?_, hgrows.layout, hgrows.scalars⟩
    have hcollected : after.collectedAt (after.contextAt store.contexts.length).collector =
        build.reports := by
      rw [hcontext, Store.collectedAt, hgrows.collectors]
      show ((store.collectors ++ [[]]).modify store.collectors.length _)[store.collectors.length]?.getD
        [] = _
      simp
    show Except.ok (Conversion.mk document _) = Except.ok (Conversion.mk document _)
    rw [hcollected]

theorem outcome_convert (store : Store) (definition : Definition) :
    ((convert definition).outcome store).1 =
        Converter.convert ⟨store.layout, store.scalars⟩ definition ∧
      ((convert definition).outcome store).2.layout = store.layout ∧
      ((convert definition).outcome store).2.scalars = store.scalars := by
  let converter : Converter := ⟨store.layout, store.scalars⟩
  have hbuild : Converter.convert converter definition =
      (Converter.addDefinition.addEntry converter (.empty store.layout) definition).result.map
        fun document => ⟨document,
          (Converter.addDefinition.addEntry converter (.empty store.layout) definition).reports⟩ := by
    rw [Converter.addEntry_eq, Reported.result_map, Reported.reports_map, Converter.convert_eq]
    cases (converter.entry definition).result <;> rfl
  show _ = Converter.convert converter definition ∧ _
  rw [hbuild]
  refine outcome_collecting_eq fun context => .get fun other collector hosts => ?_
  rw [hosts.layout]
  exact carriesOut_addEntry converter (.empty store.layout) definition

theorem outcome_convertDocument (store : Store) (definitions : Document) :
    ((convertDocument definitions).outcome store).1 =
        Converter.convertDocument ⟨store.layout, store.scalars⟩ definitions ∧
      ((convertDocument definitions).outcome store).2.layout = store.layout ∧
      ((convertDocument definitions).outcome store).2.scalars = store.scalars := by
  let converter : Converter := ⟨store.layout, store.scalars⟩
  show _ = (converter.documentOf definitions).result.map
    (fun document => Conversion.mk document (converter.documentOf definitions).reports) ∧ _
  refine outcome_collecting_eq fun context => .get fun other collector hosts => ?_
  rw [hosts.layout]
  exact .foldlM (fun document definition => carriesOut_addDefinition converter document definition)
    (.empty store.layout)

end Building

/-! ## Requests -/

/-- The names of the types that a scalar can be mapped to. -/
def typeWords : List String :=
  ["array", "boolean", "integer", "null", "number", "object", "string"]

namespace Primitive

theorem text_mem_typeWords (type : Primitive) : type.text ∈ typeWords := by
  cases type <;> decide

theorem ofText?_isSome (word : String) : (ofText? word).isSome = true ↔ word ∈ typeWords := by
  unfold ofText?
  rw [List.find?_isSome]
  constructor
  · rintro ⟨type, -, hword⟩
    obtain rfl : type.text = word := eq_of_beq hword
    exact text_mem_typeWords type
  · intro hword
    have hmap : word ∈ all.map text := hword
    obtain ⟨type, hall, rfl⟩ := List.mem_map.mp hmap
    exact ⟨type, hall, beq_self_eq_true type.text⟩

theorem ofText?_text (type : Primitive) : ofText? type.text = some type := by
  cases type <;> decide

end Primitive

/-- The registration that a request asks for, when it names a type: a name and its type. -/
def Request.registration? : Request → Option (String × Primitive)
  | .register scalar type => (Primitive.ofText? type).map fun found => (scalar, found)
  | _ => none

theorem registration?_eq_none {request : Request}
    (h : ∀ scalar, ∀ type ∈ typeWords, request ≠ .register scalar type) :
    request.registration? = none := by
  cases request with
  | register scalar type =>
    have hword : ¬ (Primitive.ofText? type).isSome = true := fun hsome =>
      h scalar type ((Primitive.ofText?_isSome type).mp hsome) rfl
    rw [Request.registration?, Option.not_isSome_iff_eq_none.mp hword]
    rfl
  | get scalar => rfl
  | has scalar => rfl
  | schemaFor scalar => rfl
  | convert definition => rfl
  | convertDocument definitions => rfl

/-- The registrations among some requests that are accepted, in order. -/
def registrations (requests : List Request) : List (String × Primitive) :=
  requests.filterMap Request.registration?

/-- The requests that make some registrations in turn, and nothing else. -/
def replayed (registrations : List (String × Primitive)) : List Request :=
  registrations.map fun found => .register found.1 found.2.text

theorem registrations_replayed (accepted : List (String × Primitive)) :
    registrations (replayed accepted) = accepted := by
  have hone (found : String × Primitive) :
      (Request.register found.1 found.2.text).registration? = some found := by
    rw [Request.registration?, Primitive.ofText?_text]
    rfl
  rw [registrations, replayed, List.filterMap_map, Function.comp_def, funext hone]
  exact List.filterMap_some

/-- The built-in scalars with some registrations written over them in turn. -/
def overlaid (registrations : List (String × Primitive)) : Scalars :=
  ⟨registrations.foldl (fun known found => known.put found.1 found.2) Scalars.builtin.types⟩

/-- What a request does to a converter: a registration that is accepted maps its name, and nothing
else changes anything. -/
theorem Converter.serve_eq (converter : Converter) (request : Request) :
    (converter.serve request).1 = match request.registration? with
      | some found => ⟨converter.layout, ⟨converter.scalars.types.put found.1 found.2⟩⟩
      | none => converter := by
  cases request with
  | register scalar type =>
    simp only [serve, register, Scalars.register, Request.registration?]
    cases Primitive.ofText? type with
    | none => rfl
    | some found => rfl
  | get scalar => rfl
  | has scalar => rfl
  | schemaFor scalar => rfl
  | convert definition => rfl
  | convertDocument definitions => rfl

namespace Store

/-- A store as a converter: its configuration, without what was made under it. -/
def converter (store : Store) : Converter := ⟨store.layout, store.scalars⟩

/-- A request to a store is served as it is by the converter alone. -/
theorem serve_converter (store : Store) (request : Request) :
    (store.serve request).1.converter = (store.converter.serve request).1 ∧
      (store.serve request).2 = (store.converter.serve request).2 := by
  cases request with
  | register scalar type =>
    simp only [serve, register, Converter.serve, Converter.register, converter]
    cases store.scalars.register scalar type with
    | error e => exact ⟨rfl, rfl⟩
    | ok changed => exact ⟨rfl, rfl⟩
  | get scalar => exact ⟨rfl, rfl⟩
  | has scalar => exact ⟨rfl, rfl⟩
  | schemaFor scalar => exact ⟨rfl, rfl⟩
  | convert definition =>
    obtain ⟨hreply, hlayout, hscalars⟩ := Building.outcome_convert store definition
    exact ⟨congrArg₂ Converter.mk hlayout hscalars, congrArg Reply.conversion hreply⟩
  | convertDocument definitions =>
    obtain ⟨hreply, hlayout, hscalars⟩ := Building.outcome_convertDocument store definitions
    exact ⟨congrArg₂ Converter.mk hlayout hscalars, congrArg Reply.conversion hreply⟩

/-- What some requests in turn have done to the configuration. -/
theorem serveAll_converter (store : Store) (requests : List Request) :
    (store.serveAll requests).converter = ⟨store.layout, ⟨(registrations requests).foldl
      (fun known found => known.put found.1 found.2) store.scalars.types⟩⟩ := by
  induction requests generalizing store with
  | nil => rfl
  | cons request rest ih =>
    have hstep : (store.serve request).1.converter = _ :=
      (serve_converter store request).1.trans (store.converter.serve_eq request)
    show ((store.serve request).1.serveAll rest).converter = _
    rw [ih, registrations, registrations, List.filterMap_cons]
    cases hfound : request.registration? with
    | none =>
      rw [hfound] at hstep
      rw [show (store.serve request).1.layout = store.layout from congrArg Converter.layout hstep,
        show (store.serve request).1.scalars = store.scalars from congrArg Converter.scalars hstep]
    | some found =>
      rw [hfound] at hstep
      rw [show (store.serve request).1.layout = store.layout from congrArg Converter.layout hstep,
        show (store.serve request).1.scalars = ⟨store.scalars.types.put found.1 found.2⟩ from
          congrArg Converter.scalars hstep]
      rfl

theorem serveAll_new (layout : Layout) (requests : List Request) :
    ((new layout .builtin).serveAll requests).converter =
      ⟨layout, overlaid (registrations requests)⟩ :=
  serveAll_converter (new layout .builtin) requests

/-- A registration is accepted just when it names a type, and nothing is changed when it is not. -/
theorem serve_register (store : Store) (scalar type : String) :
    (type ∈ typeWords → (store.serve (.register scalar type)).2 = .registered (.ok ())) ∧
      (type ∉ typeWords → store.serve (.register scalar type) =
        (store, .registered (.error ⟨type, scalar⟩))) := by
  simp only [serve, register, Scalars.register]
  have hword := Primitive.ofText?_isSome type
  cases hfound : Primitive.ofText? type with
  | none =>
    rw [hfound] at hword
    exact ⟨fun h => absurd (hword.mpr h) Bool.false_ne_true, fun _ => rfl⟩
  | some found =>
    rw [hfound] at hword
    exact ⟨fun _ => rfl, fun h => absurd (hword.mp rfl) h⟩

/-- A converter behaves like the registrations that were accepted by it. After any requests, of
which any may have failed, the registry is that of the built-in scalars with these registrations
written over them in turn, so the last one of a name counts. The four ways to look a name up agree,
and what they find is one of the seven types. A further request changes the registry only if it is
a registration that is accepted, that is, one that names such a type. The reply to it is that of a
new converter on which nothing but the accepted registrations were made before. -/
theorem serve_after_requests (layout : Layout) (before : List Request) (next : Request) :
    let store := (new layout .builtin).serveAll before
    store.layout = layout ∧ store.scalars = overlaid (registrations before) ∧
    (∀ name, store.scalars.get? name =
      (Keyed.lastValue? (registrations before) name).or (Scalars.builtin.get? name)) ∧
    (∀ name, ∃ found, store.serve (.get name) = (store, .type found) ∧
      (∀ type ∈ found, type.text ∈ typeWords) ∧
      store.serve (.has name) = (store, .known found.isSome) ∧
      (name ∈ store.scalars.types.keys ↔ found.isSome = true) ∧
      store.serve (.schemaFor name) =
        (store, .schema (found.map fun type => .object [("type", .string type.text)]))) ∧
    (∀ scalar type, (type ∈ typeWords →
        (store.serve (.register scalar type)).2 = .registered (.ok ())) ∧
      (type ∉ typeWords →
        store.serve (.register scalar type) = (store, .registered (.error ⟨type, scalar⟩)))) ∧
    ((∀ scalar, ∀ type ∈ typeWords, next ≠ .register scalar type) →
      (store.serve next).1.scalars = store.scalars) ∧
    (store.serve next).2 =
      (((new layout .builtin).serveAll (replayed (registrations before))).serve next).2 := by
  intro store
  have hconverter : store.converter = ⟨layout, overlaid (registrations before)⟩ :=
    serveAll_new layout before
  have hscalars : store.scalars = overlaid (registrations before) :=
    congrArg Converter.scalars hconverter
  refine ⟨congrArg Converter.layout hconverter, hscalars, fun name => ?_, fun name => ?_,
    store.serve_register, fun hnext => ?_, ?_⟩
  · show store.scalars.types.get? name = _
    rw [hscalars]
    exact Keyed.get?_foldl_put_eq _ _ name
  · refine ⟨store.scalars.get? name, rfl, fun type _ => type.text_mem_typeWords, rfl, ?_, ?_⟩
    · exact (Keyed.contains_iff_mem_keys store.scalars.types name).symm
    · show (store, Reply.schema (Option.map _ (Option.map _ _))) = _
      rw [Option.map_map]
      rfl
  · have hnone : next.registration? = none := registration?_eq_none hnext
    have hstep := (serve_converter store next).1.trans (store.converter.serve_eq next)
    rw [hnone] at hstep
    exact congrArg Converter.scalars hstep
  -- replaying the accepted registrations gives an equal converter, and a reply depends on no more
  · rw [(serve_converter store next).2, (serve_converter _ next).2, hconverter, serveAll_new,
      registrations_replayed]

/-- Registrations, one of which names no type, around a conversion that fails. -/
def troubledRequests : List Request :=
  [.register "Long" "decimal", .register "Int" "integer",
    .convertDocument [.operation ⟨some .query, .ok none, none, [], none⟩],
    .register "Int" "string", .register "Long" "integer"]

/-- The registrations that were accepted are what is left of all that. -/
theorem serve_after_troubledRequests :
    let store := (new .properties .builtin).serveAll troubledRequests
    registrations troubledRequests = [("Int", .integer), ("Int", .string), ("Long", .integer)] ∧
    store.scalars.get? "Int" = some .string ∧ store.scalars.get? "ID" = some .string ∧
    ∀ definition, (store.serve (.convert definition)).2 =
      (((new .properties .builtin).serveAll [.register "Int" "integer", .register "Int" "string",
        .register "Long" "integer"]).serve (.convert definition)).2 := by
  intro store
  have hlook := (serve_after_requests .properties troubledRequests (.get "Int")).2.2.1
  refine ⟨rfl, (hlook "Int").trans (by decide), (hlook "ID").trans (by decide), ?_⟩
  intro definition
  have hreply := serve_after_requests .properties troubledRequests (.convert definition)
  exact hreply.2.2.2.2.2.2

end Store

end QuerySchema.Schema
