import QuerySchema.Proofs.ArgumentReferences
import QuerySchema.Proofs.ParsedNames

/-!
Converting a document that was read from text.

Trees put together by hand can have types without a name, and such types replace one another. In a
document that was read from text every definition with an entry has a name of its own, so the
converted document holds exactly the entries of the attempted definitions, one for each.

What is proved:
  1. `entry_of_attempted`: an attempted definition of a converted document has an entry under its
     name.
  2. `entries_of_spelled`: where all names are texts, these entries in order are the document.
-/

namespace QuerySchema.Schema.Converter

open GraphQL

variable {converter : Converter} {definitions : Document} {c : Conversion}

/-- An attempted definition of a converted document has an entry, which stands under its name. -/
theorem entry_of_attempted (h : converter.convertDocument definitions = .ok c)
    {definition : Definition} (hd : definition ∈ attempted definitions) :
    ∃ name entry reports, converter.entry definition = ⟨reports, .ok (name, entry)⟩ ∧
      converter.entriesOf definition = [(name, entry)] := by
  obtain ⟨conversions, hc, -⟩ := convertDocument_ok h
  obtain ⟨conversion, -, hconv⟩ := Outcome.exists_of_mapM hc definition hd
  obtain ⟨name, entry, hentry, -⟩ := convert_eq_ok hconv
  exact ⟨name, entry, _, hentry, entriesOf_of_entry hentry⟩

theorem isText_of_entry {definition : Definition} (hs : definition.Spelled) {name : Label}
    {entry : Entry} {reports : List Diagnostic}
    (h : converter.entry definition = ⟨reports, .ok (name, entry)⟩) : name.IsText := by
  obtain ⟨hname, -, hmodelled⟩ := entry_eq_ok h
  have hsays : SaysText definition.name := by
    cases definition with
    | operation operation => exact hs.1
    | fielded type => exact hs.1
    | enum type => exact hs.1
    | other kind name => cases hmodelled
    | flawed flaw => cases hmodelled
  exact saysText_eq_ok hsays hname name rfl

/-- Where all names are texts, a converted document holds the entries of its attempted definitions
and nothing else, each under a name of its own. -/
theorem entries_of_spelled (hs : ∀ definition ∈ definitions, definition.Spelled)
    (h : converter.convertDocument definitions = .ok c) :
    c.document.entries = (attempted definitions).flatMap converter.entriesOf ∧
      c.document.HasTextNames ∧ c.document.entries.keys.Nodup := by
  obtain ⟨conversions, hc, hdoc, hentries, -⟩ := convertDocument_ok h
  have htext : ∀ p ∈ (attempted definitions).flatMap converter.entriesOf, p.1.IsText := by
    intro p hp
    obtain ⟨definition, hd, hp⟩ := List.mem_flatMap.mp hp
    obtain ⟨name, entry, reports, hentry, heq⟩ := entry_of_attempted h hd
    rw [heq, List.mem_singleton] at hp
    rw [hp]
    exact isText_of_entry (hs definition (of_mem_attemptedOf hd).1) hentry
  have hnodup : (((attempted definitions).flatMap converter.entriesOf).map Prod.fst).Nodup := by
    rw [List.nodup_iff_pairwise_ne, List.pairwise_map]
    refine (entriesOf_distinct converter definitions).imp_of_mem fun {a b} ha _ hab he => ?_
    obtain ⟨text, hname⟩ := htext a ha
    rw [(hab he).1] at hname
    cases hname
  have hall : c.document.entries = (attempted definitions).flatMap converter.entriesOf := by
    rw [hdoc, write, hentries]
    exact Keyed.ofPairs_eq_self hnodup
  rw [hall]
  refine ⟨rfl, fun p hp => ?_, hnodup⟩
  rw [hall] at hp
  exact htext p hp

end QuerySchema.Schema.Converter
