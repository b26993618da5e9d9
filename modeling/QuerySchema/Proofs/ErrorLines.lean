import QuerySchema.CommandLine.Run
import QuerySchema.Proofs.CheckVerdicts

/-!
The lines of the error stream.

On the error stream stand messages, each with a line end behind it. Its lines are those of the messages
in order, and a message is a single line unless it holds a line end itself. Nothing that is printable
does, and nothing between quotes, whatever text is quoted. It takes a text that is shown as it is, as
the path of a file is.

What is proved:
  1. `errorLines_eq_flatMap`: the lines of a run are those of its messages.
  2. `errorLines_eq_errorMessages`: messages that are one line each are the lines.
  3. `isOneLine_withoutSequences`: leaving out control sequences makes no further line.
  4. `isOneLine_repetitionText`: what is said about names that repeat is one line.
-/

namespace QuerySchema

open Text

/-! ## Texts of one line -/

/-- A text without a line end. -/
def IsOneLine (text : String) : Prop := '\n' ∉ text.toList

instance (text : String) : Decidable (IsOneLine text) := inferInstanceAs (Decidable (¬ _))

theorem isOneLine_append {a b : String} :
    IsOneLine (a ++ b) ↔ IsOneLine a ∧ IsOneLine b := by
  rw [IsOneLine, String.toList_append, List.mem_append, not_or]
  rfl

theorem IsPlainText.isOneLine {text : String} (h : IsPlainText text) : IsOneLine text :=
  fun hm => absurd (h _ hm) (by decide)

/-- A text of one line is its only line. -/
theorem linesOf_eq_singleton {text : String} (h : IsOneLine text) : linesOf text = [text] := by
  rw [linesOf, List.splitOn_eq_singleton h, List.map_singleton, String.ofList_toList]

theorem linesOf_append_lineEnd (message rest : String) :
    linesOf (message ++ "\n" ++ rest) = linesOf message ++ linesOf rest := by
  have hchars : (message ++ "\n" ++ rest).toList = message.toList ++ '\n' :: rest.toList := by
    simp only [String.toList_append, List.append_assoc]
    rfl
  rw [linesOf, hchars, List.splitOn_append_cons_self, List.map_append, ← linesOf, ← linesOf]

/-- Messages with a line end behind each have the lines of the messages, and nothing stands behind the
last line end. -/
theorem linesOf_join (messages : List String) :
    linesOf (String.join (messages.map (· ++ "\n"))) = messages.flatMap linesOf ++ [""] := by
  induction messages with
  | nil => rfl
  | cons message rest ih =>
    rw [List.map_cons, String.join_cons, linesOf_append_lineEnd, ih, List.flatMap_cons,
      List.append_assoc]

/-! ## Texts between quotes -/

theorem lineEnd_not_mem_quotedChar {quote : Char} (h : quote ≠ '\n') (c : Char) :
    '\n' ∉ quotedChar quote c := by
  have hescape (letter : Char) (hletter : Json.IsPlain letter) (width : Nat) :
      '\n' ∉ '\\' :: letter :: hexDigits width c.toNat := by
    have hplain : ∀ d ∈ '\\' :: letter :: hexDigits width c.toNat, Json.IsPlain d :=
      List.forall_mem_cons.mpr ⟨by decide, List.forall_mem_cons.mpr
        ⟨hletter, isPlain_hexDigits width _⟩⟩
    exact fun hm => absurd (hplain _ hm) (by decide)
  unfold quotedChar
  split
  · next hc =>
    -- what is marked with a backslash is a backslash or the quote itself
    rcases Bool.or_eq_true_iff.mp hc with hc | hc
    · rw [of_decide_eq_true hc]
      simp [h.symm]
    · rw [of_decide_eq_true hc]
      decide
  split
  · decide
  · next hc =>
    split
    · decide
    split
    · decide
    split
    · exact fun hm => hc (List.mem_singleton.mp hm).symm
    split
    · exact hescape 'x' (by decide) 2
    split
    · exact hescape 'u' (by decide) 4
    · exact hescape 'U' (by decide) 8

/-- A text between quotes is one line, whatever the text is. -/
theorem lineEnd_not_mem_quotedChars (cs : List Char) : '\n' ∉ quotedChars cs := by
  have hquote : quoteFor cs ≠ '\n' := by
    unfold quoteFor
    split <;> decide
  have hinner : '\n' ∉ cs.flatMap (quotedChar (quoteFor cs)) := fun hm => by
    obtain ⟨c, -, hc⟩ := List.mem_flatMap.mp hm
    exact lineEnd_not_mem_quotedChar hquote c hc
  simp [quotedChars, hquote.symm, hinner]

theorem lineEnd_not_mem_shownItems (names : List String) :
    '\n' ∉ Json.shownItems (names.map .string) := by
  induction names with
  | nil => exact List.not_mem_nil
  | cons first rest ih =>
    have hfirst := lineEnd_not_mem_quotedChars first.toList
    cases rest with
    | nil => exact hfirst
    | cons second rest =>
      have hbetween : '\n' ∉ quotedChars first.toList ++ [',', ' '] := by simp [hfirst]
      exact fun hm => (List.mem_append.mp hm).elim hbetween ih

/-- What is said about names that repeat is one line, whatever the names are. -/
theorem isOneLine_repetitionText (names : List String) :
    IsOneLine (Draft06.repetitionText names) := by
  refine isOneLine_append.mpr ⟨?_, by decide⟩
  have hitems := lineEnd_not_mem_shownItems names
  simp [IsOneLine, Json.display, Json.shown, hitems]

/-! ## Control sequences -/

theorem mem_of_mem_dropSequences {left : Nat} {cs : List Char} {c : Char}
    (h : c ∈ dropSequences left cs) : c ∈ cs := by
  fun_induction dropSequences left cs with
  | case1 => exact h
  | case2 left first rest ih => exact List.mem_cons_of_mem first (ih h)
  | case3 rest length hlength ih => exact List.mem_cons_of_mem _ (ih h)
  | case4 rest hnone ih =>
    exact (List.mem_cons.mp h).elim (· ▸ List.mem_cons_self) fun h => List.mem_cons_of_mem _ (ih h)
  | case5 first rest hfirst ih =>
    exact (List.mem_cons.mp h).elim (· ▸ List.mem_cons_self) fun h => List.mem_cons_of_mem _ (ih h)

/-- A text of one line stays one when control sequences are left out of it. -/
theorem isOneLine_withoutSequences {text : String} (h : IsOneLine text) :
    IsOneLine (withoutSequences text) := by
  rw [IsOneLine, withoutSequences, String.toList_ofList]
  exact fun hm => h (mem_of_mem_dropSequences hm)

/-! ## Runs -/

namespace CommandLine.Run

/-- The lines on the error stream are those of the messages. -/
theorem errorLines_eq_flatMap (run : Run Product) :
    run.errorLines = run.errorMessages.flatMap linesOf := by
  rw [errorLines, errorText, linesOf_join, List.dropLast_concat]

/-- Messages that are one line each are the lines on the error stream. -/
theorem errorLines_eq_errorMessages {run : Run Product}
    (h : ∀ message ∈ run.errorMessages, IsOneLine message) : run.errorLines = run.errorMessages := by
  rw [errorLines_eq_flatMap, List.flatMap_congr fun message hm => linesOf_eq_singleton (h message hm)]
  exact List.flatMap_singleton' _

end CommandLine.Run

end QuerySchema
