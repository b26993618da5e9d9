/-!
Texts without control sequences.

A control sequence tells a terminal what to do: an escape character, an opening bracket, characters
from `0` to `?`, characters from the space to `/`, and one last character from `@` to `~`. Where a
text is printed to something else, its control sequences are left out.

What is stated here: `dropSequences_eq_self`, a text without any escape character stays as it is, and
`dropSequences_append`, so does the front of a text.
-/

namespace QuerySchema.Text

/-- The number of characters of a control sequence behind its bracket; none when they make no
control sequence. -/
def sequenceTail? : (inParameters : Bool) → List Char → Option Nat
  | _, [] => none
  | inParameters, c :: rest =>
    if inParameters && '0' ≤ c && c ≤ '?' then (sequenceTail? true rest).map (· + 1)
    else if ' ' ≤ c && c ≤ '/' then (sequenceTail? false rest).map (· + 1)
    else if '@' ≤ c && c ≤ '~' then some 1
    else none

/-- The number of characters of a control sequence behind the escape character that starts it. -/
def sequenceLength? : List Char → Option Nat
  | '[' :: rest => (sequenceTail? true rest).map (· + 1)
  | _ => none

/-- A text without its control sequences, after a number of characters that belong to one. -/
def dropSequences : (left : Nat) → List Char → List Char
  | _, [] => []
  | left + 1, _ :: rest => dropSequences left rest
  | 0, c :: rest =>
    if c = '\x1b' then
      match sequenceLength? rest with
      | some length => dropSequences length rest
      | none => c :: dropSequences 0 rest
    else c :: dropSequences 0 rest

/-- A text without its control sequences. -/
def withoutSequences (text : String) : String := String.ofList (dropSequences 0 text.toList)

/-- A text without any escape character stays as it is. -/
theorem dropSequences_eq_self (cs : List Char) (h : '\x1b' ∉ cs) : dropSequences 0 cs = cs := by
  induction cs with
  | nil => rfl
  | cons c rest ih =>
    simp only [List.mem_cons, not_or] at h
    have hc : c ≠ '\x1b' := fun e => h.1 e.symm
    simp [dropSequences, hc, ih h.2]

/-- The front of a text stays as it is when it has no escape character. -/
theorem dropSequences_append {front : List Char} (h : '\x1b' ∉ front) (rest : List Char) :
    dropSequences 0 (front ++ rest) = front ++ dropSequences 0 rest := by
  induction front with
  | nil => rfl
  | cons c front ih =>
    obtain ⟨hc, hfront⟩ := not_or.mp fun hm => h (List.mem_cons.mpr hm)
    rw [List.cons_append, dropSequences, if_neg (Ne.symm hc), ih hfront, List.cons_append]

end QuerySchema.Text
