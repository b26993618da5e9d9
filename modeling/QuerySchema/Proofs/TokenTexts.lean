import Mathlib.Data.List.TakeWhile
import QuerySchema.GraphQL.Lexing
import QuerySchema.Proofs.NumberText
import QuerySchema.Proofs.Outcomes

/-!
The texts of tokens.

A name that stands in a text has a character at least, and none that a name cannot hold. A number is
written as numbers are: its digits are not led by a zero, and it is an integer unless a fraction or
an exponent follows.

What is proved:
  1. `isWhole_of_wholePart`, `isFraction_of_fractionPart`, `isExponent_of_exponentPart`: each part
     that is read of a number is such a part.
  2. `wellFormed_of_number`, `wellFormed_of_token`: what is read as a token has the text of one.
  3. `wellFormed_ofText`: so has every token of a text, by induction on the tokens.
-/

namespace QuerySchema.GraphQL

open Decimal

/-- A text that can be a name: it is not empty and holds letters, digits and underscores only. -/
structure IsNameText (text : String) : Prop where
  ne_empty : text ≠ ""
  parts : ∀ c ∈ text.toList, Lexing.isNamePart c = true

/-- A lexeme has a text that its sort can have. -/
def Lexeme.WellFormed : Lexeme → Prop
  | .name text => IsNameText text
  | .int text => IsIntLiteral text
  | .float text => IsFloatLiteral text
  | _ => True

/-- All lexemes in a sequence of tokens have such texts. -/
def Tokens.WellFormed : Tokens → Prop
  | .last token => token.lexeme.WellFormed
  | .more token rest => token.lexeme.WellFormed ∧ rest.WellFormed
  | .refused _ => True

namespace Lexing

variable {p : Place} {cs found : List Char}

/-! ## The parts of a number -/

theorem digits_eq_ok (h : digits p cs = .ok found) :
    found = cs.takeWhile Char.isDigit ∧ IsDigits found := by
  unfold digits at h
  dsimp only at h
  split at h
  · cases h
  · next hne =>
    cases h
    exact ⟨rfl, fun hnil => hne (by rw [hnil]; rfl), fun c hc => List.mem_takeWhile_imp hc⟩

theorem isWhole_of_wholePart (h : wholePart p cs = .ok found) : IsWhole found := by
  unfold wholePart at h
  split at h
  · split at h
    · cases h
    · cases h
      exact ⟨⟨by simp, by simp [isDigit]⟩, fun rest he => (List.cons.inj he).2.symm⟩
  · next halone =>
    obtain ⟨htake, hdigits⟩ := digits_eq_ok h
    refine ⟨hdigits, fun rest he => ?_⟩
    -- a zero in front is the whole text
    rw [he] at htake
    cases cs with
    | nil => cases htake
    | cons c more =>
      cases more with
      | cons next more =>
        rw [List.takeWhile_cons] at htake
        split at htake
        · cases htake
          exact absurd rfl (halone _ _)
        · cases htake
      | nil =>
        rw [List.takeWhile_cons] at htake
        split at htake <;> cases htake
        rfl

theorem isFraction_of_fractionPart (h : fractionPart p cs = .ok found) :
    ∃ places, IsFraction found places := by
  unfold fractionPart at h
  split at h
  · obtain ⟨places, hplaces, rfl⟩ := Outcome.map_eq_ok.mp h
    exact ⟨places, .present (digits_eq_ok hplaces).2⟩
  · cases h
    exact ⟨[], .absent⟩

theorem isExponent_of_exponentPart (h : exponentPart p cs = .ok found) :
    ∃ value, IsExponent found value := by
  unfold exponentPart at h
  split at h
  · next mark rest =>
    split at h
    · next hmark =>
      have hmark : mark = 'e' ∨ mark = 'E' := by simpa using hmark
      have hunsigned {places : List Char} (hdigits : (digits (p.right 1) places).map (mark :: ·) =
          .ok found) : ∃ value, IsExponent found value := by
        obtain ⟨exponent, hexponent, rfl⟩ := Outcome.map_eq_ok.mp hdigits
        exact ⟨_, .present hmark .absent (digits_eq_ok hexponent).2⟩
      split at h
      · next sign more =>
        split at h
        · next hsign =>
          obtain ⟨exponent, hexponent, rfl⟩ := Outcome.map_eq_ok.mp h
          have hdigits := (digits_eq_ok hexponent).2
          rcases (by simpa using hsign : sign = '+' ∨ sign = '-') with rfl | rfl
          · exact ⟨_, .present hmark .plus hdigits⟩
          · exact ⟨_, .present hmark .minus hdigits⟩
        · exact hunsigned h
      · exact hunsigned h
    · cases h
      exact ⟨0, .absent⟩
  · cases h
    exact ⟨0, .absent⟩

/-! ## Tokens -/

/-- A number that is read is an integer, or it has a fraction or an exponent. -/
theorem wellFormed_of_number {read : Lexeme × List Char} (h : number p cs = .ok read) :
    read.1.WellFormed := by
  unfold number at h
  extract_lets sign at h
  obtain ⟨negative, hplus, hsign⟩ : ∃ negative, sign ≠ ['+'] ∧ IsSign sign negative := by
    dsimp only [sign]
    split
    · exact ⟨true, by decide, .minus⟩
    · exact ⟨false, by decide, .absent⟩
  obtain ⟨whole, hwhole, h⟩ := Outcome.bind_eq_ok.mp h
  obtain ⟨fraction, hfraction, h⟩ := Outcome.bind_eq_ok.mp h
  obtain ⟨exponent, hexponent, h⟩ := Outcome.bind_eq_ok.mp h
  have hw := isWhole_of_wholePart hwhole
  obtain ⟨places, hf⟩ := isFraction_of_fractionPart hfraction
  obtain ⟨value, he⟩ := isExponent_of_exponentPart hexponent
  extract_lets behind place text touches at h
  have htext : text.toList = sign ++ (whole ++ fraction ++ exponent) := by
    rw [String.toList_ofList, List.append_assoc, List.append_assoc, List.append_assoc]
  split at h
  · cases h
  -- what touches a name or a point is refused, and the rest is told by its parts
  · split at h
    · next hplain =>
      cases h
      obtain ⟨hpoint, hmark⟩ : fraction = [] ∧ exponent = [] := by simpa using hplain
      rw [hpoint, hmark, List.append_nil, List.append_nil] at htext
      exact ⟨sign, negative, whole, htext, hplus, hsign, hw⟩
    · next hparts =>
      cases h
      refine ⟨sign, negative, whole, fraction, places, exponent, value, htext, hplus, hsign, hw,
        hf, he, ?_⟩
      by_cases hnone : fraction = []
      · exact .inr fun habsent => hparts (by simp [hnone, habsent])
      · exact .inl hnone

/-- What is read as a token has the text of one. -/
theorem wellFormed_of_token {read : Lexeme × Place × List Char} (h : token p cs = .ok read) :
    read.1.WellFormed := by
  unfold token at h
  split at h
  · cases h
    trivial
  · cases h
    trivial
  · split at h
    · cases h
      trivial
    · cases h
  · obtain ⟨body, -, rfl⟩ := Outcome.map_eq_ok.mp h
    trivial
  · cases h
  · split at h
    · cases h
      trivial
    · split at h
      · obtain ⟨found, hnumber, rfl⟩ := Outcome.map_eq_ok.mp h
        exact wellFormed_of_number hnumber
      · split at h
        · next c rest _ _ _ _ _ _ _ hstart =>
          cases h
          -- the character that starts a name belongs to it
          have hpart : isNamePart c = true := by simp [isNamePart, hstart]
          refine ⟨?_, fun other hother => ?_⟩
          · rw [List.takeWhile_cons_of_pos hpart]
            simp
          · rw [String.toList_ofList] at hother
            exact List.mem_takeWhile_imp hother
        · cases h

theorem wellFormed_tokens (budget : Nat) (p : Place) (cs : List Char) :
    (tokens budget p cs).WellFormed := by
  induction budget generalizing p cs with
  | zero => exact trivial
  | succ budget ih =>
    unfold tokens
    dsimp only
    split
    · exact trivial
    · exact trivial
    · next hread => exact ⟨wellFormed_of_token hread, ih _ _⟩

end Lexing

/-- Every token of a text has a text that its sort can have. -/
theorem wellFormed_ofText (text : String) : (Tokens.ofText text).WellFormed :=
  Lexing.wellFormed_tokens _ _ _

end QuerySchema.GraphQL
