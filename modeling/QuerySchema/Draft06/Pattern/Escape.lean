import QuerySchema.Draft06.Pattern.Basic
import QuerySchema.Text.CharacterName.Lookup

/-!
Escapes, character classes and flags in regular expressions.

An escape stands for a character, for a class of characters, for a place between characters or for
what a group matched. Inside the brackets of a character class only the first two are allowed, and
the ends of a range have to be characters in ascending order.
-/

namespace QuerySchema.Draft06.Pattern

open Decimal Text

/-! ## Escapes -/

/-- What an escape stands for. -/
inductive Meaning where
  | char (code : Nat)
  | charClass
  | anchor
  | reference (width : Width)

/-- The code of a control character with a short escape. -/
def controlCode? : Char → Option Nat
  | 'a' => some 7
  | 'b' => some 8
  | 'f' => some 12
  | 'n' => some 10
  | 'r' => some 13
  | 't' => some 9
  | 'v' => some 11
  | '\\' => some 92
  | _ => none

/-- Whether a letter stands for a class of characters. -/
def isClassLetter (c : Char) : Bool := ['d', 'D', 's', 'S', 'w', 'W'].contains c

/-- A character by exactly `n` hexadecimal digits. -/
def hexEscape (n : Nat) : Rule Meaning := do
  let digits ← takeUpTo (fun c => (hexValue? c).isSome) n
  let code := numberIn 16 digits
  if digits.length = n && code ≤ 0x10FFFF then return .char code else malformed

/-- A character by its name in braces. -/
def namedEscape : Rule Meaning := do
  expect '\x7b'
  match characterNamed? (String.ofList (← textUntil '\x7d')) with
  | some code => return .char code
  | none => malformed

/-- The escapes that mean the same inside and outside of a character class; octal escapes and
references apart. -/
def commonEscape (c : Char) : Rule Meaning := do
  if c = 'x' then hexEscape 2
  else if c = 'u' then hexEscape 4
  else if c = 'U' then hexEscape 8
  else if c = 'N' then namedEscape
  else if c.isAlpha || c.isDigit then malformed
  else return .char c.toNat

/-- An escape inside a character class. -/
def classEscape (c : Char) : Rule Meaning := do
  match controlCode? c with
  | some code => return .char code
  | none =>
    if isClassLetter c then return .charClass
    else if isOctal c then
      let code := numberIn 8 (c :: (← takeUpTo isOctal 2))
      if code ≤ 0o377 then return .char code else malformed
    else commonEscape c

/-- A group by its number of one or two digits, or a character by three octal digits. -/
def digitEscape (c : Char) : Rule Meaning := do
  match ← takeUpTo Char.isDigit 1 with
  | [second] =>
    if isOctal c && isOctal second then
      match ← takeUpTo isOctal 1 with
      | [third] =>
        let code := numberIn 8 [c, second, third]
        if code ≤ 0o377 then return .char code else malformed
      | _ => return .reference (← referTo (digitsValue [c, second]))
    else return .reference (← referTo (digitsValue [c, second]))
  | _ => return .reference (← referTo (digitsValue [c]))

/-- An escape outside of character classes. -/
def escape (c : Char) : Rule Meaning := do
  if ['A', 'b', 'B', 'Z'].contains c then return .anchor
  else if isClassLetter c then return .charClass
  else match controlCode? c with
    | some code => return .char code
    | none =>
      if c = '0' then
        let digits ← takeUpTo isOctal 2
        return .char (numberIn 8 digits)
      else if c.isDigit then digitEscape c
      else commonEscape c

/-! ## Character classes -/

/-- A member of a character class: its code, or none for a class of characters. -/
def classMember : Piece → Rule (Option Nat)
  | .plain c => return some c.toNat
  | .escaped c => do
    match ← classEscape c with
    | .char code => return some code
    | _ => return none
  | .dangling => malformed

/-- The members of a character class up to its closing bracket. A bracket in the first place is a
member. -/
def classMembers : (budget : Nat) → (isFirst : Bool) → Rule Unit
  | 0, _ => malformed
  | budget + 1, isFirst => do
    match ← take with
    | none => malformed
    | some piece =>
      if piece = .plain ']' && !isFirst then return ()
      else
        let low ← classMember piece
        if ← accept '-' then
          match ← take with
          | none => malformed
          | some (.plain ']') => return ()
          | some other =>
            match low, ← classMember other with
            | some low, some high =>
              if high < low then malformed else classMembers budget false
            | _, _ => malformed
        else classMembers budget false

/-! ## Flags -/

/-- Adds a letter to the flags that are turned on. -/
def turnOn (flags : List Flag) (flag : Flag) : Rule (List Flag) := do
  if flag = .locale then malformed
  else if flag.isAlphabet && flags.any fun other => other.isAlphabet && other != flag then malformed
  else return flag :: flags

/-- The flags that are turned on, and the character behind them. -/
def flagsOn : (budget : Nat) → List Flag → Flag → Rule (List Flag × Char)
  | 0, _, _ => malformed
  | budget + 1, flags, flag => do
    let flags ← turnOn flags flag
    match ← take with
    | some (.plain c) =>
      if c = ')' || c = '-' || c = ':' then return (flags, c)
      else match flag? c with
        | some next => flagsOn budget flags next
        | none => malformed
    | _ => malformed

/-- The flags that are turned off, up to a colon. -/
def flagsOff : (budget : Nat) → List Flag → Rule (List Flag)
  | 0, _ => malformed
  | budget + 1, flags => do
    match ← take with
    | some (.plain c) =>
      if c = ':' && !flags.isEmpty then return flags
      else match flag? c with
        | some flag => if flag.isAlphabet then malformed else flagsOff budget (flag :: flags)
        | none => malformed
    | _ => malformed

/-- A list of flags behind `(?`, from its first character on: those turned on and off for a group,
or none when they hold for the whole pattern. -/
def flagList (budget : Nat) (c : Char) : Rule (Option (List Flag × List Flag)) := do
  let (on, close) ← match flag? c with
    | some flag => flagsOn budget [] flag
    | none => pure ([], c)
  if close = ')' then
    modify fun s => { s with flags := on ++ s.flags }
    return none
  else if on.contains .template then malformed
  else
    let off ← if close = '-' then flagsOff budget [] else pure []
    if off.contains .template || off.any on.contains then malformed else return some (on, off)

end QuerySchema.Draft06.Pattern
