import QuerySchema.Draft06.Pattern.Escape

/-!
Which texts are regular expressions.

`Pattern.check` reads a pattern once, from left to right, and finds out whether it is well formed;
it does not match anything. A pattern can also be refused for a reason that is not its form: a
number in it is too large, or its flags exclude each other.
-/

namespace QuerySchema.Draft06.Pattern

open Decimal Text

/-! ## Sequences and alternatives -/

/-- What the last part of a sequence is, as far as repeating it is concerned. -/
inductive Role where
  | anchor
  | repetition
  | other
  deriving DecidableEq, Repr

/-- The part of a sequence that has been read: the width of all parts but the last, and the last
one. -/
structure Progress where
  before : Width
  last : Option (Role × Width)

namespace Progress

/-- The width of all parts. -/
def width (p : Progress) : Width :=
  match p.last with
  | some (_, w) => p.before.add w
  | none => p.before

/-- One more part. -/
def push (p : Progress) (role : Role) (width : Width) : Progress := ⟨p.width, some (role, width)⟩

end Progress

/-- The counts of a quantifier in braces, behind the opening brace; none when the braces hold no
counts and stand for themselves. -/
def bracedCounts (budget : Nat) : Rule (Option (Nat × Option Nat)) := do
  let start ← get
  let low ← takeUpTo Char.isDigit budget
  let high ← if ← accept ',' then takeUpTo Char.isDigit budget else pure low
  if ← accept '\x7d' then
    let least ← count low
    let greatest ← count high
    match greatest with
    | some n => if n < least.getD 0 then malformed
    | none => pure ()
    return some (least.getD 0, greatest)
  else
    set start
    return none
where
  /-- A count within its limits; none without any digit. -/
  count (digits : List Char) : Rule (Option Nat) := do
    if digits.isEmpty then return none
    else if digitLimit < digits.length then throw (.tooManyDigits digits.length)
    else
      let n := digitsValue digits
      if 0xFFFFFFFF ≤ n then throw .repetitionTooLarge else return some n

/-- Repeats the last part. An anchor and a repetition cannot be repeated. A mark behind the
quantifier makes it lazy or possessive. -/
def repeatLast (p : Progress) (least : Nat) (greatest : Option Nat) : Rule Progress := do
  match p.last with
  | some (.other, width) =>
    if !(← accept '?') then
      let _ ← accept '+'
    modify fun s => { s with repeats := true }
    return ⟨p.before, some (.repetition, width.repeated least greatest)⟩
  | _ => malformed

/-- The number from which on there can be no group. -/
def groupLimit : Nat := 1073741823

/-- The number of a group in a condition. -/
def conditionGroup (text : List Char) : Rule Nat := do
  if isIdentifier text then
    match (← get).names.lookup text with
    | some group => return group
    | none => malformed
  else match readInteger (String.ofList text) with
    | .ok n =>
      if n ≤ 0 || groupLimit ≤ n then malformed
      else
        modify fun s => { s with conditions := n.toNat :: s.conditions }
        return n.toNat
    | .error _ => malformed

/-- What is read behind an opening parenthesis, before the content of a group. -/
inductive Opening where
  /-- Nothing more: the part is complete, with a width if it matches anything. -/
  | complete (width : Option Width)
  /-- Flags for the whole pattern. -/
  | wholeFlags
  | group (name : Option (List Char))
  | plain
  | withFlags (on off : List Flag)
  | look (behind : Bool)
  | condition (group : Nat)

/-- Reads what stands behind an opening parenthesis, up to the content of the group. -/
def opening (budget : Nat) : Rule Opening := do
  if !(← accept '?') then return .group none
  else match ← take with
    | some (.plain 'P') =>
      match ← take with
      | some (.plain '<') =>
        let name ← textUntil '>'
        if isIdentifier name then return .group (some name) else malformed
      | some (.plain '=') =>
        let name ← textUntil ')'
        match (← get).names.lookup name with
        | some group => return .complete (some (← referTo group))
        | none => malformed
      | _ => malformed
    | some (.plain ':') => return .plain
    | some (.plain '>') => return .plain
    | some (.plain '#') =>
      match ← splitAt ')' (← get).rest with
      | some (_, rest) =>
        modify fun s => { s with rest }
        return .complete none
      | none => malformed
    | some (.plain '=') | some (.plain '!') => return .look false
    | some (.plain '<') =>
      match ← take with
      | some (.plain '=') | some (.plain '!') => return .look true
      | _ => malformed
    | some (.plain '(') =>
      let group ← conditionGroup (← textUntil ')')
      checkBehind group
      return .condition group
    | some (.plain c) =>
      if (flag? c).isSome || c = '-' then
        match ← flagList budget c with
        | none => return .wholeFlags
        | some (on, off) => return .withFlags on off
      else malformed
    | _ => malformed

/-- Whether a character is skipped between the parts of a verbose pattern. -/
def isVerboseSpace (c : Char) : Bool := isAsciiBlank c

/-- Skips a comment of a verbose pattern: the rest of the line. -/
def skipLine : List Piece → Except PatternFault (List Piece)
  | [] => .ok []
  | .dangling :: _ => .error .malformed
  | .plain '\n' :: rest => settle rest
  | _ :: rest => skipLine rest

mutual

/-- Alternatives up to the end of the pattern or of the group. Flags for the whole pattern may stand
only at the very start, and a verbose pattern is known by them from the second alternative on. -/
def alternatives : (budget : Nat) → (verbose isTop isFirst : Bool) → Rule Width
  | 0, _, _, _ => malformed
  | budget + 1, verbose, isTop, isFirst => do
    let width ← sequence budget verbose (isTop && isFirst) ⟨.empty, none⟩
    if ← accept '|' then
      let flags := (← get).flags
      let verbose := if isTop then flags.contains .verbose else verbose
      return width.either (← alternatives budget verbose isTop false)
    else return width

/-- The parts of a sequence, after those that have been read. -/
def sequence : (budget : Nat) → (verbose mayFlag : Bool) → Progress → Rule Width
  | 0, _, _, _ => malformed
  | budget + 1, verbose, mayFlag, p => do
    match ← peek with
    | none => return p.width
    | some .dangling => malformed
    | some (.escaped c) =>
      advance
      match ← escape c with
      | .anchor => sequence budget verbose mayFlag (p.push .anchor .empty)
      | .reference width => sequence budget verbose mayFlag (p.push .other width)
      | _ => sequence budget verbose mayFlag (p.push .other .one)
    | some (.plain c) =>
      if c = '|' || c = ')' then return p.width
      else
        advance
        if verbose && isVerboseSpace c then sequence budget verbose mayFlag p
        else if verbose && c = '#' then
          let rest ← skipLine (← get).rest
          modify fun s => { s with rest }
          sequence budget verbose mayFlag p
        else if c = '[' then
          let _ ← accept '^'
          classMembers budget true
          sequence budget verbose mayFlag (p.push .other .one)
        else if c = '?' then
          sequence budget verbose mayFlag (← repeatLast p 0 (some 1))
        else if c = '*' then
          sequence budget verbose mayFlag (← repeatLast p 0 none)
        else if c = '+' then
          sequence budget verbose mayFlag (← repeatLast p 1 none)
        else if c = '\x7b' then
          if (← peek) == some (.plain '\x7d') then
            sequence budget verbose mayFlag (p.push .other .one)
          else match ← bracedCounts budget with
            | none => sequence budget verbose mayFlag (p.push .other .one)
            | some (least, greatest) =>
              sequence budget verbose mayFlag (← repeatLast p least greatest)
        else if c = '^' || c = '$' then
          sequence budget verbose mayFlag (p.push .anchor .empty)
        else if c = '(' then
          match ← opening budget with
          | .complete none => sequence budget verbose mayFlag p
          | .complete (some width) => sequence budget verbose mayFlag (p.push .other width)
          | .wholeFlags =>
            if !mayFlag || p.last.isSome then malformed
            else sequence budget ((← get).flags.contains .verbose) mayFlag p
          | .look behind =>
            let outer := (← get).behindFrom
            let count ← groupCount
            if behind && outer.isNone then
              modify fun s => { s with behindFrom := some count }
            let width ← alternatives budget verbose false true
            modify fun s => { s with
              behindFrom := outer
              behindVaries := s.behindVaries || (behind && !width.isFixed)
              behindTooFar := s.behindTooFar || (behind && width.isTooFar) }
            expect ')'
            sequence budget verbose mayFlag (p.push .other .empty)
          | .condition _ =>
            let yes ← sequence budget verbose false ⟨.empty, none⟩
            let no ← if ← accept '|' then
                let width ← sequence budget verbose false ⟨.empty, none⟩
                if (← peek) == some (.plain '|') then malformed else pure width
              else pure .empty
            expect ')'
            sequence budget verbose mayFlag (p.push .other (yes.either no))
          | .group name =>
            let group ← openGroup name
            let width ← alternatives budget verbose false true
            expect ')'
            closeGroup group width
            sequence budget verbose mayFlag (p.push .other width)
          | .plain =>
            let width ← alternatives budget verbose false true
            expect ')'
            sequence budget verbose mayFlag (p.push .other width)
          | .withFlags on off =>
            let inner := (verbose || on.contains .verbose) && !off.contains .verbose
            let width ← alternatives budget inner false true
            expect ')'
            sequence budget verbose mayFlag (p.push .other width)
        else sequence budget verbose mayFlag (p.push .other .one)

end

/-- The whole pattern, with what can only be said at its end. -/
def whole (budget : Nat) : Rule Unit := do
  continueAt (← get).rest
  let _ ← alternatives budget false true true
  let s ← get
  if s.flags.contains .ascii && s.flags.contains .unicode then throw .incompatibleFlags
  else if !s.rest.isEmpty then malformed
  else if s.conditions.any fun group => s.groups.length < group then malformed
  else if s.behindVaries || (s.repeats && s.flags.contains .template) then malformed
  else if s.behindTooFar then throw .looksTooFar
  else return ()

/-- Whether a text is a regular expression, or why not. Each step of reading takes a piece or
enters a group, so twice the number of pieces bounds the work. -/
def check (text : String) : Except PatternFault Unit :=
  let start := pieces text.toList
  ((whole (2 * start.length + 4)).run
    ⟨start, [], [], none, [], [], false, false, false⟩).map Prod.fst

end QuerySchema.Draft06.Pattern
