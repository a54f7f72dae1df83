import RecordRules.Pattern.Scan

/-
  Reading a pattern.

  Main declarations:
    * `Pattern.Item`, an element that a repetition may follow
    * `Pattern.readSet`, `Pattern.readCounts?`, `Pattern.readFlags`
    * `Pattern.readChoice`, alternatives of sequences of items
    * `Pattern.compile`, a whole pattern, or why it is refused
-/

namespace RecordRules

namespace Pattern

open Text Numeric

------------------------------------------------------------
-- Items
------------------------------------------------------------

/-
  An element of a sequence, with what matters to a repetition that
  follows it: conditions on a position and repetitions cannot be
  repeated.
-/
inductive Item where
  | whole (p : Expr)
  | position (a : Anchor)
  | repetition (p : Expr)

/- The pattern of an item. -/
def Item.expr : Item → Expr
  | whole p | repetition p => p
  | position a => .anchor a

/- One item after another; the last one comes first in the list. -/
def sequenceOf (items : List Item) : Expr :=
  items.foldl (fun p item => .seq item.expr p) .empty

/- The pattern of one code point. -/
def literal
    (flags : Flags)
    (point : Nat) : Expr :=
  .one (.set false [.range point point] flags.fold)

/- The class that a letter after a backslash stands for. -/
def categoryOf?
    (flags : Flags)
    (c : Char) : Option SetItem :=
  match c with
  | 'd' => some (.category .digit flags.asciiOnly false)
  | 'D' => some (.category .digit flags.asciiOnly true)
  | 's' => some (.category .blank flags.asciiOnly false)
  | 'S' => some (.category .blank flags.asciiOnly true)
  | 'w' => some (.category .word flags.asciiOnly false)
  | 'W' => some (.category .word flags.asciiOnly true)
  | _ => none

/- The position that a letter after a backslash stands for. -/
def anchorOf?
    (flags : Flags)
    (c : Char) : Option Anchor :=
  match c with
  | 'A' => some .textStart
  | 'Z' => some .textEnd
  | 'b' => some (.wordEdge flags.asciiOnly)
  | 'B' => some (.noWordEdge flags.asciiOnly)
  | _ => none

------------------------------------------------------------
-- Groups
------------------------------------------------------------

/- Refuses a reference to a group that is not closed yet. -/
def checkClosed
    (index : Nat)
    (back : Nat) : Reading Unit := do
  if ((← get).widths[index - 1]?.join).isNone then
    failBefore .openGroup back

/- Refuses references that a look behind cannot follow. -/
def checkLookbehind (index : Nat) : Reading Unit := do
  match (← get).lookbehind with
  | none => return
  | some groups =>
    checkClosed index 0
    if groups < index then
      failBefore .groupInSameLookbehind 0

/- The number of a group by its name. -/
def groupNamed (name : List Char) : Reading Nat := do
  match (← get).names.find? (·.1 == name) with
  | some entry => return entry.2
  | none => failBefore (.unknownGroupName name) (name.length + 1)

/- Refuses a group name that is no identifier. -/
def checkGroupName (name : List Char) : Reading Unit := do
  if !isIdentifier name then
    failBefore (.badGroupName name) (name.length + 1)

/- Opens a group: its number. -/
def openGroup (name : Option (List Char)) : Reading Nat := do
  let scan ← get
  let index := scan.widths.length + 1
  match name with
  | none =>
    set { scan with widths := scan.widths ++ [none] }
  | some name =>
    match scan.names.find? (·.1 == name) with
    | some entry =>
      failBefore (.redefinedGroupName name index entry.2)
        (name.length + 1)
    | none =>
      set
        { scan with
          widths := scan.widths ++ [none]
          names := scan.names ++ [(name, index)] }
  return index

/- The widths of the groups, for patterns that refer to them. -/
def groupWidths : Reading (List Width) := do
  return (← get).widths.map (·.getD ⟨0, 0⟩)

/- Closes a group around a pattern. -/
def closeGroup
    (index : Nat)
    (p : Expr) : Reading Unit := do
  let width := p.width (← groupWidths)
  modify fun scan =>
    { scan with widths := scan.widths.set (index - 1) (some width) }

------------------------------------------------------------
-- Escapes
------------------------------------------------------------

/-
  Two or three digits after a backslash: three octal ones are a
  character, and else one or two refer to a group.
-/
def readNumberEscape
    (flags : Flags)
    (first : Char) : Reading Item := do
  let mut digits := [first]
  if let some (.plain second) ← peek then
    if isPlainDigit second then
      let _ ← next
      digits := [first, second]
      if isOctal first && isOctal second then
        if let some (.plain third) ← peek then
          if isOctal third then
            let _ ← next
            let value ← octalValue [first, second, third]
            return .whole (literal flags value)
  let index := valueOf 10 digits
  if index ≤ (← get).widths.length then
    checkClosed index (digits.length + 1)
    checkLookbehind index
    return .whole (.backref index flags.fold)
  else
    failBefore (.invalidGroup index) digits.length

/- The item of a backslash and the character after it. -/
def readEscape
    (flags : Flags)
    (c : Char) : Reading Item := do
  if let some item := categoryOf? flags c then
    return .whole (.one (.set false [item] .exact))
  if let some a := anchorOf? flags c then
    return .position a
  if let some point := controlOf? c then
    return .whole (literal flags point)
  if let some point ← readCodePoint? c then
    return .whole (literal flags point)
  if c == '0' then
    let more ← takeWhileUpTo isOctal 2
    return .whole (literal flags (valueOf 8 more))
  if isPlainDigit c then
    return ← readNumberEscape flags c
  if isAsciiLetter c then
    failBefore (.badEscape ['\\', c]) 2
  return .whole (literal flags c.toNat)

/- The set entry of a backslash and the character after it. -/
def readSetEscape
    (flags : Flags)
    (c : Char) : Reading SetItem := do
  if let some point := controlOf? c then
    return .range point point
  if let some item := categoryOf? flags c then
    return item
  if let some point ← readCodePoint? c then
    return .range point point
  if isOctal c then
    let more ← takeWhileUpTo isOctal 2
    let value ← octalValue (c :: more)
    return .range value value
  if isPlainDigit c || isAsciiLetter c then
    failBefore (.badEscape ['\\', c]) 2
  return .range c.toNat c.toNat

------------------------------------------------------------
-- Sets
------------------------------------------------------------

/- One end of a set entry. -/
def readSetEnd
    (flags : Flags)
    (token : Token) : Reading SetItem :=
  match token with
  | .plain c => return .range c.toNat c.toNat
  | .escaped c => readSetEscape flags c

/- The entries of a set up to its closing bracket. -/
def readSetItems
    (flags : Flags)
    (start : Nat)
    (items : List SetItem) : Nat → Reading (List SetItem)
  | 0 => failAt .unterminatedSet start
  | fuel + 1 => do
    let some this ← next | failAt .unterminatedSet start
    if this = .plain ']' ∧ !items.isEmpty then
      return items
    let low ← readSetEnd flags this
    if ← accept '-' then
      let some that ← next | failAt .unterminatedSet start
      if that = .plain ']' then
        return items ++ [low, .range '-'.toNat '-'.toNat]
      let high ← readSetEnd flags that
      let back := this.text.length + 1 + that.text.length
      match low, high with
      | .range first _, .range last _ =>
        if last < first then
          failBefore (.badRange this.text that.text) back
        readSetItems flags start (items ++ [.range first last]) fuel
      | _, _ => failBefore (.badRange this.text that.text) back
    else
      readSetItems flags start (items ++ [low]) fuel

/- A set whose opening bracket stands at the given offset. -/
def readSet
    (flags : Flags)
    (start : Nat) : Reading Item := do
  let negated ← accept '^'
  let fuel := (← get).rest.length + 1
  let items ← readSetItems flags start [] fuel
  return .whole (.one (.set negated items flags.fold))

------------------------------------------------------------
-- Repetitions
------------------------------------------------------------

/- Counts of repetitions are below this number. -/
def countLimit : Nat :=
  twoPow 32 - 1

/- A count of repetitions. -/
def countOf (digits : List Char) : Reading Nat := do
  let count ← numberOf digits
  if countLimit ≤ count then
    throw .repetitionTooLarge
  return count

/-
  The least and most counts of a repetition whose mark has been
  taken, or nothing where an opening brace stands for itself.
-/
def readCounts?
    (mark : Char) : Reading (Option (Nat × Option Nat)) := do
  match mark with
  | '?' => return some (0, some 1)
  | '*' => return some (0, none)
  | '+' => return some (1, none)
  | _ =>
    if (← peek) = some (.plain '\x7d') then
      return none
    let here ← get
    let start ← offset
    let low ← takeAll isPlainDigit
    let ranged ← accept ','
    let high ← if ranged then takeAll isPlainDigit else pure low
    if !(← accept '\x7d') then
      set here
      return none
    let least ← if low.isEmpty then pure 0 else countOf low
    if high.isEmpty then
      return some (least, none)
    let most ← countOf high
    if most < least then
      failAt .minimumAboveMaximum start
    return some (least, some most)

/- The mark after a repetition that says how it chooses. -/
def readGreed : Reading Greed := do
  if ← accept '?' then
    return .lazy
  if ← accept '+' then
    return .possessive
  return .greedy

/- A repetition of the last item, of which there has to be one. -/
def repeatLast
    (start : Nat)
    (least : Nat)
    (most : Option Nat)
    (items : List Item) : Reading (List Item) := do
  match items with
  | [] => failAt .nothingToRepeat start
  | .position _ :: _ => failAt .nothingToRepeat start
  | .repetition _ :: _ => failAt .multipleRepeat start
  | .whole p :: before =>
    let greed ← readGreed
    return .repetition (.repeated greed least most p) :: before

------------------------------------------------------------
-- Flags
------------------------------------------------------------

/- The settings with one more made. -/
def Flags.with?
    (flags : Flags)
    (c : Char) : Option Flags :=
  match c with
  | 'i' => some { flags with ignoreCase := true }
  | 'm' => some { flags with multiline := true }
  | 's' => some { flags with dotAll := true }
  | 'x' => some { flags with verbose := true }
  | 'a' => some { flags with asciiOnly := true }
  | 'u' => some { flags with anyScript := true }
  | 't' => some { flags with template := true }
  | _ => none

/- Whether a character is a flag, the one for locales included. -/
def isFlag (c : Char) : Bool :=
  c == 'L' || (Flags.unset.with? c).isSome

/- Whether a token is a letter, for the wording of a fault. -/
def Token.isLetter : Token → Bool
  | plain c => Text.isLetter c
  | escaped _ => false

/- Fails at a token that is no flag. -/
def failAtFlag
    {α : Type}
    (token : Token)
    (expected : String) : Reading α := do
  let cause :=
    if token.isLetter then .unknownFlag else .missing expected
  failBefore cause token.text.length

/- What ends the flags that are turned on. -/
inductive FlagsEnd where
  | close
  | colon
  | minus
deriving DecidableEq

/- Flags turned on, the first of them taken already. -/
def readFlagsOn
    (flags : Flags)
    (c : Char) : Nat → Reading (Flags × FlagsEnd)
  | 0 => failBefore (.missing "-, : or )") 0
  | fuel + 1 => do
    let some flags := flags.with? c
      | failBefore
          (.badFlags "cannot use 'L' flag with a str pattern") 0
    if (c == 'a' || c == 'u') && flags.asciiOnly && flags.anyScript then
      failBefore
        (.badFlags "flags 'a', 'u' and 'L' are incompatible") 0
    let some token ← next | failBefore (.missing "-, : or )") 0
    match token with
    | .plain ')' => return (flags, .close)
    | .plain ':' => return (flags, .colon)
    | .plain '-' => return (flags, .minus)
    | .plain c =>
      if isFlag c then
        readFlagsOn flags c fuel
      else
        failAtFlag token "-, : or )"
    | .escaped _ => failAtFlag token "-, : or )"

/- Flags turned off, the first of them taken already. -/
def readFlagsOff
    (flags : Flags)
    (c : Char) : Nat → Reading Flags
  | 0 => failBefore (.missing ":") 0
  | fuel + 1 => do
    if c == 'a' || c == 'u' || c == 'L' then
      failBefore
        (.badFlags "cannot turn off flags 'a', 'u' and 'L'") 0
    let flags := (flags.with? c).getD flags
    let some token ← next | failBefore (.missing ":") 0
    match token with
    | .plain ':' => return flags
    | .plain c =>
      if isFlag c then
        readFlagsOff flags c fuel
      else
        failAtFlag token ":"
    | .escaped _ => failAtFlag token ":"

/- The flags to turn off after a minus. -/
def readMinus : Reading Flags := do
  let some token ← next | failBefore (.missing "flag") 0
  match token with
  | .plain c =>
    if isFlag c then
      readFlagsOff .unset c ((← get).rest.length + 1)
    else
      failAtFlag token "flag"
  | .escaped _ => failAtFlag token "flag"

/- Whether some setting is in both. -/
def Flags.meet (v w : Flags) : Bool :=
  (v.ignoreCase && w.ignoreCase) || (v.multiline && w.multiline) ||
    (v.dotAll && w.dotAll) || (v.verbose && w.verbose)

/- The settings within a group that turns some on and others off. -/
def Flags.change (flags on off : Flags) : Flags :=
  { ignoreCase := (flags.ignoreCase || on.ignoreCase) && !off.ignoreCase
    multiline := (flags.multiline || on.multiline) && !off.multiline
    dotAll := (flags.dotAll || on.dotAll) && !off.dotAll
    verbose := (flags.verbose || on.verbose) && !off.verbose
    asciiOnly :=
      if on.anyScript then false else flags.asciiOnly || on.asciiOnly
    anyScript := flags.anyScript || on.anyScript
    template := flags.template }

/- The settings made for a whole pattern, all of those in both. -/
def Flags.join (v w : Flags) : Flags :=
  { ignoreCase := v.ignoreCase || w.ignoreCase
    multiline := v.multiline || w.multiline
    dotAll := v.dotAll || w.dotAll
    verbose := v.verbose || w.verbose
    asciiOnly := v.asciiOnly || w.asciiOnly
    anyScript := v.anyScript || w.anyScript
    template := v.template || w.template }

/-
  Flags after an opening `(?`: nothing where they are for the whole
  pattern, else the settings to turn on and off in a group.
-/
def readFlags (first : Char) : Reading (Option (Flags × Flags)) := do
  let fuel := (← get).rest.length + 1
  let (on, ending) ←
    if first == '-' then
      pure (Flags.unset, FlagsEnd.minus)
    else
      readFlagsOn .unset first fuel
  if ending = .close then
    modify fun scan => { scan with flags := scan.flags.join on }
    return none
  if on.template then
    failBefore (.badFlags "cannot turn on global flag") 1
  let off ← if ending = .minus then readMinus else pure .unset
  if off.template then
    failBefore (.badFlags "cannot turn off global flag") 1
  if on.meet off then
    failBefore (.badFlags "flag turned on and off") 1
  return some (on, off)

------------------------------------------------------------
-- Groups and sequences
------------------------------------------------------------

/- Skips a comment up to its closing parenthesis. -/
def skipComment (start : Nat) : Nat → Reading Unit
  | 0 => failAt .unterminatedComment start
  | fuel + 1 => do
    let some token ← next | failAt .unterminatedComment start
    if token = .plain ')' then return else skipComment start fuel

/- Skips the rest of a line. -/
def skipLine : Nat → Reading Unit
  | 0 => return
  | fuel + 1 => do
    match ← next with
    | none => return
    | some token =>
      if token = .plain '\n' then return else skipLine fuel

/- Takes a closing parenthesis. -/
def closeParenthesis (start : Nat) : Reading Unit := do
  if !(← accept ')') then
    failAt .unterminatedGroup start

/- The number of the group that a condition asks about. -/
def readCondition : Reading Nat := do
  let name ← readUntil ')' "group name"
  let back := name.length + 1
  if isIdentifier name then
    let index ← groupNamed name
    checkLookbehind index
    return index
  else
    match readInteger name with
    | .error _ => failBefore (.badGroupName name) back
    | .ok value =>
      if value < 0 then
        failBefore (.badGroupName name) back
      let index := value.toNat
      if index = 0 then
        failBefore .badGroupNumber back
      if twoPow 30 ≤ index then
        failBefore (.invalidGroup index) back
      let place := (← offset) - back
      modify fun scan =>
        if scan.conditions.any (·.1 == index) then
          scan
        else
          { scan with conditions := scan.conditions ++ [(index, place)] }
      checkLookbehind index
      return index

/- What an opening parenthesis introduces. -/
inductive Opening where
  | nothing
  | whole (p : Expr)
  | group (name : Option (List Char))
  | plain (on off : Flags)
  | atomic
  | look (behind negated : Bool)
  | condition (index : Nat)

/- A reference to a group by name. -/
def readNamedReference (flags : Flags) : Reading Expr := do
  let name ← readUntil ')' "group name"
  checkGroupName name
  let index ← groupNamed name
  checkClosed index (name.length + 1)
  checkLookbehind index
  return .backref index flags.fold

/- What follows `(?P`. -/
def readNamedOpening (flags : Flags) : Reading Opening := do
  if ← accept '<' then
    let name ← readUntil '>' "group name"
    checkGroupName name
    return .group (some name)
  if ← accept '=' then
    return .whole (← readNamedReference flags)
  let some token ← next | failBefore .unexpectedEnd 0
  failBefore (.unknownExtension ('P' :: token.text))
    (token.text.length + 2)

/- What follows `(?<`. -/
def readBehindOpening : Reading Opening := do
  let some token ← next | failBefore .unexpectedEnd 0
  match token with
  | .plain '=' => return .look true false
  | .plain '!' => return .look true true
  | _ =>
    failBefore (.unknownExtension ('<' :: token.text))
      (token.text.length + 2)

/-
  What follows an opening parenthesis at the given offset. Flags
  for the whole pattern are allowed where nothing stands before
  them.
-/
def readOpening
    (flags : Flags)
    (start : Nat)
    (first : Bool) : Reading Opening := do
  if !(← accept '?') then
    return .group none
  let some token ← next | failBefore .unexpectedEnd 0
  match token with
  | .plain 'P' => readNamedOpening flags
  | .plain ':' => return .plain .unset .unset
  | .plain '#' =>
    skipComment start ((← get).rest.length + 1)
    return .nothing
  | .plain '=' => return .look false false
  | .plain '!' => return .look false true
  | .plain '<' => readBehindOpening
  | .plain '(' => return .condition (← readCondition)
  | .plain '>' => return .atomic
  | .plain c =>
    if c == '-' || isFlag c then
      match ← readFlags c with
      | some (on, off) => return .plain on off
      | none =>
        if !first then
          failAt .lateFlags start
        return .nothing
    else
      failBefore (.unknownExtension [c]) 2
  | .escaped _ =>
    failBefore (.unknownExtension token.text) (token.text.length + 1)

/- The item of a plain character, where it has no other role. -/
def plainItem
    (flags : Flags)
    (c : Char) : Item :=
  match c with
  | '.' => .whole (.one (.any flags.dotAll))
  | '^' =>
    .position (if flags.multiline then .lineStart else .textStart)
  | '$' =>
    .position (if flags.multiline then .lineEnd else .lastLineEnd)
  | _ => .whole (literal flags c.toNat)

mutual

/-
  Alternatives. `outer` holds the settings of the group around
  them, and is nothing at the top, where the settings made for the
  whole pattern hold.
-/
def readChoice
    (outer : Option Flags)
    (first : Bool) : Nat → Reading Expr
  | 0 => failBefore .unexpectedEnd 0
  | fuel + 1 => do
    let p ← readItems outer first [] fuel
    if ← accept '|' then
      return .choice p (← readChoice outer false fuel)
    else
      return p

/- A sequence up to a bar, a closing parenthesis or the end. -/
def readItems
    (outer : Option Flags)
    (first : Bool)
    (items : List Item) : Nat → Reading Expr
  | 0 => failBefore .unexpectedEnd 0
  | fuel + 1 => do
    let some token ← peek | return sequenceOf items
    if token = .plain '|' ∨ token = .plain ')' then
      return sequenceOf items
    let start ← offset
    let flags := outer.getD (← get).flags
    let _ ← next
    match token with
    | .escaped c =>
      let item ← readEscape flags c
      readItems outer first (item :: items) fuel
    | .plain c =>
      if flags.verbose && (c == ' ' || (9 ≤ c.toNat && c.toNat ≤ 13)) then
        readItems outer first items fuel
      else if flags.verbose && c == '#' then
        skipLine ((← get).rest.length + 1)
        readItems outer first items fuel
      else if c == '[' then
        let item ← readSet flags start
        readItems outer first (item :: items) fuel
      else if c == '*' || c == '+' || c == '?' || c == '\x7b' then
        match ← readCounts? c with
        | none =>
          let item := .whole (literal flags c.toNat)
          readItems outer first (item :: items) fuel
        | some (least, most) =>
          let items ← repeatLast start least most items
          readItems outer first items fuel
      else if c == '(' then
        let opening ← readOpening flags start (first && items.isEmpty)
        match ← readGroup flags start opening fuel with
        | none => readItems outer first items fuel
        | some p => readItems outer first (.whole p :: items) fuel
      else
        readItems outer first (plainItem flags c :: items) fuel

/- The rest of what an opening parenthesis introduced. -/
def readGroup
    (flags : Flags)
    (start : Nat)
    (opening : Opening) : Nat → Reading (Option Expr)
  | 0 => failBefore .unexpectedEnd 0
  | fuel + 1 => do
    match opening with
    | .nothing => return none
    | .whole p => return some p
    | .group name =>
      let index ← openGroup name
      let p ← readChoice (some flags) false fuel
      closeParenthesis start
      closeGroup index p
      return some (.group index p)
    | .plain on off =>
      let p ← readChoice (some (flags.change on off)) false fuel
      closeParenthesis start
      return some p
    | .atomic =>
      let p ← readChoice (some flags) false fuel
      closeParenthesis start
      return some (.atomic p)
    | .look false negated =>
      let p ← readChoice (some flags) false fuel
      closeParenthesis start
      return some (.ahead negated p)
    | .look true negated =>
      let outside := (← get).lookbehind
      if outside.isNone then
        modify fun scan =>
          { scan with lookbehind := some scan.widths.length }
      let p ← readChoice (some flags) false fuel
      modify fun scan => { scan with lookbehind := outside }
      closeParenthesis start
      return some (.behind negated (p.width (← groupWidths)) p)
    | .condition index =>
      let yes ← readItems (some flags) false [] fuel
      if ← accept '|' then
        let no ← readItems (some flags) false [] fuel
        if (← peek) = some (.plain '|') then
          failBefore .tooManyBranches 0
        closeParenthesis start
        return some (.conditional index yes no)
      else
        closeParenthesis start
        return some (.conditional index yes .empty)

end

------------------------------------------------------------
-- Whole patterns
------------------------------------------------------------

/- Refuses conditions on groups that the pattern does not have. -/
def checkConditions : Reading Unit := do
  let scan ← get
  match scan.conditions.find? fun entry =>
      scan.widths.length < entry.1 with
  | some (index, place) => failAt (.invalidGroup index) place
  | none => return

/- Reads a pattern up to its end. -/
def readPattern : Reading Compiled := do
  checkEscape
  let p ← readChoice none true (4 * (← get).rest.length + 4)
  let scan ← get
  if scan.flags.asciiOnly && scan.flags.anyScript then
    throw .flagsIncompatible
  if (← peek).isSome then
    failBefore .unbalancedParenthesis 0
  checkConditions
  match p.fault? scan.flags.template with
  | some cause => throw (.malformed cause none)
  | none =>
    return { expr := p, groups := scan.widths.length, names := scan.names }

/- A pattern from its text, or why it cannot be used. -/
def compile (source : List Char) : Except Fault Compiled :=
  (readPattern.run (Scan.start source)).map (·.1)

end Pattern

end RecordRules
