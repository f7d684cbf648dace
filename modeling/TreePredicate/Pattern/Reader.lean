import TreePredicate.Pattern.Fault
import TreePredicate.Pattern.Tree
import TreePredicate.Text.Blank
import TreePredicate.Text.CharacterName
import TreePredicate.Text.Digit
import TreePredicate.Text.Name
import TreePredicate.Text.Quoted

/-!
# Reading patterns

`read source` is the program of a pattern, or the first fault in it. A pattern is read from left to
right, one token at a time; a token is a character, or a backslash with the character after it.
A backslash at the very end is refused as soon as it is the next token.

* `Scan` : what is left of the pattern, and what is known of flags and groups so far;
* `sequence`, `alternation`, `groupItem` : the grammar, by a limit on the number of steps that no
  pattern reaches, because every step takes a token or opens a part of the grammar;
* `checkItems` : what is checked after the whole pattern has been read, in reading order.
-/

set_option autoImplicit false

namespace TreePredicate.Pattern

/-- A character, or a backslash with the character after it. -/
inductive Token where
  | plain (c : Char)
  | escaped (c : Char)
deriving DecidableEq

namespace Token

/-- The characters of a token. -/
def chars : Token → List Char
  | .plain c => [c]
  | .escaped c => ['\\', c]

/-- A letter, with nothing before it. -/
def isLetter : Token → Bool
  | .plain c => Text.isLetter c
  | .escaped _ => false

/-- The flag that a token stands for. -/
def flag? : Token → Option Flags
  | .plain c => Flags.ofLetter? c
  | .escaped _ => none

end Token

/-- How far a pattern has been read. `groups` holds the spans of the groups so far, none for one
that is still open; `references` holds the groups that conditions ask for with their first places. -/
structure Scan where
  rest : List Char
  flags : Flags := {}
  groups : List (Option Span) := []
  names : List (String × Nat) := []
  lookBehindFrom : Option Nat := none
  references : List (Nat × Nat) := []

/-- Reading, given the length of the whole pattern. -/
abbrev Read := ReaderT Nat (StateT Scan (Except Fault))

namespace Read

/-- The place of the next token. -/
def place : Read Nat := return (← read) - (← get).rest.length

/-- Refuses the pattern at a place. -/
def refuseAt {α : Type} (message : List Char) (position : Nat) : Read α :=
  throw (.malformed (String.ofList message) (some position))

/-- Refuses the pattern some characters before the next token. -/
def refuse {α : Type} (message : List Char) (back : Nat) : Read α := do
  refuseAt message ((← place) - back)

/-- Goes on with what is left. -/
def moveTo (rest : List Char) : Read Unit := do
  if rest = ['\\'] then refuseAt "bad escape (end of pattern)".toList ((← read) - 1)
  modify fun s => { s with rest }

/-- The next token, which is not taken. -/
def peek : Read (Option Token) := do
  match (← get).rest with
  | [] => return none
  | '\\' :: c :: _ => return some (.escaped c)
  | c :: _ => return some (.plain c)

/-- The next token, which is taken. -/
def next : Read (Option Token) := do
  match (← get).rest with
  | [] => return none
  | '\\' :: c :: rest => moveTo rest; return some (.escaped c)
  | c :: rest => moveTo rest; return some (.plain c)

/-- Takes a character if it comes next. -/
def accept (c : Char) : Read Bool := do
  if (← peek) = some (.plain c) then
    let _ ← next
    return true
  else return false

/-- Takes at most `count` characters of a kind. -/
def takeUpTo (count : Nat) (kind : Char → Bool) : Read (List Char) := do
  let rest := (← get).rest
  let taken := (rest.take count).takeWhile kind
  moveTo (rest.drop taken.length)
  return taken

/-- Takes all characters of a kind. -/
def takeAll (kind : Char → Bool) : Read (List Char) := do
  let rest := (← get).rest
  moveTo (rest.dropWhile kind)
  return rest.takeWhile kind

/-- The tokens before the first one that is `stop`, and what follows it. -/
def split? (stop : Char) : List Char → Option (List Char × List Char)
  | [] => none
  | ['\\'] => none
  | '\\' :: c :: rest => (split? stop rest).map fun (before, after) => ('\\' :: c :: before, after)
  | c :: rest =>
    if c = stop then some ([], rest)
    else (split? stop rest).map fun (before, after) => (c :: before, after)

/-- The last token is a backslash alone. -/
def endsInBackslash : List Char → Bool
  | [] => false
  | ['\\'] => true
  | '\\' :: _ :: rest => endsInBackslash rest
  | _ :: rest => endsInBackslash rest

/-- Takes the tokens before `stop`, and `stop` itself. -/
def takeThrough? (stop : Char) : Read (Option (List Char)) := do
  let rest := (← get).rest
  match split? stop rest with
  | some (before, after) => moveTo after; return some before
  | none => moveTo (if endsInBackslash rest then ['\\'] else []); return none

/-- Takes a name that ends in `stop`. -/
def name (stop : Char) (what : List Char) : Read (List Char) := do
  let length := (← get).rest.length
  match ← takeThrough? stop with
  | none =>
    if length = 0 then refuse ("missing ".toList ++ what) 0
    else refuse ("missing ".toList ++ [stop] ++ ", unterminated name".toList) length
  | some [] => refuse ("missing ".toList ++ what) 1
  | some name => return name

end Read

open Read

/-! ## Numbers and characters -/

/-- A digit of the Latin script. -/
def isLatinDigit (c : Char) : Bool := '0' ≤ c && c ≤ '9'

/-- A digit in base eight. -/
def isOctalDigit (c : Char) : Bool := '0' ≤ c && c ≤ '7'

/-- A digit in base sixteen. -/
def isHexDigit (c : Char) : Bool := (Text.Quoted.hexValue? c).isSome

/-- A letter of the Latin script without marks. -/
def isLatinLetter (c : Char) : Bool := ('a' ≤ c && c ≤ 'z') || ('A' ≤ c && c ≤ 'Z')

/-- The number that digits stand for. -/
def numberOf (base : Nat) (digits : List Char) : Nat :=
  digits.foldl (fun n c => n * base + ((Text.Quoted.hexValue? c).getD 0)) 0

/-- The number that a run of Latin digits stands for, if there are not too many of them. -/
def decimalOf (digits : List Char) : Read Nat :=
  if Fault.digitsAllowed < digits.length then throw (.digitLimit digits.length)
  else return numberOf 10 digits

/-- A blank that may stand around the number of a group. -/
def isPadding (c : Char) : Bool := Text.isBlank c && !(0x1c ≤ c.toNat && c.toNat ≤ 0x1f)

/-- The value of decimal digits of any script with single low lines between them. -/
def groupDigits? : List Char → Option (List Nat)
  | [] => none
  | [c] => (Text.digitValue? c).map fun d => [d]
  | c :: '_' :: rest => do
    let d ← Text.digitValue? c
    let ds ← groupDigits? rest
    return d :: ds
  | c :: rest => do
    let d ← Text.digitValue? c
    let ds ← groupDigits? rest
    return d :: ds

/-- The number of a group as a condition gives it: blanks around it, a sign before it. -/
def groupNumber? (text : List Char) : Option Nat := do
  let inner := ((text.dropWhile isPadding).reverse.dropWhile isPadding).reverse
  let (negative, unsigned) := match inner with
    | '-' :: rest => (true, rest)
    | '+' :: rest => (false, rest)
    | _ => (false, inner)
  let digits ← groupDigits? unsigned
  let n := digits.foldl (fun n d => n * 10 + d) 0
  if Fault.digitsAllowed < digits.length || (negative && n != 0) then none else return n

/-- The code point of an escape in base sixteen with a fixed number of digits. -/
def hexEscape (letter : Char) (count : Nat) : Read Nat := do
  let digits ← takeUpTo count isHexDigit
  if digits.length < count then
    refuse ("incomplete escape \\".toList ++ letter :: digits) (2 + digits.length)
  let code := numberOf 16 digits
  if 0x80000000 ≤ code then throw .codePointTooLarge
  if 0x10ffff < code then refuse ("bad escape \\".toList ++ letter :: digits) (2 + digits.length)
  return code

/-- The code point of an escape by name. -/
def namedEscape : Read Nat := do
  if !(← accept '\x7b') then refuse "missing \x7b".toList 0
  let name ← Read.name '\x7d' "character name".toList
  match Text.namedCode? (String.ofList name) with
  | some code => return code
  | none =>
    refuse ("undefined character name ".toList ++ (Text.shown (String.ofList name)).toList)
      (name.length + 4)

/-- An escape in base eight must name one of the first 256 code points. -/
def octalEscape (digits : List Char) : Read Nat := do
  let code := numberOf 8 digits
  if 0o377 < code then
    refuse ("octal escape value \\".toList ++ digits ++ " outside of range 0-0o377".toList)
      (1 + digits.length)
  return code

/-- The control character that a letter after a backslash stands for. -/
def controlCode? : Char → Option Nat
  | 'a' => some 7
  | 'b' => some 8
  | 'f' => some 12
  | 'n' => some 10
  | 'r' => some 13
  | 't' => some 9
  | 'v' => some 11
  | '\\' => some 92
  | _ => none

/-- The class of characters that a letter after a backslash stands for. -/
def category? : Char → Option Member
  | 'd' => some (.category .digit false)
  | 'D' => some (.category .digit true)
  | 's' => some (.category .space false)
  | 'S' => some (.category .space true)
  | 'w' => some (.category .word false)
  | 'W' => some (.category .word true)
  | _ => none

/-- The condition that a letter after a backslash stands for. -/
def anchor? : Char → Option Anchor
  | 'A' => some .textStart
  | 'b' => some .boundary
  | 'B' => some .noBoundary
  | 'Z' => some .textEnd
  | _ => none

/-! ## Groups -/

/-- The span of a group that has been closed. -/
def closedSpan? (group : Nat) : Read (Option Span) := do
  match group with
  | 0 => return none
  | n + 1 => return ((← get).groups[n]?).join

/-- Inside look-behind a group may be named only if it was closed before. -/
def checkLookBehind (group : Nat) : Read Unit := do
  match (← get).lookBehindFrom with
  | none => return
  | some first =>
    if (← closedSpan? group).isNone then refuse "cannot refer to an open group".toList 0
    if first ≤ group then
      refuse "cannot refer to group defined in the same lookbehind subpattern".toList 0

/-- A reference to a group whose text has `length` characters. -/
def reference (group length : Nat) : Read Tree := do
  match ← closedSpan? group with
  | none => refuse "cannot refer to an open group".toList length
  | some span => checkLookBehind group; return .backReference group span

/-- The number of a named group; the name and the character after it have just been taken. -/
def groupNamed (name : List Char) : Read Nat := do
  match (← get).names.lookup (String.ofList name) with
  | some group => return group
  | none =>
    refuse ("unknown group name ".toList ++ (Text.shown (String.ofList name)).toList)
      (name.length + 1)

/-- A name for a group; the name and the character after it have just been taken. -/
def checkName (name : List Char) : Read Unit := do
  if !Text.isName name then
    refuse ("bad character in group name ".toList ++ (Text.shown (String.ofList name)).toList)
      (name.length + 1)

/-- Opens the next group. -/
def openGroup (name? : Option (List Char)) : Read Nat := do
  let s ← get
  let group := s.groups.length + 1
  match name? with
  | none => set { s with groups := s.groups ++ [none] }
  | some name =>
    match s.names.lookup (String.ofList name) with
    | some old =>
      refuse ("redefinition of group name ".toList ++ (Text.shown (String.ofList name)).toList ++
        " as group ".toList ++ Nat.toDigits 10 group ++ "; was group ".toList ++
        Nat.toDigits 10 old) (name.length + 1)
    | none =>
      set { s with
        groups := s.groups ++ [none]
        names := s.names ++ [(String.ofList name, group)] }
  return group

/-- Closes a group. -/
def closeGroup (group : Nat) (body : List Tree) : Read Unit :=
  modify fun s => { s with groups := s.groups.set (group - 1) (some (Tree.spanOfAll body)) }

/-- The most groups that a condition may count. -/
def groupBound : Nat := 1073741823

/-- The group that a condition asks for. -/
def conditionGroup : Read Nat := do
  let name ← Read.name ')' "group name".toList
  let group ← do
    if Text.isName name then groupNamed name
    else
      match groupNumber? name with
      | none =>
        refuse ("bad character in group name ".toList ++ (Text.shown (String.ofList name)).toList)
          (name.length + 1)
      | some 0 => refuse "bad group number".toList (name.length + 1)
      | some group =>
        if groupBound ≤ group then
          refuse ("invalid group reference ".toList ++ Nat.toDigits 10 group) (name.length + 1)
        let first := (← place) - (name.length + 1)
        modify fun s =>
          if (s.references.lookup group).isSome then s
          else { s with references := s.references ++ [(group, first)] }
        pure group
  checkLookBehind group
  return group

/-! ## Escapes -/

/-- An escape outside a set. -/
def escapeItem (c : Char) : Read Tree := do
  if let some anchor := anchor? c then return .anchor anchor
  if let some member := category? c then return .set false [member]
  if let some code := controlCode? c then return .literal code
  if c = 'x' then return .literal (← hexEscape c 2)
  if c = 'u' then return .literal (← hexEscape c 4)
  if c = 'U' then return .literal (← hexEscape c 8)
  if c = 'N' then return .literal (← namedEscape)
  if c = '0' then
    let digits ← takeUpTo 2 isOctalDigit
    return .literal (numberOf 8 digits)
  if isLatinDigit c then
    let second ← takeUpTo 1 isLatinDigit
    let octal := isOctalDigit c && !second.isEmpty && second.all isOctalDigit
    let third ← if octal then takeUpTo 1 isOctalDigit else pure []
    if !third.isEmpty then return .literal (← octalEscape (c :: second ++ third))
    let group := numberOf 10 (c :: second)
    if group < (← get).groups.length + 1 then
      return ← reference group (2 + second.length)
    refuse ("invalid group reference ".toList ++ Nat.toDigits 10 group) (1 + second.length)
  if isLatinLetter c then refuse ("bad escape \\".toList ++ [c]) 2
  return .literal c.toNat

/-- An escape inside a set. -/
def escapeMember (c : Char) : Read Member := do
  if let some code := controlCode? c then return .code code
  if let some member := category? c then return member
  if c = 'x' then return .code (← hexEscape c 2)
  if c = 'u' then return .code (← hexEscape c 4)
  if c = 'U' then return .code (← hexEscape c 8)
  if c = 'N' then return .code (← namedEscape)
  if isOctalDigit c then
    let digits ← takeUpTo 2 isOctalDigit
    return .code (← octalEscape (c :: digits))
  if isLatinDigit c || isLatinLetter c then refuse ("bad escape \\".toList ++ [c]) 2
  return .code c.toNat

/-! ## Sets -/

/-- The member that a token stands for. -/
def memberOf : Token → Read Member
  | .plain c => return .code c.toNat
  | .escaped c => escapeMember c

/-- A range between two members, which must be characters in ascending order. -/
def rangeOf (this that : Token) (low high : Member) : Read Member := do
  let refusal : Read Member :=
    refuse ("bad character range ".toList ++ this.chars ++ '-' :: that.chars)
      (this.chars.length + 1 + that.chars.length)
  match low, high with
  | .code first, .code last => if last < first then refusal else return .range first last
  | _, _ => refusal

/-- The members of a set up to its closing bracket; `start` is the place of the opening one. -/
def members (start : Nat) : Nat → List Member → Read (List Member)
  | 0, found => return found
  | steps + 1, found => do
    match ← next with
    | none => refuseAt "unterminated character set".toList start
    | some this =>
      if this = .plain ']' && !found.isEmpty then return found
      let low ← memberOf this
      if ← accept '-' then
        match ← next with
        | none => refuseAt "unterminated character set".toList start
        | some that =>
          if that = .plain ']' then return found ++ [low, .code '-'.toNat]
          let high ← memberOf that
          let range ← rangeOf this that low high
          members start steps (found ++ [range])
      else members start steps (found ++ [low])

/-- A set; its opening bracket has just been taken. -/
def setItem : Read Tree := do
  let start := (← place) - 1
  let negated ← accept '^'
  let found ← members start ((← get).rest.length + 1) []
  match found.eraseDups with
  | [.code code] => return if negated then .notLiteral code else .literal code
  | distinct => return .set negated distinct

/-! ## Repeats -/

/-- The numbers of passes of a repeat in braces; the opening brace has just been taken. None if the
brace stands for itself. -/
def braces? : Read (Option (Nat × Option Nat)) := do
  let here ← place
  let rest := (← get).rest
  if (← peek) = some (.plain '\x7d') then return none
  let low ← takeAll isLatinDigit
  let high ← if ← accept ',' then takeAll isLatinDigit else pure low
  if !(← accept '\x7d') then
    moveTo rest
    return none
  let least ← if low.isEmpty then pure 0 else decimalOf low
  if 0xffffffff ≤ least then throw .repetitionTooLarge
  if high.isEmpty then return some (least, none)
  let most ← decimalOf high
  if 0xffffffff ≤ most then throw .repetitionTooLarge
  if most < least then refuseAt "min repeat greater than max repeat".toList here
  return some (least, some most)

/-- The items of a group that only brackets. -/
def unwrap : Tree → List Tree
  | .group none added removed body =>
    if added = {} ∧ removed = {} then body else [.group none added removed body]
  | item => [item]

/-- Repeats the last item; `here` is the place of the repeat sign. The last item comes first. -/
def repeatLast (here least : Nat) (most : Option Nat) (items : List Tree) : Read (List Tree) := do
  match items with
  | [] | .anchor _ :: _ => refuseAt "nothing to repeat".toList here
  | .repeated .. :: _ => refuseAt "multiple repeat".toList here
  | item :: before =>
    let greed ← do
      if ← accept '?' then pure Greed.lazy
      else if ← accept '+' then pure Greed.possessive
      else pure Greed.greedy
    return .repeated greed least most (unwrap item) :: before

/-! ## Alternatives -/

/-- Takes the first items of all alternatives in front of them, as long as they are the same. -/
def factor : List Tree → List (List Tree) → List Tree × List Tree × List (List Tree)
  | head :: first, others =>
    if others.all fun items => (items.head?.map head.sameLeaf).getD false then
      let (common, first, others) := factor first (others.map List.tail)
      (head :: common, first, others)
    else ([], head :: first, others)
  | [], others => ([], [], others)

/-- The members that alternatives of one character each make up together. -/
def membersOf? : List (List Tree) → Option (List Member)
  | [] => some []
  | [.literal code] :: rest => (membersOf? rest).map (.code code :: ·)
  | [.set false members] :: rest => (membersOf? rest).map (members ++ ·)
  | _ :: _ => none

/-- The items of alternatives. -/
def join : List (List Tree) → List Tree
  | [] => []
  | [items] => items
  | first :: others =>
    let (common, first, others) := factor first others
    match membersOf? (first :: others) with
    | some members => common ++ [.set false members.eraseDups]
    | none => common ++ [.branch (first :: others)]

/-! ## Flags -/

/-- What inline flags do: they hold for the whole pattern, or inside a group. -/
inductive FlagScope where
  | global
  | inside (added removed : Flags)

/-- The flags turned on, up to the token that ends them. -/
def flagsAdded : Nat → Token → Flags → Read (Flags × Token)
  | 0, token, added => return (added, token)
  | steps + 1, token, added => do
    let flag := token.flag?.getD {}
    if flag.locale then
      refuse "bad inline flags: cannot use 'L' flag with a str pattern".toList 0
    let added := added.union flag
    if flag.choosesClasses && 1 < added.classCount then
      refuse "bad inline flags: flags 'a', 'u' and 'L' are incompatible".toList 0
    match ← next with
    | none => refuse "missing -, : or )".toList 0
    | some token =>
      if token = .plain ')' || token = .plain '-' || token = .plain ':' then return (added, token)
      if token.flag?.isNone then
        refuse (if token.isLetter then "unknown flag" else "missing -, : or )").toList
          token.chars.length
      flagsAdded steps token added

/-- The flags turned off, up to the colon. -/
def flagsRemoved : Nat → Token → Flags → Read Flags
  | 0, _, removed => return removed
  | steps + 1, token, removed => do
    let flag := token.flag?.getD {}
    if flag.choosesClasses then
      refuse "bad inline flags: cannot turn off flags 'a', 'u' and 'L'".toList 0
    let removed := removed.union flag
    match ← next with
    | none => refuse "missing :".toList 0
    | some token =>
      if token = .plain ':' then return removed
      if token.flag?.isNone then
        refuse (if token.isLetter then "unknown flag" else "missing :").toList token.chars.length
      flagsRemoved steps token removed

/-- Inline flags; their first token has just been taken. -/
def flagScope (first : Token) : Read FlagScope := do
  let steps := (← get).rest.length + 1
  let (added, stop) ← if first = .plain '-' then pure ({}, first) else flagsAdded steps first {}
  if stop = .plain ')' then
    modify fun s => { s with flags := s.flags.union added }
    return .global
  if added.template then refuse "bad inline flags: cannot turn on global flag".toList 1
  let removed ← do
    if stop = .plain '-' then
      match ← next with
      | none => refuse "missing flag".toList 0
      | some token =>
        if token.flag?.isNone then
          refuse (if token.isLetter then "unknown flag" else "missing flag").toList
            token.chars.length
        flagsRemoved steps token {}
    else pure {}
  if removed.template then refuse "bad inline flags: cannot turn off global flag".toList 1
  if added.inter removed ≠ {} then
    refuse "bad inline flags: flag turned on and off".toList 1
  return .inside added removed

/-! ## The grammar -/

/-- What an opening parenthesis began. -/
inductive Opened where
  | item (item : Tree)
  | nothing
  | flags

/-- Takes the parenthesis that closes what was opened at `start`. -/
def close (start : Nat) : Read Unit := do
  if !(← accept ')') then refuseAt "missing ), unterminated subpattern".toList start

mutual

/-- Alternatives; `top` if they are the whole pattern. -/
def alternation : Nat → Bool → Bool → List (List Tree) → Read (List Tree)
  | 0, _, _, _ => refuse "unexpected end of pattern".toList 0
  | steps + 1, verbose, top, before => do
    let items ← sequence steps verbose (top && before.isEmpty) []
    if ← accept '|' then
      let s ← get
      let verbose := if top then s.flags.verbose else verbose
      alternation steps verbose top (before ++ [items])
    else return join (before ++ [items])

/-- Items up to a bar, a closing parenthesis or the end. Those read so far are in reverse order;
`first` if the pattern begins with them. -/
def sequence : Nat → Bool → Bool → List Tree → Read (List Tree)
  | 0, _, _, _ => refuse "unexpected end of pattern".toList 0
  | steps + 1, verbose, first, items => do
    match ← peek with
    | none | some (.plain '|') | some (.plain ')') => return items.reverse.flatMap unwrap
    | some token =>
      let _ ← next
      let more (items : List Tree) : Read (List Tree) := sequence steps verbose first items
      match token with
      | .escaped c => more ((← escapeItem c) :: items)
      | .plain c =>
        if verbose && [' ', '\t', '\n', '\r', '\x0b', '\x0c'].contains c then more items
        else if verbose && c = '#' then
          let _ ← takeThrough? '\n'
          more items
        else if c = '[' then more ((← setItem) :: items)
        else if c = '*' then more (← repeatLast ((← place) - 1) 0 none items)
        else if c = '+' then more (← repeatLast ((← place) - 1) 1 none items)
        else if c = '?' then more (← repeatLast ((← place) - 1) 0 (some 1) items)
        else if c = '\x7b' then
          let here := (← place) - 1
          match ← braces? with
          | none => more (.literal c.toNat :: items)
          | some (least, most) => more (← repeatLast here least most items)
        else if c = '.' then more (.any :: items)
        else if c = '^' then more (.anchor .lineStart :: items)
        else if c = '$' then more (.anchor .lineEnd :: items)
        else if c = '(' then
          let opened ← groupItem steps verbose (first && items.isEmpty)
          match opened with
          | .item item => more (item :: items)
          | .nothing => more items
          | .flags =>
            let s ← get
            sequence steps s.flags.verbose first items
        else more (.literal c.toNat :: items)

/-- What an opening parenthesis begins, which has just been taken; `first` if nothing comes before
it. -/
def groupItem : Nat → Bool → Bool → Read Opened
  | 0, _, _ => refuse "unexpected end of pattern".toList 0
  | steps + 1, verbose, first => do
    let start := (← place) - 1
    if !(← accept '?') then
      return .item (← captured steps verbose start none)
    match ← next with
    | none => refuse "unexpected end of pattern".toList 0
    | some (.plain 'P') =>
      if ← accept '<' then
        let name ← Read.name '>' "group name".toList
        checkName name
        return .item (← captured steps verbose start (some name))
      else if ← accept '=' then
        let name ← Read.name ')' "group name".toList
        checkName name
        let group ← groupNamed name
        return .item (← reference group (name.length + 1))
      else
        match ← next with
        | none => refuse "unexpected end of pattern".toList 0
        | some token =>
          refuse ("unknown extension ?P".toList ++ token.chars) (token.chars.length + 2)
    | some (.plain ':') => return .item (← bracketed steps verbose start {} {})
    | some (.plain '>') =>
      let body ← alternation steps verbose false []
      close start
      return .item (.atomic body)
    | some (.plain '#') =>
      match ← takeThrough? ')' with
      | none => refuseAt "missing ), unterminated comment".toList start
      | some _ => return .nothing
    | some (.plain '=') => return .item (← look steps verbose start true true)
    | some (.plain '!') => return .item (← look steps verbose start true false)
    | some (.plain '<') =>
      match ← next with
      | none => refuse "unexpected end of pattern".toList 0
      | some (.plain '=') => return .item (← look steps verbose start false true)
      | some (.plain '!') => return .item (← look steps verbose start false false)
      | some token =>
        refuse ("unknown extension ?<".toList ++ token.chars) (token.chars.length + 2)
    | some (.plain '(') =>
      let group ← conditionGroup
      let present ← sequence steps verbose false []
      let absent ← do
        if ← accept '|' then
          let absent ← sequence steps verbose false []
          if (← peek) = some (.plain '|') then
            refuse "conditional backref with more than two branches".toList 0
          pure absent
        else pure []
      close start
      return .item (.conditional group present absent)
    | some token =>
      if token.flag?.isNone && token ≠ .plain '-' then
        refuse ("unknown extension ?".toList ++ token.chars) (token.chars.length + 1)
      match ← flagScope token with
      | .global =>
        if !first then
          refuseAt "global flags not at the start of the expression".toList start
        return .flags
      | .inside added removed => return .item (← bracketed steps verbose start added removed)

/-- A group that captures what it matches. -/
def captured : Nat → Bool → Nat → Option (List Char) → Read Tree
  | 0, _, _, _ => refuse "unexpected end of pattern".toList 0
  | steps + 1, verbose, start, name? => do
    let group ← openGroup name?
    let body ← alternation steps verbose false []
    close start
    closeGroup group body
    return .group (some group) {} {} body

/-- A group that does not capture. -/
def bracketed : Nat → Bool → Nat → Flags → Flags → Read Tree
  | 0, _, _, _, _ => refuse "unexpected end of pattern".toList 0
  | steps + 1, verbose, start, added, removed => do
    let inside := (verbose || added.verbose) && !removed.verbose
    let body ← alternation steps inside false []
    close start
    return .group none added removed body

/-- Look-ahead and look-behind. -/
def look : Nat → Bool → Nat → Bool → Bool → Read Tree
  | 0, _, _, _, _ => refuse "unexpected end of pattern".toList 0
  | steps + 1, verbose, start, ahead, positive => do
    let outer := (← get).lookBehindFrom
    if !ahead && outer.isNone then
      modify fun s => { s with lookBehindFrom := some (s.groups.length + 1) }
    let body ← alternation steps verbose false []
    if !ahead && outer.isNone then modify fun s => { s with lookBehindFrom := none }
    close start
    return .look ahead positive body

end

/-! ## Checks on the whole pattern -/

/-- A look-behind must have one length. -/
def checkSpan (span : Span) : Except Fault Unit :=
  if 0xffffffff < span.least then .error (.malformed "looks too much behind" none)
  else if span.least ≠ span.most then
    .error (.malformed "look-behind requires fixed-width pattern" none)
  else .ok ()

/-- What a repeat is called where repeats are not allowed. -/
def greedName : Greed → String
  | .greedy => "MAX_REPEAT"
  | .lazy => "MIN_REPEAT"
  | .possessive => "POSSESSIVE_REPEAT"

mutual

/-- Checks an item and what is inside it. -/
def checkItem (template : Bool) : Tree → Except Fault Unit
  | .repeated greed _ _ body =>
    if template then
      .error (.malformed ("internal: unsupported template operator " ++ greedName greed) none)
    else checkItems template body
  | .group _ _ _ body => checkItems template body
  | .atomic body => checkItems template body
  | .look ahead _ body => do
    if !ahead then checkSpan (Tree.spanOfAll body)
    checkItems template body
  | .branch alternatives => checkAlternatives template alternatives
  | .conditional _ present absent => do
    checkItems template present
    checkItems template absent
  | _ => .ok ()

/-- Checks items in order. -/
def checkItems (template : Bool) : List Tree → Except Fault Unit
  | [] => .ok ()
  | item :: rest => do
    checkItem template item
    checkItems template rest

/-- Checks alternatives in order. -/
def checkAlternatives (template : Bool) : List (List Tree) → Except Fault Unit
  | [] => .ok ()
  | items :: rest => do
    checkItems template items
    checkAlternatives template rest

end

/-- The whole pattern. -/
def whole : Read Program := do
  moveTo (← get).rest
  let steps := 4 * (← get).rest.length + 4
  let items ← alternation steps false true []
  let flags := (← get).flags
  if flags.ascii && flags.unicode then throw .exclusiveFlags
  if !(← get).rest.isEmpty then refuse "unbalanced parenthesis".toList 0
  let s ← get
  if let some (group, position) := s.references.find? fun (group, _) => s.groups.length < group then
    refuseAt ("invalid group reference ".toList ++ Nat.toDigits 10 group) position
  checkItems flags.template items
  return { items, flags }

/-- The program of a pattern, or the first fault in it. -/
def read (source : List Char) : Except Fault Program :=
  match (whole source.length).run { rest := source } with
  | .ok (program, _) => .ok program
  | .error fault => .error fault

end TreePredicate.Pattern
