import Reminders.Yaml.Cursor

/-!
# Yaml — scalars

A scalar is a text in one of five styles.  In a plain or quoted scalar a line break is folded: one
break is read as a space, further ones are kept.  A block scalar is a run of lines indented deeper
than the collection around it; its breaks are kept or folded, and those at the end are stripped,
clipped to one, or kept.
-/

namespace Reminders.Yaml

/-- How a scalar is written. -/
inductive Style where
  | plain
  | singleQuoted
  | doubleQuoted
  | literal
  | folded
deriving DecidableEq

/-! ### White space inside a scalar -/

/-- Space between two words of a scalar. -/
structure Gap where
  /-- The blanks before the first line break, last one first. -/
  blanks : List Char
  /-- The gap contains a line break. -/
  isFolded : Bool
  /-- The first line break; an escaped one leaves nothing. -/
  firstBreak : Option Char
  /-- The other line breaks, last one first. -/
  moreBreaks : List Char

namespace Gap

/-- No space. -/
def none : Gap := ⟨[], false, .none, []⟩

/-- An escaped line break. -/
def escaped : Gap := ⟨[], true, .none, []⟩

/-- The text that a gap stands for, last character first. -/
def textReversed (g : Gap) : List Char :=
  if !g.isFolded then g.blanks
  else match g.firstBreak with
    | some '\n' => if g.moreBreaks.isEmpty then [' '] else g.moreBreaks
    | some b => g.moreBreaks ++ [b]
    | .none => g.moreBreaks

/-- Takes blanks and line breaks.  Before column `limit` a new line must not start with a tab.
Each of the `fuel` rounds takes a character. -/
def read : Nat → Nat → Gap → Cursor → Option (Gap × Cursor)
  | 0, _, g, c => some (g, c)
  | fuel + 1, limit, g, c =>
    match c.rest with
    | [] => some (g, c)
    | x :: _ =>
      if isGapChar x then
        if !g.isFolded then read fuel limit { g with blanks := x :: g.blanks } (c.advance 1)
        else if x = '\t' && c.column < limit then Option.none
        else read fuel limit g (c.advance 1)
      else if isBreak x then
        if !g.isFolded then read fuel limit ⟨[], true, some c.lineBreak, []⟩ c.nextLine
        else read fuel limit { g with moreBreaks := c.lineBreak :: g.moreBreaks } c.nextLine
      else some (g, c)

end Gap

/-! ### Plain scalars -/

/-- The characters that separate or end the parts of a flow collection. -/
def isFlowMark (c : Char) : Bool :=
  c == ',' || c == '[' || c == ']' || c == '\x7b' || c == '\x7d'

/-- The characters of a plain word.  Inside a flow collection a colon must not stand before a mark
of the collection. -/
def plainWord (inFlow : Bool) : List Char → Option (List Char)
  | [] => some []
  | c :: cs =>
    if isGapChar c || isBreak c then some []
    else if inFlow && c == ':' && (cs.head?.any fun d => isFlowMark d || d == '?') then none
    else if (c == ':' && endsWord cs) || (inFlow && isFlowMark c) then some []
    else (plainWord inFlow cs).map (c :: ·)

/-- A plain scalar that has been read. -/
structure PlainText where
  text : List Char
  /-- A line break follows the scalar. -/
  endsInBreak : Bool

/-- Reads on in a plain scalar, given its text so far, last character first, and the gap after it.
Each of the `fuel` rounds takes a word. -/
def readPlain : Nat → Bool → Nat → List Char → Gap → Cursor → Option (PlainText × Cursor)
  | 0, _, _, text, gap, c => some (⟨text.reverse, gap.isFolded⟩, c)
  | fuel + 1, inFlow, limit, text, gap, c => do
    if c.atDocumentMark || c.rest.head? == some '#' then
      return (⟨text.reverse, gap.isFolded⟩, c)
    let word ← plainWord inFlow c.rest
    let (text, gap') :=
      if word.isEmpty then (text, gap) else (word.reverse ++ (gap.textReversed ++ text), Gap.none)
    let c := c.advance word.length
    if endsWord c.rest && !c.rest.isEmpty then
      let (gap', c) ← Gap.read c.rest.length limit gap' c
      if !inFlow && c.column < limit then return (⟨text.reverse, gap'.isFolded⟩, c)
      else readPlain fuel inFlow limit text gap' c
    else return (⟨text.reverse, gap'.isFolded⟩, c)

/-! ### Quoted scalars -/

/-- The value of some hexadecimal digits. -/
def hexadecimal? (cs : List Char) : Option Nat :=
  cs.foldlM (fun n c =>
    if c.isDigit then some (n * 16 + (c.toNat - 48))
    else if 'a' ≤ c ∧ c ≤ 'f' then some (n * 16 + (c.toNat - 87))
    else if 'A' ≤ c ∧ c ≤ 'F' then some (n * 16 + (c.toNat - 55))
    else none) 0

/-- The character with a code point given by some hexadecimal digits. -/
def codePoint (digits : Nat) (cs : List Char) : Option (Char × Nat) := do
  if cs.length < digits then none
  let n ← hexadecimal? (cs.take digits)
  if n.isValidChar then some (Char.ofNat n, digits + 1) else none

/-- The character that an escape stands for, and the length of the escape after the backslash. -/
def escapeOf : List Char → Option (Char × Nat)
  | '0' :: _ => some ('\x00', 1)
  | 'a' :: _ => some ('\x07', 1)
  | 'b' :: _ => some ('\x08', 1)
  | 't' :: _ | '\t' :: _ => some ('\t', 1)
  | 'n' :: _ => some ('\n', 1)
  | 'v' :: _ => some ('\x0b', 1)
  | 'f' :: _ => some ('\x0c', 1)
  | 'r' :: _ => some ('\r', 1)
  | 'e' :: _ => some ('\x1b', 1)
  | ' ' :: _ => some (' ', 1)
  | '"' :: _ => some ('"', 1)
  | '/' :: _ => some ('/', 1)
  | '\\' :: _ => some ('\\', 1)
  | 'N' :: _ => some ('\u0085', 1)
  | '_' :: _ => some ('\u00a0', 1)
  | 'L' :: _ => some ('\u2028', 1)
  | 'P' :: _ => some ('\u2029', 1)
  | 'x' :: cs => codePoint 2 cs
  | 'u' :: cs => codePoint 4 cs
  | 'U' :: cs => codePoint 8 cs
  | _ => none

/-- Reads the characters of a quoted scalar up to a gap, an escaped line break or the closing
quote.  Each of the `fuel` rounds takes a character. -/
def readQuotedWord (single : Bool) : Nat → List Char → Cursor → Option (List Char × Gap × Cursor)
  | 0, text, c => some (text, Gap.none, c)
  | fuel + 1, text, c =>
    match c.rest with
    | [] => some (text, Gap.none, c)
    | x :: more =>
      if isGapChar x || isBreak x then some (text, Gap.none, c)
      else if single then
        if x = '\'' then
          if more.head? = some '\'' then readQuotedWord single fuel ('\'' :: text) (c.advance 2)
          else some (text, Gap.none, c)
        else readQuotedWord single fuel (x :: text) (c.advance 1)
      else if x = '"' then some (text, Gap.none, c)
      else if x = '\\' then
        if more.head?.any isBreak then some (text, Gap.escaped, (c.advance 1).nextLine)
        else do
          let (value, length) ← escapeOf more
          readQuotedWord single fuel (value :: text) (c.advance (1 + length))
      else readQuotedWord single fuel (x :: text) (c.advance 1)

/-- Reads on in a quoted scalar.  Each of the `fuel` rounds takes at least a character. -/
def readQuoted (single : Bool) : Nat → List Char → Cursor → Option (List Char × Cursor)
  | 0, _, _ => none
  | fuel + 1, text, c => do
    if c.atDocumentMark || c.rest.isEmpty then none
    let (text, gap, c) ← readQuotedWord single c.rest.length text c
    match c.rest with
    | [] => none
    | x :: _ =>
      if !gap.isFolded && x == (if single then '\'' else '"') then
        return (text.reverse, c.advance 1)
      else
        let (gap, c) ← Gap.read c.rest.length 0 gap c
        readQuoted single fuel (gap.textReversed ++ text) c

/-! ### Block scalars -/

/-- What happens to the line breaks at the end of a block scalar. -/
inductive Chomping where
  | strip
  | clip
  | keep
deriving DecidableEq

/-- The indicators after the mark of a block scalar. -/
structure BlockHeader where
  chomping : Chomping
  /-- The given depth of indentation, relative to the collection around the scalar. -/
  indent : Option Nat

/-- Takes an indicator of chomping. -/
def readChomping : List Char → Option (Chomping × List Char)
  | '+' :: cs => some (.keep, cs)
  | '-' :: cs => some (.strip, cs)
  | _ => none

/-- Takes an indicator of indentation; zero is refused. -/
def readIndent : List Char → Option (Option Nat × List Char)
  | c :: cs =>
    if c = '0' then none
    else if c.isDigit then some (some (c.toNat - 48), cs)
    else some (none, c :: cs)
  | [] => some (none, [])

/-- Takes the indicators in either order. -/
def readHeader (cs : List Char) : Option (BlockHeader × List Char) :=
  match readChomping cs with
  | some (chomping, cs) => do
    let (indent, cs) ← readIndent cs
    return (⟨chomping, indent⟩, cs)
  | none => do
    let (indent, cs) ← readIndent cs
    match indent, readChomping cs with
    | some _, some (chomping, cs) => return (⟨chomping, indent⟩, cs)
    | _, _ => return (⟨.clip, indent⟩, cs)

/-- Takes the indentation and the line breaks before a line of a block scalar.  Without a known
indentation the deepest one met is measured.  Each of the `fuel` rounds takes a line. -/
def readIndentation (known : Option Nat) :
    Nat → Nat → List Char → Cursor → Option (Nat × List Char × Cursor)
  | 0, deepest, breaks, c => some (deepest, breaks, c)
  | fuel + 1, deepest, breaks, c => do
    let spaces := c.rest.takeWhile (· == ' ')
    let width := match known with
      | some indent => min spaces.length (indent - c.column)
      | none => spaces.length
    let c := c.advance width
    let deepest := max deepest c.column
    let beforeText := known.all fun indent => c.column < indent
    match c.rest with
    | [] => return (deepest, breaks, c)
    | x :: _ =>
      if x == '\t' && beforeText then none
      else if isBreak x then
        readIndentation known fuel deepest (c.lineBreak :: breaks) c.nextLine
      else return (deepest, breaks, c)

/-- The text of a block scalar so far. -/
structure BlockText where
  /-- The text, last character first. -/
  text : List Char
  /-- The break that ended the last line. -/
  lineBreak : Option Char
  /-- The last line started with a blank. -/
  isIndented : Bool
  /-- The breaks of empty lines after the last line, last one first. -/
  breaks : List Char

/-- The text before a further line, which starts with a blank or does not. -/
def BlockText.join (folds : Bool) (b : BlockText) (startsIndented : Bool) : List Char :=
  if folds && b.lineBreak == some '\n' && !b.isIndented && !startsIndented then
    if b.breaks.isEmpty then ' ' :: b.text else b.breaks ++ b.text
  else b.breaks ++ (b.lineBreak.toList ++ b.text)

/-- Reads the lines of a block scalar.  Each of the `fuel` rounds takes a line. -/
def readBlockLines (folds : Bool) (indent : Nat) :
    Nat → BlockText → Cursor → Option (BlockText × Cursor)
  | 0, b, c => some (b, c)
  | fuel + 1, b, c =>
    if c.column != indent || c.rest.isEmpty then some (b, c)
    else do
      let startsIndented := c.rest.head?.any isGapChar
      let before := b.join folds startsIndented
      let line := c.rest.takeWhile fun x => !isBreak x
      let c := c.advance line.length
      let text := line.reverse ++ before
      let lineBreak := if c.rest.isEmpty then none else some c.lineBreak
      let (_, breaks, c) ← readIndentation (some indent) (c.rest.length + 1) 0 [] c.nextLine
      readBlockLines folds indent fuel ⟨text, lineBreak, startsIndented, breaks⟩ c

/-- Reads a block scalar after its mark, inside a collection of the given indentation. -/
def readBlock (folds : Bool) (parent : Int) (c : Cursor) : Option (List Char × Cursor) := do
  let (header, rest) ← readHeader c.rest
  let c := (c.advance (c.rest.length - rest.length)).advanceWhile isGapChar
  let c := if c.rest.head? = some '#' then c.skipToBreak else c
  if !endsLine c.rest then none
  let c := c.nextLine
  let known := header.indent.map fun n => (max parent 0).toNat + n
  let (deepest, breaks, c) ← readIndentation known (c.rest.length + 1) 0 [] c
  let indent := known.getD (max deepest (max (parent + 1) 1).toNat)
  let (b, c) ← readBlockLines folds indent (c.rest.length + 1) ⟨[], none, false, breaks⟩ c
  let text := match header.chomping with
    | .strip => b.text
    | .clip => b.lineBreak.toList ++ b.text
    | .keep => b.breaks ++ (b.lineBreak.toList ++ b.text)
  return (text.reverse, c)

end Reminders.Yaml
