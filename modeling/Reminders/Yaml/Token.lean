import Reminders.Yaml.Scalar

/-!
# Yaml — tokens

A text is cut into tokens.  Indentation becomes tokens that open and close block collections.  The
start of a line, or a word inside a flow collection, may turn out to be a key when a colon follows
it: the lexer remembers such places and puts the tokens of a key there in hindsight.  Such a key
lies on one line and has at most 1024 characters.
-/

namespace Reminders.Yaml

/-- A token. -/
inductive Token where
  | versionDirective (major minor : Nat)
  | tagDirective (handle start : String)
  | documentStart
  | documentEnd
  | blockSequenceStart
  | blockMappingStart
  | blockEnd
  | flowSequenceStart
  | flowSequenceEnd
  | flowMappingStart
  | flowMappingEnd
  | blockEntry
  | flowEntry
  | key
  | value
  | alias (name : String)
  | anchor (name : String)
  | tag (handle suffix : String)
  | scalar (style : Style) (text : String)
deriving DecidableEq

/-- A place at which a key may turn out to have started. -/
structure SimpleKey where
  /-- The place must be a key, because a line of a block mapping starts there. -/
  isRequired : Bool
  /-- The number of tokens before the place. -/
  position : Nat
  index : Nat
  line : Nat
  column : Nat

/-- The state of the lexer. -/
structure Lexer where
  cursor : Cursor
  tokens : Array Token
  /-- The possible keys: one place for the text itself and one for each open flow collection,
  innermost first. -/
  keys : List (Option SimpleKey)
  /-- The column of the innermost block collection; -1 outside of all. -/
  indent : Int
  /-- The columns of the block collections around it. -/
  outer : List Int
  /-- A key may start at the next token. -/
  allowsKey : Bool

namespace Lexer

/-- The lexer at the start of a text. -/
def start (cs : List Char) : Lexer := ⟨.start cs, #[], [none], -1, [], true⟩

/-- The next token lies inside a flow collection. -/
def inFlow (l : Lexer) : Bool :=
  1 < l.keys.length

def push (token : Token) (l : Lexer) : Lexer :=
  { l with tokens := l.tokens.push token }

/-- The possible key of the innermost collection. -/
def simpleKey (l : Lexer) : Option SimpleKey :=
  l.keys.head?.join

def setKey (key : Option SimpleKey) (l : Lexer) : Lexer :=
  { l with keys := key :: l.keys.tail }

/-- Gives up the possible key, unless it must be one. -/
def dropKey (l : Lexer) : Option Lexer :=
  if l.simpleKey.any (·.isRequired) then none else some (l.setKey none)

/-- Remembers that a key may start here. -/
def markKey (l : Lexer) : Option Lexer :=
  if !l.allowsKey then some l
  else do
    let l ← l.dropKey
    let isRequired := !l.inFlow && l.indent == (l.cursor.column : Int)
    return l.setKey (some ⟨isRequired, l.tokens.size, l.cursor.index, l.cursor.line,
      l.cursor.column⟩)

/-- Gives up the possible keys that started on another line or more than 1024 characters ago. -/
def dropStaleKeys (l : Lexer) : Option Lexer := do
  let keys ← l.keys.mapM fun key =>
    match key with
    | none => some none
    | some k =>
      if k.line < l.cursor.line || k.index + 1024 < l.cursor.index then
        if k.isRequired then none else some none
      else some (some k)
  return { l with keys := keys }

/-- Closes the block collections that are indented deeper than `column`. -/
def unroll (column : Int) (l : Lexer) : Lexer :=
  if l.inFlow then l
  else
    let (closed, left) := (l.indent :: l.outer).span (column < ·)
    { l with
      tokens := l.tokens ++ Array.replicate closed.length Token.blockEnd
      indent := left.headD (-1)
      outer := left.tail }

/-- Opens a block collection at `column` if none is open there; its token goes to `position`. -/
def roll (column : Nat) (position : Nat) (token : Token) (l : Lexer) : Lexer :=
  if l.inFlow || (column : Int) ≤ l.indent then l
  else
    { l with
      tokens := l.tokens.insertIdxIfInBounds position token
      indent := column
      outer := l.indent :: l.outer }

/-- Takes `length` characters for a token. -/
def take (length : Nat) (token : Token) (l : Lexer) : Lexer :=
  { l.push token with cursor := l.cursor.advance length }

/-! ### Space, comments and directives -/

/-- Skips to the next token.  A new line of a block collection may start with a key, and then not
with a tab.  Each of the `fuel` rounds takes a line. -/
def skipSpace : Nat → Lexer → Lexer
  | 0, l => l
  | fuel + 1, l =>
    let c := l.cursor.advanceWhile fun x =>
      x == ' ' || (x == '\t' && (l.inFlow || !l.allowsKey))
    let c := if c.rest.head? = some '#' then c.skipToBreak else c
    if c.rest.head?.any isBreak then
      skipSpace fuel { l with cursor := c.nextLine, allowsKey := l.allowsKey || !l.inFlow }
    else { l with cursor := c }

/-- The tokens of a document's header start at the left margin. -/
def startHeader (l : Lexer) : Option Lexer := do
  let l ← (l.unroll (-1)).dropKey
  return { l with allowsKey := false }

/-- Takes a number of at most nine digits. -/
def readVersionNumber (cs : List Char) : Option (Nat × List Char) :=
  let ds := cs.takeWhile Char.isDigit
  if ds.isEmpty || 9 < ds.length then none
  else some (Nat.ofDigitChars 10 ds 0, cs.drop ds.length)

/-- Takes the handle of a tag: `!`, or a name between two marks. -/
def readHandle (isDirective : Bool) (cs : List Char) : Option (List Char × List Char) :=
  match cs with
  | '!' :: cs =>
    let name := cs.takeWhile isNameChar
    match cs.drop name.length with
    | '!' :: rest => some ('!' :: name ++ ['!'], rest)
    | rest =>
      if isDirective && !name.isEmpty then none else some ('!' :: name, rest)
  | _ => none

/-- The character may occur in the name of a tag; some may only in a whole identifier. -/
def isTagChar (isWhole : Bool) (c : Char) : Bool :=
  isNameChar c || ";/?:@&=+$.!~*'()".toList.contains c || (isWhole && ",[]".toList.contains c)

/-- The bytes of a run of percent escapes. -/
def percentBytes : List Char → List UInt8 × List Char
  | '%' :: a :: b :: cs =>
    match hexadecimal? [a, b] with
    | some n =>
      let (bytes, rest) := percentBytes cs
      (n.toUInt8 :: bytes, rest)
    | none => ([], '%' :: a :: b :: cs)
  | cs => ([], cs)

/-- Takes the name of a tag.  Each of the `fuel` rounds takes a character. -/
def readTagName (isWhole : Bool) : Nat → List Char → Option (List Char × List Char)
  | 0, cs => some ([], cs)
  | fuel + 1, cs =>
    match cs with
    | [] => some ([], [])
    | c :: rest =>
      if c = '%' then do
        let (bytes, rest) := percentBytes cs
        if bytes.isEmpty then none
        let text ← String.fromUTF8? ⟨bytes.toArray⟩
        let (name, rest) ← readTagName isWhole fuel rest
        return (text.toList ++ name, rest)
      else if isTagChar isWhole c then do
        let (name, rest) ← readTagName isWhole fuel rest
        return (c :: name, rest)
      else some ([], cs)

/-- The token of a directive's name and its arguments. -/
def readDirective (name : List Char) (cs : List Char) : Option (Token × List Char) :=
  if name = ['Y', 'A', 'M', 'L'] then do
    let (major, cs) ← readVersionNumber (cs.dropWhile isGapChar)
    match cs with
    | '.' :: cs =>
      let (minor, cs) ← readVersionNumber cs
      return (.versionDirective major minor, cs)
    | _ => none
  else if name = ['T', 'A', 'G'] then do
    let (handle, cs) ← readHandle true (cs.dropWhile isGapChar)
    if !cs.head?.any isGapChar then none
    let cs := cs.dropWhile isGapChar
    let (start, rest) ← readTagName true cs.length cs
    if start.isEmpty || !endsWord rest then none
    return (.tagDirective (String.ofList handle) (String.ofList start), rest)
  else none

/-- Takes a directive. -/
def directive (l : Lexer) : Option Lexer := do
  let l ← l.startHeader
  let cs := l.cursor.rest.tail
  let name := cs.takeWhile isNameChar
  let rest := cs.drop name.length
  if name.isEmpty || !endsWord rest then none
  let (token, rest) ← readDirective name rest
  let c := (l.cursor.advance (l.cursor.rest.length - rest.length)).advanceWhile isGapChar
  let c := if c.rest.head? = some '#' then c.skipToBreak else c
  if !endsLine c.rest then none
  return { l.push token with cursor := c.nextLine }

/-- Takes the mark that starts or ends a document. -/
def documentMark (token : Token) (l : Lexer) : Option Lexer := do
  let l ← l.startHeader
  return l.take 3 token

/-! ### Collections -/

/-- Takes the mark that opens a flow collection. -/
def openFlow (token : Token) (l : Lexer) : Option Lexer := do
  let l ← l.markKey
  return { l.take 1 token with keys := none :: l.keys, allowsKey := true }

/-- Takes the mark that closes a flow collection. -/
def closeFlow (token : Token) (l : Lexer) : Option Lexer := do
  let l ← l.dropKey
  let keys := if l.inFlow then l.keys.tail else l.keys
  return { l.take 1 token with keys := keys, allowsKey := false }

/-- Takes the comma between the parts of a flow collection. -/
def flowEntry (l : Lexer) : Option Lexer := do
  let l ← l.dropKey
  return { l.take 1 .flowEntry with allowsKey := true }

/-- Opens a block collection at this place, where a key must be allowed. -/
def openBlock (token : Token) (l : Lexer) : Option Lexer :=
  if l.inFlow then some l
  else if l.allowsKey then some (l.roll l.cursor.column l.tokens.size token)
  else none

/-- Takes the mark of an entry of a block sequence. -/
def blockEntry (l : Lexer) : Option Lexer := do
  let l ← l.openBlock .blockSequenceStart
  let l ← l.dropKey
  return { l.take 1 .blockEntry with allowsKey := true }

/-- Takes the mark of a key. -/
def keyMark (l : Lexer) : Option Lexer := do
  let l ← l.openBlock .blockMappingStart
  let l ← l.dropKey
  return { l.take 1 .key with allowsKey := !l.inFlow }

/-- Takes the colon between a key and its value. -/
def valueMark (l : Lexer) : Option Lexer :=
  match l.simpleKey with
  | some key =>
    let l := { l.setKey none with
      tokens := l.tokens.insertIdxIfInBounds key.position .key, allowsKey := false }
    let l := l.roll key.column key.position .blockMappingStart
    some (l.take 1 .value)
  | none => do
    let l ← l.openBlock .blockMappingStart
    return { l.take 1 .value with allowsKey := !l.inFlow }

/-! ### Names, tags and scalars -/

/-- Takes an alias or an anchor. -/
def name (token : String → Token) (l : Lexer) : Option Lexer := do
  let l ← l.markKey
  let cs := l.cursor.rest.tail
  let name := cs.takeWhile isNameChar
  let rest := cs.drop name.length
  let isEnded := endsWord rest || rest.head?.any fun c => "?:,]\x7d%@\x60".toList.contains c
  if name.isEmpty || !isEnded then none
  return { l.take (name.length + 1) (token (String.ofList name)) with allowsKey := false }

/-- Takes the handle and the name of a tag. -/
def readTag (cs : List Char) : Option (Token × List Char) :=
  match cs with
  | '!' :: '<' :: cs => do
    let (name, rest) ← readTagName true cs.length cs
    match rest with
    | '>' :: rest =>
      if name.isEmpty then none else some (.tag "" (String.ofList name), rest)
    | _ => none
  | cs => do
    let (handle, rest) ← readHandle false cs
    let (name, rest) ← readTagName false rest.length rest
    if 2 ≤ handle.length && handle.getLast? = some '!' then
      if name.isEmpty then none else some (.tag (String.ofList handle) (String.ofList name), rest)
    else
      let suffix := handle.tail ++ name
      if suffix.isEmpty then some (.tag "" "!", rest)
      else some (.tag "!" (String.ofList suffix), rest)

/-- Takes a tag. -/
def tag (l : Lexer) : Option Lexer := do
  let l ← l.markKey
  let (token, rest) ← readTag l.cursor.rest
  if !(endsWord rest || (l.inFlow && rest.head? = some ',')) then none
  return { l.take (l.cursor.rest.length - rest.length) token with allowsKey := false }

/-- Takes a block scalar. -/
def blockScalar (style : Style) (l : Lexer) : Option Lexer := do
  let l ← l.dropKey
  let (text, c) ← readBlock (style == .folded) l.indent (l.cursor.advance 1)
  return { l.push (.scalar style (String.ofList text)) with cursor := c, allowsKey := true }

/-- Takes a quoted scalar. -/
def quotedScalar (style : Style) (l : Lexer) : Option Lexer := do
  let l ← l.markKey
  let single := style == .singleQuoted
  let (text, c) ← readQuoted single (l.cursor.rest.length + 1) [] (l.cursor.advance 1)
  return { l.push (.scalar style (String.ofList text)) with cursor := c, allowsKey := false }

/-- Takes a plain scalar. -/
def plainScalar (l : Lexer) : Option Lexer := do
  let l ← l.markKey
  let (plain, c) ← readPlain (l.cursor.rest.length + 1) l.inFlow (l.indent + 1).toNat [] .none
    l.cursor
  return { l.push (.scalar .plain (String.ofList plain.text)) with
    cursor := c, allowsKey := plain.endsInBreak }

/-! ### The text -/

/-- A plain scalar may start here. -/
def startsPlain (inFlow : Bool) (c : Char) (rest : List Char) : Bool :=
  !(isGapChar c || isBreak c || "-?:,[]\x7b\x7d#&*!|>'\"%@\x60".toList.contains c) ||
    (c == '-' && !rest.head?.any isGapChar) ||
    (!inFlow && (c == '?' || c == ':') && !endsWord rest)

/-- Takes the next token, if there is one. -/
def next (l : Lexer) : Option (Lexer × Bool) := do
  let l ← (l.skipSpace (l.cursor.rest.length + 1)).dropStaleKeys
  let l := l.unroll l.cursor.column
  match l.cursor.rest with
  | [] =>
    let l ← (l.unroll (-1)).dropKey
    return (l, false)
  | c :: rest =>
    let isMark := l.inFlow || endsWord rest
    let l ←
      if l.cursor.column = 0 && c = '%' then l.directive
      else if l.cursor.atDocumentMark then
        l.documentMark (if c = '-' then .documentStart else .documentEnd)
      else if c = '[' then l.openFlow .flowSequenceStart
      else if c = '\x7b' then l.openFlow .flowMappingStart
      else if c = ']' then l.closeFlow .flowSequenceEnd
      else if c = '\x7d' then l.closeFlow .flowMappingEnd
      else if c = ',' then l.flowEntry
      else if c = '-' && endsWord rest then l.blockEntry
      else if c = '?' && isMark then l.keyMark
      else if c = ':' && isMark then l.valueMark
      else if c = '*' then l.name .alias
      else if c = '&' then l.name .anchor
      else if c = '!' then l.tag
      else if c = '|' && !l.inFlow then l.blockScalar .literal
      else if c = '>' && !l.inFlow then l.blockScalar .folded
      else if c = '\'' then l.quotedScalar .singleQuoted
      else if c = '"' then l.quotedScalar .doubleQuoted
      else if startsPlain l.inFlow c rest then l.plainScalar
      else none
    return (l, true)

/-- Takes the tokens up to the end of the text.  Each of the `fuel` rounds takes a token. -/
def run : Nat → Lexer → Option (Array Token)
  | 0, _ => none
  | fuel + 1, l => do
    let (l, more) ← l.next
    if more then run fuel l else some l.tokens

end Lexer

/-- The tokens of a text; a byte order mark may stand in front. -/
def tokens? (s : String) : Option (List Token) :=
  let cs := match s.toList with
    | '\ufeff' :: cs => cs
    | cs => cs
  if !cs.all isAllowed then none
  else ((Lexer.start cs).run (cs.length + 2)).map Array.toList

end Reminders.Yaml
