import Reminders.Yaml.Token

/-!
# Yaml — documents

The tokens of a text form one document: a tree of scalars, sequences and mappings, in which an alias
stands for the node with its anchor.  A node that is missing where one is expected is an empty plain
scalar.
-/

namespace Reminders.Yaml

/-- A node of a document. -/
inductive Node where
  | scalar (style : Style) (tag : Option String) (text : String)
  | sequence (items : List Node)
  | mapping (tag : Option String) (entries : List (Node × Node))
  /-- Stands for the anchored node of the given number. -/
  | alias (number : Nat)

/-- A node that is missing. -/
def Node.empty : Node := .scalar .plain none ""

/-- A document: its root and its anchored nodes. -/
structure Document where
  root : Node
  anchored : List (Nat × Node)

/-- The document without content. -/
def Document.blank : Document := ⟨.mapping none [], []⟩

/-- The node itself, or the one that an alias stands for. -/
def Document.resolve (d : Document) (n : Node) : Option Node :=
  match n with
  | .alias number => d.anchored.lookup number
  | n => some n

/-! ### Building -/

/-- The state while nodes are built from tokens. -/
structure Builder where
  tokens : List Token
  /-- The handles of tags and what they stand for. -/
  handles : List (String × String)
  /-- The anchors met so far, last one first. -/
  anchors : List String
  anchored : List (Nat × Node)

/-- A step that builds something from the front of the tokens. -/
abbrev Build := StateT Builder Option

namespace Build

/-- The next token. -/
def peek : Build (Option Token) := do
  return (← get).tokens.head?

/-- Drops the next token. -/
def skip : Build Unit :=
  modify fun b => { b with tokens := b.tokens.tail }

/-- Takes the given token if it is the next one. -/
def accept (token : Token) : Build Bool := do
  if (← peek) = some token then
    skip
    return true
  else return false

/-- Refuses the tokens. -/
def refuse {α : Type} : Build α := fun _ => none

/-- The token can start a block sequence entry, a key or a value, or ends the collection. -/
def isBlockMark : Option Token → Bool
  | some .blockEntry | some .key | some .value | some .blockEnd => true
  | _ => false

/-- A key or a value is missing in a block mapping. -/
def lacksBlockNode : Option Token → Bool
  | some .key | some .value | some .blockEnd => true
  | _ => false

/-- What stands in front of a node. -/
structure Properties where
  /-- The number of the node's anchor. -/
  anchor : Option Nat
  tag : Option String

/-- Registers an anchor. -/
def register (name : String) : Build Nat := do
  let b ← get
  set { b with anchors := name :: b.anchors }
  return b.anchors.length

/-- The tag that a handle and a name stand for. -/
def resolveTag (handle suffix : String) : Build String := do
  if handle.isEmpty then return suffix
  match (← get).handles.lookup handle with
  | some start => return start ++ suffix
  | none => refuse

/-- Takes the anchor and the tag of a node, in either order. -/
def properties : Build Properties := do
  match ← peek with
  | some (.anchor name) =>
    skip
    let number ← register name
    match ← peek with
    | some (.tag handle suffix) =>
      skip
      return ⟨some number, some (← resolveTag handle suffix)⟩
    | _ => return ⟨some number, none⟩
  | some (.tag handle suffix) =>
    skip
    match ← peek with
    | some (.anchor name) =>
      skip
      let number ← register name
      return ⟨some number, some (← resolveTag handle suffix)⟩
    | _ => return ⟨none, some (← resolveTag handle suffix)⟩
  | _ => return ⟨none, none⟩

/-- The node that an alias refers to: the last one anchored by that name. -/
def aliasOf (name : String) : Build Node := do
  let anchors := (← get).anchors
  match anchors.findIdx? (· == name) with
  | some i => return .alias (anchors.length - 1 - i)
  | none => refuse

/-- Keeps an anchored node. -/
def keep (anchor : Option Nat) (node : Node) : Build Node := do
  match anchor with
  | some number => modify fun b => { b with anchored := (number, node) :: b.anchored }
  | none => pure ()
  return node

mutual

/-- Builds a node, in block style if `inBlock`.  A sequence inside a block mapping need not be
indented, which `isIndentless` allows.  Every call spends one unit of fuel. -/
def node (fuel : Nat) (inBlock isIndentless : Bool) : Build Node := do
  match fuel with
  | 0 => refuse
  | fuel + 1 =>
    match ← peek with
    | some (.alias name) =>
      skip
      aliasOf name
    | _ =>
      let p ← properties
      match ← peek with
      | some .blockEntry =>
        if isIndentless then keep p.anchor (.sequence (← indentlessItems fuel))
        else missing p
      | some (.scalar style text) =>
        skip
        keep p.anchor (.scalar style p.tag text)
      | some .flowSequenceStart =>
        skip
        keep p.anchor (.sequence (← flowItems fuel true))
      | some .flowMappingStart =>
        skip
        keep p.anchor (.mapping p.tag (← flowEntries fuel true))
      | some .blockSequenceStart =>
        if !inBlock then missing p
        else
          skip
          keep p.anchor (.sequence (← blockItems fuel))
      | some .blockMappingStart =>
        if !inBlock then missing p
        else
          skip
          keep p.anchor (.mapping p.tag (← blockEntries fuel))
      | _ => missing p

/-- A node of which only the properties are given. -/
def missing (p : Properties) : Build Node := do
  if p.anchor.isSome || p.tag.isSome then keep p.anchor (.scalar .plain p.tag "")
  else refuse

/-- Builds the items of a block sequence. -/
def blockItems (fuel : Nat) : Build (List Node) := do
  match fuel with
  | 0 => refuse
  | fuel + 1 =>
    if ← accept .blockEntry then
      let item ← match ← peek with
        | some .blockEntry | some .blockEnd => pure Node.empty
        | _ => node fuel true false
      return item :: (← blockItems fuel)
    else if ← accept .blockEnd then return []
    else refuse

/-- Builds the items of a sequence that is not indented. -/
def indentlessItems (fuel : Nat) : Build (List Node) := do
  match fuel with
  | 0 => refuse
  | fuel + 1 =>
    if ← accept .blockEntry then
      let item ← if isBlockMark (← peek) then pure Node.empty else node fuel true false
      return item :: (← indentlessItems fuel)
    else return []

/-- Builds the entries of a block mapping. -/
def blockEntries (fuel : Nat) : Build (List (Node × Node)) := do
  match fuel with
  | 0 => refuse
  | fuel + 1 =>
    if ← accept .key then
      let key ← if lacksBlockNode (← peek) then pure Node.empty else node fuel true true
      let value ←
        if ← accept .value then
          if lacksBlockNode (← peek) then pure Node.empty else node fuel true true
        else pure Node.empty
      return (key, value) :: (← blockEntries fuel)
    else if ← accept .blockEnd then return []
    else refuse

/-- Builds the items of a flow sequence.  An item with a key is a mapping of one entry. -/
def flowItems (fuel : Nat) (isFirst : Bool) : Build (List Node) := do
  match fuel with
  | 0 => refuse
  | fuel + 1 =>
    if ← accept .flowSequenceEnd then return []
    else
      if !isFirst then
        if !(← accept .flowEntry) then refuse
      if ← accept .flowSequenceEnd then return []
      let item ←
        if ← accept .key then
          let key ← match ← peek with
            | some .value | some .flowEntry | some .flowSequenceEnd =>
              skip
              pure Node.empty
            | _ => node fuel false false
          let value ←
            if ← accept .value then
              match ← peek with
              | some .flowEntry | some .flowSequenceEnd => pure Node.empty
              | _ => node fuel false false
            else pure Node.empty
          pure (.mapping none [(key, value)])
        else node fuel false false
      return item :: (← flowItems fuel false)

/-- Builds the entries of a flow mapping.  An item without a key is a key without a value. -/
def flowEntries (fuel : Nat) (isFirst : Bool) : Build (List (Node × Node)) := do
  match fuel with
  | 0 => refuse
  | fuel + 1 =>
    if ← accept .flowMappingEnd then return []
    else
      if !isFirst then
        if !(← accept .flowEntry) then refuse
      if ← accept .flowMappingEnd then return []
      let entry ←
        if ← accept .key then
          let key ← match ← peek with
            | some .value | some .flowEntry | some .flowMappingEnd => pure Node.empty
            | _ => node fuel false false
          let value ←
            if ← accept .value then
              match ← peek with
              | some .flowEntry | some .flowMappingEnd => pure Node.empty
              | _ => node fuel false false
            else pure Node.empty
          pure (key, value)
        else
          let key ← node fuel false false
          pure (key, Node.empty)
      return entry :: (← flowEntries fuel false)

end

/-- Takes the directives before a document.  Each of the `fuel` rounds takes one. -/
def directives : Nat → Bool → List (String × String) → Build (Bool × List (String × String))
  | 0, _, _ => refuse
  | fuel + 1, hasVersion, handles => do
    match ← peek with
    | some (.versionDirective major minor) =>
      skip
      if hasVersion || major != 1 || !(minor == 1 || minor == 2) then refuse
      directives fuel true handles
    | some (.tagDirective handle start) =>
      skip
      if (handles.lookup handle).isSome then refuse
      directives fuel hasVersion ((handle, start) :: handles)
    | _ => return (hasVersion, handles)

/-- The token ends the content of a document. -/
def endsContent : Option Token → Bool
  | none | some .documentStart | some .documentEnd | some (.versionDirective ..)
  | some (.tagDirective ..) => true
  | _ => false

/-- Skips marks that end documents.  Each of the `fuel` rounds takes one. -/
def skipEnds : Nat → Build Unit
  | 0 => pure ()
  | fuel + 1 => do
    if ← accept .documentEnd then skipEnds fuel

/-- Builds the only document of a text. -/
def document : Build Document := do
  let size := (← get).tokens.length
  if size = 0 then return .blank
  let (hasVersion, handles) ← directives (size + 1) false []
  modify fun b =>
    { b with handles := handles ++ [("!", "!"), ("!!", "tag:yaml.org,2002:")] }
  let isExplicit ← accept .documentStart
  if !isExplicit && (hasVersion || !handles.isEmpty) then refuse
  let root ←
    if isExplicit && endsContent (← peek) then pure Node.empty
    else node (4 * size + 4) true false
  skipEnds (size + 1)
  if (← peek).isSome then refuse
  return ⟨root, (← get).anchored⟩

end Build

/-- The document of a text. -/
def Document.read? (s : String) : Option Document := do
  let tokens ← tokens? s
  let (d, _) ← StateT.run Build.document ⟨tokens, [], [], []⟩
  return d

end Reminders.Yaml
