import Reminders.Number.Decimal
import Reminders.Yaml.Node

/-!
# Yaml — typed values

Readers that take a value of a known type from a node.  Text may be any scalar; a flag or a number
must be plain, so that a quoted number is text.  A section is a mapping whose known keys occur at
most once and whose other keys are ignored; a node left empty is an empty section or list.
-/

namespace Reminders.Yaml

/-- A reader of values of type `α`. -/
abbrev Typed (α : Type) := Document → Node → Option α

/-- The scalar that a node is or stands for. -/
def scalarOf (d : Document) (n : Node) : Option (Style × Option String × String) :=
  match d.resolve n with
  | some (.scalar style tag text) => some (style, tag, text)
  | _ => none

/-- The text of a scalar that may stand for a flag or a number: it is plain, or a literal block with
the tag of the type. -/
def bareText (type : String) (d : Document) (n : Node) : Option String :=
  match scalarOf d n with
  | some (.plain, _, text) => some text
  | some (.literal, some tag, text) =>
    if tag = "tag:yaml.org,2002:" ++ type then some text else none
  | _ => none

/-- The words that stand for nothing. -/
def isNullWord (s : String) : Bool :=
  s = "null" || s = "Null" || s = "NULL" || s = "~"

/-- Reads any scalar as text. -/
def text : Typed String := fun d n =>
  (scalarOf d n).map fun (_, _, text) => text

/-- Reads a value or nothing. -/
def orNull {α : Type} (reader : Typed α) : Typed (Option α) := fun d n =>
  match scalarOf d n with
  | some (.plain, some "tag:yaml.org,2002:null", text) =>
    if isNullWord text then some none else none
  | some (.plain, none, text) =>
    if text.isEmpty || isNullWord text then some none else (reader d n).map some
  | _ => (reader d n).map some

/-- Reads a flag. -/
def flag : Typed Bool := fun d n => do
  let s ← bareText "bool" d n
  if s = "true" ∨ s = "True" ∨ s = "TRUE" then some true
  else if s = "false" ∨ s = "False" ∨ s = "FALSE" then some false
  else none

/-- The value of a digit in bases up to sixteen. -/
def digitValue? (base : Nat) (c : Char) : Option Nat :=
  let value :=
    if c.isDigit then c.toNat - 48
    else if 'a' ≤ c ∧ c ≤ 'f' then c.toNat - 87
    else if 'A' ≤ c ∧ c ≤ 'F' then c.toNat - 55
    else 16
  if value < base then some value else none

/-- The value of some digits; there must be at least one. -/
def inBase (base : Nat) (cs : List Char) : Option Nat :=
  if cs.isEmpty then none
  else cs.foldlM (fun n c => (digitValue? base c).map (n * base + ·)) 0

/-- The value of an unsigned numeral: decimal without leading zeros, or in base 16, 8 or 2. -/
def naturalOf (cs : List Char) : Option Nat :=
  let cs := match cs with
    | '+' :: cs => cs
    | cs => cs
  match cs with
  | '0' :: 'x' :: cs => inBase 16 cs
  | '0' :: 'o' :: cs => inBase 8 cs
  | '0' :: 'b' :: cs => inBase 2 cs
  | ['0'] => some 0
  | '0' :: _ => none
  | cs => inBase 10 cs

/-- Reads a natural number below `bound` that has 64 bits. -/
def natural (bound : Nat) : Typed Nat := fun d n => do
  let value ← naturalOf (← bareText "int" d n).toList
  if value < bound64 && value < bound then some value else none

/-- Reads a floating point value: a decimal numeral that is finite, an infinity or not a number. -/
def float : Typed Binary64 := fun d n => do
  let s ← bareText "float" d n
  let body := match s.toList with
    | '+' :: cs => cs
    | cs => cs
  let word := String.ofList body
  if word = ".inf" ∨ word = ".Inf" ∨ word = ".INF" then some (.infinite false)
  else if s = "-.inf" ∨ s = "-.Inf" ∨ s = "-.INF" then some (.infinite true)
  else if s = ".nan" ∨ s = ".NaN" ∨ s = ".NAN" then some .nan
  else if body.length < s.toList.length && (body.head? = some '+' || body.head? = some '-') then none
  else (Binary64.read? word).filter Binary64.isFinite

/-- Reads one word of a fixed set: as text, or as a tag of its own on a node left empty. -/
def word {α : Type} (interpret : String → Option α) : Typed α := fun d n => do
  let (style, tag, text) ← scalarOf d n
  match (tag.getD "").toList with
  | '!' :: name =>
    if style = .plain && (text.isEmpty || isNullWord text) then interpret (String.ofList name)
    else none
  | _ => interpret text

/-- Reads a list. -/
def listOf {α : Type} (reader : Typed α) : Typed (List α) := fun d n =>
  match d.resolve n with
  | some (.sequence items) => items.mapM (reader d)
  | some (.scalar .plain _ "") => some []
  | _ => none

/-- The entries of a mapping. -/
def entriesOf (d : Document) (n : Node) : Option (List (Node × Node)) :=
  match d.resolve n with
  | some (.mapping _ entries) => some entries
  | some (.scalar .plain _ "") => some []
  | _ => none

/-- Reads a mapping of texts; of equal keys the last one counts. -/
def texts : Typed (List (String × String)) := fun d n => do
  let entries ← entriesOf d n
  entries.foldlM (fun known (key, value) => do
    let key ← text d key
    let value ← text d value
    return known.filter (·.1 != key) ++ [(key, value)]) []

/-! ### Sections -/

/-- A key of a section and how its value changes the section. -/
structure Entry (σ : Type) where
  key : String
  read : σ → Document → Node → Option σ

/-- The entry that `set` writes. -/
def Entry.of {σ α : Type} (key : String) (set : σ → α → σ) (reader : Typed α) : Entry σ where
  key := key
  read s d n := (reader d n).map (set s)

/-- Reads the entries of a section, given the keys met so far. -/
def readEntries {σ : Type} (known : List (Entry σ)) (d : Document) :
    List String → σ → List (Node × Node) → Option σ
  | _, s, [] => some s
  | met, s, (key, value) :: rest => do
    let name ← text d key
    match known.find? fun entry => entry.key = name with
    | some entry =>
      if met.contains name then none
      readEntries known d (name :: met) (← entry.read s d value) rest
    | none => readEntries known d met s rest

/-- Reads a section, starting from its defaults. -/
def sectionOf {σ : Type} (defaults : σ) (known : List (Entry σ)) : Typed σ := fun d n => do
  readEntries known d [] defaults (← entriesOf d n)

/-- The value of a whole text.  A blank text is an empty section. -/
def read? {α : Type} (reader : Typed α) (s : String) : Option α :=
  if Text.isBlank s then reader .blank Document.blank.root
  else do
    let d ← Document.read? s
    reader d d.root

end Reminders.Yaml
