import Reminders.Config.Environment

/-!
# Config — logging

A filter is a list of directives with commas between them.  A directive sets a level for
everything, for a target, or for the spans of a name or with a field.  The filter of the
environment is used if it is well formed, else the one that the program brings along.

The text of a filter lists the most specific directives first; of directives for the same thing the
last one counts.
-/

namespace Reminders

/-- How much is logged. -/
inductive LogLevel where
  | off
  | error
  | warn
  | info
  | debug
  | trace
deriving DecidableEq

namespace LogLevel

def name : LogLevel → String
  | .off => "off"
  | .error => "error"
  | .warn => "warn"
  | .info => "info"
  | .debug => "debug"
  | .trace => "trace"

def all : List LogLevel := [.off, .error, .warn, .info, .debug, .trace]

/-- The level that a name in any case or a number stands for. -/
def ofText? (cs : List Char) : Option LogLevel :=
  let word := String.ofList (cs.map Char.toLower)
  match all.find? fun level => level.name = word with
  | some level => some level
  | none => (Text.natBelow? all.length word).bind fun i => all[i]?

end LogLevel

/-- A directive of a filter. -/
structure LogDirective where
  target : Option String
  /-- The name of a span. -/
  span : Option String
  /-- A condition on a field of a span. -/
  field : Option String
  level : LogLevel

namespace LogDirective

/-- The character may begin a target. -/
def isTargetStart (c : Char) : Bool :=
  c.isAlphanum || c == '_' || c == ':' || c == '-' || (0x80 ≤ c.toNat && Text.isPrintable c)

/-- Takes the rest of a pair of brackets from the front: the name of a span, and a condition in
braces. -/
def readSpan (d : LogDirective) (cs : List Char) : Option (LogDirective × List Char) :=
  let name := cs.takeWhile fun c => c != ']' && c != '\x7b'
  match cs.drop name.length with
  | ']' :: rest => some ({ d with span := some (String.ofList name) }, rest)
  | '\x7b' :: rest =>
    let field := rest.takeWhile (· != '\x7d')
    let span := if name.isEmpty then none else some (String.ofList name)
    match rest.drop field.length with
    | '\x7d' :: ']' :: rest =>
      if field.isEmpty then none
      else some ({ d with span := span, field := some (String.ofList field) }, rest)
    | _ => none
  | _ => none

/-- Takes the level at the end; without one everything is logged. -/
def readLevel (d : LogDirective) (cs : List Char) : Option LogDirective :=
  match cs with
  | [] | ['='] => some d
  | '=' :: cs => (LogLevel.ofText? cs).map fun level => { d with level := level }
  | _ => none

/-- Takes the spans and the level that follow a target. -/
def readRest (d : LogDirective) (cs : List Char) : Option LogDirective :=
  match cs with
  | '[' :: cs => do
    let (d, rest) ← readSpan d cs
    readLevel d rest
  | cs => readLevel d cs

/-- The directive that a text stands for: a level alone, or a target, spans, or both, followed by a
level. -/
def ofText? (cs : List Char) : Option LogDirective :=
  let target := cs.takeWhile fun c => c != '=' && c != '['
  let rest := cs.drop target.length
  match target.head? with
  | none => if rest.head? = some '[' then readRest ⟨none, none, none, .trace⟩ rest else none
  | some c =>
    if !isTargetStart c then none
    else match rest, LogLevel.ofText? target with
      | [], some level => some ⟨none, none, none, level⟩
      | _, _ => readRest ⟨some (String.ofList target), none, none, .trace⟩ rest

/-- The directive depends on spans. -/
def isDynamic (d : LogDirective) : Bool :=
  d.span.isSome || d.field.isSome

/-- The directive can be decided without a span: it names none and compares no value. -/
def isStatic (d : LogDirective) : Bool :=
  d.span.isNone && !(d.field.any fun field => field.toList.contains '=')

/-- The text of a directive. -/
def text (d : LogDirective) : String :=
  let brackets :=
    if d.isDynamic then
      "[" ++ d.span.getD "" ++ (d.field.map fun f => "\x7b" ++ f ++ "\x7d").getD "" ++ "]"
    else ""
  let subject := d.target.getD "" ++ brackets
  if subject.isEmpty then d.level.name else subject ++ "=" ++ d.level.name

/-- How specific a directive is: the size of its target, its span, its field. -/
def specificity (d : LogDirective) : Nat × Nat × Nat :=
  ((d.target.map fun s => s.utf8ByteSize + 1).getD 0, d.span.elim 0 fun _ => 1,
    d.field.elim 0 fun _ => 1)

/-- The directive is listed before another one. -/
def isBefore (a b : LogDirective) : Bool :=
  let (a₁, a₂, a₃) := a.specificity
  let (b₁, b₂, b₃) := b.specificity
  if a₁ != b₁ then b₁ < a₁
  else if a₂ != b₂ then b₂ < a₂
  else if a₃ != b₃ then b₃ < a₃
  else if a.target != b.target then b.target.getD "" < a.target.getD ""
  else if a.span != b.span then b.span.getD "" < a.span.getD ""
  else b.field.getD "" < a.field.getD ""

/-- Puts a directive into a list in order, in place of one for the same thing. -/
def insert (d : LogDirective) : List LogDirective → List LogDirective
  | [] => [d]
  | e :: es =>
    if d.isBefore e then d :: e :: es
    else if e.isBefore d then e :: insert d es
    else d :: es

end LogDirective

/-- A filter: its directives in order. -/
structure LogFilter where
  directives : List LogDirective

namespace LogFilter

/-- The filter of some directives.  First it lists those that can be decided without a span, then
those that depend on spans; a condition on a field without a value is of both kinds. -/
def ofDirectives (ds : List LogDirective) : LogFilter :=
  let sorted (ds : List LogDirective) := ds.foldl (fun es d => d.insert es) []
  let (dynamic, plain) := ds.partition (·.isDynamic)
  ⟨sorted (plain ++ dynamic.filter (·.isStatic)) ++ sorted dynamic⟩

/-- The filter of some directives, or the one for errors if there are none. -/
def orErrors (ds : List LogDirective) : LogFilter :=
  ofDirectives (if ds.isEmpty then [⟨none, none, none, .error⟩] else ds)

/-- The filter that a text stands for; the empty text stands for errors only. -/
def ofText? (s : String) : Option LogFilter :=
  if s.isEmpty then some (orErrors [])
  else ((Text.wordsOf ',' s.toList).mapM LogDirective.ofText?).map orErrors

/-- The filter of the directives in a text that are well formed. -/
def ofTextLossy (s : String) : LogFilter :=
  orErrors ((Text.wordsOf ',' s.toList).filterMap LogDirective.ofText?)

/-- The text of a filter. -/
def text (f : LogFilter) : String :=
  String.intercalate "," (f.directives.map LogDirective.text)

end LogFilter

/-- What a program logs and how. -/
structure LogConfig where
  service : String
  /-- The filter that the program brings along. -/
  defaultFilter : String
  /-- The filter of the environment. -/
  filter : Option String
  /-- Lines are written as objects instead of plain text. -/
  isJson : Bool

namespace LogConfig

/-- The logging that the environment asks for. -/
def ofEnvironment (service defaultFilter : String) (env : Environment) : LogConfig where
  service := service
  defaultFilter := defaultFilter
  filter := (env.get? "RUST_LOG").or (env.get? "LOG_LEVEL")
  isJson := ((env.get? "LOG_FORMAT").map fun s => s.map Char.toLower) == some "json"

/-- The filter in effect. -/
def effective (c : LogConfig) : LogFilter :=
  (c.filter.bind LogFilter.ofText?).getD (LogFilter.ofTextLossy c.defaultFilter)

end LogConfig

end Reminders
