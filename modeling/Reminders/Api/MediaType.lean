/-!
# Api — media types

A media type is `type/subtype`, followed by parameters after semicolons.  A subtype may end with a
plus sign and a suffix that names the format.  Case does not matter.
-/

namespace Reminders.MediaType

/-- The character may occur in the parts of a media type. -/
def isToken (c : Char) : Bool :=
  c.isAlphanum || "!#$%&'*+-.^_\x60|~".toList.contains c

/-- The character may occur between the quotes of a parameter. -/
def isQuotable (c : Char) : Bool :=
  32 ≤ c.toNat && c.toNat < 127 && c != '"'

/-- Takes a parameter after its semicolon. -/
def parameter? (cs : List Char) : Option (List Char) :=
  let cs := cs.dropWhile (· == ' ')
  let name := cs.takeWhile isToken
  match name, cs.drop name.length with
  | _ :: _, '=' :: '"' :: cs =>
    match cs.dropWhile isQuotable with
    | '"' :: cs => some (cs.dropWhile (· == ' '))
    | _ => none
  | _ :: _, '=' :: cs => if cs.head? = some ';' then none else some (cs.dropWhile isToken)
  | _, _ => none

/-- The text consists of parameters.  Each of the `fuel` rounds takes at least a semicolon. -/
def areParameters : Nat → List Char → Bool
  | 0, cs => cs.isEmpty
  | _, [] => true
  | fuel + 1, ';' :: cs =>
    match parameter? cs with
    | some rest => areParameters fuel rest
    | none => false
  | _, _ => false

/-- The parts of a subtype before and after its last plus sign. -/
def suffixOf (subtype : List Char) : List Char × Option (List Char) :=
  match subtype.tail.reverse.dropWhile (· != '+') with
  | [] => (subtype, none)
  | _ :: before =>
    (subtype.take 1 ++ before.reverse, some (subtype.drop (before.length + 2)))

/-- The text is the media type of a value in the format Json, or of a format built on it. -/
def isJson (s : String) : Bool :=
  let cs := s.toList.map Char.toLower
  let type := cs.takeWhile isToken
  match cs.drop type.length with
  | '/' :: cs =>
    let subtype := cs.takeWhile isToken
    let (name, suffix) := suffixOf subtype
    String.ofList type = "application" && !subtype.isEmpty &&
      areParameters s.length (cs.drop subtype.length) &&
      (String.ofList name = "json" || suffix.map String.ofList = some "json")
  | _ => false

end Reminders.MediaType
