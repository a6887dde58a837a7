import Reminders.Api.Event
import Reminders.Text.Digits
import Reminders.Text.Lossy
import Reminders.Text.Percent
import Reminders.Text.Words

/-!
# Api — filters of a listing

The query of an address is a list of fields `name=value` with `&` between them.  A plus sign stands
for a space; then percent signs are decoded, and bytes that are not text are replaced.  A listing
may be filtered by owner, and then also by a range of time given in whole Unix seconds.
-/

namespace Reminders

/-! ### Fields of a query -/

/-- The text of a name or a value in a query. -/
def queryText (cs : List Char) : String :=
  let cs := cs.map fun c => if c = '+' then ' ' else c
  Text.lossy (Text.percentDecode (bytesOf (String.ofList cs)))

/-- The fields of a query in order; empty fields are left out. -/
def queryFields (query : String) : List (String × String) :=
  ((Text.wordsOf '&' query.toList).filter fun field => !field.isEmpty).map fun field =>
    let (name, value) := Text.cutAt '=' field
    (queryText name, queryText (value.getD []))

/-! ### Filters -/

/-- The filters of a listing, as a client gives them. -/
structure ListFilter where
  userId : Option String := none
  /-- The start of the range in Unix seconds. -/
  first : Option Int64 := none
  /-- The end of the range in Unix seconds. -/
  last : Option Int64 := none
deriving DecidableEq

namespace ListFilter

/-- The integer that a value of a query stands for. -/
def seconds? (value : String) : Option Int64 :=
  (Text.int64? value).map Int64.ofInt

/-- The filter with one more field; none if the field was given before or its value cannot be read.
Fields of other names are ignored. -/
def add (f : ListFilter) (field : String × String) : Option ListFilter :=
  match field.1 with
  | "userId" => if f.userId.isSome then none else some { f with userId := some field.2 }
  | "from" =>
    if f.first.isSome then none
    else (seconds? field.2).map fun n => { f with first := some n }
  | "to" =>
    if f.last.isSome then none
    else (seconds? field.2).map fun n => { f with last := some n }
  | _ => some f

/-- The filter that a query stands for. -/
def ofQuery? (query : String) : Option ListFilter :=
  (queryFields query).foldlM add {}

end ListFilter

/-- The listing that a client asks for. -/
inductive Selection where
  | all
  | ofUser (userId : String)
  | ofUserInRange (userId : String) (first last : Instant)

/-- Why filters do not make sense. -/
inductive FilterError where
  | rangeWithoutUser
  | halfRange
  | reversedRange
  /-- An end of the range lies outside the span of instants. -/
  | invalidEnd (error : EventError)
deriving DecidableEq

/-- The text that reports an error. -/
def FilterError.message : FilterError → String
  | .rangeWithoutUser => "from and to require userId"
  | .halfRange => "from and to must be given together"
  | .reversedRange => "from must not be after to"
  | .invalidEnd error => error.message

namespace ListFilter

/-- The end of a range at a Unix second. -/
def rangeEnd (seconds : Int64) : Except FilterError Instant :=
  (EventRequest.instant seconds).mapError .invalidEnd

/-- The listing that the filters ask for. -/
def selection (f : ListFilter) : Except FilterError Selection :=
  match f.userId, f.first, f.last with
  | none, none, none => .ok .all
  | some userId, none, none => .ok (.ofUser userId)
  | some userId, some first, some last => do
    let first ← rangeEnd first
    let last ← rangeEnd last
    if last < first then throw .reversedRange
    return .ofUserInRange userId first last
  | none, _, _ => .error .rangeWithoutUser
  | some _, _, _ => .error .halfRange

end ListFilter

end Reminders
