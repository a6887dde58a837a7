import Reminders.Database.Statement

/-!
# Database — migrations

Each component that keeps data in the database brings one migration, which makes its tables.  The
database remembers the migrations that were applied, with their checksums, in one history for all
components.  A migration is applied if the history lacks it; versions of other components are
ignored.  A version that was left unfinished, or whose checksum differs, is an error.
-/

namespace Reminders.Database

/-- A migration. -/
structure Migration where
  version : Int
  description : String
  /-- The digest of its text: 48 bytes, as a number. -/
  checksum : Nat
deriving DecidableEq

/-- The migration that makes the table of events. -/
def Migration.events : Migration where
  version := 20260101000001
  description := "events"
  checksum := 0x8866306e68f24ea1f7064f03e428dcd6d32f65cb39efa70ef85e318fa28060ce0677f6fc44ad51dc26e49e81d1a2c1fe

/-- The migration that makes the table of messages. -/
def Migration.messages : Migration where
  version := 20260101000002
  description := "bus messages"
  checksum := 0xffe2fa0f11e46bd57dfd1cb4fc59b2503b4e11d1d60d0ecd364c2cffbe971adfb1fd55ff54db128d8bb518913c9e4eeb

/-- What the database remembers of migrations. -/
structure History where
  /-- The versions applied, with their checksums. -/
  applied : List (Int × Bytes)
  /-- A version that was not finished. -/
  unfinished : Option Int

/-- The bytes of a checksum. -/
def Migration.digest (m : Migration) : Bytes :=
  (List.range 48).map fun i => (m.checksum / Nat.pow 256 (47 - i) % 256).toUInt8

/-- Why the tables cannot be brought up to date. -/
inductive MigrationError where
  | unfinished (version : Int)
  | changed (version : Int)
deriving DecidableEq

def MigrationError.message : MigrationError → String
  | .unfinished version => "migration " ++ toString version ++ " was not finished"
  | .changed version => "migration " ++ toString version ++ " was applied in another form"

/-- Brings the tables of a component up to date and returns what was applied. -/
def History.migrate (h : History) (m : Migration) : Except MigrationError (List Migration) :=
  match h.unfinished with
  | some version => .error (.unfinished version)
  | none =>
    match h.applied.lookup m.version with
    | none => .ok [m]
    | some digest => if digest = m.digest then .ok [] else .error (.changed m.version)

end Reminders.Database
