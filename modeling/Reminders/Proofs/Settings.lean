import Mathlib.Algebra.Order.Field.Power
import Mathlib.Algebra.Order.Field.Rat
import Mathlib.Data.Rat.Cast.Order
import Mathlib.Tactic.MkIffOfInductiveProp
import Reminders.Proofs.Bus.Routing
import Reminders.Proofs.Monad
import Reminders.Startup

/-!
# Settings — what may be relied on once they have loaded

Settings are put together from defaults, a file, the file `.env` and the environment, and then
checked once.  What a program relies on later is what the check lets pass: *valid* settings.  The
address of a database is not asked for again, and the bus of the statuses is not checked at all; it
is valid because the bus that it comes from is.

* `PollerConfig.validate_eq_ok`, `BusConfig.validate_eq_ok`, ...: what each check lets pass.
* `isValid_of_load`: what loaded settings obey, for each program.
* `SenderSettings.isValid_statusBus`, `route_catchAll`: the bus of the statuses.
* `loaded_settings_connect`: what each program finds in its settings, and what it opens.
-/

namespace Reminders

open Database

/-! ### Multipliers -/

namespace Binary64

/-- The value is a number of at least one. -/
def IsAtLeastOne (x : Binary64) : Prop :=
  ∃ (significand : Nat) (exponent : Int),
    x = .finite false significand exponent ∧ 1 ≤ (significand : ℚ) * 2 ^ exponent

/-- The fraction of a finite value. -/
theorem ratio_eq (significand : Nat) (exponent : Int) :
    0 < (ratio significand exponent).2 ∧
      ((ratio significand exponent).1 : ℚ) =
        significand * 2 ^ exponent * (ratio significand exponent).2 := by
  rw [ratio, scale]
  split
  · next h =>
      have hpower : ((Nat.pow 2 exponent.toNat : Nat) : ℚ) = 2 ^ exponent := by
        rw [Nat.pow_eq, Nat.cast_pow, Nat.cast_ofNat, ← zpow_natCast, Int.toNat_of_nonneg h]
      refine ⟨Nat.one_pos, ?_⟩
      rw [Nat.cast_mul, hpower, Nat.cast_one, mul_one]
  · next h =>
      have hpower : ((Nat.pow 2 (-exponent).toNat : Nat) : ℚ) = 2 ^ (-exponent) := by
        rw [Nat.pow_eq, Nat.cast_pow, Nat.cast_ofNat, ← zpow_natCast,
          Int.toNat_of_nonneg (by omega)]
      refine ⟨Nat.mul_pos Nat.one_pos (Nat.pow_pos Nat.two_pos), ?_⟩
      dsimp only
      rw [Nat.cast_mul, hpower, Nat.cast_one, one_mul, mul_assoc, ← zpow_add₀ two_ne_zero,
        Int.add_right_neg, zpow_zero, mul_one]

/-- The check of a multiplier compares fractions. -/
theorem isAtLeastOne_iff {x : Binary64} :
    x.IsAtLeastOne ↔ x.isFinite = true ∧ x.ltOne = false := by
  cases x with
  | nan | infinite =>
      refine iff_of_false ?_ (by simp [isFinite])
      rintro ⟨_, _, ⟨⟩, _⟩
  | finite negative significand exponent =>
      obtain ⟨hden, hnum⟩ := ratio_eq significand exponent
      have hpos : (0 : ℚ) < (ratio significand exponent).2 := Nat.cast_pos.mpr hden
      have hle : (1 : ℚ) ≤ significand * 2 ^ exponent ↔
          (ratio significand exponent).2 ≤ (ratio significand exponent).1 := by
        rw [← Nat.cast_le (α := ℚ), hnum, le_mul_iff_one_le_left hpos]
      have hlt : (finite negative significand exponent).ltOne = false ↔
          negative = false ∧
            (ratio significand exponent).2 ≤ (ratio significand exponent).1 := by
        simp [ltOne]
      rw [hlt, ← hle]
      constructor
      · rintro ⟨_, _, ⟨⟩, h⟩
        exact ⟨rfl, rfl, h⟩
      · rintro ⟨_, rfl, h⟩
        exact ⟨_, _, rfl, h⟩

end Binary64

/-! ### Sections -/

/-- The pace obeys the rules. -/
@[mk_iff]
structure PollerConfig.IsValid (c : PollerConfig) : Prop where
  positive : 0 < c.minInterval
  ordered : c.minInterval ≤ c.maxInterval
  multiplier : c.multiplier.IsAtLeastOne
  batch : 0 < c.batchSize

theorem PollerConfig.validate_eq_ok {c : PollerConfig} : c.validate = .ok () ↔ c.IsValid := by
  have hmultiplier : ¬ (!c.multiplier.isFinite || c.multiplier.ltOne) = true ↔
      c.multiplier.IsAtLeastOne := by
    rw [Binary64.isAtLeastOne_iff]
    simp
  rw [validate, isValid_iff]
  simp only [ite_error_eq_ok, hmultiplier, not_or, Nat.not_lt, Nat.pos_iff_ne_zero, ne_eq,
    and_assoc, and_true]

/-- The check for an address lets a database pass that has one. -/
theorem located_iff {kind : BackendKind} {url : Option String} :
    ¬ (kind = .postgres ∧ url = none) ↔ (kind = .postgres → ∃ address, url = some address) := by
  rw [not_and]
  exact imp_congr_right fun _ => Option.ne_none_iff_exists'

/-- The queue and the pattern of a binding are not blank. -/
@[mk_iff]
structure Binding.IsNamed (b : Binding) : Prop where
  queue : Text.isBlank b.queue = false
  pattern : Text.isBlank b.pattern = false

/-- The section `bus` obeys the rules. -/
@[mk_iff]
structure BusConfig.IsValid (c : BusConfig) : Prop where
  exchange : Text.isBlank c.exchange = false
  located : c.kind = .postgres → ∃ url, c.url = some url
  poller : c.poller.IsValid
  bindings : ∀ b ∈ c.bindings, b.IsNamed

theorem BusConfig.validate_eq_ok {c : BusConfig} : c.validate = .ok () ↔ c.IsValid := by
  have hbindings : (∀ b ∈ c.bindings, b.IsNamed) ↔
      (c.bindings.find? fun b => Text.isBlank b.queue || Text.isBlank b.pattern) = none := by
    rw [List.find?_eq_none]
    refine forall₂_congr fun b _ => ?_
    rw [Binding.isNamed_iff, Bool.or_eq_true, not_or, Bool.not_eq_true, Bool.not_eq_true]
  rw [validate, isValid_iff, hbindings]
  simp only [throw_eq_error, error_bind, ite_error_eq_ok, then_eq_ok, Bool.not_eq_true,
    located_iff, PollerConfig.validate_eq_ok]
  refine and_congr_right fun _ => and_congr_right fun _ => and_congr_right fun _ => ?_
  split
  · next hfound => exact iff_of_false nofun (by rw [hfound]; nofun)
  · next hnone => exact iff_of_true rfl hnone

/-- The section `storage` obeys the rules. -/
@[mk_iff]
structure StorageConfig.IsValid (c : StorageConfig) : Prop where
  located : c.kind = .postgres → ∃ url, c.url = some url
  connections : 0 < c.maxConnections

theorem StorageConfig.validate_eq_ok {c : StorageConfig} : c.validate = .ok () ↔ c.IsValid := by
  rw [validate, isValid_iff]
  simp only [ite_error_eq_ok, located_iff, Nat.pos_iff_ne_zero, ne_eq, and_true]

/-- The section `scheduler` obeys the rules. -/
@[mk_iff]
structure SchedulerConfig.IsValid (c : SchedulerConfig) : Prop where
  interval : 0 < c.interval
  retention : c.retention ≤ Instant.longestMove

theorem SchedulerConfig.validate_eq_ok {c : SchedulerConfig} :
    c.validate = .ok () ↔ c.IsValid := by
  have hretention : ¬ (Instant.move? c.retention).isNone = true ↔
      c.retention ≤ Instant.longestMove := by
    rw [Instant.move?]
    split
    · next hle => exact iff_of_true nofun hle
    · next hlong => exact iff_of_false (fun h => h rfl) hlong
  rw [validate, isValid_iff]
  simp only [ite_error_eq_ok, hretention, Nat.pos_iff_ne_zero, ne_eq, and_true]

/-- The section `sender` obeys the rules. -/
@[mk_iff]
structure SenderConfig.IsValid (c : SenderConfig) : Prop where
  queue : Text.isBlank c.queue = false
  statusExchange : Text.isBlank c.statusExchange = false

theorem SenderConfig.validate_eq_ok {c : SenderConfig} : c.validate = .ok () ↔ c.IsValid := by
  rw [validate, isValid_iff]
  simp only [ite_error_eq_ok, Bool.not_eq_true, and_true]

/-! ### Programs -/

variable {source : ConfigSource}

theorem ApiSettings.isValid_of_load {s : ApiSettings} (h : load source = .ok s) :
    s.storage.IsValid := by
  simp only [load, bind_eq_ok, pure_eq_ok] at h
  obtain ⟨_, _, storage, _, http, _, _, hvalid, _, _, rfl⟩ := h
  exact StorageConfig.validate_eq_ok.mp hvalid

/-- The settings of a scheduler obey the rules: nothing is kept in the memory of the process. -/
@[mk_iff]
structure SchedulerSettings.IsValid (s : SchedulerSettings) : Prop where
  storage : s.storage.IsValid
  bus : s.bus.IsValid
  scheduler : s.scheduler.IsValid
  sharedStorage : s.storage.kind = .postgres
  sharedBus : s.bus.kind = .postgres

theorem BackendKind.eq_postgres_iff {kind : BackendKind} : kind = .postgres ↔ ¬ kind = .memory := by
  cases kind <;> decide

theorem SchedulerSettings.validate_eq_ok {s : SchedulerSettings} :
    s.validate = .ok () ↔ s.IsValid := by
  rw [validate, isValid_iff]
  simp only [throw_eq_error, error_bind, ite_error_eq_ok, then_eq_ok, pure_eq_ok,
    StorageConfig.validate_eq_ok, BusConfig.validate_eq_ok, SchedulerConfig.validate_eq_ok,
    BackendKind.eq_postgres_iff, and_true]

theorem SchedulerSettings.isValid_of_load {s : SchedulerSettings} (h : load source = .ok s) :
    s.IsValid := by
  simp only [load, bind_eq_ok, pure_eq_ok] at h
  obtain ⟨_, _, storage, _, bus, _, scheduler, _, _, hvalid, rfl⟩ := h
  exact validate_eq_ok.mp hvalid

/-- The settings of a sender obey the rules: the bus is not in the memory of the process. -/
@[mk_iff]
structure SenderSettings.IsValid (s : SenderSettings) : Prop where
  bus : s.bus.IsValid
  sender : s.sender.IsValid
  sharedBus : s.bus.kind = .postgres

theorem SenderSettings.validate_eq_ok {s : SenderSettings} :
    s.validate = .ok () ↔ s.IsValid := by
  rw [validate, isValid_iff]
  simp only [throw_eq_error, ite_error_eq_ok, then_eq_ok, pure_eq_ok, BusConfig.validate_eq_ok,
    SenderConfig.validate_eq_ok, BackendKind.eq_postgres_iff, and_true]

theorem SenderSettings.isValid_of_load {s : SenderSettings} (h : load source = .ok s) :
    s.IsValid := by
  simp only [load, bind_eq_ok, pure_eq_ok] at h
  obtain ⟨_, _, bus, _, _, hvalid, rfl⟩ := h
  exact validate_eq_ok.mp hvalid

/-! ### Bindings -/

/-- The binding that stands in for missing ones has a name too. -/
theorem BusConfig.IsValid.isNamed_of_mem {c : BusConfig} (h : c.IsValid) :
    ∀ b ∈ c.effectiveBindings, b.IsNamed := by
  have hmark : Text.isBlank "#" = false := by decide
  rw [effectiveBindings]
  split
  · exact List.forall_mem_singleton.mpr ⟨h.exchange, hmark⟩
  · exact h.bindings

/-- A binding for every key routes each message to its one queue. -/
theorem route_catchAll (queue key : String) : route [⟨queue, "#"⟩] key = [queue] := by
  have hall : ∀ b ∈ [(⟨queue, "#"⟩ : Binding)], Topic.isMatch b.pattern key = true :=
    List.forall_mem_singleton.mpr (Topic.isMatch_hash key)
  rw [route, List.filter_eq_self.mpr hall]
  rfl

/-- The bus of the statuses obeys the rules, although it is not checked. -/
theorem SenderSettings.IsValid.statusBus {s : SenderSettings} (h : s.IsValid) :
    s.statusBus.IsValid where
  exchange := h.sender.statusExchange
  located := h.bus.located
  poller := h.bus.poller
  bindings := List.forall_mem_nil _

/-! ### Connections -/

/-- The store of the settings is in the database at an address, and opening it is connecting there
and nothing else. -/
structure Storage.ConnectsTo (network : Network) (c : StorageConfig) (url : String) : Prop where
  kind : c.kind = .postgres
  address : c.url = some url
  connect : Storage.connect network c = do
    prepare network .database url c.migrate .events
    return .database

/-- The same for a bus. -/
structure Bus.ConnectsTo (network : Network) (c : BusConfig) (url : String) : Prop where
  kind : c.kind = .postgres
  address : c.url = some url
  connect : Bus.connect network c = do
    prepare network .backend url c.migrate .messages
    return .database (.ofConfig c)

theorem StorageConfig.IsValid.connectsTo {c : StorageConfig} (h : c.IsValid)
    (hkind : c.kind = .postgres) (network : Network) : ∃ url, Storage.ConnectsTo network c url := by
  obtain ⟨url, hurl⟩ := h.located hkind
  exact ⟨url, hkind, hurl, by rw [Storage.connect, hkind, hurl]⟩

/-- What a program relies on in the settings of its bus. -/
structure BusConfig.IsReady (network : Network) (c : BusConfig) : Prop where
  connects : ∃ url, Bus.ConnectsTo network c url
  poller : c.poller.IsValid
  exchange : Text.isBlank c.exchange = false
  bindings : ∀ b ∈ c.effectiveBindings, b.IsNamed

theorem BusConfig.IsValid.isReady {c : BusConfig} (h : c.IsValid) (hkind : c.kind = .postgres)
    (network : Network) : c.IsReady network where
  connects := by
    obtain ⟨url, hurl⟩ := h.located hkind
    exact ⟨url, hkind, hurl, by rw [Bus.connect, hkind, hurl]⟩
  poller := h.poller
  exchange := h.exchange
  bindings := h.isNamed_of_mem

/-! ### What each program opens -/

/-- What the API finds in its settings, and what it opens: a store in memory or in a database. -/
structure ApiSettings.IsReady (around : Surroundings) (s : ApiSettings) : Prop where
  storage : s.storage.kind = .memory ∧
      Storage.connect around.network s.storage = pure (.memory .empty) ∨
    ∃ url, Storage.ConnectsTo around.network s.storage url
  starts : Service.startApi around = do
    let storage ← Service.openStorage around s.storage
    Service.attempt "Failed to bind to address" (fun reason => [reason])
      (ExceptT.mk (pure (around.bind s.http.host s.http.port)))
    return .api storage s.http

/-- What the scheduler finds in its settings, and what it opens. -/
structure SchedulerSettings.IsReady (around : Surroundings) (s : SchedulerSettings) : Prop where
  storage : ∃ url, Storage.ConnectsTo around.network s.storage url
  bus : s.bus.IsReady around.network
  interval : 0 < s.scheduler.interval
  starts : Service.startScheduler around = do
    let storage ← Service.openStorage around s.storage
    let bus ← Service.openBus around "notification bus" s.bus
    return .scheduler storage bus s.scheduler

/-- What the sender finds in its settings, and what it opens. -/
structure SenderSettings.IsReady (around : Surroundings) (s : SenderSettings) : Prop where
  bus : s.bus.IsReady around.network
  statuses : s.statusBus.IsReady around.network
  /-- The bus of the statuses would pass the check of a bus. -/
  statusRules : s.statusBus.validate = .ok ()
  /-- Every status goes to the queue that is named like its exchange, and to no other. -/
  statusRoute : ∀ key, route s.statusBus.effectiveBindings key = [s.sender.statusExchange]
  starts : Service.startSender around = do
    let bus ← Service.openBus around "notification bus" s.bus
    let statuses ← Service.openBus around "status bus" s.statusBus
    let bus ← Service.attach bus s.sender.queue
    return .sender bus statuses s.sender.queue

theorem ApiSettings.isReady_of_load {around : Surroundings} {s : ApiSettings}
    (h : load around.source = .ok s) : s.IsReady around where
  storage := by
    cases hkind : s.storage.kind with
    | memory => exact .inl ⟨rfl, by rw [Storage.connect, hkind]⟩
    | postgres => exact .inr ((isValid_of_load h).connectsTo hkind _)
  starts := by
    rw [Service.startApi, h]
    rfl

theorem SchedulerSettings.isReady_of_load {around : Surroundings} {s : SchedulerSettings}
    (h : load around.source = .ok s) : s.IsReady around :=
  have hvalid := isValid_of_load h
  { storage := hvalid.storage.connectsTo hvalid.sharedStorage _
    bus := hvalid.bus.isReady hvalid.sharedBus _
    interval := hvalid.scheduler.interval
    starts := by
      rw [Service.startScheduler, h]
      rfl }

theorem SenderSettings.isReady_of_load {around : Surroundings} {s : SenderSettings}
    (h : load around.source = .ok s) : s.IsReady around :=
  have hvalid := isValid_of_load h
  { bus := hvalid.bus.isReady hvalid.sharedBus _
    statuses := hvalid.statusBus.isReady hvalid.sharedBus _
    statusRules := BusConfig.validate_eq_ok.mpr hvalid.statusBus
    statusRoute := route_catchAll _
    starts := by
      rw [Service.startSender, h]
      rfl }

/-- **Loaded settings connect.**  Whatever the files and the environment hold, if the settings of a
program load, they hold what the program relies on, and everything that it opens with them has an
address where it needs one. -/
theorem loaded_settings_connect (around : Surroundings) :
    (∀ s, ApiSettings.load around.source = .ok s → s.IsReady around) ∧
      (∀ s, SchedulerSettings.load around.source = .ok s → s.IsReady around) ∧
      ∀ s, SenderSettings.load around.source = .ok s → s.IsReady around :=
  ⟨fun _ => ApiSettings.isReady_of_load, fun _ => SchedulerSettings.isReady_of_load,
    fun _ => SenderSettings.isReady_of_load⟩

/-- The file of the settings holds the kind of the store, the environment that of the bus in a
spelling of its own, and the file `.env` the address of both. -/
def sharedSource : ConfigSource where
  process := ⟨[("CALENDAR_CONFIG", "calendar.yaml"), ("BUS_KIND", " PostgreSQL ")]⟩
  file path :=
    if path = ".env" then .ok "DATABASE_URL=postgres://db/calendar"
    else if path = "calendar.yaml" then .ok "storage: \x7bkind: postgres\x7d"
    else .error "No such file or directory (os error 2)"

/-- Nobody answers in the network. -/
def sharedSurroundings : Surroundings where
  source := sharedSource
  network := ⟨fun _ => .error "nobody answers"⟩
  bind _ _ := .ok ()

/-- The store of these settings. -/
def sharedStorage : StorageConfig where
  kind := .postgres
  url := some "postgres://db/calendar"

/-- The bus of these settings. -/
def sharedBus : BusConfig where
  kind := .postgres
  url := some "postgres://db/calendar"

/-- All three programs load these settings, and the bus of the statuses connects where the other bus
does. -/
theorem sharedSettings_connect :
    ApiSettings.load sharedSource = .ok ⟨sharedStorage, {}⟩ ∧
      SchedulerSettings.load sharedSource = .ok ⟨sharedStorage, sharedBus, {}⟩ ∧
      SenderSettings.load sharedSource = .ok ⟨sharedBus, {}⟩ ∧
      Storage.ConnectsTo sharedSurroundings.network sharedStorage "postgres://db/calendar" ∧
      (∀ b ∈ sharedBus.effectiveBindings, b.IsNamed) ∧
      Bus.ConnectsTo sharedSurroundings.network
        (sharedBus.forExchange "notification_status") "postgres://db/calendar" := by
  have hapi : ApiSettings.load sharedSource = .ok ⟨sharedStorage, {}⟩ := by decide +kernel
  have hscheduler : SchedulerSettings.load sharedSource = .ok ⟨sharedStorage, sharedBus, {}⟩ := by
    decide +kernel
  have hsender : SenderSettings.load sharedSource = .ok ⟨sharedBus, {}⟩ := by decide +kernel
  obtain ⟨hapiReady, hschedulerReady, hsenderReady⟩ := loaded_settings_connect sharedSurroundings
  obtain ⟨hmemory, _⟩ | ⟨url, hstorage⟩ := (hapiReady _ hapi).storage
  · cases hmemory
  obtain ⟨url', hstatuses⟩ := (hsenderReady _ hsender).statuses.connects
  obtain rfl : "postgres://db/calendar" = url := Option.some.inj hstorage.address
  obtain rfl : "postgres://db/calendar" = url' := Option.some.inj hstatuses.address
  exact ⟨hapi, hscheduler, hsender, hstorage, (hschedulerReady _ hscheduler).bus.bindings,
    hstatuses⟩

end Reminders
