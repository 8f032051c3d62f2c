import GpsClock.Platform.Civil

/-! # The RTC chip's driver

`pcf8563.c` over `i2c1.c`: one request at a time, each a single transfer that the bus
ends some time later with any result, taken up by the main loop's next service. A
transfer is on the bus only while the request that started it is in progress
(`GpsClock.Rtc.Pcf8563.Settled`), so what the driver submits when it is not busy is
always accepted (`GpsClock.Rtc.Pcf8563.start_accepted`).
-/

namespace GpsClock.Rtc

open GpsClock.Platform

/-! ## The bus -/

inductive I2cResult
  | idle
  | queued
  | busy
  | ok
  | nackAddress
  | nackData
  | busError
  | timeout
  deriving DecidableEq, Repr

structure I2cTransfer where
  result : I2cResult := .idle
  startStamp : BitVec 32 := 0
  deriving DecidableEq, Repr

namespace I2cTransfer

/-- `i2c1_done`. -/
def done (transfer : I2cTransfer) : Bool :=
  transfer.result != .queued && transfer.result != .busy

/-- `i2c1_submit`: nothing if it is still queued or on the bus. -/
def submit (transfer : I2cTransfer) : Option I2cTransfer :=
  if transfer.result = .queued ∨ transfer.result = .busy then none
  else some { transfer with result := .queued }

theorem submit_done {transfer : I2cTransfer} (done : transfer.done = true) :
    transfer.submit = some { transfer with result := .queued } := by
  obtain ⟨queued, busy⟩ := Bool.and_eq_true_iff.mp done
  exact if_neg (not_or.mpr ⟨bne_iff_ne.mp queued, bne_iff_ne.mp busy⟩)

end I2cTransfer

/-! ## The registers -/

/-- Control/status 1 to years. -/
structure Registers where
  controlStatus1 : BitVec 8 := 0
  controlStatus2 : BitVec 8 := 0
  vlSeconds : BitVec 8 := 0
  minutes : BitVec 8 := 0
  hours : BitVec 8 := 0
  days : BitVec 8 := 0
  weekdays : BitVec 8 := 0
  centuryMonths : BitVec 8 := 0
  years : BitVec 8 := 0
  deriving DecidableEq, Repr

/-- `PCF8563_STOP`. -/
def pcf8563Stop : BitVec 8 := 0x20

/-- `PCF8563_VL`. -/
def pcf8563Vl : BitVec 8 := 0x80

/-- `PCF8563_CENTURY`. -/
def pcf8563Century : BitVec 8 := 0x80

/-- `PCF8563_FIRST_UTC`. -/
def pcf8563FirstUtc : BitVec 32 := 946684800

/-- Whether STOP is set. -/
def Registers.stop (registers : Registers) : Bool :=
  registers.controlStatus1 &&& pcf8563Stop != 0

/-- `pcf8563_bcd_to_binary`. -/
def bcdToBinary (bcd : BitVec 8) : BitVec 8 :=
  bcd - 6 * (bcd >>> 4)

/-- `pcf8563_binary_to_bcd`. -/
def binaryToBcd (binary : BitVec 8) : BitVec 8 :=
  binary + 6 * (binary / 10)

/-- `bcd_valid`. -/
def bcdValid (bcd : BitVec 8) : Bool :=
  decide ((bcd &&& 0x0F) ≤ 9) && decide (bcd >>> 4 ≤ 9)

/-- `encode`: the registers after the address byte. -/
def encode (utcSeconds : BitVec 32) (control1 : BitVec 8) : Registers :=
  let civil := utcToCivil utcSeconds false
  let days := utcSeconds.toNat / utcSecondsPerDay
  { controlStatus1 := control1
    controlStatus2 := 0
    vlSeconds := binaryToBcd (BitVec.ofNat 8 civil.second)
    minutes := binaryToBcd (BitVec.ofNat 8 civil.minute)
    hours := binaryToBcd (BitVec.ofNat 8 civil.hour)
    days := binaryToBcd (BitVec.ofNat 8 civil.day)
    weekdays := BitVec.ofNat 8 ((days + 4) % 7)
    centuryMonths :=
      binaryToBcd (BitVec.ofNat 8 civil.month) ||| (if 2100 ≤ civil.year then pcf8563Century else 0)
    years := binaryToBcd (BitVec.ofNat 8 (civil.year % 100)) }

/-! ## The driver -/

inductive Pcf8563Request
  | none
  | reading
  | writing
  | writingStopped
  | releasing
  | done
  | failed
  deriving DecidableEq, Repr

/-- The driver's three transfers. -/
inductive Pcf8563Transfer
  | read
  | write
  | release
  deriving DecidableEq, Repr

/-- The transfer a request in progress waits for. -/
def Pcf8563Request.waitsFor : Pcf8563Request → Option Pcf8563Transfer
  | .reading => some .read
  | .writing | .writingStopped => some .write
  | .releasing => some .release
  | .none | .done | .failed => .none

structure Pcf8563Status where
  present : Bool := false
  calendarValid : Bool := false
  timeValid : Bool := false
  voltageLow : Bool := false
  stopped : Bool := false
  century : Bool := false
  utcSeconds : BitVec 32 := 0
  readStamp : BitVec 32 := 0
  registers : Registers := {}
  request : Pcf8563Request := .none
  reads : BitVec 32 := 0
  writes : BitVec 32 := 0
  releases : BitVec 32 := 0
  deriving DecidableEq, Repr

/-- `pcf8563.c`'s statics. -/
structure Pcf8563 where
  status : Pcf8563Status := {}
  transfers : Pcf8563Transfer → I2cTransfer := fun _ => {}
  writeBuffer : Registers := {}
  lastAttemptMs : BitVec 32 := 0
  autoRead : Bool := true

/-- `decode`, whether every digit is one. -/
def Registers.digits (r : Registers) : Bool :=
  bcdValid (r.vlSeconds &&& 0x7F) && bcdValid (r.minutes &&& 0x7F) &&
    bcdValid (r.hours &&& 0x3F) && bcdValid (r.days &&& 0x3F) &&
    bcdValid (r.centuryMonths &&& 0x1F) && bcdValid r.years

/-- `decode`, the century bit. -/
def Registers.century (r : Registers) : Bool :=
  r.centuryMonths &&& pcf8563Century != 0

/-- `decode`, VL. -/
def Registers.voltageLow (r : Registers) : Bool :=
  r.vlSeconds &&& pcf8563Vl != 0

/-- `decode`, the date and time. -/
def Registers.civil (r : Registers) : UtcCivil where
  year := 2000 + (bcdToBinary r.years).toNat + (if r.century then 100 else 0)
  month := (bcdToBinary (r.centuryMonths &&& 0x1F)).toNat
  day := (bcdToBinary (r.days &&& 0x3F)).toNat
  hour := (bcdToBinary (r.hours &&& 0x3F)).toNat
  minute := (bcdToBinary (r.minutes &&& 0x7F)).toNat
  second := (bcdToBinary (r.vlSeconds &&& 0x7F)).toNat

/-- `decode`: the flags, and the time if it is to be believed. -/
def Pcf8563Status.decode (status : Pcf8563Status) : Pcf8563Status :=
  let r := status.registers
  let status :=
    { status with
      voltageLow := r.voltageLow
      stopped := r.stop
      century := r.century
      calendarValid := false
      timeValid := false }
  if !r.digits then status
  -- The chip counts 0-59: a 60 is not a leap second.
  else if 59 < r.civil.second || !utcCivilIsValid r.civil then status
  else
    { status with
      utcSeconds := utcFromCivil r.civil
      calendarValid := true
      timeValid := !r.voltageLow && !r.stop }

namespace Pcf8563

/-- `start`. -/
def start (driver : Pcf8563) (transfer : Pcf8563Transfer) (request : Pcf8563Request) :
    Bool × Pcf8563 :=
  match (driver.transfers transfer).submit with
  | none => (false, driver)
  | some queued =>
      (true,
        { driver with
          transfers := Function.update driver.transfers transfer queued
          status := { driver.status with request := request } })

/-- `pcf8563_busy`. -/
def busy (driver : Pcf8563) : Bool :=
  match driver.status.request with
  | .reading | .writing | .writingStopped | .releasing => true
  | .none | .done | .failed => false

/-- `pcf8563_read`. -/
def read (driver : Pcf8563) : Bool × Pcf8563 :=
  if driver.busy then (false, driver) else driver.start .read .reading

/-- `pcf8563_write` and `pcf8563_write_stopped`: a time and its control byte. -/
def writeTime (driver : Pcf8563) (utcSeconds : BitVec 32) (control1 : BitVec 8)
    (request : Pcf8563Request) : Bool × Pcf8563 :=
  if driver.busy || decide (utcSeconds < pcf8563FirstUtc) then (false, driver)
  else { driver with writeBuffer := encode utcSeconds control1 }.start .write request

/-- `pcf8563_write`. -/
def write (driver : Pcf8563) (utcSeconds : BitVec 32) : Bool × Pcf8563 :=
  driver.writeTime utcSeconds 0 .writing

/-- `pcf8563_write_stopped`. -/
def writeStopped (driver : Pcf8563) (utcSeconds : BitVec 32) : Bool × Pcf8563 :=
  driver.writeTime utcSeconds pcf8563Stop .writingStopped

/-- `pcf8563_release`. -/
def release (driver : Pcf8563) : Bool × Pcf8563 :=
  if driver.busy then (false, driver) else driver.start .release .releasing

/-- `pcf8563_init`. -/
def init (nowMs : BitVec 32) : Pcf8563 :=
  ({ lastAttemptMs := nowMs } : Pcf8563).read.2

/-- `finish`, what every result says of the chip. -/
def answered (driver : Pcf8563) (result : I2cResult) (nowMs : BitVec 32) : Pcf8563 :=
  match result with
  | .nackAddress =>
      { driver with
        lastAttemptMs := nowMs
        status :=
          { driver.status with present := false, calendarValid := false, timeValid := false } }
  | .ok | .nackData =>
      { driver with lastAttemptMs := nowMs, status := { driver.status with present := true } }
  | .idle | .queued | .busy | .busError | .timeout => { driver with lastAttemptMs := nowMs }

/-- `finish`: a transfer ended; whether it was the read. -/
def finish (driver : Pcf8563) (transfer : Pcf8563Transfer) (nowMs : BitVec 32) :
    Bool × Pcf8563 :=
  let ended := driver.transfers transfer
  let driver := driver.answered ended.result nowMs
  let status := driver.status
  if ended.result ≠ .ok then
    (transfer == .read, { driver with status := { status with request := .failed } })
  else
    match status.request with
    | .writingStopped =>
        (false,
          { driver with status := { status with writes := status.writes + 1, request := .done } })
    | .releasing =>
        (false,
          { driver with
            status := { status with releases := status.releases + 1, request := .done } })
    | _ =>
        if transfer = .write then
          -- Read back what the chip now holds.
          let driver :=
            { driver with status := { status with writes := status.writes + 1, request := .done } }
          match driver.start .read .reading with
          | (true, driver) => (false, driver)
          | (false, driver) =>
              (false, { driver with status := { driver.status with request := .failed } })
        else
          (true,
            { driver with
              status :=
                { status with
                  reads := status.reads + 1
                  readStamp := ended.startStamp
                  request := .done }.decode })

/-- `pcf8563_service`, the request in progress. -/
def finishRequest (driver : Pcf8563) (nowMs : BitVec 32) : Bool × Pcf8563 :=
  match driver.status.request.waitsFor with
  | none => (false, driver)
  | some transfer =>
      if (driver.transfers transfer).done then driver.finish transfer nowMs else (false, driver)

/-- `PCF8563_READ_INTERVAL_MS`, or `PCF8563_DETECT_INTERVAL_MS` for an absent chip. -/
def readInterval (driver : Pcf8563) : BitVec 32 :=
  if driver.status.present then 60000 else 10000

/-- `pcf8563_service`, the periodic read. -/
def periodicRead (driver : Pcf8563) (nowMs : BitVec 32) : Pcf8563 :=
  if driver.autoRead && !driver.busy && decide (driver.readInterval ≤ nowMs - driver.lastAttemptMs)
  then { driver with lastAttemptMs := nowMs }.read.2
  else driver

/-- `pcf8563_service`. -/
def service (driver : Pcf8563) (nowMs : BitVec 32) : Bool × Pcf8563 :=
  let (readDone, driver) := driver.finishRequest nowMs
  (readDone, driver.periodicRead nowMs)

/-- `pcf8563_set_auto_read`. -/
def setAutoRead (driver : Pcf8563) (enabled : Bool) : Pcf8563 :=
  { driver with autoRead := enabled }

/-! ## What the bus owes -/

/-- Only the transfer of the request in progress is on the bus. -/
def Settled (driver : Pcf8563) : Prop :=
  ∀ transfer, (driver.transfers transfer).done = false →
    driver.status.request.waitsFor = some transfer

variable {driver : Pcf8563} {transfer : Pcf8563Transfer} {request : Pcf8563Request}

theorem busy_eq (driver : Pcf8563) : driver.busy = driver.status.request.waitsFor.isSome := by
  unfold busy Pcf8563Request.waitsFor
  cases driver.status.request <;> rfl

theorem waitsFor_of_free (free : driver.busy = false) :
    driver.status.request.waitsFor = none := by
  rw [busy_eq] at free
  exact Option.not_isSome_iff_eq_none.mp (Bool.eq_false_iff.mp free)

theorem Settled.done (settled : driver.Settled) (free : driver.busy = false)
    (transfer : Pcf8563Transfer) : (driver.transfers transfer).done = true := by
  by_contra waiting
  have owed := settled transfer (Bool.not_eq_true _ ▸ waiting)
  rw [waitsFor_of_free free] at owed
  exact nomatch owed

/-- What the driver submits when it is not busy is accepted. -/
theorem start_accepted (settled : driver.Settled) (free : driver.busy = false)
    (transfer : Pcf8563Transfer) (request : Pcf8563Request) :
    driver.start transfer request =
      (true,
        { driver with
          transfers :=
            Function.update driver.transfers transfer
              { driver.transfers transfer with result := .queued }
          status := { driver.status with request := request } }) := by
  rw [start, I2cTransfer.submit_done (settled.done free transfer)]

theorem read_accepted (settled : driver.Settled) (free : driver.busy = false) :
    driver.read = driver.start .read .reading ∧ driver.read.1 = true := by
  have asked : driver.read = driver.start .read .reading := by
    rw [read, free]
    rfl
  exact ⟨asked, by rw [asked, start_accepted settled free]⟩

theorem release_accepted (settled : driver.Settled) (free : driver.busy = false) :
    driver.release = driver.start .release .releasing ∧ driver.release.1 = true := by
  have asked : driver.release = driver.start .release .releasing := by
    rw [release, free]
    rfl
  exact ⟨asked, by rw [asked, start_accepted settled free]⟩

/-! ## What the driver says of the chip -/

/-- Nothing the driver says or has yet to say of a chip, stopped or not, is made up. -/
structure Faithful (stopped : Bool) (driver : Pcf8563) : Prop where
  settled : driver.Settled
  present : driver.status.calendarValid = true → driver.status.present = true
  timeValid : driver.status.timeValid = true → driver.status.stopped = false
  read : driver.status.request = .reading → (driver.transfers .read).result = .ok →
    driver.status.registers.stop = stopped

variable {stopped : Bool}

theorem start_faithful (faithful : driver.Faithful stopped) (free : driver.busy = false)
    (own : request.waitsFor = some transfer) :
    (driver.start transfer request).2.Faithful stopped := by
  rw [start_accepted faithful.settled free]
  refine ⟨?_, faithful.present, faithful.timeValid, ?_⟩
  · intro other waiting
    by_cases same : other = transfer
    · exact own.trans (congrArg some same.symm)
    · dsimp only at waiting
      rw [Function.update_of_ne same, faithful.settled.done free other] at waiting
      exact nomatch waiting
  · intro reading ended
    dsimp only at reading ended
    cases reading
    cases own
    rw [Function.update_self] at ended
    exact nomatch ended

theorem setAutoRead_faithful (faithful : driver.Faithful stopped) (enabled : Bool) :
    (driver.setAutoRead enabled).Faithful stopped :=
  ⟨faithful.settled, faithful.present, faithful.timeValid, faithful.read⟩

theorem start_autoRead (driver : Pcf8563) (transfer : Pcf8563Transfer)
    (request : Pcf8563Request) :
    (driver.start transfer request).2.autoRead = driver.autoRead := by
  rw [start]
  cases (driver.transfers transfer).submit <;> rfl

/-- What the source asks of the driver. -/
inductive Call
  | read
  | write (utcSeconds : BitVec 32)
  | writeStopped (utcSeconds : BitVec 32)
  | release

/-- The driver after a call, accepted or not. -/
def Call.apply (driver : Pcf8563) : Call → Pcf8563
  | read => driver.read.2
  | write utcSeconds => (driver.write utcSeconds).2
  | writeStopped utcSeconds => (driver.writeStopped utcSeconds).2
  | release => driver.release.2

theorem writeTime_faithful (faithful : driver.Faithful stopped) (utcSeconds : BitVec 32)
    (control1 : BitVec 8) (own : request.waitsFor = some .write) :
    (driver.writeTime utcSeconds control1 request).2.Faithful stopped := by
  rw [writeTime]
  by_cases refused : (driver.busy || decide (utcSeconds < pcf8563FirstUtc)) = true
  · rw [if_pos refused]
    exact faithful
  · rw [if_neg refused]
    obtain ⟨free, _⟩ := not_or.mp (mt Bool.or_eq_true_iff.mpr refused)
    exact start_faithful ⟨faithful.settled, faithful.present, faithful.timeValid, faithful.read⟩
      (Bool.eq_false_iff.mpr free) own

theorem Call.faithful (faithful : driver.Faithful stopped) (call : Call) :
    (call.apply driver).Faithful stopped := by
  cases call with
  | read =>
      by_cases busy : driver.busy = true
      · rwa [apply, Pcf8563.read, if_pos busy]
      · rw [apply, Pcf8563.read, if_neg busy]
        exact start_faithful faithful (Bool.eq_false_iff.mpr busy) rfl
  | write utcSeconds => exact writeTime_faithful faithful utcSeconds 0 rfl
  | writeStopped utcSeconds => exact writeTime_faithful faithful utcSeconds pcf8563Stop rfl
  | release =>
      by_cases busy : driver.busy = true
      · rwa [apply, Pcf8563.release, if_pos busy]
      · rw [apply, Pcf8563.release, if_neg busy]
        exact start_faithful faithful (Bool.eq_false_iff.mpr busy) rfl

theorem Call.autoRead (driver : Pcf8563) (call : Call) :
    (call.apply driver).autoRead = driver.autoRead := by
  cases call with
  | read =>
      rw [apply, Pcf8563.read]
      split
      · rfl
      · exact start_autoRead ..
  | write =>
      rw [apply, Pcf8563.write, writeTime]
      split
      · rfl
      · exact start_autoRead ..
  | writeStopped =>
      rw [apply, Pcf8563.writeStopped, writeTime]
      split
      · rfl
      · exact start_autoRead ..
  | release =>
      rw [apply, Pcf8563.release]
      split
      · rfl
      · exact start_autoRead ..

/-- A call changes the status by its request at most. -/
theorem start_status (driver : Pcf8563) (transfer : Pcf8563Transfer) (request : Pcf8563Request) :
    ∃ request', (driver.start transfer request).2.status = { driver.status with request := request' } := by
  rw [start]
  cases (driver.transfers transfer).submit with
  | none => exact ⟨driver.status.request, rfl⟩
  | some queued => exact ⟨request, rfl⟩

theorem Call.status (driver : Pcf8563) (call : Call) :
    ∃ request, (call.apply driver).status = { driver.status with request := request } := by
  cases call with
  | read =>
      rw [apply, Pcf8563.read]
      split
      · exact ⟨driver.status.request, rfl⟩
      · exact start_status ..
  | write =>
      rw [apply, Pcf8563.write, writeTime]
      split
      · exact ⟨driver.status.request, rfl⟩
      · exact start_status { driver with writeBuffer := _ } ..
  | writeStopped =>
      rw [apply, Pcf8563.writeStopped, writeTime]
      split
      · exact ⟨driver.status.request, rfl⟩
      · exact start_status { driver with writeBuffer := _ } ..
  | release =>
      rw [apply, Pcf8563.release]
      split
      · exact ⟨driver.status.request, rfl⟩
      · exact start_status ..

theorem Call.stopped_eq (driver : Pcf8563) (call : Call) :
    (call.apply driver).status.stopped = driver.status.stopped := by
  obtain ⟨request, status⟩ := Call.status driver call
  rw [status]

/-! ## A transfer taken up -/

theorem Settled.ended (settled : driver.Settled)
    (waits : driver.status.request.waitsFor = some transfer)
    (ended : (driver.transfers transfer).done = true) (other : Pcf8563Transfer) :
    (driver.transfers other).done = true := by
  by_contra waiting
  have owed := settled other (Bool.not_eq_true _ ▸ waiting)
  rw [waits] at owed
  cases owed
  exact waiting ended

/-- With nothing on the bus and no request in progress, only the flags are left to say. -/
theorem faithful_of_done (done : ∀ other, (driver.transfers other).done = true)
    (unused : driver.status.request.waitsFor = none)
    (present : driver.status.calendarValid = true → driver.status.present = true)
    (timeValid : driver.status.timeValid = true → driver.status.stopped = false) :
    driver.Faithful stopped where
  settled other waiting := absurd (done other) (waiting ▸ Bool.false_ne_true)
  present := present
  timeValid := timeValid
  read reading := by
    rw [reading] at unused
    exact nomatch unused

theorem answered_transfers (result : I2cResult) (nowMs : BitVec 32) :
    (driver.answered result nowMs).transfers = driver.transfers := by
  cases result <;> rfl

theorem answered_request (result : I2cResult) (nowMs : BitVec 32) :
    (driver.answered result nowMs).status.request = driver.status.request := by
  cases result <;> rfl

theorem answered_registers (result : I2cResult) (nowMs : BitVec 32) :
    (driver.answered result nowMs).status.registers = driver.status.registers := by
  cases result <;> rfl

theorem answered_stopped (result : I2cResult) (nowMs : BitVec 32) :
    (driver.answered result nowMs).status.stopped = driver.status.stopped := by
  cases result <;> rfl

theorem answered_autoRead (driver : Pcf8563) (result : I2cResult) (nowMs : BitVec 32) :
    (driver.answered result nowMs).autoRead = driver.autoRead := by
  cases result <;> rfl

theorem answered_present (faithful : driver.Faithful stopped) (result : I2cResult)
    (nowMs : BitVec 32) :
    (driver.answered result nowMs).status.calendarValid = true →
      (driver.answered result nowMs).status.present = true := by
  cases result with
  | nackAddress => exact fun valid => nomatch valid
  | ok => exact fun _ => rfl
  | nackData => exact fun _ => rfl
  | idle => exact faithful.present
  | queued => exact faithful.present
  | busy => exact faithful.present
  | busError => exact faithful.present
  | timeout => exact faithful.present

theorem answered_timeValid (faithful : driver.Faithful stopped) (result : I2cResult)
    (nowMs : BitVec 32) :
    (driver.answered result nowMs).status.timeValid = true →
      (driver.answered result nowMs).status.stopped = false := by
  cases result with
  | nackAddress => exact fun valid => nomatch valid
  | ok => exact faithful.timeValid
  | nackData => exact faithful.timeValid
  | idle => exact faithful.timeValid
  | queued => exact faithful.timeValid
  | busy => exact faithful.timeValid
  | busError => exact faithful.timeValid
  | timeout => exact faithful.timeValid

/-- What a read leaves: the registers' flags, and a time only if its date is one. -/
theorem decode_eq (status : Pcf8563Status) :
    ∃ valid utcSeconds,
      status.decode =
        { status with
          voltageLow := status.registers.voltageLow
          stopped := status.registers.stop
          century := status.registers.century
          calendarValid := valid
          timeValid := valid && !status.registers.voltageLow && !status.registers.stop
          utcSeconds := utcSeconds } := by
  unfold Pcf8563Status.decode
  dsimp only
  split
  · exact ⟨false, _, rfl⟩
  · split
    · exact ⟨false, _, rfl⟩
    · exact ⟨true, _, rfl⟩

theorem decode_stopped (status : Pcf8563Status) :
    status.decode.stopped = status.registers.stop := by
  obtain ⟨valid, utcSeconds, decoded⟩ := decode_eq status
  rw [decoded]

theorem decode_request (status : Pcf8563Status) : status.decode.request = status.request := by
  obtain ⟨_, _, decoded⟩ := decode_eq status
  rw [decoded]

theorem decode_present (status : Pcf8563Status) : status.decode.present = status.present := by
  obtain ⟨_, _, decoded⟩ := decode_eq status
  rw [decoded]

theorem decode_timeValid {status : Pcf8563Status} (valid : status.decode.timeValid = true) :
    status.decode.stopped = false := by
  obtain ⟨_, _, decoded⟩ := decode_eq status
  rw [decoded] at valid ⊢
  simpa using (Bool.and_eq_true_iff.mp valid).2

/-- What a transfer that ended leaves, by the request it was for. -/
theorem finish_cases (settled : driver.Settled)
    (waits : driver.status.request.waitsFor = some transfer)
    (ended : (driver.transfers transfer).done = true) (nowMs : BitVec 32) :
    let answered := driver.answered (driver.transfers transfer).result nowMs
    let status := answered.status
    ((driver.transfers transfer).result ≠ .ok ∧
        (driver.finish transfer nowMs).2 =
          { answered with status := { status with request := .failed } }) ∨
      (driver.transfers transfer).result = .ok ∧
        (driver.status.request = .writingStopped ∧
            (driver.finish transfer nowMs).2 =
              { answered with
                status := { status with writes := status.writes + 1, request := .done } } ∨
          driver.status.request = .releasing ∧
            (driver.finish transfer nowMs).2 =
              { answered with
                status := { status with releases := status.releases + 1, request := .done } } ∨
          driver.status.request = .writing ∧
            (driver.finish transfer nowMs).2 =
              { answered with
                transfers :=
                  Function.update driver.transfers .read
                    { driver.transfers .read with result := .queued }
                status := { status with writes := status.writes + 1, request := .reading } } ∨
          driver.status.request = .reading ∧
            (driver.finish transfer nowMs).2 =
              { answered with
                status :=
                  { status with
                    reads := status.reads + 1
                    readStamp := (driver.transfers transfer).startStamp
                    request := .done }.decode }) := by
  dsimp only
  unfold finish
  dsimp only
  by_cases failed : (driver.transfers transfer).result ≠ .ok
  · rw [if_pos failed]
    exact .inl ⟨failed, rfl⟩
  · rw [if_neg failed, answered_request]
    refine .inr ⟨not_not.mp failed, ?_⟩
    cases request : driver.status.request with
    | writingStopped => exact .inl ⟨rfl, rfl⟩
    | releasing => exact .inr (.inl ⟨rfl, rfl⟩)
    | writing =>
        rw [request] at waits
        cases waits
        have done := settled.ended (request ▸ rfl) ended .read
        refine .inr (.inr (.inl ⟨rfl, ?_⟩))
        rw [start, answered_transfers, I2cTransfer.submit_done done]
        rfl
    | reading =>
        rw [request] at waits
        cases waits
        exact .inr (.inr (.inr ⟨rfl, rfl⟩))
    | none => exact absurd (request ▸ waits) nofun
    | done => exact absurd (request ▸ waits) nofun
    | failed => exact absurd (request ▸ waits) nofun

theorem finish_faithful (faithful : driver.Faithful stopped)
    (waits : driver.status.request.waitsFor = some transfer)
    (ended : (driver.transfers transfer).done = true) (nowMs : BitVec 32) :
    (driver.finish transfer nowMs).2.Faithful stopped := by
  have done := faithful.settled.ended waits ended
  have present := answered_present faithful (driver.transfers transfer).result nowMs
  have timeValid := answered_timeValid faithful (driver.transfers transfer).result nowMs
  rw [← answered_transfers (driver.transfers transfer).result nowMs] at done
  rcases finish_cases faithful.settled waits ended nowMs with
    ⟨_, finished⟩ | ⟨ok, ⟨_, finished⟩ | ⟨_, finished⟩ | ⟨_, finished⟩ | ⟨_, finished⟩⟩
  · rw [finished]
    exact faithful_of_done done rfl present timeValid
  · rw [finished]
    exact faithful_of_done done rfl present timeValid
  · rw [finished]
    exact faithful_of_done done rfl present timeValid
  · rw [finished]
    refine ⟨?_, present, timeValid, ?_⟩
    · intro other waiting
      by_cases same : other = .read
      · rw [same]
        rfl
      · dsimp only at waiting
        rw [Function.update_of_ne same, ← answered_transfers (driver.transfers transfer).result nowMs,
          done] at waiting
        exact nomatch waiting
    · intro _ ended
      dsimp only at ended
      rw [Function.update_self] at ended
      exact nomatch ended
  · rw [finished]
    refine faithful_of_done done ((decode_request _).symm ▸ rfl) (fun _ => ?_) decode_timeValid
    dsimp only
    rw [decode_present, ok]
    rfl

/-- A service takes up the transfer waited for, if it has ended. -/
theorem finishRequest_cases (driver : Pcf8563) (nowMs : BitVec 32) :
    (driver.finishRequest nowMs).2 = driver ∨
      ∃ transfer, driver.status.request.waitsFor = some transfer ∧
        (driver.transfers transfer).done = true ∧
        (driver.finishRequest nowMs).2 = (driver.finish transfer nowMs).2 := by
  rw [finishRequest]
  cases driver.status.request.waitsFor with
  | none => exact .inl rfl
  | some transfer =>
      dsimp only
      by_cases ended : (driver.transfers transfer).done = true
      · rw [if_pos ended]
        exact .inr ⟨transfer, rfl, ended, rfl⟩
      · rw [if_neg ended]
        exact .inl rfl

theorem service_faithful (faithful : driver.Faithful stopped) (nowMs : BitVec 32) :
    (driver.service nowMs).2.Faithful stopped := by
  have finished : (driver.finishRequest nowMs).2.Faithful stopped := by
    rcases finishRequest_cases driver nowMs with same | ⟨transfer, waits, ended, taken⟩
    · rwa [same]
    · rw [taken]
      exact finish_faithful faithful waits ended nowMs
  rw [service]
  dsimp only [periodicRead]
  split
  · have noted : Faithful stopped { (driver.finishRequest nowMs).2 with lastAttemptMs := nowMs } :=
      ⟨finished.settled, finished.present, finished.timeValid, finished.read⟩
    exact Call.faithful noted .read
  · exact finished

theorem finish_autoRead (settled : driver.Settled)
    (waits : driver.status.request.waitsFor = some transfer)
    (ended : (driver.transfers transfer).done = true) (nowMs : BitVec 32) :
    (driver.finish transfer nowMs).2.autoRead = driver.autoRead := by
  have answered := answered_autoRead driver (driver.transfers transfer).result nowMs
  rcases finish_cases settled waits ended nowMs with
    ⟨_, finished⟩ | ⟨_, ⟨_, finished⟩ | ⟨_, finished⟩ | ⟨_, finished⟩ | ⟨_, finished⟩⟩ <;>
    rwa [finished]

theorem service_autoRead (settled : driver.Settled) (nowMs : BitVec 32) :
    (driver.service nowMs).2.autoRead = driver.autoRead := by
  have finished : (driver.finishRequest nowMs).2.autoRead = driver.autoRead := by
    rcases finishRequest_cases driver nowMs with same | ⟨transfer, waits, ended, taken⟩
    · rw [same]
    · rw [taken]
      exact finish_autoRead settled waits ended nowMs
  rw [service]
  dsimp only [periodicRead]
  split
  · exact (Call.autoRead _ .read).trans finished
  · exact finished

/-! ## The status once STOP is seen -/

theorem periodicRead_stopped (driver : Pcf8563) (nowMs : BitVec 32) :
    (driver.periodicRead nowMs).status.stopped = driver.status.stopped := by
  rw [periodicRead]
  split
  · exact Call.stopped_eq { driver with lastAttemptMs := nowMs } .read
  · rfl

/-- A read that worked says whether the chip is stopped. -/
theorem service_read (faithful : driver.Faithful stopped)
    (reading : driver.status.request = .reading) (ok : (driver.transfers .read).result = .ok)
    (nowMs : BitVec 32) : (driver.service nowMs).2.status.stopped = stopped := by
  have ended : (driver.transfers .read).done = true := by
    rw [I2cTransfer.done, ok]
    rfl
  have waits : driver.status.request.waitsFor = some .read := by
    rw [reading]
    rfl
  rw [service]
  dsimp only
  rw [periodicRead_stopped, finishRequest, waits]
  dsimp only
  rw [if_pos ended]
  rcases finish_cases faithful.settled waits ended nowMs with
    ⟨failed, _⟩ | ⟨_, ⟨other, _⟩ | ⟨other, _⟩ | ⟨other, _⟩ | ⟨_, finished⟩⟩
  · exact absurd ok failed
  · exact absurd (reading.symm.trans other) nofun
  · exact absurd (reading.symm.trans other) nofun
  · exact absurd (reading.symm.trans other) nofun
  · rw [finished]
    dsimp only
    rw [decode_stopped]
    exact (congrArg Registers.stop (answered_registers _ nowMs)).trans (faithful.read reading ok)

/-- Of a stopped chip, the status that says so goes on saying so. -/
theorem service_stopped (faithful : driver.Faithful true) (seen : driver.status.stopped = true)
    (nowMs : BitVec 32) : (driver.service nowMs).2.status.stopped = true := by
  by_cases read : driver.status.request = .reading ∧ (driver.transfers .read).result = .ok
  · exact service_read faithful read.1 read.2 nowMs
  · rw [service]
    dsimp only
    rw [periodicRead_stopped]
    rcases finishRequest_cases driver nowMs with same | ⟨transfer, waits, ended, taken⟩
    · rwa [same]
    · rw [taken]
      have said := (answered_stopped (driver.transfers transfer).result nowMs).trans seen
      rcases finish_cases faithful.settled waits ended nowMs with
        ⟨_, finished⟩ | ⟨ok, ⟨_, finished⟩ | ⟨_, finished⟩ | ⟨_, finished⟩ | ⟨reading, _⟩⟩
      · rwa [finished]
      · rwa [finished]
      · rwa [finished]
      · rwa [finished]
      · rw [reading] at waits
        cases waits
        exact absurd ⟨reading, ok⟩ read

end Pcf8563

end GpsClock.Rtc
