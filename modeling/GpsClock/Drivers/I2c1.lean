import GpsClock.Lib.LinkedQueue

/-! # The I2C master

`i2c1.c`: the callers' transfers are queued by their links, and an interrupt for every bus event the
module finishes carries the one at the head through, issuing the next event each time. The module is
on an event or on none; its interrupt brings what the event came to, or never comes. Beside the
driver's variables stand what the bus has carried for the transfer on it, and every result written.
-/

namespace GpsClock.Drivers

abbrev Byte := BitVec 8

/-- A transfer's address in memory. -/
abbrev Pointer := Nat

/-- `I2C1_TIMEOUT_MS`. -/
def i2c1TimeoutMs : BitVec 32 := 20

inductive I2cResult
  | idle
  | queued
  | busy
  | ok
  | nackAddress
  | nackData
  | busError
  | timeout
  deriving DecidableEq, Repr

/-- Queued or on the bus. -/
def I2cResult.waits : I2cResult → Bool
  | .queued | .busy => true
  | .idle | .ok | .nackAddress | .nackData | .busError | .timeout => false

/-- A buffer is the memory from its pointer on, or there is none. -/
structure I2cTransfer where
  address : Byte
  write : Option (Nat → Byte) := none
  writeLength : BitVec 8 := 0
  read : Option (Nat → Byte) := none
  readLength : BitVec 8 := 0
  result : I2cResult := .idle
  next : Option Pointer := none
  startStamp : BitVec 32 := 0

namespace I2cTransfer

/-- A byte to write; nothing past the transfer's length. -/
def writeByte (transfer : I2cTransfer) (position : BitVec 8) : Option Byte :=
  match transfer.write with
  | none => none
  | some bytes => if position < transfer.writeLength then some (bytes position.toNat) else none

/-- A byte read, put in its place; nothing past the transfer's length. -/
def readByte (transfer : I2cTransfer) (position : BitVec 8) (byte : Byte) : Option I2cTransfer :=
  match transfer.read with
  | none => none
  | some bytes =>
      if position < transfer.readLength then
        some { transfer with read := some (Function.update bytes position.toNat byte) }
      else none

/-- The address with the bit for writing, or for reading. -/
def addressW (transfer : I2cTransfer) : Byte := transfer.address <<< 1

def addressR (transfer : I2cTransfer) : Byte := (transfer.address <<< 1) ||| 1

end I2cTransfer

/-- `State`. -/
inductive I2cState
  | idle
  | start
  | write
  | restart
  | addressR
  | read
  | ack
  | stop
  | fault
  deriving DecidableEq, Repr

/-! ## The bus -/

/-- What the module is told to do: SEN, I2C1TRN, RSEN, RCEN, ACKEN with ACKDT, PEN. -/
inductive BusEvent
  | start
  | send (byte : Byte)
  | restart
  | receive
  | acknowledge (nack : Bool)
  | stop
  deriving DecidableEq, Repr

/-- What the interrupt finds: BCL or IWCOL, ACKSTAT, I2C1RCV and the stamp clock. -/
structure Outcome where
  collision : Bool := false
  nack : Bool := false
  received : Byte := 0
  stamp : BitVec 32 := 0
  deriving DecidableEq, Repr

/-- An event the bus has carried. -/
inductive Carried
  | start
  | sent (byte : Byte) (acknowledged : Bool)
  | restart
  | received (byte : Byte)
  | acknowledged (nack : Bool)
  | stop
  deriving DecidableEq, Repr

/-- An event, with what it came to. -/
def BusEvent.carried (event : BusEvent) (outcome : Outcome) : Carried :=
  match event with
  | .start => .start
  | .send byte => .sent byte (!outcome.nack)
  | .restart => .restart
  | .receive => .received outcome.received
  | .acknowledge nack => .acknowledged nack
  | .stop => .stop

/-- A result written: a final one with the transfer it is given and what the bus had carried for it. -/
inductive Written
  | queued (transfer : Pointer)
  | busy (transfer : Pointer)
  | final (transfer : Pointer) (result : I2cResult) (contents : I2cTransfer) (bus : List Carried)

/-! ## The driver -/

/-- `i2c1.c`'s statics with the transfers' memory and the module; then the history. -/
structure I2c1 where
  memory : Pointer → I2cTransfer
  head : Option Pointer := none
  tail : Option Pointer := none
  state : I2cState := .idle
  pending : I2cResult := .idle
  position : BitVec 8 := 0
  addressSent : Bool := false
  started : BitVec 16 := 0
  stampClock : Bool := false
  watched : BitVec 16 := 0
  watchedSinceMs : BitVec 32 := 0
  watching : Bool := false
  event : Option BusEvent := none
  bus : List Carried := []
  written : List Written := []

namespace I2c1

def put (i2c : I2c1) (pointer : Pointer) (transfer : I2cTransfer) : I2c1 :=
  { i2c with memory := Function.update i2c.memory pointer transfer }

/-- `start_next`. -/
def startNext (i2c : I2c1) : I2c1 :=
  match i2c.head with
  | none => { i2c with state := .idle }
  | some head =>
      { i2c.put head { i2c.memory head with result := .busy } with
        position := 0
        addressSent := false
        pending := .ok
        started := i2c.started + 1
        state := .start
        event := some .start
        bus := []
        written := i2c.written ++ [.busy head] }

/-- `finish`: the head must be there. -/
def finish (i2c : I2c1) (result : I2cResult) : I2c1 :=
  match i2c.head with
  | none => i2c
  | some done =>
      let transfer := i2c.memory done
      { i2c.put done { transfer with next := none, result := result } with
        head := transfer.next
        tail := if transfer.next = none then none else i2c.tail
        written := i2c.written ++ [.final done result transfer i2c.bus] }

/-- `stop`. -/
def stop (i2c : I2c1) (result : I2cResult) : I2c1 :=
  { i2c with pending := result, state := .stop, event := some .stop }

/-- A byte into I2C1TRN. -/
def send (i2c : I2c1) (state : I2cState) (byte : Byte) : I2c1 :=
  { i2c with state := state, event := some (.send byte) }

/-- `write_next`: nothing where a byte past the transfer's would be written. -/
def writeNext (i2c : I2c1) (transfer : I2cTransfer) : Option I2c1 :=
  if i2c.position < transfer.writeLength then
    match transfer.writeByte i2c.position with
    | none => none
    | some byte => some { i2c.send .write byte with position := i2c.position + 1 }
  else if transfer.readLength ≠ 0 then some { i2c with state := .restart, event := some .restart }
  else some (i2c.stop .ok)

/-- `i2c1_submit`, a transfer put at the tail. -/
def enqueue (i2c : I2c1) (pointer : Pointer) : I2c1 :=
  let queued := i2c.put pointer { i2c.memory pointer with result := .queued, next := none }
  let linked :=
    match i2c.tail with
    | none => { queued with head := some pointer }
    | some tail => queued.put tail { queued.memory tail with next := some pointer }
  { linked with
    tail := some pointer
    written := i2c.written ++ [.queued pointer] }

/-- `i2c1_submit`, and what it returns. -/
def submit (i2c : I2c1) (pointer : Pointer) : Bool × I2c1 :=
  let transfer := i2c.memory pointer
  if 0x7F < transfer.address ∨ (transfer.writeLength ≠ 0 ∧ transfer.write.isNone) ∨
      (transfer.readLength ≠ 0 ∧ transfer.read.isNone) then
    (false, i2c)
  else if transfer.result.waits then (false, i2c)
  else
    let i2c := i2c.enqueue pointer
    (true, if i2c.state = .idle then i2c.startNext else i2c)

/-- The service's watch over the transfer on the bus. -/
def watch (i2c : I2c1) (nowMs : BitVec 32) : I2c1 :=
  if i2c.state = .idle ∨ i2c.state = .fault then { i2c with watching := false }
  else if i2c.watching = false ∨ i2c.watched ≠ i2c.started then
    { i2c with watching := true, watched := i2c.started, watchedSinceMs := nowMs }
  else i2c

/-- A transfer has taken longer than it may. -/
def expired (i2c : I2c1) (nowMs : BitVec 32) : Bool :=
  i2c.watching && decide (i2c1TimeoutMs < nowMs - i2c.watchedSinceMs)

/-- `recover_bus` and `enable_module`: whatever the module was doing is given up, and its interrupt
is cleared. -/
def recoverBus (i2c : I2c1) : I2c1 :=
  { i2c with event := none }

/-- `i2c1_service`. -/
def service (i2c : I2c1) (nowMs : BitVec 32) : I2c1 :=
  let i2c := i2c.watch nowMs
  let expired := i2c.expired nowMs
  if expired ∨ i2c.state = .fault then
    -- A timed-out transfer leaves now; a faulted one already has.
    let i2c := if expired ∧ i2c.head ≠ none then i2c.finish .timeout else i2c
    ({ i2c with watching := false }.recoverBus).startNext
  else i2c

/-- `_MI2C1Interrupt`, the switch, for the transfer at the head: nothing where it would go past the
transfer's buffer. -/
def carryOn (i2c : I2c1) (head : Pointer) (outcome : Outcome) : Option I2c1 :=
  let transfer := i2c.memory head
  match i2c.state with
  | .start =>
      let i2c :=
        if i2c.stampClock then i2c.put head { transfer with startStamp := outcome.stamp } else i2c
      if transfer.writeLength ≠ 0 ∨ transfer.readLength = 0 then
        some (i2c.send .write transfer.addressW)
      else some (i2c.send .addressR transfer.addressR)
  | .write =>
      if outcome.nack then some (i2c.stop (if i2c.addressSent then .nackData else .nackAddress))
      else { i2c with addressSent := true }.writeNext transfer
  | .restart => some (i2c.send .addressR transfer.addressR)
  | .addressR =>
      if outcome.nack then
        -- Refused only here, after a write: the address answered.
        some (i2c.stop (if transfer.writeLength ≠ 0 then .nackData else .nackAddress))
      else some { i2c with position := 0, state := .read, event := some .receive }
  | .read =>
      match transfer.readByte i2c.position outcome.received with
      | none => none
      | some transfer =>
          let i2c := { i2c.put head transfer with position := i2c.position + 1 }
          -- Every byte but the last is acknowledged.
          let nack := !decide (i2c.position < transfer.readLength)
          some { i2c with state := .ack, event := some (.acknowledge nack) }
  | .ack =>
      if i2c.position < transfer.readLength then
        some { i2c with state := .read, event := some .receive }
      else some (i2c.stop .ok)
  | .stop => some (i2c.finish i2c.pending).startNext
  | .idle | .fault => some i2c

/-- `_MI2C1Interrupt`. -/
def interrupt (i2c : I2c1) (outcome : Outcome) : Option I2c1 :=
  if outcome.collision then
    let i2c :=
      if i2c.head ≠ none ∧ i2c.state ≠ .idle ∧ i2c.state ≠ .fault then i2c.finish .busError else i2c
    some { i2c with state := .fault }
  else
    match i2c.head with
    | none => some { i2c with state := .idle }
    | some head => i2c.carryOn head outcome

/-! ## Everything that happens -/

inductive Act
  /-- `i2c1_submit`. -/
  | submit (transfer : Pointer)
  /-- A caller fills in a transfer of its own. -/
  | fill (transfer : Pointer) (contents : I2cTransfer)
  /-- The event under way finishes, and its interrupt runs. -/
  | interrupt (outcome : Outcome)
  /-- The event under way, or its interrupt, is lost. -/
  | lose
  /-- `i2c1_service`. -/
  | service (nowMs : BitVec 32)
  /-- `i2c1_set_stamp_clock`. -/
  | setStampClock (clock : Bool)

/-- A caller's own transfer takes new contents; its result and its link are the driver's. -/
def fill (i2c : I2c1) (pointer : Pointer) (contents : I2cTransfer) : I2c1 :=
  let transfer := i2c.memory pointer
  if transfer.result.waits then i2c
  else
    i2c.put pointer
      { contents with
        result := transfer.result
        next := transfer.next }

/-- The event under way finishes: the bus has carried it, unless it collided. -/
def finishEvent (i2c : I2c1) (event : BusEvent) (outcome : Outcome) : I2c1 :=
  { i2c with
    event := none
    bus := if outcome.collision then i2c.bus else i2c.bus ++ [event.carried outcome] }

/-- One thing after another; nothing where an index would go past a transfer's buffer. -/
def step (i2c : I2c1) : Act → Option I2c1
  | .submit transfer => some (i2c.submit transfer).2
  | .fill transfer contents => some (i2c.fill transfer contents)
  | .interrupt outcome =>
      match i2c.event with
      | none => some i2c
      | some event => (i2c.finishEvent event outcome).interrupt outcome
  | .lose => some { i2c with event := none }
  | .service nowMs => some (i2c.service nowMs)
  | .setStampClock clock => some { i2c with stampClock := clock }

def run (i2c : I2c1) : List Act → Option I2c1
  | [] => some i2c
  | act :: acts =>
      match i2c.step act with
      | none => none
      | some i2c => i2c.run acts

/-- `i2c1_init`, with no transfer submitted yet. -/
def init (memory : Pointer → I2cTransfer) : I2c1 where
  memory := memory

end I2c1

end GpsClock.Drivers
