import GpsClock.Lib.Machine
import GpsClock.Lib.RingQueue

/-! # The UARTs

`uart1.c` and `uart2.c`: a ring of bytes each way between the foreground and the module's three
interrupts. The foreground goes from one access to an index or an interrupt bit to the next, a byte
copied or a register of the module counting as one, with its locals in `Call`; only while it has the
interrupts masked does it go to the next of the module's registers at once. A handler runs whole
wherever its interrupt is enabled and flagged. Beside the driver's variables stands what has gone
through the module, the rings and the calls.

The driver is enabled from its initialisation on, and its callers pass no null pointers.
-/

namespace GpsClock.Drivers

/-- What sets one driver off from the other: its rings, whether a write reads its head before it asks
for the space, and whether there are a poll and a write of as many bytes as fit. -/
structure Uart where
  rxRing : RingSize 16
  txRing : RingSize 16
  readsHeadFirst : Bool
  polls : Bool

def uart1 : Uart where
  rxRing := ⟨1024, 10, rfl, by decide⟩
  txRing := ⟨1024, 10, rfl, by decide⟩
  readsHeadFirst := false
  polls := true

def uart2 : Uart where
  rxRing := ⟨512, 9, rfl, by decide⟩
  txRing := ⟨512, 9, rfl, by decide⟩
  readsHeadFirst := true
  polls := false

/-- `UART1_RX_ERROR_OVERRUN`, and the other receive error flags. -/
def rxErrorOverrun : BitVec 16 := 0x0001

def rxErrorOverflow : BitVec 16 := 0x0002

def rxErrorFraming : BitVec 16 := 0x0004

def rxErrorParity : BitVec 16 := 0x0008

/-- How many bytes the module holds each way beside the one on the line. -/
def uartFifoDepth : Nat := 4

/-- A bit for each of the three interrupts; `Uart1InterruptMask`. -/
structure Interrupts where
  rx : Bool
  tx : Bool
  error : Bool

/-- A byte in the receiver's FIFO, with its FERR and PERR. -/
structure Received where
  byte : BitVec 8
  framing : Bool
  parity : Bool
  deriving DecidableEq, Repr

/-- What the handler did with a byte received. -/
inductive Fate
  | kept
  | damaged
  | overflowed
  deriving DecidableEq, Repr

/-- A byte gone from the receive ring. -/
inductive Taken
  | popped (byte : BitVec 8)
  | dropped (byte : BitVec 8)
  deriving DecidableEq, Repr

def Taken.byte : Taken → BitVec 8
  | .popped byte | .dropped byte => byte

/-- What a call of the transmitter returned, with the bytes it was given. -/
inductive TxAnswer
  /-- `tx_write`. -/
  | write (source : List (BitVec 8)) (accepted : Bool)
  /-- `tx_write_some`, and how many of the bytes it took. -/
  | writeSome (source : List (BitVec 8)) (length : Nat)
  | poll

/-- The bytes a write took. -/
def TxAnswer.accepted : TxAnswer → List (BitVec 8)
  | .write source true => source
  | .writeSome source length => source.take length
  | .write _ false | .poll => []

/-- What a call returned. -/
inductive Returned
  | tx (answer : TxAnswer)
  | pop (byte : Option (BitVec 8))
  | discard
  | recover (errors : BitVec 16)

/-- What the foreground does while it has the interrupts masked. -/
inductive Masked
  /-- `tx_enqueue`'s count of the bytes queued, for a write that will return so. -/
  | count (answer : TxAnswer)
  | fill
  | discard
  | recover (errors : BitVec 16)

def Masked.returned : Masked → Returned
  | .count answer => .tx answer
  | .fill => .tx .poll
  | .discard => .discard
  | .recover errors => .recover errors

/-- A write: the bytes, and whether it is all of them or none. -/
structure Write where
  source : List (BitVec 8)
  whole : Bool

/-- The access the foreground makes next, with the locals it holds. -/
inductive Call
  | idle
  -- `tx_write`, `tx_write_some`, and in them `tx_free`.
  | writeHead (write : Write)
  | freeHead (write : Write) (head : Option (BitVec 16))
  | freeTail (write : Write) (head : Option (BitVec 16)) (freeHead : BitVec 16)
  -- `tx_enqueue`.
  | enqueue (answer : TxAnswer)
  | copy (answer : TxAnswer) (index : Nat) (head : BitVec 16)
  -- `mask_interrupts`.
  | saveRx (work : Masked)
  | saveTx (work : Masked) (rx : Bool)
  | saveError (work : Masked) (rx tx : Bool)
  | clearRx (work : Masked) (saved : Interrupts)
  | clearTx (work : Masked) (saved : Interrupts)
  | clearError (work : Masked) (saved : Interrupts)
  | masked (work : Masked) (saved : Interrupts)
  -- `fill_tx_fifo`, from the foreground.
  | send (saved : Interrupts)
  | release (saved : Interrupts)
  -- `restore_interrupts`.
  | restoreError (work : Masked) (saved : Interrupts)
  | restoreRx (work : Masked) (saved : Interrupts)
  | restoreTx (work : Masked) (saved : Interrupts)
  -- `start_tx`.
  | startHead (answer : TxAnswer)
  | startTail (answer : TxAnswer) (head : BitVec 16)
  | startFlag (answer : TxAnswer)
  | startEnable (answer : TxAnswer)
  -- `rx_pop`.
  | popTail
  | popHead (tail : BitVec 16)
  | popByte (tail : BitVec 16)
  | popRelease (tail : BitVec 16) (byte : BitVec 8)
  -- `rx_recover`.
  | recoverFlags

/-- `tx_ring` with its indices, the transmitter's part of `driver_stats` and the module's FIFO; then the
bytes written to UxTXREG, and those the module has taken out of its FIFO. -/
structure Transmitter where
  ring : RingQueue (BitVec 8) 16
  txBytes : BitVec 32 := 0
  rejections : BitVec 32 := 0
  highWater : BitVec 16 := 0
  fifo : List (BitVec 8) := []
  sent : List (BitVec 8) := []
  shifted : List (BitVec 8) := []

namespace Transmitter

/-- `UxTXREG = tx_ring[tx_tail]`; the module drops a byte written while its FIFO is full. -/
def send (tx : Transmitter) : Transmitter :=
  { tx with
    fifo := if tx.fifo.length < uartFifoDepth then tx.fifo ++ [tx.ring.oldest] else tx.fifo
    sent := tx.sent ++ [tx.ring.oldest] }

/-- The byte's slot is given back. -/
def release (uart : Uart) (tx : Transmitter) : Transmitter :=
  { tx with
    ring := { tx.ring with tail := uart.txRing.next tx.ring.tail }
    txBytes := tx.txBytes + 1 }

/-- `fill_tx_fifo`, with so many slots of the FIFO free. -/
def fill (uart : Uart) : Nat → Transmitter → Transmitter
  | 0, tx => tx
  | slots + 1, tx => if tx.ring.tail ≠ tx.ring.head then fill uart slots (tx.send.release uart) else tx

/-- `tx_enqueue`'s count. -/
def count (uart : Uart) (tx : Transmitter) : Transmitter :=
  let queued := uart.txRing.count tx.ring.head tx.ring.tail
  { tx with highWater := if tx.highWater < queued then queued else tx.highWater }

end Transmitter

/-- `rx_ring` with its indices, `rx_error_flags`, the receiver's part of `driver_stats`, the module's
FIFO and OERR; then every byte that came into the FIFO, what the handler did with those it has read,
and the bytes gone from the ring. -/
structure Receiver where
  ring : RingQueue (BitVec 8) 16
  errorFlags : BitVec 16 := 0
  rxBytes : BitVec 32 := 0
  overruns : BitVec 32 := 0
  overflows : BitVec 32 := 0
  framingErrors : BitVec 32 := 0
  parityErrors : BitVec 32 := 0
  highWater : BitVec 16 := 0
  fifo : List Received := []
  overrun : Bool := false
  arrived : List Received := []
  handled : List (Received × Fate) := []
  taken : List Taken := []

namespace Receiver

/-- The errors a byte came with, flagged and counted. -/
def countErrors (rx : Receiver) (received : Received) : Receiver :=
  let rx := { rx with rxBytes := rx.rxBytes + 1 }
  let rx :=
    if received.framing then
      { rx with
        errorFlags := rx.errorFlags ||| rxErrorFraming
        framingErrors := rx.framingErrors + 1 }
    else rx
  if received.parity then
    { rx with
      errorFlags := rx.errorFlags ||| rxErrorParity
      parityErrors := rx.parityErrors + 1 }
  else rx

/-- A byte into the ring, unless that would fill it. -/
def keep (uart : Uart) (rx : Receiver) (received : Received) : Receiver :=
  let head := uart.rxRing.next rx.ring.head
  if head = rx.ring.tail then
    { rx with
      errorFlags := rx.errorFlags ||| rxErrorOverflow
      overflows := rx.overflows + 1
      handled := rx.handled ++ [(received, .overflowed)] }
  else
    let queued := uart.rxRing.count head rx.ring.tail
    { rx with
      ring := { rx.ring.write rx.ring.head received.byte with head := head }
      highWater := if rx.highWater < queued then queued else rx.highWater
      handled := rx.handled ++ [(received, .kept)] }

/-- One turn of `_U1RXInterrupt`'s loop, for the byte at the top of the FIFO. -/
def take (uart : Uart) (rx : Receiver) (received : Received) : Receiver :=
  let rx := rx.countErrors received
  if received.framing ∨ received.parity then
    { rx with handled := rx.handled ++ [(received, .damaged)] }
  else rx.keep uart received

/-- `_U1RXInterrupt`'s loop. -/
def drain (uart : Uart) : List Received → Receiver → Receiver
  | [], rx => { rx with fifo := [] }
  | received :: later, rx => drain uart later (rx.take uart received)

/-- An overrun is counted and cleared, which resets the FIFO. -/
def clearOverrun (rx : Receiver) : Receiver :=
  if rx.overrun then
    { rx with
      errorFlags := rx.errorFlags ||| rxErrorOverrun
      overruns := rx.overruns + 1
      overrun := false
      fifo := [] }
  else rx

/-- `rx_tail = rx_head`. -/
def drop (uart : Uart) (rx : Receiver) : Receiver :=
  { rx with
    ring := { rx.ring with tail := rx.ring.head }
    taken := rx.taken ++ (rx.ring.contents uart.rxRing).map .dropped }

/-- A byte comes in, or is lost to an overrun. -/
def receive (rx : Receiver) (received : Received) : Receiver :=
  if rx.overrun ∨ uartFifoDepth ≤ rx.fifo.length then { rx with overrun := true }
  else
    { rx with
      fifo := rx.fifo ++ [received]
      arrived := rx.arrived ++ [received] }

end Receiver

structure UartState where
  tx : Transmitter
  rx : Receiver
  enabled : Interrupts
  flags : Interrupts
  call : Call := .idle
  returns : List Returned := []

namespace UartState

/-- `uart1_init`, whatever was in the rings' memory. -/
def init (txMemory rxMemory : Nat → BitVec 8) : UartState where
  tx := { ring := ⟨txMemory, 0, 0⟩ }
  rx := { ring := ⟨rxMemory, 0, 0⟩ }
  enabled := ⟨true, false, true⟩
  flags := ⟨false, false, false⟩

/-! ## The foreground -/

def returned (state : UartState) (answer : Returned) : UartState :=
  { state with
    call := .idle
    returns := state.returns ++ [answer] }

/-- The calls the foreground makes. -/
inductive Request
  | write (source : List (BitVec 8))
  | writeSome (source : List (BitVec 8))
  | poll
  | pop
  | discard
  | recover

/-- A call is entered. -/
def enter (uart : Uart) (state : UartState) : Request → UartState
  | .write source =>
      if source = [] then state.returned (.tx (.write source true))
      else if uart.readsHeadFirst then { state with call := .writeHead ⟨source, true⟩ }
      else { state with call := .freeHead ⟨source, true⟩ none }
  | .writeSome source =>
      if uart.polls = false then state
      else if source = [] then state.returned (.tx (.writeSome source 0))
      else { state with call := .freeHead ⟨source, false⟩ none }
  | .poll => if uart.polls then { state with call := .saveRx .fill } else state
  | .pop => { state with call := .popTail }
  | .discard => { state with call := .saveRx .discard }
  | .recover => { state with call := .recoverFlags }

/-- The call after this one has returned. -/
def begin (uart : Uart) (state : UartState) (request : Request) : UartState :=
  match state.call with
  | .idle => state.enter uart request
  | _ => state

/-- The copying begins, with the head read before or still to be read. -/
def copyFrom (answer : TxAnswer) : Option (BitVec 16) → Call
  | none => .enqueue answer
  | some head => .copy answer 0 head

/-- A write is accepted or rejected by the space there is. -/
def accept (state : UartState) (write : Write) (head : Option (BitVec 16)) (space : Nat) :
    UartState :=
  if write.whole then
    if space < write.source.length then
      { state with tx := { state.tx with rejections := state.tx.rejections + 1 } }.returned
        (.tx (.write write.source false))
    else { state with call := copyFrom (.write write.source true) head }
  else
    let length := min write.source.length space
    if length ≠ 0 then { state with call := copyFrom (.writeSome write.source length) head }
    else state.returned (.tx (.writeSome write.source 0))

/-- What is done with the interrupts masked. -/
def whileMasked (uart : Uart) (state : UartState) (saved : Interrupts) : Masked → UartState
  | .count answer =>
      { state with
        tx := state.tx.count uart
        call := .restoreError (.count answer) saved }
  | .fill =>
      if state.tx.ring.tail ≠ state.tx.ring.head ∧ state.tx.fifo.length < uartFifoDepth then
        { state with call := .send saved }
      else { state with call := .restoreError .fill saved }
  | .discard =>
      { state with
        rx := state.rx.drop uart
        call := .restoreError .discard saved }
  | .recover _ =>
      { state with
        rx := { state.rx.drop uart with errorFlags := 0 }
        call := .restoreError (.recover state.rx.errorFlags) saved }

/-- After the interrupts are restored: a write and a poll go on to `start_tx`. -/
def leave (state : UartState) : Masked → UartState
  | .count answer => { state with call := .startHead answer }
  | .fill => { state with call := .startHead .poll }
  | .discard => state.returned .discard
  | .recover errors => state.returned (.recover errors)

/-- The foreground makes its next access. -/
def advance (uart : Uart) (state : UartState) : UartState :=
  match state.call with
  | .idle => state
  | .writeHead write => { state with call := .freeHead write (some state.tx.ring.head) }
  | .freeHead write head => { state with call := .freeTail write head state.tx.ring.head }
  | .freeTail write head freeHead =>
      state.accept write head
        (uart.txRing.mask - uart.txRing.count freeHead state.tx.ring.tail).toNat
  | .enqueue answer => { state with call := .copy answer 0 state.tx.ring.head }
  | .copy answer index head =>
      match answer.accepted[index]? with
      | some byte =>
          { state with
            tx := { state.tx with ring := state.tx.ring.write head byte }
            call := .copy answer (index + 1) (uart.txRing.next head) }
      | none =>
          { state with
            tx := { state.tx with ring := { state.tx.ring with head := head } }
            call := .saveRx (.count answer) }
  | .saveRx work => { state with call := .saveTx work state.enabled.rx }
  | .saveTx work rx => { state with call := .saveError work rx state.enabled.tx }
  | .saveError work rx tx => { state with call := .clearRx work ⟨rx, tx, state.enabled.error⟩ }
  | .clearRx work saved =>
      { state with
        enabled := { state.enabled with rx := false }
        call := .clearTx work saved }
  | .clearTx work saved =>
      { state with
        enabled := { state.enabled with tx := false }
        call := .clearError work saved }
  | .clearError work saved =>
      { state with
        enabled := { state.enabled with error := false }
        call := .masked work saved }
  | .masked work saved => state.whileMasked uart saved work
  | .send saved =>
      { state with
        tx := state.tx.send
        call := .release saved }
  | .release saved =>
      { state with
        tx := state.tx.release uart
        call := .masked .fill saved }
  | .restoreError work saved =>
      { state with
        enabled := { state.enabled with error := state.enabled.error || saved.error }
        call := .restoreRx work saved }
  | .restoreRx work saved =>
      { state with
        enabled := { state.enabled with rx := state.enabled.rx || saved.rx }
        call := .restoreTx work saved }
  | .restoreTx work saved =>
      { state with enabled := { state.enabled with tx := state.enabled.tx || saved.tx } }.leave work
  | .startHead answer => { state with call := .startTail answer state.tx.ring.head }
  | .startTail answer head =>
      if head ≠ state.tx.ring.tail then { state with call := .startFlag answer }
      else state.returned (.tx answer)
  | .startFlag answer =>
      { state with
        flags := { state.flags with tx := true }
        call := .startEnable answer }
  | .startEnable answer =>
      { state with enabled := { state.enabled with tx := true } }.returned (.tx answer)
  | .popTail => { state with call := .popHead state.rx.ring.tail }
  | .popHead tail =>
      if tail = state.rx.ring.head then state.returned (.pop none)
      else { state with call := .popByte tail }
  | .popByte tail => { state with call := .popRelease tail (state.rx.ring.memory tail.toNat) }
  | .popRelease tail byte =>
      { state with
        rx :=
          { state.rx with
            ring := { state.rx.ring with tail := uart.rxRing.next tail }
            taken := state.rx.taken ++ [Taken.popped byte] } }.returned (.pop (some byte))
  | .recoverFlags =>
      if state.rx.errorFlags = 0 then state.returned (.recover 0)
      else { state with call := .saveRx (.recover 0) }

/-! ## The interrupts -/

/-- `_U1RXInterrupt`. -/
def rxInterrupt (uart : Uart) (state : UartState) : UartState :=
  { state with
    flags := { state.flags with rx := false }
    rx := (state.rx.drain uart state.rx.fifo).clearOverrun }

/-- `_U1TXInterrupt`. -/
def txInterrupt (uart : Uart) (state : UartState) : UartState :=
  let tx := state.tx.fill uart (uartFifoDepth - state.tx.fifo.length)
  { state with
    flags := { state.flags with tx := false }
    tx := tx
    enabled :=
      { state.enabled with
        tx := if tx.ring.tail = tx.ring.head then false else state.enabled.tx } }

/-- `_U1ErrInterrupt`. -/
def errInterrupt (state : UartState) : UartState :=
  { state with
    flags :=
      { state.flags with
        error := false
        rx := true } }

/-! ## The module -/

/-- A byte goes from the FIFO to the line; with the last, the interrupt is flagged. -/
def shift (state : UartState) : UartState :=
  match state.tx.fifo with
  | [] => state
  | byte :: later =>
      { state with
        tx :=
          { state.tx with
            fifo := later
            shifted := state.tx.shifted ++ [byte] }
        flags := { state.flags with tx := state.flags.tx || later.isEmpty } }

/-- A byte comes in from the line: both flags for a byte with an error, the error's for one lost. -/
def receive (state : UartState) (received : Received) : UartState :=
  let overrun := state.rx.overrun || decide (uartFifoDepth ≤ state.rx.fifo.length)
  { state with
    rx := state.rx.receive received
    flags :=
      { state.flags with
        rx := state.flags.rx || !overrun
        error := state.flags.error || overrun || received.framing || received.parity } }

inductive Act
  | begin (request : Request)
  | advance
  | rxInterrupt
  | txInterrupt
  | errInterrupt
  | shift
  | receive (received : Received)

def step (uart : Uart) (state : UartState) : Act → UartState
  | .begin request => state.begin uart request
  | .advance => state.advance uart
  | .rxInterrupt =>
      if state.enabled.rx ∧ state.flags.rx then state.rxInterrupt uart else state
  | .txInterrupt =>
      if state.enabled.tx ∧ state.flags.tx then state.txInterrupt uart else state
  | .errInterrupt =>
      if state.enabled.error ∧ state.flags.error then state.errInterrupt else state
  | .shift => state.shift
  | .receive received => state.receive received

end UartState

/-- The driver from its initialisation on. -/
def Uart.machine (uart : Uart) : Machine UartState UartState.Act where
  start state := ∃ txMemory rxMemory, state = UartState.init txMemory rxMemory
  step state act := state.step uart act

end GpsClock.Drivers
