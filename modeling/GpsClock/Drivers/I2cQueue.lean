import GpsClock.Drivers.I2c1

/-! # The queue of transfers

Whatever is submitted, answered, refused, collided with or lost, and whenever the service comes, the
transfers that wait are the linked queue, each is given one result after those submitted before it,
and a transfer is reported as done only when the bus has carried the whole of it
(`GpsClock.Drivers.I2c1.queue_loses_nothing`).
-/

namespace GpsClock.Drivers

/-! ## What the bus carries for a transfer -/

namespace I2cTransfer

variable (transfer : I2cTransfer)

/-- A byte of the buffer to write. -/
def byteAt (index : Nat) : Byte :=
  match transfer.write with
  | none => 0
  | some bytes => bytes index

/-- The start, the address for writing and so many bytes, each acknowledged. -/
def wrote (count : Nat) : List Carried :=
  [.start, .sent transfer.addressW true] ++
    (List.range count).map fun index => .sent (transfer.byteAt index) true

/-- Up to the address for reading: after a write, a repeated start. -/
def turned : List Carried :=
  if transfer.writeLength ≠ 0 then transfer.wrote transfer.writeLength.toNat ++ [.restart]
  else [.start]

/-- Bytes received, the last of the transfer's not acknowledged. -/
def took (received : List Byte) : List Carried :=
  received.zipIdx.flatMap fun placed =>
    [.received placed.1, .acknowledged (decide (placed.2 + 1 = transfer.readLength.toNat))]

/-- The whole transfer, up to its stop: the address and every byte to write acknowledged, and if it
reads the address for reading too, then the bytes received. -/
def script (received : List Byte) : List Carried :=
  if transfer.readLength = 0 then transfer.wrote transfer.writeLength.toNat
  else transfer.turned ++ .sent transfer.addressR true :: transfer.took received

/-- Bytes stand in the read buffer in their order. -/
def Stored (received : List Byte) : Prop :=
  ∀ index byte, received[index]? = some byte →
    ∃ bytes, transfer.read = some bytes ∧ bytes index = byte

/-- The bus has carried the transfer from its start to its stop, everything sent was acknowledged, and
as many bytes as it reads were received and stored in their order. -/
def Complete (bus : List Carried) : Prop :=
  ∃ received : List Byte, received.length = transfer.readLength.toNat ∧
    transfer.Stored received ∧ bus = transfer.script received ++ [.stop]

/-- A buffer for every length. -/
def Buffered : Prop :=
  (transfer.writeLength ≠ 0 → transfer.write.isSome) ∧
    (transfer.readLength ≠ 0 → transfer.read.isSome)

theorem wrote_succ (count : Nat) :
    transfer.wrote (count + 1) = transfer.wrote count ++ [.sent (transfer.byteAt count) true] := by
  rw [wrote, wrote, List.range_succ, List.map_append, List.append_assoc]
  rfl

theorem took_concat (received : List Byte) (byte : Byte) :
    transfer.took (received ++ [byte]) = transfer.took received ++ [.received byte,
      .acknowledged (decide (received.length + 1 = transfer.readLength.toNat))] := by
  rw [took, took, List.zipIdx_append, List.flatMap_append, Nat.zero_add]
  rfl

end I2cTransfer

/-! ## The history -/

namespace Written

def transfer : Written → Pointer
  | .queued transfer | .busy transfer | .final transfer _ _ _ => transfer

def result : Written → I2cResult
  | .queued _ => .queued
  | .busy _ => .busy
  | .final _ result _ _ => result

def isQueued : Written → Bool
  | .queued _ => true
  | .busy _ | .final _ _ _ _ => false

def isBusy : Written → Bool
  | .busy _ => true
  | .queued _ | .final _ _ _ _ => false

def isFinal : Written → Bool
  | .final _ _ _ _ => true
  | .queued _ | .busy _ => false

/-- The result a transfer has after what was written, from the one it had. -/
def resultOf (pointer : Pointer) (first : I2cResult) (written : List Written) : I2cResult :=
  written.foldl (fun result entry => if entry.transfer = pointer then entry.result else result) first

/-- A result that may follow another: queued once nothing waits, then busy, then a final one. -/
def Follows (before after : I2cResult) : Prop :=
  (before.waits = false ∧ after = .queued) ∨ (before = .queued ∧ after = .busy) ∨
    (before = .busy ∧ after.waits = false)

/-- Every result written may follow the one its transfer had. -/
def Orderly (first : Pointer → I2cResult) (written : List Written) : Prop :=
  ∀ before entry after, written = before ++ entry :: after →
    Follows (resultOf entry.transfer (first entry.transfer) before) entry.result

theorem Orderly.concat {first : Pointer → I2cResult} {written : List Written} {entry : Written}
    (orderly : Orderly first written)
    (follows : Follows (resultOf entry.transfer (first entry.transfer) written) entry.result) :
    Orderly first (written ++ [entry]) := by
  intro before given after split
  rcases List.eq_nil_or_concat after with rfl | ⟨earlier, last, rfl⟩
  · obtain ⟨rfl, same⟩ := List.append_inj' split rfl
    cases same
    exact follows
  · rw [List.concat_eq_append, ← List.cons_append, ← List.append_assoc] at split
    obtain ⟨same, -⟩ := List.append_inj' split rfl
    exact orderly before given earlier same

end Written

namespace I2c1

/-- The transfers accepted, begun and given a final result, each in order. -/
def accepted (i2c : I2c1) : List Pointer :=
  (i2c.written.filter Written.isQueued).map Written.transfer

def begun (i2c : I2c1) : List Pointer :=
  (i2c.written.filter Written.isBusy).map Written.transfer

def finished (i2c : I2c1) : List Pointer :=
  (i2c.written.filter Written.isFinal).map Written.transfer

/-- A transfer is on the bus. -/
def active (i2c : I2c1) : Bool :=
  !(i2c.state = .idle || i2c.state = .fault)

/-! ## What the queue holds -/

/-- The queue and the history, with the head busy or not yet. -/
structure Holds (first : Pointer → I2cResult) (i2c : I2c1) (cells : List Pointer) (busyHead : Bool) :
    Prop where
  queue : LinkedQueue (fun pointer => (i2c.memory pointer).next) i2c.head i2c.tail cells
  waiting : ∀ pointer, pointer ∈ cells ↔ (i2c.memory pointer).result.waits = true
  busy : ∀ pointer, (i2c.memory pointer).result = .busy ↔
    busyHead = true ∧ cells.head? = some pointer
  occupied : busyHead = true → cells ≠ []
  buffered : ∀ pointer ∈ cells, (i2c.memory pointer).Buffered
  accepted : i2c.accepted = i2c.finished ++ cells
  begun : i2c.begun = i2c.finished ++ if busyHead then cells.head?.toList else []
  results : ∀ pointer, (i2c.memory pointer).result =
    Written.resultOf pointer (first pointer) i2c.written
  orderly : Written.Orderly first i2c.written
  final : ∀ pointer result contents bus, .final pointer result contents bus ∈ i2c.written →
    result.waits = false ∧ result ≠ .idle ∧ (result = .ok → contents.Complete bus)

variable {first : Pointer → I2cResult} {i2c : I2c1} {cells : List Pointer} {busyHead : Bool}

/-- What the queue holds does not depend on the rest of the driver, nor on what the transfers say
besides their results, links and buffers. -/
theorem Holds.congr {other : I2c1} (holds : Holds first i2c cells busyHead)
    (head : other.head = i2c.head) (tail : other.tail = i2c.tail)
    (written : other.written = i2c.written)
    (same : ∀ pointer, (other.memory pointer).result = (i2c.memory pointer).result ∧
      (other.memory pointer).next = (i2c.memory pointer).next)
    (buffered : ∀ pointer ∈ cells, (other.memory pointer).Buffered) :
    Holds first other cells busyHead where
  queue := by
    rw [head, tail]
    exact holds.queue.congr fun pointer _ => (same pointer).2
  waiting := fun pointer => by rw [(same pointer).1, holds.waiting]
  busy := fun pointer => by rw [(same pointer).1, holds.busy]
  occupied := holds.occupied
  buffered := buffered
  accepted := by
    rw [I2c1.accepted, I2c1.finished, written]
    exact holds.accepted
  begun := by
    rw [I2c1.begun, I2c1.finished, written]
    exact holds.begun
  results := fun pointer => by rw [(same pointer).1, written, holds.results]
  orderly := by
    rw [written]
    exact holds.orderly
  final := by
    rw [written]
    exact holds.final

theorem resultOf_concat (pointer : Pointer) (first : I2cResult) (written : List Written)
    (entry : Written) :
    Written.resultOf pointer first (written ++ [entry]) =
      if entry.transfer = pointer then entry.result
      else Written.resultOf pointer first written := by
  rw [Written.resultOf, List.foldl_append]
  rfl

/-- A transfer's result and buffers once it is queued, and everyone else's as they were. -/
theorem enqueue_memory (i2c : I2c1) (pointer other : Pointer) :
    ((i2c.enqueue pointer).memory other).result =
        (if other = pointer then .queued else (i2c.memory other).result) ∧
      ((i2c.memory other).Buffered → ((i2c.enqueue pointer).memory other).Buffered) := by
  have queued : ∀ place, ((Function.update i2c.memory pointer
      { i2c.memory pointer with result := .queued, next := none }) place).result =
        (if place = pointer then .queued else (i2c.memory place).result) ∧
      ((i2c.memory place).Buffered → ((Function.update i2c.memory pointer
        { i2c.memory pointer with result := .queued, next := none }) place).Buffered) := by
    intro place
    by_cases same : place = pointer
    · rw [same, Function.update_self, if_pos rfl]
      exact ⟨rfl, id⟩
    · rw [Function.update_of_ne same, if_neg same]
      exact ⟨rfl, id⟩
  rw [enqueue]
  cases i2c.tail with
  | none => exact queued other
  | some last =>
      dsimp only [put]
      by_cases same : other = last
      · rw [same, Function.update_self]
        exact queued last
      · rw [Function.update_of_ne same]
        exact queued other

/-- A transfer put at the tail waits there. -/
theorem Holds.enqueue (holds : Holds first i2c cells busyHead) {pointer : Pointer}
    (free : (i2c.memory pointer).result.waits = false) (buffered : (i2c.memory pointer).Buffered) :
    Holds first (i2c.enqueue pointer) (cells ++ [pointer]) busyHead := by
  have absent : pointer ∉ cells := by
    rw [holds.waiting, free]
    exact Bool.false_ne_true
  have notBusy : (i2c.memory pointer).result ≠ .busy := by
    intro busy
    rw [busy] at free
    cases free
  have memory := enqueue_memory i2c pointer
  have written : (i2c.enqueue pointer).written = i2c.written ++ [.queued pointer] := rfl
  have finished : (i2c.enqueue pointer).finished = i2c.finished := by
    rw [I2c1.finished, written, List.filter_append, List.map_append]
    exact List.append_nil _
  have headOf : busyHead = true → (cells ++ [pointer]).head? = cells.head? := by
    intro busy
    obtain ⟨head, rest, rfl⟩ := List.exists_cons_of_ne_nil (holds.occupied busy)
    rfl
  refine ⟨?_, ?_, ?_, ?_, ?_, ?_, ?_, ?_, ?_, ?_⟩
  · have queue := holds.queue
    rw [I2c1.enqueue]
    cases tail : i2c.tail with
    | none =>
        rw [tail] at queue
        obtain rfl : cells = [] := List.getLast?_eq_none_iff.mp queue.tail.symm
        apply (LinkedQueue.single (fun place => (i2c.memory place).next) pointer).congr
        intro cell member
        obtain rfl := List.mem_singleton.mp member
        dsimp only [put]
        rw [Function.update_self, Function.update_self]
    | some last =>
        rw [tail] at queue
        apply (queue.push absent).congr
        intro cell member
        dsimp only [put]
        by_cases isLast : cell = last
        · rw [isLast, Function.update_self, Function.update_self]
        · rw [Function.update_of_ne isLast, Function.update_of_ne isLast]
          by_cases new : cell = pointer
          · rw [new, Function.update_self, Function.update_self]
          · rw [Function.update_of_ne new, Function.update_of_ne new]
  · intro other
    rw [(memory other).1, List.mem_append, List.mem_singleton]
    by_cases new : other = pointer
    · rw [if_pos new]
      exact iff_of_true (.inr new) rfl
    · rw [if_neg new, ← holds.waiting, or_iff_left new]
  · intro other
    rw [(memory other).1]
    by_cases new : other = pointer
    · rw [if_pos new]
      refine iff_of_false (by decide) ?_
      rintro ⟨busy, head⟩
      rw [headOf busy, new] at head
      exact absent (List.mem_of_head? head)
    · rw [if_neg new, holds.busy]
      refine and_congr_right fun busy => ?_
      rw [headOf busy]
  · intro _
    exact List.append_ne_nil_of_right_ne_nil _ (List.cons_ne_nil _ _)
  · intro other member
    apply (memory other).2
    rcases List.mem_append.mp member with before | new
    · exact holds.buffered other before
    · rw [List.mem_singleton.mp new]
      exact buffered
  · rw [finished, I2c1.accepted, written, List.filter_append, List.map_append, ← List.append_assoc,
      ← holds.accepted]
    rfl
  · have begun : (i2c.enqueue pointer).begun = i2c.begun := by
      rw [I2c1.begun, written, List.filter_append, List.map_append]
      exact List.append_nil _
    rw [finished, begun, holds.begun]
    cases busy : busyHead
    · rfl
    · rw [headOf busy]
  · intro other
    have entry : (Written.queued pointer).transfer = pointer := rfl
    rw [(memory other).1, written, resultOf_concat, holds.results, entry]
    by_cases new : other = pointer
    · rw [if_pos new, if_pos new.symm]
      rfl
    · rw [if_neg new, if_neg (Ne.symm new)]
  · rw [written]
    refine holds.orderly.concat (.inl ⟨?_, rfl⟩)
    rw [← holds.results]
    exact free
  · intro other result contents bus member
    rw [written] at member
    rcases List.mem_append.mp member with before | new
    · exact holds.final other result contents bus before
    · cases List.mem_singleton.mp new

/-- The head's transfer leaves the queue with its result. -/
theorem Holds.finish {head : Pointer} (holds : Holds first i2c (head :: cells) true)
    {result : I2cResult} (over_ : result.waits = false ∧ result ≠ .idle)
    (complete : result = .ok → (i2c.memory head).Complete i2c.bus) :
    Holds first (i2c.finish result) cells false ∧
      ∀ other, other ≠ head → (i2c.finish result).memory other = i2c.memory other := by
  have headEq : i2c.head = some head := holds.queue.head_eq
  have finish : i2c.finish result =
      { i2c.put head { i2c.memory head with next := none, result := result } with
        head := (i2c.memory head).next
        tail := if (i2c.memory head).next = none then none else i2c.tail
        written := i2c.written ++ [.final head result (i2c.memory head) i2c.bus] } := by
    rw [I2c1.finish, headEq]
  have others : ∀ other, other ≠ head → (i2c.finish result).memory other = i2c.memory other := by
    intro other differs
    rw [finish]
    exact Function.update_of_ne differs ..
  have own : (i2c.finish result).memory head =
      { i2c.memory head with next := none, result := result } := by
    rw [finish]
    exact Function.update_self ..
  have written : (i2c.finish result).written =
      i2c.written ++ [.final head result (i2c.memory head) i2c.bus] := by
    rw [finish]
  have finished : (i2c.finish result).finished = i2c.finished ++ [head] := by
    rw [I2c1.finished, written, List.filter_append, List.map_append]
    rfl
  have absent : head ∉ cells := (List.nodup_cons.mp holds.queue.nodup).1
  have notBusy : ∀ other, other ≠ head → (i2c.memory other).result ≠ .busy := by
    intro other differs busy
    exact differs (Option.some.inj ((holds.busy other).mp busy).2).symm
  refine ⟨⟨?_, ?_, ?_, ?_, ?_, ?_, ?_, ?_, ?_, ?_⟩, others⟩
  · have queue := holds.queue
    rw [headEq] at queue
    have popped := queue.pop
    rw [finish]
    apply popped.congr
    intro cell member
    have differs : cell ≠ head := by
      rintro rfl
      exact absent member
    dsimp only [put]
    rw [Function.update_of_ne differs, Function.update_of_ne differs]
  · intro other
    by_cases same : other = head
    · rw [same, own]
      exact iff_of_false absent (by rw [over_.1]; exact Bool.false_ne_true)
    · rw [others other same, ← holds.waiting, List.mem_cons, or_iff_right same]
  · intro other
    refine iff_of_false ?_ (fun wrong => absurd wrong.1 Bool.false_ne_true)
    by_cases same : other = head
    · rw [same, own]
      rintro busy
      have waits := over_.1
      change result = .busy at busy
      rw [busy] at waits
      cases waits
    · rw [others other same]
      exact notBusy other same
  · exact fun wrong => absurd wrong Bool.false_ne_true
  · intro other member
    have differs : other ≠ head := by
      rintro rfl
      exact absent member
    rw [others other differs]
    exact holds.buffered other (List.mem_cons_of_mem _ member)
  · have accepted : (i2c.finish result).accepted = i2c.accepted := by
      rw [I2c1.accepted, written, List.filter_append, List.map_append]
      exact List.append_nil _
    rw [accepted, finished, holds.accepted, List.append_assoc]
    rfl
  · have begun : (i2c.finish result).begun = i2c.begun := by
      rw [I2c1.begun, written, List.filter_append, List.map_append]
      exact List.append_nil _
    rw [begun, finished, holds.begun]
    exact (List.append_nil _).symm
  · intro other
    have entry : (Written.final head result (i2c.memory head) i2c.bus).transfer = head := rfl
    rw [written, resultOf_concat, ← holds.results, entry]
    by_cases same : head = other
    · rw [if_pos same, ← same, own]
      rfl
    · rw [if_neg same, others other (Ne.symm same)]
  · rw [written]
    refine holds.orderly.concat (.inr (.inr ⟨?_, over_.1⟩))
    rw [← holds.results]
    exact (holds.busy head).mpr ⟨rfl, rfl⟩
  · intro other given contents bus member
    rw [written] at member
    rcases List.mem_append.mp member with before | new
    · exact holds.final other given contents bus before
    · cases List.mem_singleton.mp new
      exact ⟨over_.1, over_.2, complete⟩

/-- The next transfer, if there is one, is on the bus. -/
theorem Holds.startNext (holds : Holds first i2c cells false) :
    Holds first i2c.startNext cells (!cells.isEmpty) ∧
      ∀ other, other ∉ cells → i2c.startNext.memory other = i2c.memory other := by
  have headEq := holds.queue.head_eq
  cases cells with
  | nil =>
      have idle : i2c.startNext = { i2c with state := .idle } := by
        rw [I2c1.startNext, headEq]
        rfl
      rw [idle]
      exact ⟨holds.congr rfl rfl rfl (fun _ => ⟨rfl, rfl⟩) holds.buffered, fun _ _ => rfl⟩
  | cons head rest =>
      change i2c.head = some head at headEq
      have memory : i2c.startNext.memory =
          Function.update i2c.memory head { i2c.memory head with result := .busy } := by
        rw [I2c1.startNext, headEq]
        rfl
      have written : i2c.startNext.written = i2c.written ++ [.busy head] := by
        rw [I2c1.startNext, headEq]
      have finished : i2c.startNext.finished = i2c.finished := by
        rw [I2c1.finished, written, List.filter_append, List.map_append]
        exact List.append_nil _
      have others : ∀ other, other ≠ head → i2c.startNext.memory other = i2c.memory other := by
        intro other differs
        rw [memory, Function.update_of_ne differs]
      have own : i2c.startNext.memory head = { i2c.memory head with result := .busy } := by
        rw [memory, Function.update_self]
      have none_ : ∀ other, (i2c.memory other).result ≠ .busy := by
        intro other busy
        exact absurd ((holds.busy other).mp busy).1 Bool.false_ne_true
      refine ⟨⟨?_, ?_, ?_, ?_, ?_, ?_, ?_, ?_, ?_, ?_⟩, ?_⟩
      · have same : i2c.startNext.head = i2c.head ∧ i2c.startNext.tail = i2c.tail := by
          rw [I2c1.startNext, headEq]
          exact ⟨headEq, rfl⟩
        rw [same.1, same.2]
        apply holds.queue.congr
        intro cell _
        by_cases isHead : cell = head
        · rw [isHead, own]
        · rw [others cell isHead]
      · intro other
        by_cases isHead : other = head
        · rw [isHead, own]
          exact iff_of_true List.mem_cons_self rfl
        · rw [others other isHead, holds.waiting]
      · intro other
        by_cases isHead : other = head
        · rw [isHead, own]
          exact iff_of_true rfl ⟨rfl, rfl⟩
        · rw [others other isHead]
          refine iff_of_false (none_ other) ?_
          rintro ⟨-, same⟩
          exact isHead (Option.some.inj same).symm
      · exact fun _ => List.cons_ne_nil _ _
      · intro other member
        by_cases isHead : other = head
        · rw [isHead, own]
          exact holds.buffered head List.mem_cons_self
        · rw [others other isHead]
          exact holds.buffered other member
      · have accepted : i2c.startNext.accepted = i2c.accepted := by
          rw [I2c1.accepted, written, List.filter_append, List.map_append]
          exact List.append_nil _
        rw [accepted, finished, holds.accepted]
      · have begun : i2c.startNext.begun = i2c.begun ++ [head] := by
          rw [I2c1.begun, written, List.filter_append, List.map_append]
          rfl
        rw [begun, finished, holds.begun, if_neg Bool.false_ne_true, List.append_nil]
        rfl
      · intro other
        have entry : (Written.busy head).transfer = head := rfl
        rw [written, resultOf_concat, ← holds.results, entry]
        by_cases isHead : head = other
        · rw [if_pos isHead, ← isHead, own]
          rfl
        · rw [if_neg isHead, others other (Ne.symm isHead)]
      · rw [written]
        refine holds.orderly.concat (.inr (.inl ⟨?_, rfl⟩))
        rw [← holds.results]
        change (i2c.memory head).result = .queued
        have waits := (holds.waiting head).mp List.mem_cons_self
        have notBusy := none_ head
        generalize (i2c.memory head).result = result at *
        cases result <;> first | rfl | exact absurd rfl notBusy | cases waits
      · intro other result contents bus member
        rw [written] at member
        rcases List.mem_append.mp member with before | new
        · exact holds.final other result contents bus before
        · cases List.mem_singleton.mp new
      · intro other absent
        exact others other fun same => absent (same ▸ List.mem_cons_self)

/-! ## How far the transfer on the bus has come -/

/-- The module is on an event, unless it has been lost. -/
def Doing (i2c : I2c1) (event : BusEvent) : Prop :=
  i2c.event = none ∨ i2c.event = some event

/-- In each state, what the bus has carried for the transfer at the head, what is stored, and the event
under way. -/
def Progress (i2c : I2c1) (transfer : I2cTransfer) : Prop :=
  match i2c.state with
  | .idle | .fault => True
  | .start => i2c.position = 0 ∧ i2c.bus = [] ∧ i2c.Doing .start
  | .write =>
      (transfer.writeLength ≠ 0 ∨ transfer.readLength = 0) ∧
        ((i2c.position = 0 ∧ i2c.bus = [.start] ∧ i2c.Doing (.send transfer.addressW)) ∨
          ∃ index, i2c.position.toNat = index + 1 ∧ index < transfer.writeLength.toNat ∧
            i2c.bus = transfer.wrote index ∧ i2c.Doing (.send (transfer.byteAt index)))
  | .restart =>
      transfer.readLength ≠ 0 ∧ transfer.writeLength ≠ 0 ∧
        i2c.bus = transfer.wrote transfer.writeLength.toNat ∧ i2c.Doing .restart
  | .addressR =>
      transfer.readLength ≠ 0 ∧ i2c.bus = transfer.turned ∧ i2c.Doing (.send transfer.addressR)
  | .read =>
      ∃ received, transfer.Stored received ∧ received.length = i2c.position.toNat ∧
        i2c.position.toNat < transfer.readLength.toNat ∧
        i2c.bus = transfer.turned ++ .sent transfer.addressR true :: transfer.took received ∧
        i2c.Doing .receive
  | .ack =>
      ∃ received byte, transfer.Stored (received ++ [byte]) ∧
        received.length + 1 = i2c.position.toNat ∧
        i2c.position.toNat ≤ transfer.readLength.toNat ∧
        i2c.bus = transfer.turned ++
          .sent transfer.addressR true :: (transfer.took received ++ [.received byte]) ∧
        i2c.Doing (.acknowledge (decide (received.length + 1 = transfer.readLength.toNat)))
  | .stop =>
      (i2c.pending.waits = false ∧ i2c.pending ≠ .idle) ∧
        (i2c.pending = .ok → ∃ received : List Byte,
          received.length = transfer.readLength.toNat ∧ transfer.Stored received ∧
            i2c.bus = transfer.script received) ∧
        i2c.Doing .stop

/-- The queue, the history and how far the transfer at the head has come. -/
structure Sound (first : Pointer → I2cResult) (i2c : I2c1) (cells : List Pointer) : Prop where
  holds : Holds first i2c cells i2c.active
  empty : i2c.state = .idle → cells = []
  quiet : i2c.active = false → i2c.event = none
  progress : ∀ head, i2c.head = some head → i2c.active = true →
    i2c.Progress (i2c.memory head)

/-- The queue, the history and the transfers that do not wait are left alone. -/
structure Keeps (i2c next : I2c1) : Prop where
  head : next.head = i2c.head
  tail : next.tail = i2c.tail
  written : next.written = i2c.written
  same : ∀ pointer, (next.memory pointer).result = (i2c.memory pointer).result ∧
    (next.memory pointer).next = (i2c.memory pointer).next
  buffered : ∀ pointer, (i2c.memory pointer).Buffered → (next.memory pointer).Buffered
  others : ∀ pointer, (i2c.memory pointer).result.waits = false →
    next.memory pointer = i2c.memory pointer

variable {next : I2c1}

theorem Keeps.of_memory (memory : next.memory = i2c.memory) (head : next.head = i2c.head)
    (tail : next.tail = i2c.tail) (written : next.written = i2c.written) : Keeps i2c next where
  head := head
  tail := tail
  written := written
  same := fun pointer => by rw [memory]; exact ⟨rfl, rfl⟩
  buffered := fun pointer buffered => by rw [memory]; exact buffered
  others := fun pointer _ => by rw [memory]

/-- A transfer that waits takes contents with the same result and link. -/
theorem Keeps.of_put {pointer : Pointer} {contents : I2cTransfer}
    (waits : (i2c.memory pointer).result.waits = true)
    (result : contents.result = (i2c.memory pointer).result)
    (link : contents.next = (i2c.memory pointer).next)
    (buffered : (i2c.memory pointer).Buffered → contents.Buffered)
    (memory : next.memory = Function.update i2c.memory pointer contents)
    (head : next.head = i2c.head) (tail : next.tail = i2c.tail)
    (written : next.written = i2c.written) : Keeps i2c next where
  head := head
  tail := tail
  written := written
  same := fun other => by
    rw [memory]
    by_cases own : other = pointer
    · rw [own, Function.update_self]
      exact ⟨result, link⟩
    · rw [Function.update_of_ne own]
      exact ⟨rfl, rfl⟩
  buffered := fun other kept => by
    rw [memory]
    by_cases own : other = pointer
    · rw [own] at kept ⊢
      rw [Function.update_self]
      exact buffered kept
    · rw [Function.update_of_ne own]
      exact kept
  others := fun other free => by
    rw [memory, Function.update_of_ne]
    rintro rfl
    rw [waits] at free
    cases free

/-- The module takes a byte to send. -/
theorem Keeps.send (keeps : Keeps i2c next) (state : I2cState) (byte : Byte) :
    Keeps i2c (next.send state byte) :=
  ⟨keeps.head, keeps.tail, keeps.written, keeps.same, keeps.buffered, keeps.others⟩

/-- The transfer at the head comes further. -/
theorem Sound.advance (sound : Sound first i2c cells) (keeps : Keeps i2c next)
    (before : i2c.active = true) (after : next.active = true)
    (progress : ∀ head, next.head = some head → next.Progress (next.memory head)) :
    Sound first next cells where
  holds := by
    have holds := sound.holds
    rw [before] at holds
    rw [after]
    exact holds.congr keeps.head keeps.tail keeps.written keeps.same
      fun pointer member => keeps.buffered pointer (holds.buffered pointer member)
  empty := fun idle => by
    rw [active, idle] at after
    cases after
  quiet := fun wrong => absurd (after.symm.trans wrong) (by decide)
  progress := fun head given _ => progress head given

/-! ## The interrupt -/

/-- After the bytes acknowledged so far, the next one goes, or the bus turns, or the transfer stops. -/
theorem writeNext_spec {transfer : I2cTransfer} {count : Nat} (buffered : transfer.Buffered)
    (kind : transfer.writeLength ≠ 0 ∨ transfer.readLength = 0)
    (position : i2c.position.toNat = count) (few : count ≤ transfer.writeLength.toNat)
    (bus : i2c.bus = transfer.wrote count) :
    ∃ next, i2c.writeNext transfer = some next ∧ next.Progress transfer ∧ next.active = true ∧
      next.memory = i2c.memory ∧ next.head = i2c.head ∧ next.tail = i2c.tail ∧
      next.written = i2c.written := by
  rw [writeNext]
  by_cases more : i2c.position < transfer.writeLength
  · have inside : count < transfer.writeLength.toNat := by
      rw [← position]
      exact more
    have nonzero : transfer.writeLength ≠ 0 := by
      rintro zero
      rw [zero] at inside
      exact absurd inside (Nat.not_lt_zero _)
    obtain ⟨bytes, write⟩ := Option.isSome_iff_exists.mp (buffered.1 nonzero)
    have byte : transfer.writeByte i2c.position = some (transfer.byteAt count) := by
      rw [I2cTransfer.writeByte, I2cTransfer.byteAt, write]
      dsimp only
      rw [if_pos more, position]
    have range := transfer.writeLength.isLt
    have moved : (i2c.position + 1).toNat = count + 1 := by
      rw [BitVec.toNat_add, position]
      change (count + 1) % 2 ^ 8 = count + 1
      exact Nat.mod_eq_of_lt (by omega)
    rw [if_pos more, byte]
    exact ⟨_, rfl, ⟨kind, .inr ⟨count, moved, inside, bus, .inr rfl⟩⟩, rfl, rfl, rfl, rfl, rfl⟩
  · have all : count = transfer.writeLength.toNat := by
      apply Nat.le_antisymm few
      rw [← position]
      exact Nat.le_of_not_lt more
    rw [if_neg more]
    by_cases reads : transfer.readLength = 0
    · rw [if_neg (not_not.mpr reads)]
      refine ⟨_, rfl, ⟨⟨rfl, (by decide : I2cResult.ok ≠ .idle)⟩, fun _ => ⟨[], ?_, ?_, ?_⟩, .inr rfl⟩,
        rfl, rfl, rfl, rfl, rfl⟩
      · rw [reads]
        rfl
      · intro index byte wrong
        rw [List.getElem?_nil] at wrong
        cases wrong
      · rw [I2cTransfer.script, if_pos reads, ← all]
        exact bus
    · rw [if_pos reads]
      have writes : transfer.writeLength ≠ 0 := kind.resolve_right reads
      exact ⟨_, rfl, ⟨reads, writes, by rw [← all]; exact bus, .inr rfl⟩, rfl, rfl, rfl, rfl, rfl⟩

/-- What an interrupt that finds no collision comes to while a transfer is on the bus: it comes
further. -/
def Advances (i2c : I2c1) (head : Pointer) (underWay : BusEvent) (outcome : Outcome) : Prop :=
  ∃ next, (i2c.finishEvent underWay outcome).carryOn head outcome = some next ∧ Keeps i2c next ∧
    next.active = true ∧ next.Progress (next.memory head)

/-- The event under way is the one the state waits for. -/
theorem Doing.eq {expected underWay : BusEvent} (doing : i2c.Doing expected)
    (event : i2c.event = some underWay) : underWay = expected := by
  rcases doing with lost | here
  · exact absurd (lost.symm.trans event) (by simp)
  · exact Option.some.inj (event.symm.trans here)

/-- The bus after an event. -/
theorem finishEvent_bus {outcome : Outcome} (i2c : I2c1) (event : BusEvent)
    (clear : outcome.collision = false) :
    (i2c.finishEvent event outcome).bus = i2c.bus ++ [event.carried outcome] := by
  rw [finishEvent, clear]
  rfl

section Interrupt

variable {head : Pointer} {underWay : BusEvent} {outcome : Outcome}

theorem advances_start (state : i2c.state = .start)
    (waits : (i2c.memory head).result.waits = true) (clear : outcome.collision = false)
    (progress : i2c.Progress (i2c.memory head)) (event : i2c.event = some underWay) :
    i2c.Advances head underWay outcome := by
  rw [Progress, state] at progress
  obtain ⟨position, bus, doing⟩ := progress
  obtain rfl := doing.eq event
  have carried := finishEvent_bus i2c .start clear
  rw [bus, List.nil_append] at carried
  have stateEq : (i2c.finishEvent .start outcome).state = .start := state
  obtain ⟨stamped, stampedEq, keeps, positionEq, busEq, stamp, memory⟩ : ∃ stamped,
      (if (i2c.finishEvent .start outcome).stampClock then (i2c.finishEvent .start outcome).put head
          { (i2c.finishEvent .start outcome).memory head with startStamp := outcome.stamp }
        else i2c.finishEvent .start outcome) = stamped ∧
      Keeps i2c stamped ∧ stamped.position = i2c.position ∧ stamped.bus = [.start] ∧
      ∃ stamp, stamped.memory head = { i2c.memory head with startStamp := stamp } := by
    split
    · refine ⟨_, rfl, ?_, rfl, carried, outcome.stamp, Function.update_self ..⟩
      exact @Keeps.of_put i2c _ head { i2c.memory head with startStamp := outcome.stamp } waits rfl
        rfl id rfl rfl rfl rfl
    · exact ⟨_, rfl, Keeps.of_memory rfl rfl rfl rfl, rfl, carried, _, rfl⟩
  rw [Advances, carryOn, stateEq]
  dsimp only
  rw [stampedEq]
  have transfer : (i2c.finishEvent .start outcome).memory head = i2c.memory head := rfl
  rw [transfer]
  by_cases kind : (i2c.memory head).writeLength ≠ 0 ∨ (i2c.memory head).readLength = 0
  · rw [if_pos kind]
    refine ⟨_, rfl, keeps.send .write _, rfl, ?_⟩
    change I2c1.Progress _ (stamped.memory head)
    rw [memory]
    exact ⟨kind, .inl ⟨positionEq.trans position, busEq, .inr rfl⟩⟩
  · rw [if_neg kind]
    rw [not_or, not_not] at kind
    refine ⟨_, rfl, keeps.send .addressR _, rfl, ?_⟩
    change I2c1.Progress _ (stamped.memory head)
    rw [memory]
    refine ⟨kind.2, ?_, .inr rfl⟩
    rw [I2cTransfer.turned, if_neg (not_not.mpr kind.1)]
    exact busEq

theorem advances_write (state : i2c.state = .write) (buffered : (i2c.memory head).Buffered)
    (clear : outcome.collision = false) (progress : i2c.Progress (i2c.memory head))
    (event : i2c.event = some underWay) : i2c.Advances head underWay outcome := by
  rw [Progress, state] at progress
  obtain ⟨kind, sent⟩ := progress
  have stateEq : (i2c.finishEvent underWay outcome).state = .write := state
  rw [Advances, carryOn, stateEq]
  dsimp only
  cases nack : outcome.nack
  · obtain ⟨count, position, few, bus⟩ : ∃ count, i2c.position.toNat = count ∧
        count ≤ (i2c.memory head).writeLength.toNat ∧
        (i2c.finishEvent underWay outcome).bus = (i2c.memory head).wrote count := by
      rcases sent with ⟨position, bus, doing⟩ | ⟨index, position, inside, bus, doing⟩
      · obtain rfl := doing.eq event
        refine ⟨0, ?_, Nat.zero_le _, ?_⟩
        · rw [position]
          rfl
        · rw [finishEvent_bus _ _ clear, bus, BusEvent.carried, nack]
          rfl
      · obtain rfl := doing.eq event
        refine ⟨index + 1, position, inside, ?_⟩
        rw [finishEvent_bus _ _ clear, bus, BusEvent.carried, nack, I2cTransfer.wrote_succ]
        rfl
    obtain ⟨next, written, advanced, active, memory, kept⟩ := @writeNext_spec
      { i2c.finishEvent underWay outcome with addressSent := true } _ count buffered kind position few
      bus
    rw [if_neg Bool.false_ne_true]
    refine ⟨next, written, Keeps.of_memory memory kept.1 kept.2.1 kept.2.2, active, ?_⟩
    rw [memory]
    exact advanced
  · rw [if_pos rfl]
    refine ⟨_, rfl, Keeps.of_memory rfl rfl rfl rfl, rfl, ?_, ?_, .inr rfl⟩
    · change I2cResult.waits (if i2c.addressSent = true then .nackData else .nackAddress) = false ∧
        (if i2c.addressSent = true then I2cResult.nackData else .nackAddress) ≠ .idle
      split <;> exact ⟨rfl, by decide⟩
    · change (if i2c.addressSent = true then I2cResult.nackData else .nackAddress) = .ok → _
      split <;> exact fun wrong => by cases wrong

theorem advances_restart (state : i2c.state = .restart) (clear : outcome.collision = false)
    (progress : i2c.Progress (i2c.memory head)) (event : i2c.event = some underWay) :
    i2c.Advances head underWay outcome := by
  rw [Progress, state] at progress
  obtain ⟨reads, writes, bus, doing⟩ := progress
  obtain rfl := doing.eq event
  have stateEq : (i2c.finishEvent .restart outcome).state = .restart := state
  rw [Advances, carryOn, stateEq]
  refine ⟨_, rfl, Keeps.of_memory rfl rfl rfl rfl, rfl, reads, ?_, .inr rfl⟩
  change (i2c.finishEvent .restart outcome).bus = (i2c.memory head).turned
  rw [finishEvent_bus _ _ clear, bus, I2cTransfer.turned, if_pos writes]
  rfl

theorem advances_addressR (state : i2c.state = .addressR) (clear : outcome.collision = false)
    (progress : i2c.Progress (i2c.memory head)) (event : i2c.event = some underWay) :
    i2c.Advances head underWay outcome := by
  rw [Progress, state] at progress
  obtain ⟨reads, bus, doing⟩ := progress
  obtain rfl := doing.eq event
  have stateEq : (i2c.finishEvent (.send (i2c.memory head).addressR) outcome).state = .addressR :=
    state
  rw [Advances, carryOn, stateEq]
  dsimp only
  cases nack : outcome.nack
  · rw [if_neg Bool.false_ne_true]
    refine ⟨_, rfl, Keeps.of_memory rfl rfl rfl rfl, rfl, [], ?_, rfl, ?_, ?_, .inr rfl⟩
    · intro index byte wrong
      rw [List.getElem?_nil] at wrong
      cases wrong
    · exact Nat.pos_of_ne_zero fun zero => reads (BitVec.eq_of_toNat_eq zero)
    · change (i2c.finishEvent (.send (i2c.memory head).addressR) outcome).bus = _
      rw [finishEvent_bus _ _ clear, bus, BusEvent.carried, nack]
      rfl
  · rw [if_pos rfl]
    refine ⟨_, rfl, Keeps.of_memory rfl rfl rfl rfl, rfl, ?_, ?_, .inr rfl⟩
    · change I2cResult.waits (if (i2c.memory head).writeLength ≠ 0 then .nackData else .nackAddress) =
        false ∧ (if (i2c.memory head).writeLength ≠ 0 then I2cResult.nackData else .nackAddress) ≠ .idle
      split <;> exact ⟨rfl, by decide⟩
    · change (if (i2c.memory head).writeLength ≠ 0 then I2cResult.nackData else .nackAddress) = .ok → _
      split <;> exact fun wrong => by cases wrong

/-- A byte read stands in its place, and those before it stay. -/
theorem readByte_spec {transfer : I2cTransfer} (buffered : transfer.Buffered) {received : List Byte}
    (stored : transfer.Stored received) {position : BitVec 8}
    (length : received.length = position.toNat)
    (inside : position.toNat < transfer.readLength.toNat) (byte : Byte) :
    ∃ bytes, transfer.readByte position byte = some { transfer with read := some bytes } ∧
      { transfer with read := some bytes }.Stored (received ++ [byte]) := by
  have nonzero : transfer.readLength ≠ 0 := by
    rintro zero
    rw [zero] at inside
    exact absurd inside (Nat.not_lt_zero _)
  obtain ⟨bytes, read⟩ := Option.isSome_iff_exists.mp (buffered.2 nonzero)
  have within : position < transfer.readLength := inside
  refine ⟨Function.update bytes position.toNat byte, ?_, ?_⟩
  · rw [I2cTransfer.readByte, read]
    dsimp only
    rw [if_pos within]
  · intro index value given
    refine ⟨_, rfl, ?_⟩
    rcases Nat.lt_trichotomy index received.length with before | last | past
    · rw [List.getElem?_append_left before] at given
      obtain ⟨stored, same, here⟩ := stored index value given
      rw [read] at same
      obtain rfl := Option.some.inj same
      rw [Function.update_of_ne (by omega), here]
    · rw [last, List.getElem?_concat_length] at given
      rw [last, length, Function.update_self]
      exact Option.some.inj given
    · rw [List.getElem?_eq_none (by rw [List.length_append, List.length_singleton]; omega)] at given
      cases given

theorem advances_read (state : i2c.state = .read) (buffered : (i2c.memory head).Buffered)
    (waits : (i2c.memory head).result.waits = true) (clear : outcome.collision = false)
    (progress : i2c.Progress (i2c.memory head)) (event : i2c.event = some underWay) :
    i2c.Advances head underWay outcome := by
  rw [Progress, state] at progress
  obtain ⟨received, stored, length, inside, bus, doing⟩ := progress
  obtain rfl := doing.eq event
  obtain ⟨bytes, read, storedMore⟩ :=
    readByte_spec buffered stored length inside outcome.received
  have stateEq : (i2c.finishEvent .receive outcome).state = .read := state
  have readEq : ((i2c.finishEvent .receive outcome).memory head).readByte
      (i2c.finishEvent .receive outcome).position outcome.received =
        some { i2c.memory head with read := some bytes } := read
  have range := (i2c.memory head).readLength.isLt
  have moved : (i2c.position + 1).toNat = i2c.position.toNat + 1 := by
    rw [BitVec.toNat_add]
    change (i2c.position.toNat + 1) % 2 ^ 8 = i2c.position.toNat + 1
    exact Nat.mod_eq_of_lt (by omega)
  rw [Advances, carryOn, stateEq]
  dsimp only
  rw [readEq]
  dsimp only
  refine ⟨_, rfl, ?_, rfl, ?_⟩
  · exact @Keeps.of_put i2c _ head { i2c.memory head with read := some bytes } waits rfl rfl
      (fun kept => ⟨kept.1, fun _ => rfl⟩) rfl rfl rfl rfl
  · have own : (Function.update i2c.memory head { i2c.memory head with read := some bytes }) head =
        { i2c.memory head with read := some bytes } := Function.update_self ..
    change I2c1.Progress _ ((Function.update i2c.memory head
      { i2c.memory head with read := some bytes }) head)
    rw [own]
    have last : (!decide (i2c.position + 1 < (i2c.memory head).readLength)) =
        decide (received.length + 1 = (i2c.memory head).readLength.toNat) := by
      rw [← decide_not, decide_eq_decide, BitVec.lt_def, moved]
      omega
    refine ⟨received, outcome.received, storedMore, ?_, ?_, ?_, .inr ?_⟩
    · change received.length + 1 = (i2c.position + 1).toNat
      omega
    · change (i2c.position + 1).toNat ≤ (i2c.memory head).readLength.toNat
      omega
    · change (i2c.finishEvent .receive outcome).bus = (i2c.memory head).turned ++
        .sent (i2c.memory head).addressR true ::
          ((i2c.memory head).took received ++ [.received outcome.received])
      rw [finishEvent_bus _ _ clear, bus, List.append_assoc]
      rfl
    · exact congrArg (fun nack => some (BusEvent.acknowledge nack)) last

theorem advances_ack (state : i2c.state = .ack) (clear : outcome.collision = false)
    (progress : i2c.Progress (i2c.memory head)) (event : i2c.event = some underWay) :
    i2c.Advances head underWay outcome := by
  rw [Progress, state] at progress
  obtain ⟨received, byte, stored, length, inside, bus, doing⟩ := progress
  obtain rfl := doing.eq event
  generalize nackEq : decide (received.length + 1 = (i2c.memory head).readLength.toNat) = nack at *
  have stateEq : (i2c.finishEvent (.acknowledge nack) outcome).state = .ack := state
  have busEq : (i2c.finishEvent (.acknowledge nack) outcome).bus = (i2c.memory head).turned ++
      .sent (i2c.memory head).addressR true :: (i2c.memory head).took (received ++ [byte]) := by
    rw [finishEvent_bus _ _ clear, bus, I2cTransfer.took_concat, nackEq]
    simp only [List.append_assoc, List.cons_append, List.nil_append]
    rfl
  have lengthEq : (received ++ [byte]).length = i2c.position.toNat := by
    rw [List.length_append]
    exact length
  have positionEq : (i2c.finishEvent (.acknowledge nack) outcome).position = i2c.position := rfl
  have memoryEq : (i2c.finishEvent (.acknowledge nack) outcome).memory = i2c.memory := rfl
  rw [Advances, carryOn, stateEq]
  dsimp only
  rw [positionEq, memoryEq]
  by_cases more : i2c.position < (i2c.memory head).readLength
  · rw [if_pos more]
    exact ⟨_, rfl, Keeps.of_memory rfl rfl rfl rfl, rfl, received ++ [byte], stored, lengthEq, more,
      busEq, .inr rfl⟩
  · have all : i2c.position.toNat = (i2c.memory head).readLength.toNat :=
      Nat.le_antisymm inside (Nat.le_of_not_lt more)
    have reads : (i2c.memory head).readLength ≠ 0 := by
      rintro zero
      rw [zero] at all
      exact Nat.succ_ne_zero _ (length.trans all)
    rw [if_neg more]
    refine ⟨_, rfl, Keeps.of_memory rfl rfl rfl rfl, rfl,
      ⟨rfl, (by decide : I2cResult.ok ≠ .idle)⟩, fun _ => ?_, .inr rfl⟩
    refine ⟨received ++ [byte], lengthEq.trans all, stored, ?_⟩
    change (i2c.finishEvent (.acknowledge nack) outcome).bus =
      (i2c.memory head).script (received ++ [byte])
    rw [I2cTransfer.script, if_neg reads, busEq]

end Interrupt

/-! ## Every step -/

/-- A step is sound when it goes past no buffer, keeps the queue and leaves the transfers alone that do
not wait. -/
def SoundStep (first : Pointer → I2cResult) (i2c : I2c1) (outcome : Option I2c1) : Prop :=
  ∃ next cells, outcome = some next ∧ Sound first next cells ∧
    ∀ other, (i2c.memory other).result.waits = false → next.memory other = i2c.memory other

/-- Where nothing is on the bus, the next transfer of the queue goes on it. -/
theorem Holds.sound_startNext (holds : Holds first i2c cells false) (quiet : i2c.event = none) :
    Sound first i2c.startNext cells := by
  have held := holds.startNext.1
  have headEq := holds.queue.head_eq
  cases cells with
  | nil =>
      have idle : i2c.startNext = { i2c with state := .idle } := by
        rw [I2c1.startNext, headEq]
        rfl
      rw [idle] at held ⊢
      exact ⟨held, fun _ => rfl, fun _ => quiet, fun _ _ wrong => by cases wrong⟩
  | cons head rest =>
      change i2c.head = some head at headEq
      have started : i2c.startNext.state = .start ∧ i2c.startNext.position = 0 ∧
          i2c.startNext.bus = [] ∧ i2c.startNext.event = some .start := by
        rw [I2c1.startNext, headEq]
        exact ⟨rfl, rfl, rfl, rfl⟩
      obtain ⟨state, position, bus, event⟩ := started
      have active : i2c.startNext.active = true := by
        rw [I2c1.active, state]
        rfl
      refine ⟨active ▸ held, fun wrong => ?_, fun wrong => ?_, fun _ _ _ => ?_⟩
      · rw [state] at wrong
        cases wrong
      · exact absurd (active.symm.trans wrong) (by decide)
      · rw [Progress, state]
        exact ⟨position, bus, .inr event⟩

/-- A transfer on the bus is the queue's head, and busy. -/
theorem Sound.onBus (sound : Sound first i2c cells) (active : i2c.active = true) :
    ∃ head rest, cells = head :: rest ∧ i2c.head = some head ∧
      (i2c.memory head).result.waits = true ∧ (i2c.memory head).Buffered ∧
      i2c.Progress (i2c.memory head) := by
  have holds := sound.holds
  obtain ⟨head, rest, rfl⟩ := List.exists_cons_of_ne_nil (holds.occupied active)
  have headEq : i2c.head = some head := holds.queue.head_eq
  exact ⟨head, rest, rfl, headEq, (holds.waiting head).mp List.mem_cons_self,
    holds.buffered head List.mem_cons_self, sound.progress head headEq active⟩

/-- The head's transfer over, the queue moves up and the next one goes. -/
theorem Sound.finish (sound : Sound first i2c cells) (active : i2c.active = true) {given : I2c1}
    (memory : given.memory = i2c.memory) (head : given.head = i2c.head) (tail : given.tail = i2c.tail)
    (written : given.written = i2c.written) {result : I2cResult}
    (over_ : result.waits = false ∧ result ≠ .idle)
    (complete : result = .ok → ∀ head, i2c.head = some head →
      (i2c.memory head).Complete given.bus) :
    Holds first (given.finish result) cells.tail false ∧
      ∀ other, (i2c.memory other).result.waits = false →
        (given.finish result).memory other = i2c.memory other := by
  obtain ⟨first_, rest, rfl, headEq, waits, -, -⟩ := sound.onBus active
  have holds : Holds first given (first_ :: rest) true := by
    refine (active ▸ sound.holds).congr head tail written (fun _ => by rw [memory]; exact ⟨rfl, rfl⟩) ?_
    rw [memory]
    exact sound.holds.buffered
  obtain ⟨finished, others⟩ := holds.finish over_ fun ok => memory ▸ complete ok first_ headEq
  refine ⟨finished, fun other free => ?_⟩
  rw [others other, memory]
  rintro rfl
  rw [waits] at free
  cases free

/-- Nothing that does not wait is touched when the next transfer starts. -/
theorem Holds.startNext_others (holds : Holds first i2c cells false) {other : Pointer}
    (free : (i2c.memory other).result.waits = false) :
    i2c.startNext.memory other = i2c.memory other := by
  apply holds.startNext.2
  rw [holds.waiting, free]
  exact Bool.false_ne_true

theorem Sound.interrupt (sound : Sound first i2c cells) {event : BusEvent}
    (underWay : i2c.event = some event) (outcome : Outcome) :
    SoundStep first i2c ((i2c.finishEvent event outcome).interrupt outcome) := by
  have active : i2c.active = true := by
    cases active : i2c.active
    · rw [sound.quiet active] at underWay
      cases underWay
    · rfl
  obtain ⟨head, rest, rfl, headEq, waits, buffered, progress⟩ := sound.onBus active
  have headEq' : (i2c.finishEvent event outcome).head = some head := headEq
  cases clear : outcome.collision
  · have carriedOn : (i2c.finishEvent event outcome).interrupt outcome =
        (i2c.finishEvent event outcome).carryOn head outcome := by
      rw [I2c1.interrupt, clear, if_neg Bool.false_ne_true, headEq']
    rw [carriedOn]
    have further : i2c.Advances head event outcome →
        SoundStep first i2c ((i2c.finishEvent event outcome).carryOn head outcome) := by
      rintro ⟨next, handled, keeps, after, came⟩
      refine ⟨next, _, handled, sound.advance keeps active after ?_, keeps.others⟩
      intro other given
      rw [keeps.head, headEq] at given
      obtain rfl := Option.some.inj given
      exact came
    cases state : i2c.state with
    | idle =>
        rw [I2c1.active, state] at active
        cases active
    | fault =>
        rw [I2c1.active, state] at active
        cases active
    | start => exact further (advances_start state waits clear progress underWay)
    | write => exact further (advances_write state buffered clear progress underWay)
    | restart => exact further (advances_restart state clear progress underWay)
    | addressR => exact further (advances_addressR state clear progress underWay)
    | read => exact further (advances_read state buffered waits clear progress underWay)
    | ack => exact further (advances_ack state clear progress underWay)
    | stop =>
        rw [Progress, state] at progress
        obtain ⟨over_, complete, doing⟩ := progress
        obtain rfl := doing.eq underWay
        have stateEq : (i2c.finishEvent .stop outcome).state = .stop := state
        rw [carryOn, stateEq]
        obtain ⟨finished, others⟩ := sound.finish active
          (rfl : (i2c.finishEvent .stop outcome).memory = i2c.memory) rfl rfl rfl over_ (by
            intro ok other given
            rw [headEq] at given
            obtain rfl := Option.some.inj given
            obtain ⟨received, length, stored, bus⟩ := complete ok
            refine ⟨received, length, stored, ?_⟩
            rw [finishEvent_bus _ _ clear, bus]
            rfl)
        refine ⟨_, rest, rfl, finished.sound_startNext ?_, fun other free => ?_⟩
        · rw [I2c1.finish, headEq']
          rfl
        · have kept := others other free
          refine (finished.startNext_others ?_).trans kept
          rw [kept]
          exact free
  · have state : i2c.state ≠ .idle ∧ i2c.state ≠ .fault := by
      constructor <;>
      · intro state
        rw [I2c1.active, state] at active
        cases active
    have faulted : (i2c.finishEvent event outcome).interrupt outcome =
        some { (i2c.finishEvent event outcome).finish .busError with state := .fault } := by
      rw [I2c1.interrupt, clear, if_pos rfl]
      dsimp only
      rw [if_pos ⟨by rw [headEq']; simp, state.1, state.2⟩]
    obtain ⟨finished, others⟩ := sound.finish active
      (rfl : (i2c.finishEvent event outcome).memory = i2c.memory) rfl rfl rfl
      (⟨rfl, by decide⟩ : I2cResult.busError.waits = false ∧ I2cResult.busError ≠ .idle)
      (fun wrong => by cases wrong)
    rw [faulted]
    refine ⟨_, rest, rfl, ⟨?_, fun wrong => ?_, fun _ => ?_, fun _ _ wrong => ?_⟩, others⟩
    · exact finished.congr rfl rfl rfl (fun _ => ⟨rfl, rfl⟩) finished.buffered
    · cases wrong
    · rw [I2c1.finish, headEq']
      rfl
    · cases wrong

/-- How far a transfer has come does not depend on its link, nor on whether its event is lost. -/
theorem Progress.congr {transfer : I2cTransfer} (progress : i2c.Progress transfer)
    (state : next.state = i2c.state) (position : next.position = i2c.position)
    (pending : next.pending = i2c.pending) (bus : next.bus = i2c.bus)
    (event : next.event = none ∨ next.event = i2c.event) (link : Option Pointer) :
    next.Progress { transfer with next := link } := by
  have doing : ∀ {expected}, i2c.Doing expected → next.Doing expected := by
    intro expected doing
    rcases event with lost | same
    · exact .inl lost
    · rw [Doing, same]
      exact doing
  rw [Progress] at progress ⊢
  rw [state, position, pending, bus]
  generalize i2c.state = current at progress ⊢
  cases current with
  | idle => trivial
  | fault => trivial
  | start => exact ⟨progress.1, progress.2.1, doing progress.2.2⟩
  | write =>
      obtain ⟨kind, ⟨first, carried, under⟩ | ⟨index, sent, inside, carried, under⟩⟩ := progress
      · exact ⟨kind, .inl ⟨first, carried, doing under⟩⟩
      · exact ⟨kind, .inr ⟨index, sent, inside, carried, doing under⟩⟩
  | restart => exact ⟨progress.1, progress.2.1, progress.2.2.1, doing progress.2.2.2⟩
  | addressR => exact ⟨progress.1, progress.2.1, doing progress.2.2⟩
  | read =>
      obtain ⟨received, stored, length, inside, carried, under⟩ := progress
      exact ⟨received, stored, length, inside, carried, doing under⟩
  | ack =>
      obtain ⟨received, byte, stored, length, inside, carried, under⟩ := progress
      exact ⟨received, byte, stored, length, inside, carried, doing under⟩
  | stop => exact ⟨progress.1, progress.2.1, doing progress.2.2⟩

theorem Sound.lose (sound : Sound first i2c cells) : Sound first { i2c with event := none } cells where
  holds := sound.holds.congr rfl rfl rfl (fun _ => ⟨rfl, rfl⟩) sound.holds.buffered
  empty := sound.empty
  quiet := fun _ => rfl
  progress := fun head headEq active =>
    @Progress.congr i2c { i2c with event := none } _ (sound.progress head headEq active) rfl rfl rfl
      rfl (.inl rfl) _

/-- The driver's own variables that no transfer depends on may change. -/
theorem Sound.congr (sound : Sound first i2c cells) (memory : next.memory = i2c.memory)
    (head : next.head = i2c.head) (tail : next.tail = i2c.tail) (written : next.written = i2c.written)
    (state : next.state = i2c.state) (position : next.position = i2c.position)
    (pending : next.pending = i2c.pending) (bus : next.bus = i2c.bus)
    (event : next.event = i2c.event) : Sound first next cells := by
  have active : next.active = i2c.active := by rw [I2c1.active, state, I2c1.active]
  refine ⟨?_, ?_, ?_, ?_⟩
  · rw [active]
    exact sound.holds.congr head tail written (fun _ => by rw [memory]; exact ⟨rfl, rfl⟩)
      (memory ▸ sound.holds.buffered)
  · rw [state]
    exact sound.empty
  · rw [active, event]
    exact sound.quiet
  · intro first_ given busy
    rw [head] at given
    rw [active] at busy
    rw [memory]
    exact (sound.progress first_ given busy).congr state position pending bus (.inr event) _

theorem Sound.fill (sound : Sound first i2c cells) (pointer : Pointer) (contents : I2cTransfer) :
    Sound first (i2c.fill pointer contents) cells := by
  rw [I2c1.fill]
  cases waits : (i2c.memory pointer).result.waits
  · rw [if_neg Bool.false_ne_true]
    have absent : ∀ cell ∈ cells, cell ≠ pointer := by
      rintro cell member rfl
      rw [(sound.holds.waiting cell).mp member] at waits
      cases waits
    refine ⟨?_, sound.empty, sound.quiet, ?_⟩
    · refine sound.holds.congr rfl rfl rfl (fun other => ?_) fun cell member => ?_
      · by_cases own : other = pointer
        · dsimp only [put]
          rw [own, Function.update_self]
          exact ⟨rfl, rfl⟩
        · dsimp only [put]
          rw [Function.update_of_ne own]
          exact ⟨rfl, rfl⟩
      · dsimp only [put]
        rw [Function.update_of_ne (absent cell member)]
        exact sound.holds.buffered cell member
    · intro head headEq active
      obtain ⟨first_, rest, rfl, firstEq, -⟩ := sound.onBus active
      have same : head = first_ := Option.some.inj (headEq.symm.trans firstEq)
      dsimp only [put]
      rw [Function.update_of_ne (absent head (same ▸ List.mem_cons_self))]
      exact sound.progress head headEq active
  · rw [if_pos rfl]
    exact sound

/-- What the checks of a submission promise. -/
theorem buffered_of_accepted {transfer : I2cTransfer}
    (checked : ¬(0x7F < transfer.address ∨ (transfer.writeLength ≠ 0 ∧ transfer.write.isNone) ∨
      (transfer.readLength ≠ 0 ∧ transfer.read.isNone))) : transfer.Buffered := by
  rw [not_or, not_or, not_and, not_and, Option.isNone_iff_eq_none, Option.isNone_iff_eq_none] at checked
  exact ⟨fun writes => Option.isSome_iff_ne_none.mpr (checked.2.1 writes),
    fun reads => Option.isSome_iff_ne_none.mpr (checked.2.2 reads)⟩

/-- A transfer at the tail leaves those that do not wait alone, itself apart. -/
theorem enqueue_others (holds : Holds first i2c cells busyHead) {pointer other : Pointer}
    (differs : other ≠ pointer) (free : (i2c.memory other).result.waits = false) :
    (i2c.enqueue pointer).memory other = i2c.memory other := by
  have tailEq := holds.queue.tail
  rw [I2c1.enqueue]
  cases tail : i2c.tail with
  | none => exact Function.update_of_ne differs ..
  | some last =>
      have notLast : other ≠ last := by
        rintro rfl
        have member := List.mem_of_getLast? (tailEq.symm.trans tail)
        rw [(holds.waiting other).mp member] at free
        cases free
      dsimp only [put]
      rw [Function.update_of_ne notLast, Function.update_of_ne differs]

theorem Sound.submit (sound : Sound first i2c cells) (pointer : Pointer) :
    ∃ more, Sound first (i2c.submit pointer).2 more ∧
      ∀ other, other ≠ pointer → (i2c.memory other).result.waits = false →
        (i2c.submit pointer).2.memory other = i2c.memory other := by
  rw [I2c1.submit]
  dsimp only
  by_cases refused : 0x7F < (i2c.memory pointer).address ∨
      ((i2c.memory pointer).writeLength ≠ 0 ∧ (i2c.memory pointer).write.isNone) ∨
      ((i2c.memory pointer).readLength ≠ 0 ∧ (i2c.memory pointer).read.isNone)
  · rw [if_pos refused]
    exact ⟨cells, sound, fun _ _ _ => rfl⟩
  rw [if_neg refused]
  have buffered := buffered_of_accepted refused
  cases free : (i2c.memory pointer).result.waits
  · rw [if_neg Bool.false_ne_true]
    have queued := sound.holds.enqueue free buffered
    have state : (i2c.enqueue pointer).state = i2c.state := by
      rw [I2c1.enqueue]
      cases i2c.tail <;> rfl
    have event : (i2c.enqueue pointer).event = i2c.event := by
      rw [I2c1.enqueue]
      cases i2c.tail <;> rfl
    have others := fun other differs free => @enqueue_others first i2c cells i2c.active sound.holds
      pointer other differs free
    by_cases idle : i2c.state = .idle
    · have inactive : i2c.active = false := by
        rw [active, idle]
        rfl
      rw [inactive] at queued
      dsimp only
      rw [if_pos (state.trans idle)]
      refine ⟨_, queued.sound_startNext (event.trans (sound.quiet inactive)), ?_⟩
      intro other differs freeOther
      have kept := others other differs freeOther
      exact (queued.startNext_others (kept ▸ freeOther)).trans kept
    · dsimp only
      rw [if_neg (fun wrong => idle (state.symm.trans wrong))]
      have active : (i2c.enqueue pointer).active = i2c.active := by
        rw [I2c1.active, state, I2c1.active]
      refine ⟨_, ⟨active ▸ queued, fun wrong => absurd (state.symm.trans wrong) idle, ?_, ?_⟩, others⟩
      · rw [active, event]
        exact sound.quiet
      · intro head headEq busy
        rw [active] at busy
        obtain ⟨first_, rest, rfl, firstEq, waits, -, progress⟩ := sound.onBus busy
        have differs : first_ ≠ pointer := by
          rintro rfl
          rw [waits] at free
          cases free
        obtain ⟨last, tail⟩ : ∃ last, i2c.tail = some last := by
          rw [sound.holds.queue.tail]
          exact ⟨_, List.getLast?_eq_some_getLast (List.cons_ne_nil _ _)⟩
        have enqueued : i2c.enqueue pointer =
            { (i2c.put pointer { i2c.memory pointer with result := .queued, next := none }).put last
                { (Function.update i2c.memory pointer
                  { i2c.memory pointer with result := .queued, next := none }) last with
                    next := some pointer } with
              tail := some pointer
              written := i2c.written ++ [.queued pointer] } := by
          rw [I2c1.enqueue, tail]
          rfl
        have same : head = first_ := by
          rw [enqueued] at headEq
          exact Option.some.inj (headEq.symm.trans firstEq)
        rw [same, enqueued]
        dsimp only [put]
        by_cases isLast : first_ = last
        · rw [← isLast, Function.update_self, Function.update_of_ne differs]
          exact progress.congr rfl rfl rfl rfl (.inr rfl) _
        · rw [Function.update_of_ne isLast, Function.update_of_ne differs]
          exact progress.congr rfl rfl rfl rfl (.inr rfl) _
  · rw [if_pos rfl]
    exact ⟨cells, sound, fun _ _ _ => rfl⟩

/-- The queue's first transfer is on the bus, or there is none and the bus is idle. -/
def Restarted (i2c : I2c1) : Prop :=
  (i2c.head = none ∧ i2c.state = .idle) ∨
    ∃ head, i2c.head = some head ∧ (i2c.memory head).result = .busy ∧ i2c.state = .start ∧
      i2c.event = some .start

theorem Holds.restarted (holds : Holds first i2c cells false) :
    i2c.startNext.Restarted ∧ i2c.startNext.head = cells.head? := by
  have headEq := holds.queue.head_eq
  cases cells with
  | nil =>
      have idle : i2c.startNext = { i2c with state := .idle } := by
        rw [I2c1.startNext, headEq]
        rfl
      rw [idle]
      exact ⟨.inl ⟨headEq, rfl⟩, headEq⟩
  | cons head rest =>
      change i2c.head = some head at headEq
      have started : i2c.startNext.head = i2c.head ∧ (i2c.startNext.memory head).result = .busy ∧
          i2c.startNext.state = .start ∧ i2c.startNext.event = some .start := by
        rw [I2c1.startNext, headEq]
        refine ⟨headEq, ?_, rfl, rfl⟩
        dsimp only [put]
        rw [Function.update_self]
      obtain ⟨same, busy, state, event⟩ := started
      exact ⟨.inr ⟨head, same.trans headEq, busy, state, event⟩, same.trans headEq⟩

theorem Sound.watch (sound : Sound first i2c cells) (nowMs : BitVec 32) :
    Sound first (i2c.watch nowMs) cells := by
  rw [I2c1.watch]
  split
  · exact sound.congr rfl rfl rfl rfl rfl rfl rfl rfl rfl
  · split
    · exact sound.congr rfl rfl rfl rfl rfl rfl rfl rfl rfl
    · exact sound

theorem watch_eq (i2c : I2c1) (nowMs : BitVec 32) :
    (i2c.watch nowMs).memory = i2c.memory ∧ (i2c.watch nowMs).head = i2c.head ∧
      (i2c.watch nowMs).state = i2c.state := by
  rw [watch]
  split
  · exact ⟨rfl, rfl, rfl⟩
  · split <;> exact ⟨rfl, rfl, rfl⟩

/-- Only a transfer on the bus takes too long. -/
theorem active_of_expired {nowMs : BitVec 32} (expired : (i2c.watch nowMs).expired nowMs = true) :
    i2c.active = true := by
  rw [I2c1.expired, Bool.and_eq_true_iff] at expired
  have watching := expired.1
  rw [watch] at watching
  split at watching
  · cases watching
  · next apart =>
      rw [not_or] at apart
      rw [active, decide_eq_false apart.1, decide_eq_false apart.2]
      rfl

/-- The service leaves the queue as it is, or without the transfer that has taken too long; after a
collision or that the next transfer is on the bus. -/
theorem Sound.service (sound : Sound first i2c cells) (nowMs : BitVec 32) :
    ∃ more, Sound first (i2c.service nowMs) more ∧
      (∀ other, (i2c.memory other).result.waits = false →
        (i2c.service nowMs).memory other = i2c.memory other) ∧
      (i2c.state = .fault ∨ (i2c.watch nowMs).expired nowMs = true →
        (i2c.service nowMs).Restarted ∧
          (i2c.service nowMs).head = (if i2c.state = .fault then cells else cells.tail).head?) := by
  have watched := sound.watch nowMs
  obtain ⟨memory, head, state⟩ := watch_eq i2c nowMs
  rw [I2c1.service]
  cases expired : (i2c.watch nowMs).expired nowMs
  · by_cases fault : i2c.state = .fault
    · have inactive : (i2c.watch nowMs).active = false := by
        rw [active, state, fault]
        rfl
      have holds := watched.holds
      rw [inactive] at holds
      have rested : Holds first ({ i2c.watch nowMs with watching := false }.recoverBus) cells false :=
        holds.congr rfl rfl rfl (fun _ => ⟨rfl, rfl⟩) holds.buffered
      rw [if_pos (.inr (state.trans fault)), if_neg (fun wrong => absurd wrong.1 Bool.false_ne_true)]
      refine ⟨cells, rested.sound_startNext rfl, fun other free => ?_, fun _ => ?_⟩
      · rw [← memory] at free ⊢
        exact rested.startNext_others free
      · rw [if_pos fault]
        exact rested.restarted
    · rw [if_neg]
      · refine ⟨cells, watched, fun other _ => congrFun memory other, ?_⟩
        rintro (wrong | wrong)
        · exact absurd wrong fault
        · exact absurd wrong Bool.false_ne_true
      · rw [state]
        rintro (wrong | wrong)
        · exact absurd wrong Bool.false_ne_true
        · exact fault wrong
  · have busy := active_of_expired expired
    have notFault : i2c.state ≠ .fault := by
      intro fault
      rw [active, fault] at busy
      cases busy
    have busyWatched : (i2c.watch nowMs).active = true := by
      rw [active, state]
      exact busy
    obtain ⟨head_, rest, rfl, headEq, -⟩ := watched.onBus busyWatched
    obtain ⟨finished, others⟩ := watched.finish busyWatched rfl rfl rfl rfl
      (⟨rfl, by decide⟩ : I2cResult.timeout.waits = false ∧ I2cResult.timeout ≠ .idle)
      (fun wrong => by cases wrong)
    have rested : Holds first
        ({ (i2c.watch nowMs).finish .timeout with watching := false }.recoverBus) rest false :=
      finished.congr rfl rfl rfl (fun _ => ⟨rfl, rfl⟩) finished.buffered
    rw [if_pos (.inl rfl), if_pos ⟨rfl, by rw [headEq]; simp⟩]
    refine ⟨rest, rested.sound_startNext rfl, fun other free => ?_, fun _ => ?_⟩
    · rw [← memory] at free ⊢
      have kept := others other free
      exact (rested.startNext_others (kept ▸ free)).trans kept
    · rw [if_neg notFault]
      exact rested.restarted

/-- A step about a transfer: its submission, or its owner filling it in. -/
def Act.about : Act → Option Pointer
  | .submit transfer | .fill transfer _ => some transfer
  | .interrupt _ | .lose | .service _ | .setStampClock _ => none

/-- Every step is sound, whatever it is. -/
theorem Sound.step (sound : Sound first i2c cells) (act : Act) :
    ∃ next more, i2c.step act = some next ∧ Sound first next more ∧
      ∀ other, act.about ≠ some other → (i2c.memory other).result.waits = false →
        next.memory other = i2c.memory other := by
  cases act with
  | submit transfer =>
      obtain ⟨more, submitted, others⟩ := sound.submit transfer
      refine ⟨_, more, rfl, submitted, fun other differs free => others other ?_ free⟩
      rintro rfl
      exact differs rfl
  | fill transfer contents =>
      refine ⟨_, cells, rfl, sound.fill transfer contents, fun other differs free => ?_⟩
      have apart : other ≠ transfer := by
        rintro rfl
        exact differs rfl
      rw [I2c1.fill]
      split
      · rfl
      · exact Function.update_of_ne apart ..
  | interrupt outcome =>
      cases event : i2c.event with
      | none =>
          refine ⟨i2c, cells, ?_, sound, fun _ _ _ => rfl⟩
          rw [I2c1.step, event]
      | some underWay =>
          obtain ⟨next, more, handled, carried, others⟩ := sound.interrupt event outcome
          refine ⟨next, more, ?_, carried, fun other _ free => others other free⟩
          rw [I2c1.step, event]
          exact handled
  | lose => exact ⟨_, cells, rfl, sound.lose, fun _ _ _ => rfl⟩
  | service nowMs =>
      obtain ⟨more, served, others, -⟩ := sound.service nowMs
      exact ⟨_, more, rfl, served, fun other _ free => others other free⟩
  | setStampClock clock =>
      exact ⟨_, cells, rfl, sound.congr rfl rfl rfl rfl rfl rfl rfl rfl rfl, fun _ _ _ => rfl⟩

theorem Sound.run (sound : Sound first i2c cells) (acts : List Act) :
    ∃ next more, i2c.run acts = some next ∧ Sound first next more := by
  induction acts generalizing i2c cells with
  | nil => exact ⟨i2c, cells, rfl, sound⟩
  | cons act acts ih =>
      obtain ⟨next, more, stepped, further, -⟩ := sound.step act
      obtain ⟨final, last, ran, ends⟩ := ih further
      refine ⟨final, last, ?_, ends⟩
      rw [I2c1.run, stepped]
      exact ran

theorem sound_init {memory : Pointer → I2cTransfer}
    (fresh : ∀ pointer, (memory pointer).result.waits = false) :
    Sound (fun pointer => (memory pointer).result) (init memory) [] where
  holds :=
    { queue := LinkedQueue.nil _
      waiting := fun pointer => by
        refine iff_of_false List.not_mem_nil ?_
        change ¬(memory pointer).result.waits = true
        rw [fresh]
        exact Bool.false_ne_true
      busy := fun pointer => by
        refine iff_of_false (fun busy => ?_) (fun wrong => absurd wrong.1 Bool.false_ne_true)
        have free := fresh pointer
        change (memory pointer).result = .busy at busy
        rw [busy] at free
        cases free
      occupied := fun wrong => absurd wrong Bool.false_ne_true
      buffered := fun _ member => absurd member List.not_mem_nil
      accepted := rfl
      begun := rfl
      results := fun _ => rfl
      orderly := fun before entry after wrong => by
        change [] = before ++ entry :: after at wrong
        exact absurd wrong.symm (List.append_ne_nil_of_right_ne_nil _ (List.cons_ne_nil _ _))
      final := fun _ _ _ _ member => absurd member List.not_mem_nil }
  empty := fun _ => rfl
  quiet := fun _ => rfl
  progress := fun _ wrong => by cases wrong

end I2c1

end GpsClock.Drivers
