import GpsClock.Drivers.Uart

/-! # The UARTs' rings

Whatever the foreground calls and wherever the interrupts come, the bytes written to the module are
those of the writes accepted, the bytes popped are those received that were not counted as errors or
dropped, and a ring with bytes to send is never left waiting
(`GpsClock.Drivers.UartState.rings_account`).
-/

namespace GpsClock.Drivers

open RingQueue

/-- The bytes a call's write took. -/
def Returned.accepted : Returned → List (BitVec 8)
  | .tx answer => answer.accepted
  | .pop _ | .discard | .recover _ => []

/-- The byte a pop returned. -/
def Returned.popped? : Returned → Option (BitVec 8)
  | .pop byte => byte
  | .tx _ | .discard | .recover _ => none

def Taken.popped? : Taken → Option (BitVec 8)
  | .popped byte => some byte
  | .dropped _ => none

/-- A byte the handler put into the ring. -/
def keptByte? (handled : Received × Fate) : Option (BitVec 8) :=
  match handled.2 with
  | .kept => some handled.1.byte
  | .damaged | .overflowed => none

namespace Call

/-- The bytes of the write under way, once its head is published. -/
def published : Call → List (BitVec 8)
  | saveRx work | saveTx work _ | saveError work _ _ | clearRx work _ | clearTx work _
  | clearError work _ | masked work _ | restoreError work _ | restoreRx work _ | restoreTx work _ =>
      work.returned.accepted
  | startHead answer | startTail answer _ | startFlag answer | startEnable answer => answer.accepted
  | _ => []

/-- How many bytes are written to the module with their slots still to be given back. -/
def ahead : Call → Nat
  | release _ => 1
  | _ => 0

/-- What the foreground has read and copied agrees with the ring to send. -/
def Fits (uart : Uart) (tx : Transmitter) (queued : List (BitVec 8)) : Call → Prop
  | freeHead _ head => ∀ early ∈ head, early = tx.ring.head
  | freeTail _ head read => read = tx.ring.head ∧ ∀ early ∈ head, early = tx.ring.head
  | enqueue answer => queued.length + answer.accepted.length < uart.txRing.size
  | copy answer index head =>
      queued.length + answer.accepted.length < uart.txRing.size ∧
        Holds uart.txRing { tx.ring with head := head } (queued ++ answer.accepted.take index)
  | send _ => queued ≠ [] ∧ tx.fifo.length < uartFifoDepth
  | release _ => queued ≠ []
  | startTail _ head => head = tx.ring.head
  | _ => True

/-- The interrupts are off where the foreground has masked them. -/
def Quiet (enabled : Interrupts) : Call → Prop
  | clearTx _ _ => enabled.rx = false
  | clearError _ _ | restoreRx _ _ => enabled.rx = false ∧ enabled.tx = false
  | masked _ _ | send _ | release _ | restoreError _ _ =>
      enabled.rx = false ∧ enabled.tx = false ∧ enabled.error = false
  | restoreTx _ _ => enabled.tx = false
  | _ => True

end Call

/-! ## What is sent -/

/-- The ring holds what is queued, and the module has or has had every byte sent. -/
structure Transmitter.Sound (uart : Uart) (tx : Transmitter) (queued : List (BitVec 8)) : Prop where
  holds : Holds uart.txRing tx.ring queued
  shifted : tx.shifted ++ tx.fifo = tx.sent
  room : tx.fifo.length ≤ uartFifoDepth

/-- What is left of the queue once bytes at its front are gone to the module. -/
structure Transmitter.Filled (uart : Uart) (tx next : Transmitter) (queued gone rest : List (BitVec 8)) :
    Prop where
  split : queued = gone ++ rest
  sound : next.Sound uart rest
  sent : next.sent = tx.sent ++ gone
  full : rest ≠ [] → next.fifo.length = uartFifoDepth
  head : next.ring.head = tx.ring.head
  beyond : ∀ head copied, Holds uart.txRing { tx.ring with head := head } (queued ++ copied) →
    Holds uart.txRing { next.ring with head := head } (rest ++ copied)

section Transmitter

variable {uart : Uart} {tx : Transmitter} {byte : BitVec 8} {queued rest : List (BitVec 8)}

namespace Transmitter

/-- The byte at the front of the queue is written to the module. -/
theorem Sound.send (sound : tx.Sound uart (byte :: rest)) (free : tx.fifo.length < uartFifoDepth) :
    tx.send.fifo = tx.fifo ++ [byte] ∧ tx.send.sent = tx.sent ++ [byte] ∧
      tx.send.Sound uart (byte :: rest) := by
  have oldest : tx.ring.oldest = byte := sound.holds.pop.1
  have fifo : tx.send.fifo = tx.fifo ++ [byte] := by
    rw [Transmitter.send, if_pos free, oldest]
  have sent : tx.send.sent = tx.sent ++ [byte] := by
    rw [Transmitter.send, oldest]
  refine ⟨fifo, sent, sound.holds, ?_, ?_⟩
  · change tx.shifted ++ tx.send.fifo = tx.send.sent
    rw [fifo, sent, ← List.append_assoc, sound.shifted]
  · rw [fifo, List.length_append]
    exact free

theorem Sound.release (sound : tx.Sound uart (byte :: rest)) : (tx.release uart).Sound uart rest :=
  ⟨sound.holds.pop.2, sound.shifted, sound.room⟩

theorem Sound.fill {slots : Nat} (sound : tx.Sound uart queued)
    (free : tx.fifo.length + slots = uartFifoDepth) :
    ∃ gone rest, tx.Filled uart (tx.fill uart slots) queued gone rest := by
  induction slots generalizing tx queued with
  | zero => exact ⟨[], queued, rfl, sound, (List.append_nil _).symm, fun _ => free, rfl, fun _ _ same => same⟩
  | succ slots ih =>
      cases queued with
      | nil =>
          have empty : ¬tx.ring.tail ≠ tx.ring.head := not_not.mpr (sound.holds.empty_iff.mpr rfl)
          rw [Transmitter.fill, if_neg empty]
          exact ⟨[], [], rfl, sound, (List.append_nil _).symm, fun some => absurd rfl some, rfl, fun _ _ same => same⟩
      | cons byte rest =>
          have some : tx.ring.tail ≠ tx.ring.head := by
            intro same
            cases sound.holds.empty_iff.mp same
          have fewer : tx.fifo.length < uartFifoDepth := by omega
          obtain ⟨fifo, sent, sending⟩ := sound.send fewer
          have freed : (tx.send.release uart).fifo.length + slots = uartFifoDepth := by
            change tx.send.fifo.length + slots = uartFifoDepth
            rw [fifo, List.length_append, List.length_singleton]
            omega
          obtain ⟨gone, left, filled⟩ := ih sending.release freed
          rw [Transmitter.fill, if_pos some]
          refine ⟨byte :: gone, left, ?_, filled.sound, ?_, filled.full, filled.head, ?_⟩
          · rw [filled.split]
            rfl
          · rw [filled.sent]
            change tx.send.sent ++ gone = _
            rw [sent, List.append_assoc]
            rfl
          · intro head copied holds
            exact filled.beyond head copied holds.pop.2

theorem Sound.count (sound : tx.Sound uart queued) : (tx.count uart).Sound uart queued :=
  ⟨sound.holds, sound.shifted, sound.room⟩

end Transmitter

end Transmitter

namespace UartState

variable {uart : Uart} {state next : UartState} {queued : List (BitVec 8)}

/-- What is sent and what is queued together are what the writes took. -/
structure TxSound (uart : Uart) (state : UartState) (queued : List (BitVec 8)) : Prop where
  tx : state.tx.Sound uart queued
  sent : state.tx.sent ++ queued.drop state.call.ahead =
    state.returns.flatMap Returned.accepted ++ state.call.published
  fits : state.call.Fits uart state.tx queued

namespace TxSound

/-- The foreground moves on without touching the transmitter. -/
theorem moved (sound : state.TxSound uart queued) (tx : next.tx = state.tx)
    (returns : next.returns = state.returns) (ahead : next.call.ahead = state.call.ahead)
    (published : next.call.published = state.call.published)
    (fits : next.call.Fits uart next.tx queued) : next.TxSound uart queued where
  tx := by
    rw [tx]
    exact sound.tx
  sent := by
    rw [tx, returns, ahead, published]
    exact sound.sent
  fits := fits

/-- A call returns, and with it the bytes it took. -/
theorem returned {answer : Returned} (sound : state.TxSound uart queued)
    (tx : next.tx.Sound uart queued) (kept : next.tx.sent = state.tx.sent)
    (call : next.call = .idle) (returns : next.returns = state.returns ++ [answer])
    (ahead : state.call.ahead = 0) (accepted : state.call.published = answer.accepted) :
    next.TxSound uart queued where
  tx := tx
  sent := by
    have sent := sound.sent
    rw [ahead, accepted] at sent
    rw [kept, call, returns, List.flatMap_append, List.flatMap_singleton]
    exact sent.trans (List.append_nil _).symm
  fits := by
    rw [call]
    trivial

/-- A call that takes nothing returns. -/
theorem refused {answer : Returned} (sound : state.TxSound uart queued)
    (tx : next.tx.Sound uart queued) (kept : next.tx.sent = state.tx.sent)
    (call : next.call = .idle) (returns : next.returns = state.returns ++ [answer])
    (ahead : state.call.ahead = 0) (published : state.call.published = [])
    (accepted : answer.accepted = []) : next.TxSound uart queued :=
  sound.returned tx kept call returns ahead (published.trans accepted.symm)

theorem space (sound : state.TxSound uart queued) :
    (uart.txRing.mask - uart.txRing.count state.tx.ring.head state.tx.ring.tail).toNat +
      queued.length + 1 = uart.txRing.size := by
  have count : (uart.txRing.count state.tx.ring.head state.tx.ring.tail).toNat = queued.length :=
    sound.tx.holds.count
  have room : queued.length < uart.txRing.size := sound.tx.holds.room
  have mask : uart.txRing.mask.toNat = uart.txRing.size - 1 := uart.txRing.toNat_mask
  have le : uart.txRing.count state.tx.ring.head state.tx.ring.tail ≤ uart.txRing.mask := by
    rw [BitVec.le_def, count, mask]
    omega
  rw [BitVec.toNat_sub_of_le le, count, mask]
  omega

/-- Where the copying begins for a write that the space admits. -/
theorem copyFrom {answer : TxAnswer} {head : Option (BitVec 16)} (sound : state.TxSound uart queued)
    (early : ∀ read ∈ head, read = state.tx.ring.head)
    (room : queued.length + answer.accepted.length < uart.txRing.size)
    (ahead : state.call.ahead = 0) (published : state.call.published = []) :
    { state with call := UartState.copyFrom answer head }.TxSound uart queued := by
  cases head with
  | none => exact sound.moved rfl rfl ahead.symm published.symm room
  | some head =>
      obtain rfl : head = state.tx.ring.head := early head rfl
      refine sound.moved rfl rfl ahead.symm published.symm ⟨room, ?_⟩
      rw [List.take_zero, List.append_nil]
      exact sound.tx.holds

theorem accept {write : Write} {head : Option (BitVec 16)} {space : Nat}
    (sound : state.TxSound uart queued) (early : ∀ read ∈ head, read = state.tx.ring.head)
    (free : space + queued.length + 1 = uart.txRing.size)
    (ahead : state.call.ahead = 0) (published : state.call.published = []) :
    (state.accept write head space).TxSound uart queued := by
  unfold UartState.accept
  by_cases whole : write.whole = true
  · rw [if_pos whole]
    by_cases long : space < write.source.length
    · rw [if_pos long]
      exact sound.refused ⟨sound.tx.holds, sound.tx.shifted, sound.tx.room⟩ rfl rfl rfl ahead
        published rfl
    · rw [if_neg long]
      refine sound.copyFrom early ?_ ahead published
      change queued.length + write.source.length < _
      omega
  · rw [if_neg whole]
    dsimp only
    by_cases some : min write.source.length space ≠ 0
    · rw [if_pos some]
      refine sound.copyFrom early ?_ ahead published
      change queued.length + (write.source.take (min write.source.length space)).length < _
      rw [List.length_take]
      omega
    · rw [if_neg some]
      refine sound.refused sound.tx rfl rfl rfl ahead published ?_
      exact @List.take_zero _ write.source

/-- A call is entered. -/
theorem enter (sound : state.TxSound uart queued) (idle : state.call = .idle) (request : Request) :
    (state.enter uart request).TxSound uart queued := by
  have ahead : state.call.ahead = 0 := idle ▸ rfl
  have published : state.call.published = [] := idle ▸ rfl
  have moved : ∀ call : Call, call.ahead = 0 → call.published = [] →
      call.Fits uart state.tx queued → { state with call := call }.TxSound uart queued := by
    intro call none empty fits
    exact sound.moved rfl rfl (none.trans ahead.symm) (empty.trans published.symm) fits
  cases request with
  | write source =>
      unfold UartState.enter
      dsimp only
      by_cases empty : source = []
      · rw [if_pos empty]
        exact sound.refused sound.tx rfl rfl rfl ahead published empty
      · rw [if_neg empty]
        by_cases first : uart.readsHeadFirst = true
        · rw [if_pos first]
          exact moved _ rfl rfl trivial
        · rw [if_neg first]
          exact moved _ rfl rfl fun _ none => by cases none
  | writeSome source =>
      unfold UartState.enter
      dsimp only
      by_cases lacks : uart.polls = false
      · rw [if_pos lacks]
        exact sound
      · rw [if_neg lacks]
        by_cases empty : source = []
        · rw [if_pos empty]
          refine sound.refused sound.tx rfl rfl rfl ahead published ?_
          exact @List.take_zero _ source
        · rw [if_neg empty]
          exact moved _ rfl rfl fun _ none => by cases none
  | poll =>
      unfold UartState.enter
      dsimp only
      by_cases polls : uart.polls = true
      · rw [if_pos polls]
        exact moved _ rfl rfl trivial
      · rw [if_neg polls]
        exact sound
  | pop => exact moved _ rfl rfl trivial
  | discard => exact moved _ rfl rfl trivial
  | recover => exact moved _ rfl rfl trivial

/-- A byte of a write is copied to where the head will come. -/
theorem copied {answer : TxAnswer} {index : Nat} {head : BitVec 16} {byte : BitVec 8}
    (sound : state.TxSound uart queued) (here : state.call = .copy answer index head)
    (found : answer.accepted[index]? = some byte)
    (tx : next.tx = { state.tx with ring := state.tx.ring.write head byte })
    (returns : next.returns = state.returns)
    (call : next.call = .copy answer (index + 1) (uart.txRing.next head)) :
    next.TxSound uart queued := by
  have fits := sound.fits
  rw [here] at fits
  obtain ⟨room, holds⟩ := fits
  have taken : answer.accepted.take (index + 1) = answer.accepted.take index ++ [byte] := by
    rw [List.take_add_one, found]
    rfl
  have inside : index < answer.accepted.length := (List.getElem?_eq_some_iff.mp found).1
  have shorter : (queued ++ answer.accepted.take index).length + 1 < uart.txRing.size := by
    rw [List.length_append, List.length_take]
    omega
  have pushed := holds.push shorter byte
  rw [List.append_assoc, ← taken] at pushed
  have before : Holds uart.txRing { state.tx.ring.write head byte with head := state.tx.ring.head }
      queued := pushed.earlier sound.tx.holds.head
  refine ⟨?_, ?_, ?_⟩
  · rw [tx]
    exact ⟨before, sound.tx.shifted, sound.tx.room⟩
  · have sent := sound.sent
    rw [here] at sent
    rw [tx, returns, call]
    exact sent
  · rw [tx, call]
    exact ⟨room, pushed⟩

/-- All of a write is copied, and its head published. -/
theorem publish {answer : TxAnswer} {index : Nat} {head : BitVec 16}
    (sound : state.TxSound uart queued) (here : state.call = .copy answer index head)
    (none : answer.accepted[index]? = none)
    (tx : next.tx = { state.tx with ring := { state.tx.ring with head := head } })
    (returns : next.returns = state.returns) (call : next.call = .saveRx (.count answer)) :
    next.TxSound uart (queued ++ answer.accepted) := by
  have fits := sound.fits
  rw [here] at fits
  have whole : answer.accepted.take index = answer.accepted :=
    List.take_of_length_le (List.getElem?_eq_none_iff.mp none)
  rw [Call.Fits, whole] at fits
  refine ⟨?_, ?_, ?_⟩
  · rw [tx]
    exact ⟨fits.2, sound.tx.shifted, sound.tx.room⟩
  · have sent := sound.sent
    rw [here] at sent
    change state.tx.sent ++ queued = _ ++ [] at sent
    rw [tx, returns, call]
    change state.tx.sent ++ (queued ++ answer.accepted) = _ ++ answer.accepted
    rw [← List.append_assoc, sent, List.append_nil]
  · rw [call]
    trivial

/-- What is done with the interrupts masked. -/
theorem whileMasked {work : Masked} {saved : Interrupts} (sound : state.TxSound uart queued)
    (here : state.call = .masked work saved) :
    (state.whileMasked uart saved work).TxSound uart queued := by
  have ahead : state.call.ahead = 0 := by
    rw [here]
    rfl
  have published : state.call.published = work.returned.accepted := by
    rw [here]
    rfl
  cases work with
  | count answer =>
      have sent := sound.sent
      rw [ahead, published] at sent
      exact ⟨sound.tx.count, sent, trivial⟩
  | fill =>
      unfold UartState.whileMasked
      dsimp only
      by_cases goes : state.tx.ring.tail ≠ state.tx.ring.head ∧ state.tx.fifo.length < uartFifoDepth
      · rw [if_pos goes]
        refine sound.moved rfl rfl ahead.symm published.symm ⟨fun none => ?_, goes.2⟩
        exact goes.1 (sound.tx.holds.empty_iff.mpr none)
      · rw [if_neg goes]
        exact sound.moved rfl rfl ahead.symm published.symm trivial
  | discard => exact sound.moved rfl rfl ahead.symm published.symm trivial
  | recover errors => exact sound.moved rfl rfl ahead.symm published.symm trivial

/-- The byte at the front of the queue is written to the module, its slot still held. -/
theorem send {saved : Interrupts} (sound : state.TxSound uart queued)
    (here : state.call = .send saved) :
    { state with
      tx := state.tx.send
      call := .release saved }.TxSound uart queued := by
  have fits := sound.fits
  rw [here] at fits
  obtain ⟨some, free⟩ := fits
  obtain ⟨byte, rest, rfl⟩ := List.exists_cons_of_ne_nil some
  obtain ⟨_, added, sending⟩ := sound.tx.send free
  have sent := sound.sent
  rw [here] at sent
  refine ⟨sending, ?_, some⟩
  change state.tx.send.sent ++ rest = _
  rw [added, List.append_assoc]
  exact sent

/-- Its slot is given back. -/
theorem release {saved : Interrupts} (sound : state.TxSound uart queued)
    (here : state.call = .release saved) :
    { state with
      tx := state.tx.release uart
      call := .masked .fill saved }.TxSound uart queued.tail := by
  have some := sound.fits
  rw [here] at some
  obtain ⟨byte, rest, rfl⟩ := List.exists_cons_of_ne_nil some
  have sent := sound.sent
  rw [here] at sent
  exact ⟨sound.tx.release, sent, trivial⟩

/-- The foreground makes its next access. -/
theorem advance (sound : state.TxSound uart queued) :
    ∃ queued, (state.advance uart).TxSound uart queued := by
  have fits := sound.fits
  unfold UartState.advance
  cases here : state.call with
  | idle => exact ⟨queued, sound⟩
  | writeHead write =>
      refine ⟨queued, sound.moved rfl rfl (by rw [here]; rfl) (by rw [here]; rfl) ?_⟩
      intro early member
      exact (Option.some.inj member).symm
  | freeHead write head =>
      rw [here] at fits
      exact ⟨queued, sound.moved rfl rfl (by rw [here]; rfl) (by rw [here]; rfl) ⟨rfl, fits⟩⟩
  | freeTail write head freeHead =>
      rw [here] at fits
      obtain ⟨rfl, early⟩ := fits
      exact ⟨queued, sound.accept early sound.space (by rw [here]; rfl) (by rw [here]; rfl)⟩
  | enqueue answer =>
      rw [here] at fits
      refine ⟨queued, sound.moved rfl rfl (by rw [here]; rfl) (by rw [here]; rfl) ⟨fits, ?_⟩⟩
      rw [List.take_zero, List.append_nil]
      exact sound.tx.holds
  | copy answer index head =>
      dsimp only
      cases found : answer.accepted[index]? with
      | some byte => exact ⟨queued, sound.copied here found rfl rfl rfl⟩
      | none => exact ⟨_, sound.publish here found rfl rfl rfl⟩
  | saveRx work | saveTx work rx | saveError work rx tx | clearRx work saved | clearTx work saved
  | clearError work saved | restoreError work saved | restoreRx work saved =>
      exact ⟨queued, sound.moved rfl rfl (by rw [here]; rfl) (by rw [here]; rfl) trivial⟩
  | masked work saved => exact ⟨queued, sound.whileMasked here⟩
  | send saved => exact ⟨queued, sound.send here⟩
  | release saved => exact ⟨queued.tail, sound.release here⟩
  | restoreTx work saved =>
      cases work with
      | count answer | fill =>
          exact ⟨queued, sound.moved rfl rfl (by rw [here]; rfl) (by rw [here]; rfl) trivial⟩
      | discard | recover errors =>
          exact ⟨queued, sound.refused sound.tx rfl rfl rfl (by rw [here]; rfl) (by rw [here]; rfl) rfl⟩
  | startHead answer =>
      exact ⟨queued, sound.moved rfl rfl (by rw [here]; rfl) (by rw [here]; rfl) rfl⟩
  | startTail answer head =>
      dsimp only
      by_cases some : head ≠ state.tx.ring.tail
      · rw [if_pos some]
        exact ⟨queued, sound.moved rfl rfl (by rw [here]; rfl) (by rw [here]; rfl) trivial⟩
      · rw [if_neg some]
        exact ⟨queued, sound.returned sound.tx rfl rfl rfl (by rw [here]; rfl) (by rw [here]; rfl)⟩
  | startFlag answer =>
      exact ⟨queued, sound.moved rfl rfl (by rw [here]; rfl) (by rw [here]; rfl) trivial⟩
  | startEnable answer =>
      exact ⟨queued, sound.returned sound.tx rfl rfl rfl (by rw [here]; rfl) (by rw [here]; rfl)⟩
  | popTail | popByte tail =>
      exact ⟨queued, sound.moved rfl rfl (by rw [here]; rfl) (by rw [here]; rfl) trivial⟩
  | popHead tail =>
      dsimp only
      by_cases none : tail = state.rx.ring.head
      · rw [if_pos none]
        exact ⟨queued, sound.refused sound.tx rfl rfl rfl (by rw [here]; rfl) (by rw [here]; rfl) rfl⟩
      · rw [if_neg none]
        exact ⟨queued, sound.moved rfl rfl (by rw [here]; rfl) (by rw [here]; rfl) trivial⟩
  | popRelease tail byte =>
      exact ⟨queued, sound.refused sound.tx rfl rfl rfl (by rw [here]; rfl) (by rw [here]; rfl) rfl⟩
  | recoverFlags =>
      dsimp only
      by_cases none : state.rx.errorFlags = 0
      · rw [if_pos none]
        exact ⟨queued, sound.refused sound.tx rfl rfl rfl (by rw [here]; rfl) (by rw [here]; rfl) rfl⟩
      · rw [if_neg none]
        exact ⟨queued, sound.moved rfl rfl (by rw [here]; rfl) (by rw [here]; rfl) trivial⟩

/-- The transmitter's interrupt takes bytes from the front of the queue. -/
theorem txInterrupt (sound : state.TxSound uart queued) (quiet : state.call.Quiet state.enabled)
    (on : state.enabled.tx = true) :
    ∃ gone rest, state.tx.Filled uart (state.txInterrupt uart).tx queued gone rest ∧
      (state.txInterrupt uart).TxSound uart rest := by
  have free : state.tx.fifo.length + (uartFifoDepth - state.tx.fifo.length) = uartFifoDepth := by
    have room := sound.tx.room
    omega
  obtain ⟨gone, rest, filled⟩ := sound.tx.fill free
  have ahead : state.call.ahead = 0 := by
    cases here : state.call with
    | release saved =>
        rw [here] at quiet
        exact absurd (on.symm.trans quiet.2.1) Bool.true_eq_false.mp
    | _ => rfl
  have fewer : rest.length ≤ queued.length := by
    rw [filled.split, List.length_append]
    exact Nat.le_add_left _ _
  refine ⟨gone, rest, filled, filled.sound, ?_, ?_⟩
  · have sent := sound.sent
    rw [ahead, List.drop_zero, filled.split, ← List.append_assoc, ← filled.sent] at sent
    change _ ++ rest.drop state.call.ahead = _
    rw [ahead]
    exact sent
  · have fits := sound.fits
    change state.call.Fits uart (state.tx.fill uart _) rest
    cases here : state.call with
    | freeHead write head =>
        rw [here] at fits
        intro early member
        rw [filled.head]
        exact fits early member
    | freeTail write head read =>
        rw [here] at fits
        refine ⟨fits.1.trans filled.head.symm, fun early member => ?_⟩
        rw [filled.head]
        exact fits.2 early member
    | enqueue answer =>
        rw [here] at fits
        exact (Nat.add_le_add_right fewer _).trans_lt fits
    | copy answer index head =>
        rw [here] at fits
        exact ⟨(Nat.add_le_add_right fewer _).trans_lt fits.1, filled.beyond head _ fits.2⟩
    | send saved =>
        rw [here] at quiet
        exact absurd (on.symm.trans quiet.2.1) Bool.true_eq_false.mp
    | release saved =>
        rw [here] at quiet
        exact absurd (on.symm.trans quiet.2.1) Bool.true_eq_false.mp
    | startTail answer head =>
        rw [here] at fits
        exact fits.trans filled.head.symm
    | _ => trivial

theorem shift (sound : state.TxSound uart queued) : state.shift.TxSound uart queued := by
  unfold UartState.shift
  cases held : state.tx.fifo with
  | nil => exact sound
  | cons byte later =>
      have shifted := sound.tx.shifted
      have room := sound.tx.room
      rw [held] at shifted room
      refine ⟨⟨sound.tx.holds, ?_, ?_⟩, sound.sent, ?_⟩
      · change (state.tx.shifted ++ [byte]) ++ later = state.tx.sent
        rw [List.append_assoc]
        exact shifted
      · exact (Nat.le_succ _).trans room
      · have fits := sound.fits
        dsimp only
        cases here : state.call with
        | send saved =>
            rw [here] at fits
            refine ⟨fits.1, ?_⟩
            have free := fits.2
            rw [held] at free
            exact (Nat.lt_succ_self _).trans free
        | _ =>
            rw [here] at fits
            exact fits

end TxSound

end UartState

/-! ## What is received -/

/-- The ring holds what was kept and has not left it; what has come waits or is handled, and what is
handled is kept or counted. -/
structure Receiver.Sound (uart : Uart) (rx : Receiver) (waiting : List Received)
    (received : List (BitVec 8)) : Prop where
  holds : Holds uart.rxRing rx.ring received
  arrived : rx.handled.map Prod.fst ++ waiting = rx.arrived
  kept : rx.handled.filterMap keptByte? = rx.taken.map Taken.byte ++ received
  damaged : ∀ each ∈ rx.handled, each.2 = .damaged ↔ each.1.framing = true ∨ each.1.parity = true
  framing : rx.framingErrors = BitVec.ofNat 32 (rx.handled.countP fun each => each.1.framing)
  parity : rx.parityErrors = BitVec.ofNat 32 (rx.handled.countP fun each => each.1.parity)
  overflowed : rx.overflows = BitVec.ofNat 32 (rx.handled.countP fun each => each.2 = .overflowed)

namespace Receiver

section

variable {uart : Uart} {rx next : Receiver} {waiting : List Received} {each : Received}
  {received more : List (BitVec 8)} {fate : Fate}

/-- A count of what is handled goes on by one, or not. -/
theorem count_append (handled : List (Received × Fate)) (counts : Received × Fate → Bool)
    (last : Received × Fate) {total : BitVec 32}
    (before : total = BitVec.ofNat 32 (handled.countP counts)) :
    (if counts last = true then total + 1 else total) =
      BitVec.ofNat 32 ((handled ++ [last]).countP counts) := by
  rw [List.countP_append, List.countP_singleton, before]
  by_cases its : counts last = true
  · rw [if_pos its, if_pos its, BitVec.ofNat_add]
    rfl
  · rw [if_neg its, if_neg its]
    rfl

/-- One byte is handled: it goes into the ring, or is counted. -/
theorem Sound.handle (sound : rx.Sound uart (each :: waiting) received)
    (holds : Holds uart.rxRing next.ring (received ++ more))
    (handled : next.handled = rx.handled ++ [(each, fate)]) (arrived : next.arrived = rx.arrived)
    (taken : next.taken = rx.taken) (kept : (keptByte? (each, fate)).toList = more)
    (damaged : fate = .damaged ↔ each.framing = true ∨ each.parity = true)
    (framing : next.framingErrors = if each.framing = true then rx.framingErrors + 1 else rx.framingErrors)
    (parity : next.parityErrors = if each.parity = true then rx.parityErrors + 1 else rx.parityErrors)
    (overflowed : next.overflows = if decide (fate = .overflowed) = true then rx.overflows + 1 else rx.overflows) :
    next.Sound uart waiting (received ++ more) where
  holds := holds
  arrived := by
    rw [handled, arrived, List.map_append, List.append_assoc]
    exact sound.arrived
  kept := by
    have last : [(each, fate)].filterMap keptByte? = (keptByte? (each, fate)).toList := by
      cases fate <;> rfl
    rw [handled, taken, List.filterMap_append, sound.kept, last, kept, List.append_assoc]
  damaged := by
    intro other member
    rw [handled] at member
    rcases List.mem_append.mp member with old | new
    · exact sound.damaged other old
    · rw [List.mem_singleton.mp new]
      exact damaged
  framing := by
    rw [framing, handled]
    exact count_append rx.handled _ (each, fate) sound.framing
  parity := by
    rw [parity, handled]
    exact count_append rx.handled _ (each, fate) sound.parity
  overflowed := by
    rw [overflowed, handled]
    exact count_append rx.handled (fun each => each.2 = .overflowed) (each, fate) sound.overflowed

/-- What a byte's errors do and leave. -/
theorem countErrors_eq (rx : Receiver) (each : Received) :
    ∃ errorFlags rxBytes, rx.countErrors each =
      { rx with
        errorFlags := errorFlags
        rxBytes := rxBytes
        framingErrors := if each.framing = true then rx.framingErrors + 1 else rx.framingErrors
        parityErrors := if each.parity = true then rx.parityErrors + 1 else rx.parityErrors } := by
  obtain ⟨byte, framing, parity⟩ := each
  cases framing <;> cases parity <;> exact ⟨_, _, rfl⟩

theorem Sound.take (sound : rx.Sound uart (each :: waiting) received) :
    ∃ more, (rx.take uart each).Sound uart waiting (received ++ more) ∧
      (rx.take uart each).ring.tail = rx.ring.tail := by
  obtain ⟨errorFlags, rxBytes, errors⟩ := countErrors_eq rx each
  unfold Receiver.take
  rw [errors]
  dsimp only
  by_cases damaged : each.framing = true ∨ each.parity = true
  · rw [if_pos damaged]
    refine ⟨[], sound.handle ?_ rfl rfl rfl rfl (iff_of_true rfl damaged) rfl rfl rfl, rfl⟩
    rw [List.append_nil]
    exact sound.holds
  · rw [if_neg damaged]
    unfold Receiver.keep
    dsimp only
    by_cases full : uart.rxRing.next rx.ring.head = rx.ring.tail
    · rw [if_pos full]
      refine ⟨[], sound.handle ?_ rfl rfl rfl rfl ?_ rfl rfl rfl, rfl⟩
      · rw [List.append_nil]
        exact sound.holds
      · exact iff_of_false Fate.noConfusion damaged
    · rw [if_neg full]
      have room : received.length + 1 < uart.rxRing.size :=
        Nat.lt_of_le_of_ne sound.holds.room (mt sound.holds.full_iff.mpr full)
      refine ⟨[each.byte], sound.handle ?_ rfl rfl rfl rfl ?_ rfl rfl rfl, rfl⟩
      · exact sound.holds.push room each.byte
      · exact iff_of_false Fate.noConfusion damaged

theorem Sound.drain (sound : rx.Sound uart waiting received) :
    ∃ more, (rx.drain uart waiting).Sound uart [] (received ++ more) ∧
      (rx.drain uart waiting).ring.tail = rx.ring.tail ∧ (rx.drain uart waiting).fifo = [] := by
  induction waiting generalizing rx received with
  | nil =>
      refine ⟨[], ?_, rfl, rfl⟩
      rw [List.append_nil]
      exact ⟨sound.holds, sound.arrived, sound.kept, sound.damaged, sound.framing, sound.parity,
        sound.overflowed⟩
  | cons each waiting ih =>
      obtain ⟨first, taken, tail⟩ := sound.take
      obtain ⟨more, drained, after, empty⟩ := ih taken
      refine ⟨first ++ more, ?_, after.trans tail, empty⟩
      rw [← List.append_assoc]
      exact drained

theorem clearOverrun_eq (rx : Receiver) (empty : rx.fifo = []) :
    ∃ errorFlags overruns overrun, rx.clearOverrun =
      { rx with
        errorFlags := errorFlags
        overruns := overruns
        overrun := overrun } := by
  unfold clearOverrun
  by_cases overrun : rx.overrun = true
  · rw [if_pos overrun, ← empty]
    exact ⟨_, _, _, rfl⟩
  · rw [if_neg overrun]
    exact ⟨_, _, _, rfl⟩

/-- Everything in the ring is dropped. -/
theorem Sound.drop (sound : rx.Sound uart waiting received) :
    (rx.drop uart).Sound uart waiting [] where
  holds := sound.holds.clear
  arrived := sound.arrived
  kept := by
    change rx.handled.filterMap keptByte? =
      (rx.taken ++ (rx.ring.contents uart.rxRing).map Taken.dropped).map Taken.byte ++ []
    have bytes : (received.map Taken.dropped).map Taken.byte = received := by
      rw [List.map_map]
      exact List.map_id received
    rw [sound.holds.contents, List.map_append, bytes, List.append_nil]
    exact sound.kept
  damaged := sound.damaged
  framing := sound.framing
  parity := sound.parity
  overflowed := sound.overflowed

/-- A byte comes in, if there is room for it. -/
theorem Sound.receive (sound : rx.Sound uart rx.fifo received) (each : Received) :
    (rx.receive each).Sound uart (rx.receive each).fifo received := by
  unfold Receiver.receive
  by_cases lost : rx.overrun = true ∨ uartFifoDepth ≤ rx.fifo.length
  · rw [if_pos lost]
    exact ⟨sound.holds, sound.arrived, sound.kept, sound.damaged, sound.framing, sound.parity,
      sound.overflowed⟩
  · rw [if_neg lost]
    refine ⟨sound.holds, ?_, sound.kept, sound.damaged, sound.framing, sound.parity,
      sound.overflowed⟩
    change _ ++ (rx.fifo ++ [each]) = rx.arrived ++ [each]
    rw [← List.append_assoc, sound.arrived]

end

end Receiver

/-- What a pop under way has read agrees with the ring. -/
def Call.Pops (ring : RingQueue (BitVec 8) 16) (received : List (BitVec 8)) : Call → Prop
  | popHead tail => tail = ring.tail
  | popByte tail => tail = ring.tail ∧ received ≠ []
  | popRelease tail byte => tail = ring.tail ∧ received.head? = some byte
  | _ => True

namespace UartState

section

variable {uart : Uart} {state next : UartState} {received : List (BitVec 8)}

/-- What is popped and what the ring holds together are what was kept, less what was dropped. -/
structure RxSound (uart : Uart) (state : UartState) (received : List (BitVec 8)) : Prop where
  rx : state.rx.Sound uart state.rx.fifo received
  popped : state.returns.filterMap Returned.popped? = state.rx.taken.filterMap Taken.popped?
  pops : state.call.Pops state.rx.ring received

namespace RxSound

/-- The foreground moves on without touching the receiver. -/
theorem moved (sound : state.RxSound uart received) (rx : next.rx = state.rx)
    (returns : next.returns = state.returns) (pops : next.call.Pops next.rx.ring received) :
    next.RxSound uart received := by
  refine ⟨?_, ?_, pops⟩
  · rw [rx]
    exact sound.rx
  · rw [rx, returns]
    exact sound.popped

/-- A call returns that pops nothing. -/
theorem returned {answer : Returned} (sound : state.RxSound uart received) (rx : next.rx = state.rx)
    (returns : next.returns = state.returns ++ [answer]) (none : answer.popped? = none)
    (call : next.call = .idle) : next.RxSound uart received := by
  refine ⟨?_, ?_, ?_⟩
  · rw [rx]
    exact sound.rx
  · rw [rx, returns, List.filterMap_append, sound.popped, List.filterMap_cons, none]
    exact List.append_nil _
  · rw [call]
    trivial

theorem enter (sound : state.RxSound uart received) (request : Request) :
    (state.enter uart request).RxSound uart received := by
  unfold UartState.enter
  cases request with
  | write source =>
      dsimp only
      by_cases empty : source = []
      · rw [if_pos empty]
        exact sound.returned rfl rfl rfl rfl
      · rw [if_neg empty]
        by_cases first : uart.readsHeadFirst = true
        · rw [if_pos first]
          exact sound.moved rfl rfl trivial
        · rw [if_neg first]
          exact sound.moved rfl rfl trivial
  | writeSome source =>
      dsimp only
      by_cases lacks : uart.polls = false
      · rw [if_pos lacks]
        exact sound
      · rw [if_neg lacks]
        by_cases empty : source = []
        · rw [if_pos empty]
          exact sound.returned rfl rfl rfl rfl
        · rw [if_neg empty]
          exact sound.moved rfl rfl trivial
  | poll =>
      dsimp only
      by_cases polls : uart.polls = true
      · rw [if_pos polls]
        exact sound.moved rfl rfl trivial
      · rw [if_neg polls]
        exact sound
  | pop | discard | recover => exact sound.moved rfl rfl trivial

theorem accept (sound : state.RxSound uart received) (write : Write) (head : Option (BitVec 16))
    (space : Nat) : (state.accept write head space).RxSound uart received := by
  have copies : ∀ answer : TxAnswer,
      { state with call := copyFrom answer head }.RxSound uart received := by
    intro answer
    cases head <;> exact sound.moved rfl rfl trivial
  unfold UartState.accept
  by_cases whole : write.whole = true
  · rw [if_pos whole]
    by_cases long : space < write.source.length
    · rw [if_pos long]
      exact sound.returned rfl rfl rfl rfl
    · rw [if_neg long]
      exact copies _
  · rw [if_neg whole]
    dsimp only
    by_cases some : min write.source.length space ≠ 0
    · rw [if_pos some]
      exact copies _
    · rw [if_neg some]
      exact sound.returned rfl rfl rfl rfl

theorem whileMasked (sound : state.RxSound uart received) (saved : Interrupts) (work : Masked) :
    ∃ received, (state.whileMasked uart saved work).RxSound uart received := by
  have dropped : (state.rx.drop uart).taken.filterMap Taken.popped? =
      state.rx.taken.filterMap Taken.popped? := by
    have none : ((state.rx.ring.contents uart.rxRing).map Taken.dropped).filterMap Taken.popped? = [] := by
      rw [List.filterMap_map]
      exact List.filterMap_none _
    change (state.rx.taken ++ _).filterMap Taken.popped? = _
    rw [List.filterMap_append, none, List.append_nil]
  cases work with
  | count answer => exact ⟨received, sound.moved rfl rfl trivial⟩
  | fill =>
      unfold UartState.whileMasked
      dsimp only
      by_cases goes : state.tx.ring.tail ≠ state.tx.ring.head ∧ state.tx.fifo.length < uartFifoDepth
      · rw [if_pos goes]
        exact ⟨received, sound.moved rfl rfl trivial⟩
      · rw [if_neg goes]
        exact ⟨received, sound.moved rfl rfl trivial⟩
  | discard => exact ⟨[], sound.rx.drop, sound.popped.trans dropped.symm, trivial⟩
  | recover errors =>
      have cleared := sound.rx.drop
      refine ⟨[], ⟨cleared.holds, cleared.arrived, cleared.kept, cleared.damaged, cleared.framing,
        cleared.parity, cleared.overflowed⟩, sound.popped.trans dropped.symm, trivial⟩

/-- A byte read is popped, and its slot given back. -/
theorem popRelease {tail : BitVec 16} {byte : BitVec 8} (sound : state.RxSound uart received)
    (here : state.call = .popRelease tail byte) :
    ∃ received, (state.advance uart).RxSound uart received := by
  have pops := sound.pops
  rw [here] at pops
  obtain ⟨rfl, first⟩ := pops
  obtain ⟨rest, rfl⟩ := List.head?_eq_some_iff.mp first
  have rx := sound.rx
  unfold UartState.advance
  rw [here]
  refine ⟨rest, ⟨rx.holds.pop.2, rx.arrived, ?_, rx.damaged, rx.framing, rx.parity, rx.overflowed⟩,
    ?_, trivial⟩
  · change _ = (state.rx.taken ++ [Taken.popped byte]).map Taken.byte ++ rest
    rw [List.map_append, List.append_assoc]
    exact rx.kept
  · change (state.returns ++ [Returned.pop (some byte)]).filterMap Returned.popped? =
      (state.rx.taken ++ [Taken.popped byte]).filterMap Taken.popped?
    rw [List.filterMap_append, List.filterMap_append, sound.popped]
    rfl

theorem advance (sound : state.RxSound uart received) :
    ∃ received, (state.advance uart).RxSound uart received := by
  have pops := sound.pops
  cases here : state.call with
  | popRelease tail byte => exact sound.popRelease here
  | idle =>
      unfold UartState.advance
      rw [here]
      exact ⟨received, sound⟩
  | writeHead write | freeHead write head | enqueue answer | saveRx work | saveTx work rx
  | saveError work rx tx | clearRx work saved | clearTx work saved | clearError work saved
  | send saved | release saved | restoreError work saved | restoreRx work saved | startHead answer
  | startFlag answer =>
      unfold UartState.advance
      rw [here]
      exact ⟨received, sound.moved rfl rfl trivial⟩
  | freeTail write head read =>
      unfold UartState.advance
      rw [here]
      exact ⟨received, sound.accept _ _ _⟩
  | copy answer index head =>
      unfold UartState.advance
      rw [here]
      dsimp only
      cases answer.accepted[index]? with
      | some byte => exact ⟨received, sound.moved rfl rfl trivial⟩
      | none => exact ⟨received, sound.moved rfl rfl trivial⟩
  | masked work saved =>
      unfold UartState.advance
      rw [here]
      exact sound.whileMasked saved work
  | restoreTx work saved =>
      unfold UartState.advance
      rw [here]
      cases work with
      | count answer | fill => exact ⟨received, sound.moved rfl rfl trivial⟩
      | discard | recover errors => exact ⟨received, sound.returned rfl rfl rfl rfl⟩
  | startTail answer head =>
      unfold UartState.advance
      rw [here]
      dsimp only
      by_cases some : head ≠ state.tx.ring.tail
      · rw [if_pos some]
        exact ⟨received, sound.moved rfl rfl trivial⟩
      · rw [if_neg some]
        exact ⟨received, sound.returned rfl rfl rfl rfl⟩
  | startEnable answer =>
      unfold UartState.advance
      rw [here]
      exact ⟨received, sound.returned rfl rfl rfl rfl⟩
  | popTail =>
      unfold UartState.advance
      rw [here]
      exact ⟨received, sound.moved rfl rfl rfl⟩
  | popHead tail =>
      rw [here] at pops
      obtain rfl : tail = state.rx.ring.tail := pops
      unfold UartState.advance
      rw [here]
      dsimp only
      by_cases none : state.rx.ring.tail = state.rx.ring.head
      · rw [if_pos none]
        exact ⟨received, sound.returned rfl rfl rfl rfl⟩
      · rw [if_neg none]
        exact ⟨received, sound.moved rfl rfl ⟨rfl, mt sound.rx.holds.empty_iff.mpr none⟩⟩
  | popByte tail =>
      rw [here] at pops
      obtain ⟨rfl, some⟩ := pops
      obtain ⟨byte, rest, rfl⟩ := List.exists_cons_of_ne_nil some
      have first : state.rx.ring.memory state.rx.ring.tail.toNat = byte := sound.rx.holds.pop.1
      unfold UartState.advance
      rw [here]
      exact ⟨_, sound.moved rfl rfl ⟨rfl, congrArg Option.some first.symm⟩⟩
  | recoverFlags =>
      unfold UartState.advance
      rw [here]
      dsimp only
      by_cases none : state.rx.errorFlags = 0
      · rw [if_pos none]
        exact ⟨received, sound.returned rfl rfl rfl rfl⟩
      · rw [if_neg none]
        exact ⟨received, sound.moved rfl rfl trivial⟩

/-- The receiver's interrupt puts what it keeps at the end. -/
theorem rxInterrupt (sound : state.RxSound uart received) :
    ∃ received, (state.rxInterrupt uart).RxSound uart received := by
  obtain ⟨more, drained, tail, empty⟩ := sound.rx.drain
  obtain ⟨errorFlags, overruns, overrun, cleared⟩ := Receiver.clearOverrun_eq _ empty
  have taken : ∀ (waiting : List Received) (rx : Receiver), (rx.drain uart waiting).taken = rx.taken := by
    intro waiting
    induction waiting with
    | nil => exact fun rx => rfl
    | cons each waiting ih =>
        intro rx
        refine (ih _).trans ?_
        obtain ⟨errorFlags, rxBytes, errors⟩ := Receiver.countErrors_eq rx each
        unfold Receiver.take Receiver.keep
        rw [errors]
        dsimp only
        split
        · rfl
        · split <;> rfl
  refine ⟨received ++ more, ?_, ?_, ?_⟩
  · change ((state.rx.drain uart state.rx.fifo).clearOverrun).Sound uart
      ((state.rx.drain uart state.rx.fifo).clearOverrun).fifo _
    rw [cleared]
    dsimp only
    rw [empty]
    exact ⟨drained.holds, drained.arrived, drained.kept, drained.damaged, drained.framing,
      drained.parity, drained.overflowed⟩
  · change _ = ((state.rx.drain uart state.rx.fifo).clearOverrun).taken.filterMap _
    rw [cleared]
    dsimp only
    rw [taken]
    exact sound.popped
  · have pops := sound.pops
    change state.call.Pops ((state.rx.drain uart state.rx.fifo).clearOverrun).ring _
    rw [cleared]
    dsimp only
    cases here : state.call with
    | popHead read =>
        rw [here] at pops
        exact Eq.trans pops tail.symm
    | popByte read =>
        rw [here] at pops
        exact ⟨pops.1.trans tail.symm, List.append_ne_nil_of_left_ne_nil pops.2 more⟩
    | popRelease read byte =>
        rw [here] at pops
        obtain ⟨rest, rfl⟩ := List.head?_eq_some_iff.mp pops.2
        exact ⟨pops.1.trans tail.symm, rfl⟩
    | _ => trivial

theorem receive (sound : state.RxSound uart received) (each : Received) :
    (state.receive each).RxSound uart received := by
  have kept : (state.rx.receive each).ring = state.rx.ring ∧
      (state.rx.receive each).taken = state.rx.taken := by
    unfold Receiver.receive
    split <;> exact ⟨rfl, rfl⟩
  refine ⟨sound.rx.receive each, ?_, ?_⟩
  · change _ = (state.rx.receive each).taken.filterMap _
    rw [kept.2]
    exact sound.popped
  · change state.call.Pops (state.rx.receive each).ring received
    rw [kept.1]
    exact sound.pops

end RxSound

end

end UartState

/-! ## The interrupts' enables and flags -/

/-- The work ends in `start_tx`. -/
def Masked.starts : Masked → Bool
  | .count _ | .fill => true
  | .discard | .recover _ => false

namespace Call

/-- The transmitter's interrupt is on, or the call will have it on. -/
def txOn (enabled : Bool) : Call → Bool
  | saveRx work | saveTx work _ => work.starts || enabled
  | saveError work _ tx => work.starts || tx
  | clearRx work saved | clearTx work saved | clearError work saved | masked work saved
  | restoreError work saved | restoreRx work saved | restoreTx work saved => work.starts || saved.tx
  | send _ | release _ | startHead _ | startTail _ _ | startFlag _ | startEnable _ => true
  | _ => enabled

/-- The call is still to set the transmitter's flag. -/
def flagAhead : Call → Bool
  | saveRx work | saveTx work _ | saveError work _ _ | clearRx work _ | clearTx work _
  | clearError work _ | masked work _ | restoreError work _ | restoreRx work _ | restoreTx work _ =>
      work.starts
  | send _ | release _ | startHead _ | startTail _ _ | startFlag _ => true
  | _ => false

end Call

namespace UartState

section

variable {uart : Uart} {state : UartState} {queued received : List (BitVec 8)}

/-- With bytes to send the interrupt is on and flagged, or will be flagged when the module has sent
what it holds, as far as the call under way will not see to it. -/
def Awake (state : UartState) : Prop :=
  state.tx.ring.tail ≠ state.tx.ring.head →
    state.call.txOn state.enabled.tx = true ∧
      (state.call.flagAhead = true ∨ state.flags.tx = true ∨ state.tx.fifo ≠ [])

theorem Awake.enter (awake : state.Awake) (idle : state.call = .idle) (request : Request) :
    (state.enter uart request).Awake := by
  have awake' := awake
  unfold Awake at awake'
  rw [idle] at awake'
  unfold UartState.enter
  cases request with
  | write source =>
      dsimp only
      split
      · exact awake'
      · split <;> exact awake'
  | writeSome source =>
      dsimp only
      split
      · exact awake
      · split <;> exact awake'
  | poll =>
      dsimp only
      split
      · exact fun _ => ⟨rfl, Or.inl rfl⟩
      · exact awake
  | pop | discard | recover => exact awake'

theorem Awake.accept (awake : state.Awake)
    (on : state.call.txOn state.enabled.tx = state.enabled.tx) (none : state.call.flagAhead = false)
    (write : Write) (head : Option (BitVec 16)) (space : Nat) :
    (state.accept write head space).Awake := by
  unfold Awake at awake
  rw [on, none] at awake
  have copies : ∀ answer : TxAnswer, { state with call := copyFrom answer head }.Awake := by
    intro answer
    cases head <;> exact awake
  unfold UartState.accept
  dsimp only
  split
  · split
    · exact awake
    · exact copies _
  · split
    · exact copies _
    · exact awake

theorem Awake.advance (awake : state.Awake) (sound : state.TxSound uart queued) :
    (state.advance uart).Awake := by
  have awake' := awake
  unfold Awake at awake'
  unfold UartState.advance
  cases here : state.call with
  | idle => exact awake
  | freeTail write head read =>
      exact awake.accept (by rw [here]; rfl) (by rw [here]; rfl) _ _ _
  | copy answer index head =>
      rw [here] at awake'
      dsimp only
      cases answer.accepted[index]? with
      | some byte => exact awake'
      | none => exact fun _ => ⟨rfl, Or.inl rfl⟩
  | masked work saved =>
      rw [here] at awake'
      cases work with
      | count answer => exact fun _ => ⟨rfl, Or.inl rfl⟩
      | fill =>
          unfold UartState.whileMasked
          dsimp only
          split
          · exact fun _ => ⟨rfl, Or.inl rfl⟩
          · exact fun _ => ⟨rfl, Or.inl rfl⟩
      | discard | recover errors => exact awake'
  | send saved | release saved | startHead answer => exact fun _ => ⟨rfl, Or.inl rfl⟩
  | restoreTx work saved =>
      rw [here] at awake'
      cases work with
      | count answer | fill => exact fun _ => ⟨rfl, Or.inl rfl⟩
      | discard | recover errors =>
          intro some
          obtain ⟨on, flag⟩ := awake' some
          refine ⟨?_, flag⟩
          have saved : saved.tx = true := on
          change (state.enabled.tx || _) = true
          rw [saved, Bool.or_true]
  | startTail answer head =>
      dsimp only
      by_cases some : head ≠ state.tx.ring.tail
      · rw [if_pos some]
        exact fun _ => ⟨rfl, Or.inl rfl⟩
      · rw [if_neg some]
        have fits := sound.fits
        rw [here] at fits
        have empty : state.tx.ring.tail = state.tx.ring.head := (not_not.mp some).symm.trans fits
        exact fun differ => absurd empty differ
  | startFlag answer => exact fun _ => ⟨rfl, Or.inr (Or.inl rfl)⟩
  | startEnable answer =>
      rw [here] at awake'
      intro some
      exact ⟨rfl, (awake' some).2⟩
  | popHead tail =>
      rw [here] at awake'
      dsimp only
      split <;> exact awake'
  | recoverFlags =>
      rw [here] at awake'
      dsimp only
      split <;> exact awake'
  | writeHead write | freeHead write head | enqueue answer | saveRx work | saveTx work rx
  | saveError work rx tx | clearRx work saved | clearTx work saved | clearError work saved
  | restoreError work saved | restoreRx work saved | popTail | popByte tail | popRelease tail byte =>
      rw [here] at awake'
      exact awake'

/-- The transmitter's interrupt leaves the module's FIFO full, or the ring empty. -/
theorem Awake.txInterrupt {gone rest : List (BitVec 8)} (awake : state.Awake)
    (sound : state.TxSound uart queued)
    (filled : state.tx.Filled uart (state.txInterrupt uart).tx queued gone rest) :
    (state.txInterrupt uart).Awake := by
  intro some
  have left : rest ≠ [] := mt filled.sound.holds.empty_iff.mpr some
  have before : state.tx.ring.tail ≠ state.tx.ring.head := by
    refine mt sound.tx.holds.empty_iff.mp fun none => left ?_
    rw [filled.split] at none
    exact (List.append_eq_nil_iff.mp none).2
  refine ⟨?_, Or.inr (Or.inr fun none => ?_)⟩
  · have kept : (state.txInterrupt uart).enabled.tx = state.enabled.tx := if_neg some
    rw [kept]
    exact (awake before).1
  · have full := filled.full left
    rw [none] at full
    cases full

theorem Awake.shift (awake : state.Awake) : state.shift.Awake := by
  unfold UartState.shift
  cases held : state.tx.fifo with
  | nil => exact awake
  | cons byte later =>
      intro some
      refine ⟨(awake some).1, ?_⟩
      cases later with
      | nil => exact Or.inr (Or.inl (Bool.or_true _))
      | cons next later => exact Or.inr (Or.inr (List.cons_ne_nil _ _))

theorem quiet_copyFrom (enabled : Interrupts) (answer : TxAnswer) (head : Option (BitVec 16)) :
    (copyFrom answer head).Quiet enabled := by
  cases head <;> trivial

theorem quiet_enter (request : Request) (idle : state.call = .idle) :
    (state.enter uart request).call.Quiet (state.enter uart request).enabled := by
  have quiet : state.call.Quiet state.enabled := by
    rw [idle]
    trivial
  unfold UartState.enter
  cases request with
  | write source =>
      dsimp only
      split
      · trivial
      · split <;> trivial
  | writeSome source =>
      dsimp only
      split
      · exact quiet
      · split <;> trivial
  | poll =>
      dsimp only
      split
      · trivial
      · exact quiet
  | pop | discard | recover => trivial

theorem quiet_advance (quiet : state.call.Quiet state.enabled) :
    (state.advance uart).call.Quiet (state.advance uart).enabled := by
  have quiet' := quiet
  unfold UartState.advance
  cases here : state.call with
  | idle => exact quiet
  | freeTail write head read =>
      unfold UartState.accept
      dsimp only
      split
      · split
        · trivial
        · exact quiet_copyFrom _ _ _
      · split
        · exact quiet_copyFrom _ _ _
        · trivial
  | copy answer index head =>
      dsimp only
      cases answer.accepted[index]? with
      | some byte => trivial
      | none => trivial
  | clearRx work saved => rfl
  | clearTx work saved =>
      rw [here] at quiet'
      exact ⟨quiet', rfl⟩
  | clearError work saved =>
      rw [here] at quiet'
      exact ⟨quiet'.1, quiet'.2, rfl⟩
  | masked work saved =>
      rw [here] at quiet'
      cases work with
      | fill =>
          unfold UartState.whileMasked
          dsimp only
          split <;> exact quiet'
      | count answer | discard | recover errors => exact quiet'
  | send saved | release saved =>
      rw [here] at quiet'
      exact quiet'
  | restoreError work saved =>
      rw [here] at quiet'
      exact ⟨quiet'.1, quiet'.2.1⟩
  | restoreRx work saved =>
      rw [here] at quiet'
      exact quiet'.2
  | restoreTx work saved => cases work <;> trivial
  | startTail answer head =>
      dsimp only
      split <;> trivial
  | popHead tail =>
      dsimp only
      split <;> trivial
  | recoverFlags =>
      dsimp only
      split <;> trivial
  | writeHead write | freeHead write head | enqueue answer | saveRx work | saveTx work rx
  | saveError work rx tx | startHead answer | startFlag answer | startEnable answer | popTail
  | popByte tail | popRelease tail byte => trivial

/-- A handler that turns the transmitter's interrupt off leaves what is masked masked. -/
theorem quiet_txOff {enabled : Interrupts} {call : Call} (quiet : call.Quiet enabled) :
    call.Quiet { enabled with tx := false } := by
  cases call with
  | clearTx work saved => exact quiet
  | clearError work saved | restoreRx work saved => exact ⟨quiet.1, rfl⟩
  | masked work saved | send saved | release saved | restoreError work saved =>
      exact ⟨quiet.1, rfl, quiet.2.2⟩
  | restoreTx work saved => rfl
  | _ => trivial

/-! ## Every run -/

/-- What every step keeps. -/
structure Sound (uart : Uart) (state : UartState) (queued received : List (BitVec 8)) : Prop where
  tx : state.TxSound uart queued
  rx : state.RxSound uart received
  quiet : state.call.Quiet state.enabled
  awake : state.Awake

theorem Sound.begin (sound : state.Sound uart queued received) (request : Request) :
    (state.begin uart request).Sound uart queued received := by
  unfold UartState.begin
  cases here : state.call with
  | idle =>
      exact ⟨sound.tx.enter here request, sound.rx.enter request, quiet_enter request here,
        sound.awake.enter here request⟩
  | _ => exact sound

theorem Sound.advance (sound : state.Sound uart queued received) :
    ∃ queued received, (state.advance uart).Sound uart queued received := by
  obtain ⟨queued, tx⟩ := sound.tx.advance
  obtain ⟨received, rx⟩ := sound.rx.advance
  exact ⟨queued, received, tx, rx, quiet_advance sound.quiet, sound.awake.advance sound.tx⟩

theorem Sound.rxInterrupt (sound : state.Sound uart queued received) :
    ∃ received, (state.rxInterrupt uart).Sound uart queued received := by
  obtain ⟨received, rx⟩ := sound.rx.rxInterrupt
  exact ⟨received, sound.tx.moved rfl rfl rfl rfl sound.tx.fits, rx, sound.quiet, sound.awake⟩

theorem Sound.txInterrupt (sound : state.Sound uart queued received)
    (on : state.enabled.tx = true) :
    ∃ queued, (state.txInterrupt uart).Sound uart queued received := by
  obtain ⟨gone, rest, filled, tx⟩ := sound.tx.txInterrupt sound.quiet on
  refine ⟨rest, tx, sound.rx.moved rfl rfl sound.rx.pops, ?_, sound.awake.txInterrupt sound.tx filled⟩
  by_cases empty : (state.txInterrupt uart).tx.ring.tail = (state.txInterrupt uart).tx.ring.head
  · have off : (state.txInterrupt uart).enabled = { state.enabled with tx := false } :=
      congrArg (fun tx => { state.enabled with tx := tx }) (if_pos empty)
    rw [off]
    exact quiet_txOff sound.quiet
  · have kept : (state.txInterrupt uart).enabled = state.enabled :=
      congrArg (fun tx => { state.enabled with tx := tx }) (if_neg empty)
    rw [kept]
    exact sound.quiet

theorem Sound.shift (sound : state.Sound uart queued received) :
    state.shift.Sound uart queued received := by
  refine ⟨sound.tx.shift, ?_, ?_, sound.awake.shift⟩
  · unfold UartState.shift
    split
    · exact sound.rx
    · exact sound.rx.moved rfl rfl sound.rx.pops
  · unfold UartState.shift
    split <;> exact sound.quiet

theorem Sound.step (sound : state.Sound uart queued received) (act : Act) :
    ∃ queued received, (state.step uart act).Sound uart queued received := by
  unfold UartState.step
  cases act with
  | begin request => exact ⟨queued, received, sound.begin request⟩
  | advance => exact sound.advance
  | rxInterrupt =>
      dsimp only
      by_cases on : state.enabled.rx = true ∧ state.flags.rx = true
      · rw [if_pos on]
        exact ⟨queued, sound.rxInterrupt⟩
      · rw [if_neg on]
        exact ⟨queued, received, sound⟩
  | txInterrupt =>
      dsimp only
      by_cases on : state.enabled.tx = true ∧ state.flags.tx = true
      · rw [if_pos on]
        obtain ⟨queued, next⟩ := sound.txInterrupt on.1
        exact ⟨queued, received, next⟩
      · rw [if_neg on]
        exact ⟨queued, received, sound⟩
  | errInterrupt =>
      dsimp only
      by_cases on : state.enabled.error = true ∧ state.flags.error = true
      · rw [if_pos on]
        exact ⟨queued, received, sound.tx.moved rfl rfl rfl rfl sound.tx.fits,
          sound.rx.moved rfl rfl sound.rx.pops, sound.quiet, sound.awake⟩
      · rw [if_neg on]
        exact ⟨queued, received, sound⟩
  | shift =>
      exact ⟨queued, received, sound.shift⟩
  | receive each =>
      exact ⟨queued, received, sound.tx.moved rfl rfl rfl rfl sound.tx.fits, sound.rx.receive each,
        sound.quiet, sound.awake⟩

theorem Sound.init (txMemory rxMemory : Nat → BitVec 8) :
    (UartState.init txMemory rxMemory).Sound uart [] [] := by
  have empty : ∀ (size : RingSize 16) (memory : Nat → BitVec 8),
      Holds size (⟨memory, 0, 0⟩ : RingQueue (BitVec 8) 16) ([] : List (BitVec 8)) := by
    intro size memory
    exact ⟨size.pos, size.pos, (Nat.zero_mod _).symm, fun position item found => by cases found⟩
  refine ⟨⟨⟨empty _ _, rfl, Nat.zero_le _⟩, rfl, trivial⟩, ⟨⟨empty _ _, rfl, rfl, ?_, rfl, rfl, rfl⟩, rfl,
    trivial⟩, trivial, fun some => absurd rfl some⟩
  exact fun each member => absurd member List.not_mem_nil

/-- What the calls, the rings and the module have of every byte: those written to the module, of which
the last may still hold its slot, and those queued are the bytes of the writes accepted, a write under
way counting once its head is published; those popped are those that came, in order, less those counted
as errors and those dropped; and with no call under way a ring with bytes to send will go on. -/
structure Accounts (uart : Uart) (state : UartState) (queued received : List (BitVec 8)) : Prop where
  tx : Holds uart.txRing state.tx.ring queued
  rx : Holds uart.rxRing state.rx.ring received
  sent : state.tx.sent ++ queued.drop state.call.ahead =
    state.returns.flatMap Returned.accepted ++ state.call.published
  shifted : state.tx.shifted ++ state.tx.fifo = state.tx.sent
  arrived : state.rx.handled.map Prod.fst ++ state.rx.fifo = state.rx.arrived
  kept : state.rx.handled.filterMap keptByte? = state.rx.taken.map Taken.byte ++ received
  popped : state.returns.filterMap Returned.popped? = state.rx.taken.filterMap Taken.popped?
  damaged : ∀ each ∈ state.rx.handled,
    each.2 = .damaged ↔ each.1.framing = true ∨ each.1.parity = true
  framing : state.rx.framingErrors =
    BitVec.ofNat 32 (state.rx.handled.countP fun each => each.1.framing)
  parity : state.rx.parityErrors =
    BitVec.ofNat 32 (state.rx.handled.countP fun each => each.1.parity)
  overflowed : state.rx.overflows =
    BitVec.ofNat 32 (state.rx.handled.countP fun each => each.2 = .overflowed)
  bounds : state.tx.ring.head.toNat < uart.txRing.size ∧ state.tx.ring.tail.toNat < uart.txRing.size ∧
    state.rx.ring.head.toNat < uart.rxRing.size ∧ state.rx.ring.tail.toNat < uart.rxRing.size
  room : queued.length ≤ uart.txRing.size - 1 ∧ received.length ≤ uart.rxRing.size - 1
  awake : state.call = .idle → queued ≠ [] →
    state.enabled.tx = true ∧ (state.flags.tx = true ∨ state.tx.fifo ≠ [])

theorem Sound.accounts (sound : state.Sound uart queued received) :
    state.Accounts uart queued received where
  tx := sound.tx.tx.holds
  rx := sound.rx.rx.holds
  sent := sound.tx.sent
  shifted := sound.tx.tx.shifted
  arrived := sound.rx.rx.arrived
  kept := sound.rx.rx.kept
  popped := sound.rx.popped
  damaged := sound.rx.rx.damaged
  framing := sound.rx.rx.framing
  parity := sound.rx.rx.parity
  overflowed := sound.rx.rx.overflowed
  bounds := ⟨sound.tx.tx.holds.head_lt, sound.tx.tx.holds.tail, sound.rx.rx.holds.head_lt,
    sound.rx.rx.holds.tail⟩
  room := ⟨Nat.le_sub_one_of_lt sound.tx.tx.holds.room, Nat.le_sub_one_of_lt sound.rx.rx.holds.room⟩
  awake := by
    intro idle some
    have awake := sound.awake (mt sound.tx.tx.holds.empty_iff.mp some)
    rw [idle] at awake
    exact ⟨awake.1, awake.2.resolve_left Bool.false_ne_true⟩

theorem invariant (uart : Uart) :
    uart.machine.Invariant (fun _ _ => True)
      (fun state => ∃ queued received, state.Sound uart queued received) where
  start := by
    rintro _ ⟨txMemory, rxMemory, rfl⟩
    exact ⟨[], [], Sound.init txMemory rxMemory⟩
  step := by
    rintro state act ⟨queued, received, sound⟩ _
    exact sound.step act

end

end UartState

end GpsClock.Drivers
