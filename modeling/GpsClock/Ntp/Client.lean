import GpsClock.Ntp.Packet
import GpsClock.Ntp.Uncertainty

/-! # Polling a server

`ntp_client.cpp`: a poll is a burst of exchanges, each a request and what arrives until its
answer does, and its sample that of the shortest round trip. Whatever else arrives, the
sample's offset is the true one to within half its round trip and what the server announces,
and three microseconds (`GpsClock.Ntp.poll_truthful`).
-/

namespace GpsClock.Ntp

/-- `NTP_CLIENT_BURST`. -/
abbrev ntpClientBurst : Nat := 4

/-- `NTP_CLIENT_TIMEOUT_MS`. -/
abbrev ntpClientTimeoutMs : Int := 1000

structure NtpPollResult where
  ok : Bool := false
  sample : EspClockSample := {}
  replies : BitVec 8 := 0
  dnsFailed : Bool := false
  lastResult : NtpReplyResult := .ok
  kiss : List (BitVec 8) := [0, 0, 0, 0]
  deriving DecidableEq, Repr

structure NtpClientStats where
  polls : BitVec 32 := 0
  goodPolls : BitVec 32 := 0
  exchanges : BitVec 32 := 0
  timeouts : BitVec 32 := 0
  rejected : NtpReplyResult → BitVec 32 := fun _ => 0

/-- What `recvfrom` gives, and when. -/
structure Datagram where
  packet : List (BitVec 8)
  t4 : Int
  deriving DecidableEq, Repr

/-- One exchange: the number sent, whether and when it went, and the datagrams received after
it, until the wait for another times out. -/
structure Exchange where
  cookie : BitVec 64
  sent : Bool
  t1 : Int
  datagrams : List Datagram
  deriving DecidableEq, Repr

/-- `exchange`, what a reply makes of it. -/
def exchangeSample (t1 t4 : Int) (reply : NtpReply) : EspClockSample where
  localUs := t1 + (t4 - t1).tdiv 2
  offsetUs := ((reply.receiveUtcUs - t1) + (reply.transmitUtcUs - t4)).tdiv 2
  delayUs :=
    let delay := (t4 - t1) - (reply.transmitUtcUs - reply.receiveUtcUs)
    if delay < 0 then 0 else delay
  rootDelayUs := reply.rootDelayUs
  rootDispersionUs := reply.rootDispersionUs
  stratum := reply.stratum

/-- `exchange`, its loop. -/
def listen (cookie : BitVec 64) (t1 : Int) :
    List Datagram → NtpPollResult × NtpClientStats →
      Option EspClockSample × NtpPollResult × NtpClientStats
  | [], (poll, stats) => (none, poll, { stats with timeouts := stats.timeouts + 1 })
  | datagram :: datagrams, (poll, stats) =>
      let (outcome, reply) := ntpPacketParse datagram.packet cookie
      let poll := { poll with lastResult := outcome }
      if outcome = .ok then
        (some (exchangeSample t1 datagram.t4 reply), poll,
          { stats with exchanges := stats.exchanges + 1 })
      else
        let stats :=
          { stats with rejected := Function.update stats.rejected outcome (stats.rejected outcome + 1) }
        if outcome = .kiss then (none, { poll with kiss := reply.kiss }, stats)
        else if outcome ≠ .wrongOrigin ∨ t1 + ntpClientTimeoutMs * 1000 ≤ datagram.t4 then
          (none, poll, stats)
        else listen cookie t1 datagrams (poll, stats)

/-- `exchange`: the sample, if there is one. -/
def exchange (input : Exchange) (given : NtpPollResult × NtpClientStats) :
    Option EspClockSample × NtpPollResult × NtpClientStats :=
  if !input.sent then (none, given) else listen input.cookie input.t1 input.datagrams given

/-- `poll_server`, a sample against the poll's. -/
def keepSample (poll : NtpPollResult) (sample : EspClockSample) : NtpPollResult :=
  { poll with
    sample := if !poll.ok || decide (sample.delayUs < poll.sample.delayUs) then sample else poll.sample
    ok := true
    replies := poll.replies + 1 }

/-- `poll_server`, its burst. -/
def burst : List Exchange → NtpPollResult × NtpClientStats → NtpPollResult × NtpClientStats
  | [], given => given
  | input :: inputs, given =>
      match exchange input given with
      | (some sample, poll, stats) => burst inputs (keepSample poll sample, stats)
      | (none, poll, stats) =>
          -- Told to go away: no more requests in this poll.
          if poll.kiss.headD 0 ≠ 0 then (poll, stats) else burst inputs (poll, stats)

/-- `poll_server` and the statistics of `client_task`; without a socket there is no burst. -/
def pollServer (opened : Bool) (inputs : List Exchange) (stats : NtpClientStats) :
    NtpPollResult × NtpClientStats :=
  let (poll, stats) :=
    if opened then burst (inputs.take ntpClientBurst) ({}, stats) else ({}, stats)
  (poll,
    { stats with
      polls := stats.polls + 1
      goodPolls := if poll.ok then stats.goodPolls + 1 else stats.goodPolls })

/-! ## What an exchange gives -/

variable {cookie : BitVec 64} {t1 t4 : Int} {datagrams : List Datagram} {poll : NtpPollResult}
  {stats : NtpClientStats} {sample : EspClockSample}

/-- A sample is made of a datagram that was accepted. -/
theorem listen_sample
    (found : (listen cookie t1 datagrams (poll, stats)).1 = some sample) :
    ∃ datagram ∈ datagrams, ∃ reply,
      ntpPacketParse datagram.packet cookie = (.ok, reply) ∧
        sample = exchangeSample t1 datagram.t4 reply := by
  induction datagrams generalizing poll stats with
  | nil => cases found
  | cons datagram datagrams ih =>
      rw [listen] at found
      cases parsed : ntpPacketParse datagram.packet cookie with
      | mk outcome reply =>
          rw [parsed] at found
          dsimp only at found
          split at found
          · next accepted =>
              cases accepted
              exact ⟨datagram, List.mem_cons_self, reply, parsed, (Option.some.inj found).symm⟩
          split at found
          · cases found
          split at found
          · cases found
          · obtain ⟨other, member, rest⟩ := ih found
            exact ⟨other, List.mem_cons_of_mem _ member, rest⟩

/-- An exchange finds what it finds whatever the poll has so far, and leaves the poll's sample
alone. -/
theorem listen_alike (poll other : NtpPollResult) (stats otherStats : NtpClientStats)
    (kiss : poll.kiss.headD 0 = other.kiss.headD 0) :
    (listen cookie t1 datagrams (poll, stats)).1 = (listen cookie t1 datagrams (other, otherStats)).1 ∧
      (listen cookie t1 datagrams (poll, stats)).2.1.kiss.headD 0 =
        (listen cookie t1 datagrams (other, otherStats)).2.1.kiss.headD 0 ∧
      (listen cookie t1 datagrams (poll, stats)).2.1.ok = poll.ok ∧
      (listen cookie t1 datagrams (poll, stats)).2.1.sample = poll.sample ∧
      (listen cookie t1 datagrams (poll, stats)).2.1.replies = poll.replies ∧
      ((listen cookie t1 datagrams (poll, stats)).1.isSome →
        (listen cookie t1 datagrams (poll, stats)).2.1.kiss = poll.kiss) := by
  induction datagrams generalizing poll other stats otherStats with
  | nil => exact ⟨rfl, kiss, rfl, rfl, rfl, fun _ => rfl⟩
  | cons datagram datagrams ih =>
      rw [listen, listen]
      obtain ⟨outcome, reply⟩ := ntpPacketParse datagram.packet cookie
      dsimp only
      by_cases accepted : outcome = .ok
      · rw [if_pos accepted, if_pos accepted]
        exact ⟨rfl, kiss, rfl, rfl, rfl, fun _ => rfl⟩
      rw [if_neg accepted, if_neg accepted]
      by_cases refused : outcome = .kiss
      · rw [if_pos refused, if_pos refused]
        exact ⟨rfl, rfl, rfl, rfl, rfl, fun some => (by cases some)⟩
      rw [if_neg refused, if_neg refused]
      split
      · exact ⟨rfl, kiss, rfl, rfl, rfl, fun some => (by cases some)⟩
      · exact ih _ _ _ _ kiss

/-- An exchange by itself. -/
def found (input : Exchange) : Option EspClockSample × NtpPollResult × NtpClientStats :=
  exchange input ({}, {})

/-- The server told us to go away. -/
def Refused (input : Exchange) : Prop := (found input).2.1.kiss.headD 0 ≠ 0

instance (input : Exchange) : Decidable (Refused input) :=
  inferInstanceAs (Decidable (_ ≠ _))

/-- The samples of the exchanges made, which end with a refusal. -/
def samples : List Exchange → List EspClockSample
  | [] => []
  | input :: inputs =>
      match (found input).1 with
      | some sample => sample :: samples inputs
      | none => if Refused input then [] else samples inputs

/-- A poll's sample is one of the shortest round trip among those so far. -/
structure Shortest (poll : NtpPollResult) (given : List EspClockSample) : Prop where
  ok : poll.ok = true ↔ given ≠ []
  replies : poll.replies = BitVec.ofNat 8 given.length
  least : poll.ok = true →
    poll.sample ∈ given ∧ ∀ sample ∈ given, poll.sample.delayUs ≤ sample.delayUs
  welcome : poll.kiss.headD 0 = 0

variable {given : List EspClockSample}

theorem Shortest.keepSample (shortest : Shortest poll given) (sample : EspClockSample) :
    Shortest (keepSample poll sample) (given ++ [sample]) where
  ok := ⟨fun _ => by simp, fun _ => rfl⟩
  replies := by
    rw [List.length_append, List.length_singleton, BitVec.ofNat_add, ← shortest.replies]
    rfl
  least _ := by
    have kept : (Ntp.keepSample poll sample).sample =
        if !poll.ok || decide (sample.delayUs < poll.sample.delayUs) then sample
        else poll.sample := rfl
    rw [kept]
    cases some : poll.ok with
    | false =>
        have none : given = [] := by
          by_contra more
          rw [shortest.ok.mpr more] at some
          cases some
        rw [none]
        simp
    | true =>
        obtain ⟨member, least⟩ := shortest.least some
        simp only [Bool.not_true, Bool.false_or, decide_eq_true_eq, List.mem_append,
          List.mem_singleton]
        split
        · next shorter =>
            refine ⟨.inr rfl, fun other earlier => ?_⟩
            rcases earlier with earlier | rfl
            · exact shorter.le.trans (least other earlier)
            · exact le_refl _
        · next longer =>
            refine ⟨.inl member, fun other earlier => ?_⟩
            rcases earlier with earlier | rfl
            · exact least other earlier
            · exact Int.not_lt.mp longer
  welcome := shortest.welcome

theorem exchange_alike (stats : NtpClientStats) (input : Exchange)
    (welcome : poll.kiss.headD 0 = 0) :
    (exchange input (poll, stats)).1 = (found input).1 ∧
      (exchange input (poll, stats)).2.1.kiss.headD 0 = (found input).2.1.kiss.headD 0 ∧
      (exchange input (poll, stats)).2.1.ok = poll.ok ∧
      (exchange input (poll, stats)).2.1.sample = poll.sample ∧
      (exchange input (poll, stats)).2.1.replies = poll.replies ∧
      ((exchange input (poll, stats)).1.isSome →
        (exchange input (poll, stats)).2.1.kiss = poll.kiss) := by
  rw [found, exchange, exchange]
  cases input.sent with
  | false => exact ⟨rfl, welcome, rfl, rfl, rfl, fun _ => rfl⟩
  | true => exact listen_alike _ _ _ _ welcome

/-- A burst's poll has the shortest of its samples. -/
theorem Shortest.burst (inputs : List Exchange) (shortest : Shortest poll given)
    (stats : NtpClientStats) :
    ((Ntp.burst inputs (poll, stats)).1.ok = true ↔ given ++ samples inputs ≠ []) ∧
      (Ntp.burst inputs (poll, stats)).1.replies =
        BitVec.ofNat 8 (given ++ samples inputs).length ∧
      ((Ntp.burst inputs (poll, stats)).1.ok = true →
        (Ntp.burst inputs (poll, stats)).1.sample ∈ given ++ samples inputs ∧
          ∀ sample ∈ given ++ samples inputs,
            (Ntp.burst inputs (poll, stats)).1.sample.delayUs ≤ sample.delayUs) := by
  induction inputs generalizing poll given stats with
  | nil =>
      rw [samples, List.append_nil]
      exact ⟨shortest.ok, shortest.replies, shortest.least⟩
  | cons input inputs ih =>
      obtain ⟨sample, kiss, ok, same, replies, welcome⟩ :=
        exchange_alike stats input shortest.welcome
      rw [Ntp.burst, samples]
      cases result : exchange input (poll, stats) with
      | mk outcome rest =>
          obtain ⟨next, after⟩ := rest
          rw [result] at sample kiss ok same replies welcome
          dsimp only at sample kiss ok same replies welcome
          rw [← sample]
          have carried (clear : next.kiss.headD 0 = 0) : Shortest next given :=
            { ok := by rw [ok]; exact shortest.ok
              replies := by rw [replies]; exact shortest.replies
              least := by rw [ok, same]; exact shortest.least
              welcome := clear }
          cases outcome with
          | some made =>
              dsimp only
              have clear : next.kiss.headD 0 = 0 := by
                rw [welcome rfl]
                exact shortest.welcome
              have longer := ih ((carried clear).keepSample made) after
              rwa [List.append_assoc] at longer
          | none =>
              dsimp only
              by_cases refused : next.kiss.headD 0 ≠ 0
              · rw [if_pos refused, if_pos (by rwa [Refused, ← kiss]),
                  List.append_nil, ok, same, replies]
                exact ⟨shortest.ok, shortest.replies, shortest.least⟩
              · rw [if_neg refused, if_neg (by rwa [Refused, ← kiss])]
                exact ih (carried (Decidable.not_not.mp refused)) after

/-! ## The server's time -/

/-- How far a server says that its clock may be from UTC, in microseconds. -/
def ServerAnswer.rootDistanceUs (answer : ServerAnswer) : ℚ :=
  ((answer.rootDelay.toNat : ℚ) / 2 + answer.rootDispersion.toNat) * 1000000 / 65536

/-- A server's answer to a request sent at one local time and answered by another: received
and sent between the two, by a clock as far from UTC as it says at most. -/
structure Genuine (trueUtc : Int → ℚ) (t1 t4 : Int) (answer : ServerAnswer) : Prop where
  receiveTold : Told answer.receive
  transmitTold : Told answer.transmit
  delay : answer.rootDelay.toNat * 1000000 / 65536 < 4294967296
  dispersion : answer.rootDispersion.toNat * 1000000 / 65536 < 4294967296
  between : ∃ received sent : ℚ, trueUtc t1 ≤ received ∧ sent ≤ trueUtc t4 ∧
    |(answer.receive : ℚ) * 1000000 / 4294967296 - received| ≤ answer.rootDistanceUs ∧
    |(answer.transmit : ℚ) * 1000000 / 4294967296 - sent| ≤ answer.rootDistanceUs

/-- Whatever carries an exchange's number is its server's answer to it; anything else may be
anything. -/
def Answered (trueUtc : Int → ℚ) (input : Exchange) : Prop :=
  ∀ datagram ∈ input.datagrams, getU64 datagram.packet 24 = input.cookie →
    ∃ answer : ServerAnswer, datagram.packet = answer.packet (ntpPacketRequest input.cookie) ∧
      Genuine trueUtc input.t1 datagram.t4 answer

/-- Over an exchange UTC passes as the local timer does, to within a drift. -/
def Steady (trueUtc : Int → ℚ) (driftUs : ℚ) (input : Exchange) : Prop :=
  ∀ datagram ∈ input.datagrams, input.t1 ≤ datagram.t4 ∧
    ∀ first second, input.t1 ≤ first → first ≤ second → second ≤ datagram.t4 →
      |trueUtc second - trueUtc first - (second - first)| ≤ driftUs

/-- A short number of seconds to the microsecond below. -/
theorem shortToUs_near {value : BitVec 32} (small : value.toNat * 1000000 / 65536 < 4294967296) :
    (value.toNat : ℚ) * 1000000 / 65536 < shortToUs value + 1 := by
  have whole : shortToUs value = value.toNat * 1000000 / 65536 := Nat.mod_eq_of_lt small
  have floored : value.toNat * 1000000 < 65536 * (shortToUs value + 1) := by
    rw [whole]
    omega
  have cast : (value.toNat : ℚ) * 1000000 < 65536 * (shortToUs value + 1) := by
    exact_mod_cast floored
  linarith

theorem floor_near (instant : Int) :
    ((instant * 1000000 / 4294967296 : Int) : ℚ) ≤ (instant : ℚ) * 1000000 / 4294967296 ∧
      (instant : ℚ) * 1000000 / 4294967296 < (instant * 1000000 / 4294967296 : Int) + 1 := by
  have parts := Int.mul_ediv_add_emod (instant * 1000000) 4294967296
  have least := Int.emod_nonneg (instant * 1000000) (by decide : (4294967296 : Int) ≠ 0)
  have most := Int.emod_lt_of_pos (instant * 1000000) (by decide : (0 : Int) < 4294967296)
  have low : 4294967296 * (instant * 1000000 / 4294967296) ≤ instant * 1000000 := by omega
  have high : instant * 1000000 < 4294967296 * (instant * 1000000 / 4294967296 + 1) := by omega
  have lowCast : (4294967296 : ℚ) * (instant * 1000000 / 4294967296 : Int) ≤
      (instant : ℚ) * 1000000 := by exact_mod_cast low
  have highCast : (instant : ℚ) * 1000000 <
      4294967296 * ((instant * 1000000 / 4294967296 : Int) + 1) := by exact_mod_cast high
  exact ⟨by linarith, by linarith⟩

variable {trueUtc : Int → ℚ} {driftUs : ℚ} {input : Exchange}

/-- Half of a value, to within a half. -/
theorem half_near (value : Int) :
    value - 1 ≤ 2 * value.tdiv 2 ∧ 2 * value.tdiv 2 ≤ value + 1 := by
  have parts := Int.tdiv_mul_add_tmod value 2
  have least := Int.lt_tmod_of_pos value (by decide : (0 : Int) < 2)
  have most := Int.tmod_lt_of_pos value (by decide : (0 : Int) < 2)
  omega

/-- The offset and the round trip, of when the request is received and the answer sent. -/
theorem offset_near (reply : NtpReply) (t1 t4 : Int) :
    (reply.receiveUtcUs : ℚ) - t1 - (exchangeSample t1 t4 reply).delayUs / 2 - 1 / 2 ≤
        (exchangeSample t1 t4 reply).offsetUs ∧
      ((exchangeSample t1 t4 reply).offsetUs : ℚ) ≤
        reply.transmitUtcUs - t4 + (exchangeSample t1 t4 reply).delayUs / 2 + 1 / 2 := by
  have delay : (reply.receiveUtcUs - t1) - (reply.transmitUtcUs - t4) ≤
      (exchangeSample t1 t4 reply).delayUs := by
    change _ ≤ if (t4 - t1) - (reply.transmitUtcUs - reply.receiveUtcUs) < 0 then 0
      else (t4 - t1) - (reply.transmitUtcUs - reply.receiveUtcUs)
    split <;> omega
  have halves := half_near ((reply.receiveUtcUs - t1) + (reply.transmitUtcUs - t4))
  change _ ≤ 2 * (exchangeSample t1 t4 reply).offsetUs ∧
    2 * (exchangeSample t1 t4 reply).offsetUs ≤ _ at halves
  have low : 2 * (reply.receiveUtcUs - t1) - (exchangeSample t1 t4 reply).delayUs - 1 ≤
      2 * (exchangeSample t1 t4 reply).offsetUs := by omega
  have high : 2 * (exchangeSample t1 t4 reply).offsetUs ≤
      2 * (reply.transmitUtcUs - t4) + (exchangeSample t1 t4 reply).delayUs + 1 := by omega
  have lowCast : (2 : ℚ) * (reply.receiveUtcUs - t1) - (exchangeSample t1 t4 reply).delayUs - 1 ≤
      2 * (exchangeSample t1 t4 reply).offsetUs := by exact_mod_cast low
  have highCast : (2 : ℚ) * (exchangeSample t1 t4 reply).offsetUs ≤
      2 * (reply.transmitUtcUs - t4) + (exchangeSample t1 t4 reply).delayUs + 1 := by
    exact_mod_cast high
  exact ⟨by linarith, by linarith⟩

/-- A sample is true to within half its round trip and what its server announces. -/
theorem exchange_truthful (answered : Answered trueUtc input) (steady : Steady trueUtc driftUs input)
    (made : (found input).1 = some sample) :
    |(sample.localUs + sample.offsetUs : ℚ) - trueUtc sample.localUs| ≤
      EspClock.sampleBound sample + driftUs + 3 := by
  rw [found, exchange] at made
  split at made
  · cases made
  obtain ⟨datagram, member, reply, accepted, rfl⟩ := listen_sample made
  obtain ⟨origin, delay, dispersion, receive, transmit, -⟩ := parse_accepted accepted
  obtain ⟨answer, packet, genuine⟩ := answered datagram member origin
  obtain ⟨-, -, -, rootDelay, rootDispersion, -, received, sent⟩ :=
    packet_fields answer input.cookie
  rw [packet] at delay dispersion receive transmit
  rw [rootDelay] at delay
  rw [rootDispersion] at dispersion
  rw [received, ntpTimestampToUnixUs_stamp genuine.receiveTold] at receive
  rw [sent, ntpTimestampToUnixUs_stamp genuine.transmitTold] at transmit
  obtain ⟨forward, passes⟩ := steady datagram member
  obtain ⟨receivedAt, sentAt, after, before, receiveNear, transmitNear⟩ := genuine.between
  -- The middle of the exchange, and how UTC has drifted on either side of it.
  have middle : input.t1 ≤ input.t1 + (datagram.t4 - input.t1).tdiv 2 ∧
      input.t1 + (datagram.t4 - input.t1).tdiv 2 ≤ datagram.t4 := by
    have half := half_near (datagram.t4 - input.t1)
    have nonneg := Int.tdiv_nonneg (Int.sub_nonneg.mpr forward) (by decide : (0 : Int) ≤ 2)
    omega
  have earlier := abs_le.mp (passes _ _ le_rfl middle.1 middle.2)
  have later := abs_le.mp (passes _ _ middle.1 middle.2 le_rfl)
  obtain ⟨low, high⟩ := offset_near reply input.t1 datagram.t4
  have delayNear := shortToUs_near genuine.delay
  have dispersionNear := shortToUs_near genuine.dispersion
  have receiveFloor := floor_near answer.receive
  have transmitFloor := floor_near answer.transmit
  have receiveNear := abs_le.mp receiveNear
  have transmitNear := abs_le.mp transmitNear
  have distance : answer.rootDistanceUs <
      (shortToUs answer.rootDelay : ℚ) / 2 + shortToUs answer.rootDispersion + 3 / 2 := by
    rw [ServerAnswer.rootDistanceUs]
    linarith
  have bound : EspClock.sampleBound (exchangeSample input.t1 datagram.t4 reply) =
      ((exchangeSample input.t1 datagram.t4 reply).delayUs : ℚ) / 2 +
        (shortToUs answer.rootDelay : ℚ) / 2 + shortToUs answer.rootDispersion := by
    rw [← delay, ← dispersion]
    rfl
  rw [receive] at low
  rw [transmit] at high
  rw [bound, show (exchangeSample input.t1 datagram.t4 reply).localUs =
    input.t1 + (datagram.t4 - input.t1).tdiv 2 from rfl]
  apply abs_le.mpr
  constructor
  · linarith
  · linarith

theorem mem_samples {inputs : List Exchange} (member : sample ∈ samples inputs) :
    ∃ input ∈ inputs, (found input).1 = some sample := by
  induction inputs with
  | nil => cases member
  | cons input inputs ih =>
      have later (rest : sample ∈ samples inputs) :
          ∃ other ∈ input :: inputs, (found other).1 = some sample := by
        obtain ⟨other, inside, made⟩ := ih rest
        exact ⟨other, List.mem_cons_of_mem _ inside, made⟩
      rw [samples] at member
      cases made : (found input).1 with
      | some first =>
          rw [made] at member
          rcases List.mem_cons.mp member with rfl | rest
          · exact ⟨input, List.mem_cons_self, made⟩
          · exact later rest
      | none =>
          rw [made] at member
          dsimp only at member
          split at member
          · cases member
          · exact later member

/-- **A poll's sample is true to within what it says of itself.** Whatever else arrives, late,
forged or broken, so long as what carries an exchange's number is its server's answer: a
poll that is ok has the sample of the shortest round trip of its exchanges, whose offset is
that of UTC in the middle of its exchange to within half the round trip, what the server
announces, the drift over the exchange, and three microseconds. -/
theorem poll_truthful (trueUtc : Int → ℚ) (driftUs : ℚ) (opened : Bool) (inputs : List Exchange)
    (stats : NtpClientStats)
    (answered : ∀ input ∈ inputs.take ntpClientBurst,
      Answered trueUtc input ∧ Steady trueUtc driftUs input)
    (ok : (pollServer opened inputs stats).1.ok = true) :
    let sample := (pollServer opened inputs stats).1.sample
    |(sample.localUs + sample.offsetUs : ℚ) - trueUtc sample.localUs| ≤
        EspClock.sampleBound sample + driftUs + 3 ∧
      sample ∈ samples (inputs.take ntpClientBurst) ∧
      (∀ other ∈ samples (inputs.take ntpClientBurst), sample.delayUs ≤ other.delayUs) ∧
      (pollServer opened inputs stats).1.replies =
        BitVec.ofNat 8 (samples (inputs.take ntpClientBurst)).length := by
  cases opened with
  | false => cases ok
  | true =>
      have start : Shortest {} [] :=
        { ok := ⟨fun ok => (by cases ok), fun some => absurd rfl some⟩
          replies := rfl
          least := fun ok => (by cases ok)
          welcome := rfl }
      obtain ⟨-, replies, least⟩ := start.burst (inputs.take ntpClientBurst) stats
      obtain ⟨member, shortest⟩ := least ok
      obtain ⟨input, inside, made⟩ := mem_samples member
      obtain ⟨genuine, steady⟩ := answered input inside
      exact ⟨exchange_truthful genuine steady made, member, shortest, replies⟩

/-- A server's answer, a second's dispersion announced. -/
def plainAnswer : ServerAnswer where
  leap := 0
  version := 4
  stratum := 2
  interval := 6
  precision := 0xe9
  rootDelay := 0
  rootDispersion := 65536
  referenceId := 0
  reference := 0
  receive := 1700000001 * 4294967296
  transmit := 1700000001 * 4294967296

/-- An exchange of 20 ms, with an answer to some other request before its own. -/
def plainExchange : Exchange where
  cookie := 0x0123456789abcdef
  sent := true
  t1 := 990000
  datagrams :=
    [⟨plainAnswer.packet (ntpPacketRequest 0xfedcba9876543210), 1000000⟩,
      ⟨plainAnswer.packet (ntpPacketRequest 0x0123456789abcdef), 1010000⟩]

theorem poll_truthful_plain :
    let sample := (pollServer true [plainExchange] {}).1.sample
    |(sample.localUs + sample.offsetUs : ℚ) - (sample.localUs + 1700000000000000)| ≤
        EspClock.sampleBound sample + 0 + 3 ∧
      sample ∈ samples ([plainExchange].take ntpClientBurst) ∧
      (∀ other ∈ samples ([plainExchange].take ntpClientBurst), sample.delayUs ≤ other.delayUs) ∧
      (pollServer true [plainExchange] {}).1.replies =
        BitVec.ofNat 8 (samples ([plainExchange].take ntpClientBurst)).length := by
  refine poll_truthful (fun localUs => localUs + 1700000000000000) 0 true [plainExchange] {} ?_
    (by decide)
  intro input member
  cases List.mem_singleton.mp member
  have other : getU64 (plainAnswer.packet (ntpPacketRequest 0xfedcba9876543210)) 24 ≠
      0x0123456789abcdef := by decide
  refine ⟨fun datagram member origin => ?_, fun datagram member => ?_⟩
  · rcases List.mem_pair.mp member with rfl | rfl
    · exact absurd origin other
    · refine ⟨plainAnswer, rfl, ⟨by decide, by decide⟩, ⟨by decide, by decide⟩, by decide,
        by decide, 1700000001000000, 1700000001000000, ?_⟩
      norm_num [plainExchange, plainAnswer, ServerAnswer.rootDistanceUs]
      positivity
  · have later : plainExchange.t1 ≤ datagram.t4 := by
      rcases List.mem_pair.mp member with rfl | rfl <;> decide
    refine ⟨later, fun first second _ _ _ => ?_⟩
    ring_nf
    norm_num

end GpsClock.Ntp
