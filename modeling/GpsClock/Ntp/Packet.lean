import Mathlib

/-! # NTP packets

`ntp_packet.cpp`: a request that carries a random number for its transmit time, and what
is read from what comes back. A time of 64 bits is told from 1968 on, to the microsecond
it is in (`GpsClock.Ntp.ntpTimestampToUnixUs_stamp`); and a server's answer to a request is
read as what the server put into it (`GpsClock.Ntp.ntpPacketParse_answer`).
-/

namespace GpsClock.Ntp

/-- `NTP_PACKET_BYTES`. -/
abbrev ntpPacketBytes : Nat := 48

/-- `NTP_UNIX_OFFSET_S`. -/
abbrev ntpUnixOffsetS : Int := 2208988800

/-- `NTP_ERA_S`. -/
abbrev ntpEraS : Int := 4294967296

/-- `get_u32`. -/
def getU32 (packet : List (BitVec 8)) (index : Nat) : BitVec 32 :=
  packet.getD index 0 ++ packet.getD (index + 1) 0 ++ packet.getD (index + 2) 0 ++
    packet.getD (index + 3) 0

/-- `get_u64`. -/
def getU64 (packet : List (BitVec 8)) (index : Nat) : BitVec 64 :=
  getU32 packet index ++ getU32 packet (index + 4)

/-- `short_to_us`: 32 bits of the product. -/
def shortToUs (value : BitVec 32) : Nat :=
  value.toNat * 1000000 / 65536 % 4294967296

/-- `ntp_timestamp_to_unix_us`. -/
def ntpTimestampToUnixUs (timestamp : BitVec 64) : Int :=
  let seconds : Int := timestamp.toNat / 4294967296
  let micros : Int := timestamp.toNat % 4294967296 * 1000000 / 4294967296
  let seconds := if seconds < 2147483648 then seconds + ntpEraS else seconds
  (seconds - ntpUnixOffsetS) * 1000000 + micros

/-- `NtpReplyResult`. -/
inductive NtpReplyResult
  | ok
  | short
  | notServer
  | wrongOrigin
  | kiss
  | unsynchronised
  | badTime
  deriving DecidableEq, Repr

structure NtpReply where
  leap : BitVec 8 := 0
  stratum : BitVec 8 := 0
  rootDelayUs : Nat := 0
  rootDispersionUs : Nat := 0
  receiveUtcUs : Int := 0
  transmitUtcUs : Int := 0
  kiss : List (BitVec 8) := [0, 0, 0, 0]
  deriving DecidableEq, Repr

/-- A number's eight bytes, the most significant first. -/
def bytes64 (value : BitVec 64) : List (BitVec 8) :=
  [value.extractLsb' 56 8, value.extractLsb' 48 8, value.extractLsb' 40 8,
    value.extractLsb' 32 8, value.extractLsb' 24 8, value.extractLsb' 16 8,
    value.extractLsb' 8 8, value.extractLsb' 0 8]

/-- `ntp_packet_request`: no leap warning, version 4, client. -/
def ntpPacketRequest (cookie : BitVec 64) : List (BitVec 8) :=
  0x23 :: (List.replicate 39 0 ++ bytes64 cookie)

/-- `ntp_packet_parse`. -/
def ntpPacketParse (packet : List (BitVec 8)) (cookie : BitVec 64) : NtpReplyResult × NtpReply :=
  if packet.length < ntpPacketBytes then (.short, {})
  else if packet.getD 0 0 &&& 7 ≠ 4 then (.notServer, {})
  else if getU64 packet 24 ≠ cookie then (.wrongOrigin, {})
  else
    let reply : NtpReply := { leap := packet.getD 0 0 >>> 6, stratum := packet.getD 1 0 }
    if reply.stratum = 0 then (.kiss, { reply with kiss := (packet.drop 12).take 4 })
    else if reply.leap = 3 ∨ 15 < reply.stratum then (.unsynchronised, reply)
    else
      let reply : NtpReply :=
        { reply with
          rootDelayUs := shortToUs (getU32 packet 4)
          rootDispersionUs := shortToUs (getU32 packet 8) }
      let receive := getU64 packet 32
      let transmit := getU64 packet 40
      if receive = 0 ∨ transmit = 0 then (.badTime, reply)
      else
        let reply : NtpReply :=
          { reply with
            receiveUtcUs := ntpTimestampToUnixUs receive
            transmitUtcUs := ntpTimestampToUnixUs transmit }
        if reply.transmitUtcUs < reply.receiveUtcUs then (.badTime, reply) else (.ok, reply)

/-! ## Times -/

/-- A time as a server sends it, of one counted from 1970 in units of 2^-32 of a second. -/
def stamp (instant : Int) : BitVec 64 :=
  BitVec.ofInt 64 (instant + ntpUnixOffsetS * 4294967296)

/-- The times told apart: 2^32 seconds from January 1968 on. -/
structure Told (instant : Int) : Prop where
  least : -61505152 * 4294967296 ≤ instant
  most : instant < 4233462144 * 4294967296

theorem ntpTimestampToUnixUs_stamp {instant : Int} (told : Told instant) :
    ntpTimestampToUnixUs (stamp instant) = instant * 1000000 / 4294967296 := by
  obtain ⟨least, most⟩ := told
  have value : ((stamp instant).toNat : Int) =
      (instant + 2208988800 * 4294967296) % 18446744073709551616 := by
    have size : ((2 ^ 64 : Nat) : Int) = 18446744073709551616 := by norm_num
    rw [stamp, BitVec.toNat_ofInt, size]
    exact Int.toNat_of_nonneg (Int.emod_nonneg _ (by omega))
  unfold ntpTimestampToUnixUs
  dsimp only
  rw [value]
  dsimp only [ntpEraS, ntpUnixOffsetS]
  by_cases era : instant + 2208988800 * 4294967296 < 18446744073709551616
  · rw [Int.emod_eq_of_lt (by omega) era, if_neg (by omega)]
    omega
  · have later : (instant + 2208988800 * 4294967296) % 18446744073709551616 =
        instant + 2208988800 * 4294967296 - 18446744073709551616 := by omega
    rw [later, if_pos (by omega)]
    omega

/-! ## An answer -/

/-- What a server answers a request with: its own fields, and when it received the request
and sent this, by its clock. -/
structure ServerAnswer where
  leap : BitVec 2
  version : BitVec 3
  stratum : BitVec 8
  interval : BitVec 8
  precision : BitVec 8
  rootDelay : BitVec 32
  rootDispersion : BitVec 32
  referenceId : BitVec 32
  reference : BitVec 64
  receive : Int
  transmit : Int

/-- A number's four bytes, the most significant first. -/
def bytes32 (value : BitVec 32) : List (BitVec 8) :=
  [value.extractLsb' 24 8, value.extractLsb' 16 8, value.extractLsb' 8 8, value.extractLsb' 0 8]

/-- The packet, which echoes the request's transmit time as its origin. -/
def ServerAnswer.packet (answer : ServerAnswer) (request : List (BitVec 8)) : List (BitVec 8) :=
  (answer.leap ++ answer.version ++ (4 : BitVec 3)) :: answer.stratum :: answer.interval ::
    answer.precision :: (bytes32 answer.rootDelay ++ bytes32 answer.rootDispersion ++
      bytes32 answer.referenceId ++ bytes64 answer.reference ++ (request.drop 40).take 8 ++
      bytes64 (stamp answer.receive) ++ bytes64 (stamp answer.transmit))

theorem bytes32_join (value : BitVec 32) :
    value.extractLsb' 24 8 ++ value.extractLsb' 16 8 ++ value.extractLsb' 8 8 ++
      value.extractLsb' 0 8 = value := by
  rw [BitVec.extractLsb'_append_extractLsb'_eq_extractLsb' (by decide),
    BitVec.extractLsb'_append_extractLsb'_eq_extractLsb' (by decide),
    BitVec.extractLsb'_append_extractLsb'_eq_extractLsb' (by decide)]
  exact BitVec.extractLsb'_eq_self

theorem bytes64_join (value : BitVec 64) :
    (value.extractLsb' 56 8 ++ value.extractLsb' 48 8 ++ value.extractLsb' 40 8 ++
        value.extractLsb' 32 8) ++
      (value.extractLsb' 24 8 ++ value.extractLsb' 16 8 ++ value.extractLsb' 8 8 ++
        value.extractLsb' 0 8) = value := by
  have high : value.extractLsb' 56 8 ++ value.extractLsb' 48 8 ++ value.extractLsb' 40 8 ++
      value.extractLsb' 32 8 = value.extractLsb' 32 32 := by
    rw [BitVec.extractLsb'_append_extractLsb'_eq_extractLsb' (by decide),
      BitVec.extractLsb'_append_extractLsb'_eq_extractLsb' (by decide),
      BitVec.extractLsb'_append_extractLsb'_eq_extractLsb' (by decide)]
  have low : value.extractLsb' 24 8 ++ value.extractLsb' 16 8 ++ value.extractLsb' 8 8 ++
      value.extractLsb' 0 8 = value.extractLsb' 0 32 := by
    rw [BitVec.extractLsb'_append_extractLsb'_eq_extractLsb' (by decide),
      BitVec.extractLsb'_append_extractLsb'_eq_extractLsb' (by decide),
      BitVec.extractLsb'_append_extractLsb'_eq_extractLsb' (by decide)]
  rw [high, low]
  exact BitVec.extractLsb'_append_extractLsb'

theorem mode_server (leap : BitVec 2) (version : BitVec 3) :
    (leap ++ version ++ (4 : BitVec 3)) &&& 7 = (4 : BitVec 8) ∧
      (leap ++ version ++ (4 : BitVec 3)) >>> 6 = (leap.setWidth 8 : BitVec 8) := by
  revert leap version
  decide

/-- Where a packet's fields are. -/
theorem packet_fields (answer : ServerAnswer) (cookie : BitVec 64) :
    let packet := answer.packet (ntpPacketRequest cookie)
    packet.length = 48 ∧ packet.getD 0 0 = answer.leap ++ answer.version ++ (4 : BitVec 3) ∧
      packet.getD 1 0 = answer.stratum ∧ getU32 packet 4 = answer.rootDelay ∧
      getU32 packet 8 = answer.rootDispersion ∧ getU64 packet 24 = cookie ∧
      getU64 packet 32 = stamp answer.receive ∧ getU64 packet 40 = stamp answer.transmit :=
  ⟨rfl, rfl, rfl, bytes32_join _, bytes32_join _, bytes64_join _, bytes64_join _, bytes64_join _⟩

/-- What has been checked and read of a packet that is accepted. -/
theorem parse_accepted {packet : List (BitVec 8)} {cookie : BitVec 64} {reply : NtpReply}
    (accepted : ntpPacketParse packet cookie = (.ok, reply)) :
    getU64 packet 24 = cookie ∧ reply.rootDelayUs = shortToUs (getU32 packet 4) ∧
      reply.rootDispersionUs = shortToUs (getU32 packet 8) ∧
      reply.receiveUtcUs = ntpTimestampToUnixUs (getU64 packet 32) ∧
      reply.transmitUtcUs = ntpTimestampToUnixUs (getU64 packet 40) ∧
      reply.receiveUtcUs ≤ reply.transmitUtcUs := by
  unfold ntpPacketParse at accepted
  split at accepted
  · cases congrArg Prod.fst accepted
  split at accepted
  · cases congrArg Prod.fst accepted
  split at accepted
  · cases congrArg Prod.fst accepted
  · next origin =>
      dsimp only at accepted
      split at accepted
      · cases congrArg Prod.fst accepted
      split at accepted
      · cases congrArg Prod.fst accepted
      split at accepted
      · cases congrArg Prod.fst accepted
      split at accepted
      · cases congrArg Prod.fst accepted
      · next ordered =>
          cases congrArg Prod.snd accepted
          exact ⟨Decidable.not_not.mp origin, rfl, rfl, rfl, rfl, Int.not_lt.mp ordered⟩

/-- A server's answer that can be used: its clock is set, and it is sent no earlier than the
request is received. -/
structure ServerAnswer.Synchronised (answer : ServerAnswer) : Prop where
  leap : answer.leap ≠ 3
  stratumLeast : answer.stratum ≠ 0
  stratumMost : answer.stratum ≤ 15
  received : stamp answer.receive ≠ 0
  sent : stamp answer.transmit ≠ 0
  receiveTold : Told answer.receive
  transmitTold : Told answer.transmit
  ordered : answer.receive ≤ answer.transmit

/-- An answer to this request is read as what the server put into it. -/
theorem ntpPacketParse_answer {answer : ServerAnswer} (usable : answer.Synchronised)
    (cookie : BitVec 64) :
    ntpPacketParse (answer.packet (ntpPacketRequest cookie)) cookie =
      (.ok,
        { leap := answer.leap.setWidth 8
          stratum := answer.stratum
          rootDelayUs := shortToUs answer.rootDelay
          rootDispersionUs := shortToUs answer.rootDispersion
          receiveUtcUs := answer.receive * 1000000 / 4294967296
          transmitUtcUs := answer.transmit * 1000000 / 4294967296 }) := by
  obtain ⟨length, first, stratum, delay, dispersion, origin, receive, transmit⟩ :=
    packet_fields answer cookie
  obtain ⟨mode, leap⟩ := mode_server answer.leap answer.version
  have read := usable.ordered
  have synchronised : (answer.leap.setWidth 8 : BitVec 8) ≠ 3 := by
    have given := usable.leap
    revert given
    generalize answer.leap = leap
    revert leap
    decide
  have limit := usable.stratumMost
  unfold ntpPacketParse
  rw [if_neg (by rw [length]; decide), first, mode, if_neg (by decide), origin,
    if_neg (by exact fun differs => differs rfl)]
  dsimp only
  rw [stratum, if_neg usable.stratumLeast, leap, if_neg (by
    rintro (same | more)
    · exact synchronised same
    · exact absurd limit (BitVec.not_le.mpr more)), delay, dispersion, receive, transmit,
    if_neg (by rintro (none | none) <;> [exact usable.received none; exact usable.sent none]),
    ntpTimestampToUnixUs_stamp usable.receiveTold, ntpTimestampToUnixUs_stamp usable.transmitTold,
    if_neg (by omega)]

end GpsClock.Ntp
