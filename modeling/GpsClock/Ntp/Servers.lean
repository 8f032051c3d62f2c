import GpsClock.Ntp.Client
import GpsClock.Ntp.Select

/-! # The servers

`ntp.cpp`: up to four servers polled one at a time by a task of its own, one of them
followed, and the clock given what that one says. A pass of `ntp_service` takes a poll's
result, if there is one, and starts the next poll that is due; a server whose name has
changed starts again once it is not being polled.

What floating point finds in samples is given, as is what each reading of the timer gives.
-/

namespace GpsClock.Ntp

/-- `NTP_SERVERS`. -/
abbrev ntpServers : Nat := 4

/-- `LEARN_FIRST_S`. -/
abbrev learnFirstS : Nat := 64

/-- `POLL_MIN_S`. -/
abbrev pollMinS : Nat := 128

/-- `POLL_START_S`. -/
abbrev pollStartS : Nat := 256

/-- `POLL_QUIET_US`. -/
abbrev pollQuietUs : Int := 500

/-- `POLL_QUIET_RUN`. -/
abbrev pollQuietRun : Nat := 4

/-- `POLL_LOUD_US`. -/
abbrev pollLoudUs : Int := 2000

/-- `RETRY_FIRST_S`. -/
abbrev retryFirstS : Nat := 60

/-- `SYNC_SLACK_S`. -/
abbrev syncSlackS : Nat := 300

/-- `IPV6_WAIT_MS`. -/
abbrev ipv6WaitMs : BitVec 32 := 15000

/-- `HISTORY`. -/
abbrev historySamples : Nat := 8

/-- `REACH_RECENT`. -/
abbrev reachRecent : BitVec 8 := 7

structure NtpServerAddress where
  ipv6 : Bool
  bytes : List (BitVec 8)
  zone : BitVec 8
  deriving DecidableEq, Repr

structure NtpServer where
  host : String := ""
  configured : Bool := false
  nextPollUs : Int := 0
  due : Bool := false
  resync : Bool := false
  retryS : Nat := 0
  learnStep : Nat := 0
  reach : BitVec 8 := 0
  targets : List NtpServerAddress := []
  target : Nat := 0
  history : List EspClockSample := List.replicate historySamples {}
  count : Nat := 0
  next : Nat := 0
  measuredUs : Int := 0
  appliedLocalUs : Int := 0
  last : NtpPollResult := {}
  haveLast : Bool := false
  offsetUs : Int := 0
  distanceUs : Int := 0
  jitterUs : Int := 0
  verdict : NtpVerdict := .none
  polls : BitVec 32 := 0
  goodPolls : BitVec 32 := 0
  fallbacks : BitVec 32 := 0
  dnsFailures : BitVec 32 := 0
  deriving DecidableEq, Repr

/-- `fed_by`: no server yet, one since changed, or one as it is. -/
inductive FedBy
  | nobody
  | other
  | server (index : Fin ntpServers)
  deriving DecidableEq, Repr

/-- The client's task: `running` from its notification until its result is there, and `busy`
for as long and until it has said so. -/
structure NtpClient where
  busy : Bool := false
  running : Bool := false
  result : Option NtpPollResult := none
  deriving DecidableEq, Repr

/-- A poll asked of the client's task, its result, a sample that a server is credited with, or
one given to the clock. -/
inductive NtpCall
  | asked (index : Fin ntpServers) (host : String)
  | published (poll : NtpPollResult)
  | answered (index : Fin ntpServers) (sample : EspClockSample)
  | update (index : Fin ntpServers) (sample : EspClockSample)
  deriving DecidableEq, Repr

/-- `Ntp`, the clock and the client; and, latest first, what has passed between them, which
nothing reads. -/
structure NtpState where
  servers : Fin ntpServers → NtpServer
  peer : Option (Fin ntpServers) := none
  polling : Option (Fin ntpServers) := none
  fedBy : FedBy := .nobody
  disagree : Bool := false
  maxIntervalS : Nat
  intervalS : Nat
  quiet : Nat := 0
  polledOnLink : Bool := false
  networkWasUp : Bool := false
  networkUpMs : BitVec 32 := 0
  clock : EspClock := {}
  client : NtpClient := {}
  calls : List NtpCall := []

/-- The settings: each server's name, and `ntp.interval`. -/
structure NtpPrefs where
  hosts : Fin ntpServers → String
  interval : Nat

/-- What one `select_server` reads: the timer for it and for either `apply` of it, what
`estimate_frequency` finds in either, and what the samples' spreads come to. -/
structure SelectReads where
  firstUs : Int
  firstEstimate : Option (Int × Nat)
  nowUs : Int
  jitter : Fin ntpServers → Int
  applyUs : Int
  applyEstimate : Option (Int × Nat)

/-- `reset_server`, the server. -/
def freshServer (host : String) : NtpServer where
  host := host
  configured := host ≠ ""
  due := true
  retryS := retryFirstS
  verdict := if host ≠ "" then .unusable else .none

namespace NtpClient

/-- `ntp_client_poll`. -/
def poll (client : NtpClient) : Option NtpClient :=
  if client.busy then none else some { client with busy := true, running := true }

/-- `client_task`, its result. -/
def publish (client : NtpClient) (poll : NtpPollResult) : NtpClient :=
  { client with running := false, result := some poll }

/-- `client_task`, done. -/
def rest (client : NtpClient) : NtpClient := { client with busy := false }

end NtpClient

namespace NtpServer

/-- `latest`. -/
def latest (server : NtpServer) : EspClockSample :=
  server.history.getD ((server.next + historySamples - 1) % historySamples) {}

/-- `root_distance_us`. -/
def rootDistanceUs (server : NtpServer) (clock : EspClock) (nowUs : Int) : Int :=
  let sample := server.latest
  let age := nowUs - sample.localUs
  let age := if age < 0 then 0 else age
  let distance := sample.delayUs.tdiv 2 + (sample.rootDelayUs / 2 : Nat) + sample.rootDispersionUs +
    server.jitterUs + (age * clock.driftPpm).tdiv 1000000
  if 0 < distance then distance else 1

/-- `usable`. -/
def usable (server : NtpServer) (maxIntervalS : Nat) (nowUs : Int) : Bool :=
  server.configured && decide (server.count ≠ 0) && decide (server.reach &&& reachRecent ≠ 0) &&
    decide (nowUs - server.latest.localUs ≤ (2 * maxIntervalS + syncSlackS) * 1000000)

/-- `jitter_us`, with what the spread comes to. -/
def jitter (server : NtpServer) (spreadUs : Int) : Int :=
  if server.count < 3 then 0 else spreadUs

/-- `handle_poll`, a good sample. -/
def store (server : NtpServer) (sample : EspClockSample) : NtpServer :=
  { server with
    history := server.history.set server.next sample
    next := (server.next + 1) % historySamples
    count := if server.count < historySamples then server.count + 1 else server.count }

end NtpServer

/-- `against_clock`. -/
def againstClock (clock : EspClock) (sample : EspClockSample) : Int := clock.errorOf sample

namespace NtpState

/-- One server, changed. -/
def set (ntp : NtpState) (index : Fin ntpServers) (server : NtpServer) : NtpState :=
  { ntp with servers := Function.update ntp.servers index server }

/-- `reset_server`. -/
def resetServer (ntp : NtpState) (index : Fin ntpServers) (host : String) : NtpState :=
  { ntp.set index (freshServer host) with
    peer := if ntp.peer = some index then none else ntp.peer
    fedBy := if ntp.fedBy = .server index then .other else ntp.fedBy }

/-- `ntp_init`. -/
def init (prefs : NtpPrefs) : NtpState where
  servers index := freshServer (prefs.hosts index)
  maxIntervalS := prefs.interval
  intervalS := if pollStartS < prefs.interval then pollStartS else prefs.interval

/-- `ntp_resync`. -/
def resync (ntp : NtpState) : NtpState :=
  { ntp with servers := fun index => { ntp.servers index with due := true, resync := true } }

/-- `adapt_interval`. -/
def adaptInterval (ntp : NtpState) (errorUs : Int) : NtpState :=
  let longest := ntp.maxIntervalS
  let shortest := if pollMinS < longest then pollMinS else longest
  let errorUs := if errorUs < 0 then -errorUs else errorUs
  let (interval, quiet) :=
    if pollLoudUs < errorUs then (ntp.intervalS / 2, 0)
    else if errorUs < pollQuietUs then
      if pollQuietRun ≤ ntp.quiet + 1 then (ntp.intervalS * 2, 0) else (ntp.intervalS, ntp.quiet + 1)
    else (ntp.intervalS, ntp.quiet)
  let interval := if longest < interval then longest else interval
  { ntp with
    intervalS := if interval < shortest then shortest else interval
    quiet := quiet }

/-- `next_delay_s`. -/
def nextDelayS (ntp : NtpState) (server : NtpServer) (good : Bool) : Nat × NtpServer :=
  if !good then
    (server.retryS,
      { server with
        retryS := if ntp.intervalS < server.retryS * 2 then ntp.intervalS else server.retryS * 2 })
  else
    let server := { server with retryS := retryFirstS }
    if ntp.clock.status.frequencySamples < 2 ∧ server.learnStep < 3 then
      let delay := learnFirstS <<< server.learnStep
      (if delay < ntp.intervalS then delay else ntp.intervalS,
        { server with learnStep := server.learnStep + 1 })
    else (ntp.intervalS, server)

/-- `schedule_next`. -/
def scheduleNext (ntp : NtpState) (index : Fin ntpServers) (good : Bool) (nowUs : Int) : NtpState :=
  let (delay, server) := ntp.nextDelayS (ntp.servers index) good
  ntp.set index { server with nextPollUs := nowUs + delay * 1000000, due := server.resync }

/-- `apply`, its call of the clock. -/
def feed (ntp : NtpState) (index : Fin ntpServers) : NtpState :=
  if ntp.fedBy = .server index then ntp
  else
    { ntp with
      clock := if ntp.fedBy = .nobody then ntp.clock else ntp.clock.newReference
      fedBy := .server index }

/-- `apply`. -/
def apply (ntp : NtpState) (index : Fin ntpServers) (nowUs : Int) (estimate : Option (Int × Nat)) : NtpState :=
  let server := ntp.servers index
  let sample := server.latest
  if server.count = 0 ∨ server.appliedLocalUs = sample.localUs then ntp
  else
    let ntp := (ntp.feed index).set index { server with appliedLocalUs := sample.localUs }
    let (action, clock) := ntp.clock.update
      { sample := sample
        nowUs := nowUs
        timeConstantUs := ntp.intervalS * 2000000
        estimate := estimate }
    let ntp := { ntp with clock := clock, calls := .update index sample :: ntp.calls }
    if 2 ≤ clock.status.frequencySamples ∧ action ≠ .stepped then
      ntp.adaptInterval clock.status.lastErrorUs
    else ntp

/-- `select_server`, a server's figures. -/
def weighed (ntp : NtpState) (reads : SelectReads) (index : Fin ntpServers) : NtpServer :=
  let server := ntp.servers index
  if server.count = 0 then server
  else
    let server := { server with jitterUs := server.jitter (reads.jitter index) }
    { server with
      offsetUs := againstClock ntp.clock server.latest
      distanceUs := server.rootDistanceUs ntp.clock reads.nowUs }

/-- `select_server`, the candidates. -/
def candidates (ntp : NtpState) (reads : SelectReads) : List NtpCandidate :=
  List.ofFn fun index : Fin ntpServers =>
    let server := ntp.weighed reads index
    { configured := server.configured
      usable := server.usable ntp.maxIntervalS reads.nowUs
      offsetUs := server.offsetUs
      distanceUs := server.distanceUs }

/-- A server's number; `ntp_select` gives no other. -/
def serverNumber (selected : Option Nat) : Option (Fin ntpServers) :=
  selected.bind fun index => if inside : index < ntpServers then some ⟨index, inside⟩ else none

/-- `select_server`, once the clock is set. -/
def choose (ntp : NtpState) (reads : SelectReads) : NtpState :=
  let selection := ntpSelect (ntp.candidates reads) (ntp.peer.map Fin.val)
  let ntp :=
    { ntp with
      servers := fun index =>
        { ntp.weighed reads index with verdict := selection.verdict index }
      peer := serverNumber selection.selected
      disagree := !selection.majority && decide (2 ≤ selection.usable) }
  match ntp.peer with
  | some index => ntp.apply index reads.applyUs reads.applyEstimate
  | none => ntp

/-- `select_server`. -/
def selectServer (ntp : NtpState) (fresh : Option (Fin ntpServers)) (reads : SelectReads) : NtpState :=
  if ntp.clock.status.valid then ntp.choose reads
  else
    match fresh with
    | none => ntp
    | some index =>
        if (ntp.servers index).count = 0 then ntp
        else
          ({ ntp with peer := some index }.apply index reads.firstUs reads.firstEstimate).choose reads

/-- `handle_poll`. -/
def handlePoll (ntp : NtpState) (index : Fin ntpServers) (poll : NtpPollResult) (reads : SelectReads)
    (scheduleUs : Int) : NtpState :=
  let server := ntp.servers index
  let server :=
    { server with
      last := poll
      haveLast := true
      polls := server.polls + 1
      reach := server.reach <<< 1 ||| (if poll.ok then 1 else 0) }
  if !poll.ok then
    ((ntp.set index server).scheduleNext index false scheduleUs).selectServer none reads
  else
    let server :=
      { server with
        goodPolls := server.goodPolls + 1
        measuredUs := if ntp.clock.status.valid then againstClock ntp.clock poll.sample else 0 }
    let ntp :=
      { ntp.set index (server.store poll.sample) with
        calls := .answered index poll.sample :: ntp.calls }
    (ntp.selectServer (some index) reads).scheduleNext index true scheduleUs

/-- `start_poll`. -/
def startPoll (ntp : NtpState) (index : Fin ntpServers) : NtpState :=
  match ntp.client.poll with
  | none => ntp
  | some client =>
      { ntp with
        client := client
        polling := some index
        calls := .asked index (ntp.servers index).host :: ntp.calls }

/-- `check_settings`, one server. -/
def checkServer (prefs : NtpPrefs) (reads : Fin ntpServers → SelectReads) (ntp : NtpState)
    (index : Fin ntpServers) : NtpState :=
  if some index ≠ ntp.polling ∧ (ntp.servers index).host ≠ prefs.hosts index then
    (ntp.resetServer index (prefs.hosts index)).selectServer none (reads index)
  else ntp

/-- `check_settings`. -/
def checkSettings (ntp : NtpState) (prefs : NtpPrefs) (reads : Fin ntpServers → SelectReads) : NtpState :=
  let ntp :=
    if ntp.maxIntervalS ≠ prefs.interval then
      { ntp with
        maxIntervalS := prefs.interval
        intervalS := if prefs.interval < ntp.intervalS then prefs.interval else ntp.intervalS }
    else ntp
  (List.finRange ntpServers).foldl (checkServer prefs reads) ntp

/-- No reply at all, rather than a refusal or a bad one. -/
def silent (poll : NtpPollResult) : Bool :=
  !poll.ok && decide (poll.kiss.headD 0 = 0) && decide (poll.lastResult = .ok)

/-- `take_result`. -/
def takeResult (ntp : NtpState) (prefs : NtpPrefs) (networkUp : Bool) (reads : SelectReads)
    (scheduleUs : Int) : NtpState :=
  match ntp.polling, ntp.client.result with
  | some index, some poll =>
      let ntp := { ntp with client := { ntp.client with result := none }, polling := none }
      let server := ntp.servers index
      if server.host ≠ prefs.hosts index then ntp
      else if silent poll ∧ server.target + 1 < server.targets.length ∧ networkUp then
        (ntp.set index
          { server with target := server.target + 1, fallbacks := server.fallbacks + 1 }).startPoll index
      else ntp.handlePoll index poll reads scheduleUs
  | _, _ => ntp

/-- `next_due`, one server against the one chosen so far. -/
def dueBefore (ntp : NtpState) (nowUs : Int) (chosen : Option (Fin ntpServers))
    (index : Fin ntpServers) : Option (Fin ntpServers) :=
  let server := ntp.servers index
  if !server.configured || !server.due && decide (nowUs < server.nextPollUs) then chosen
  else
    match chosen with
    | none => some index
    | some best =>
        let other := ntp.servers best
        if server.due && !other.due ||
            decide (server.due = other.due) && decide (server.nextPollUs < other.nextPollUs) then
          some index
        else some best

/-- `next_due`. -/
def nextDue (ntp : NtpState) (nowUs : Int) : Option (Fin ntpServers) :=
  (List.finRange ntpServers).foldl (ntp.dueBefore nowUs) none

/-- What a pass of `ntp_service` is given and reads. -/
structure ServiceInput where
  prefs : NtpPrefs
  networkUp : Bool
  checkReads : Fin ntpServers → SelectReads
  takeReads : SelectReads
  takeUs : Int
  upMs : BitVec 32
  waitMs : BitVec 32
  ipv6Ready : Bool
  dueUs : Int
  resolve : String → List NtpServerAddress
  failReads : SelectReads
  failUs : Int

/-- `ntp_service`, a poll of the server that is next. -/
def pollNext (ntp : NtpState) (input : ServiceInput) : NtpState :=
  match ntp.nextDue input.dueUs with
  | none => ntp
  | some index =>
      let server := ntp.servers index
      let targets := input.resolve server.host
      let server :=
        { server with due := false, resync := false, targets := targets, target := 0 }
      let ntp := { ntp with polledOnLink := true }
      if targets.length = 0 then
        (ntp.set index { server with dnsFailures := server.dnsFailures + 1 }).handlePoll index
          { dnsFailed := true } input.failReads input.failUs
      else (ntp.set index server).startPoll index

/-- `ntp_service`, from the network on. -/
def serviceNetwork (ntp : NtpState) (input : ServiceInput) : NtpState :=
  if !input.networkUp then
    { ntp with
      servers := fun index => { ntp.servers index with due := true }
      polledOnLink := false
      networkWasUp := false }
  else
    let ntp :=
      if !ntp.networkWasUp then { ntp with networkWasUp := true, networkUpMs := input.upMs }
      else ntp
    if !ntp.polledOnLink ∧ !input.ipv6Ready ∧ input.waitMs - ntp.networkUpMs < ipv6WaitMs then ntp
    else if ntp.polling.isSome ∨ ntp.client.busy then ntp
    else ntp.pollNext input

/-- `ntp_service`. -/
def service (ntp : NtpState) (input : ServiceInput) : NtpState :=
  ((ntp.checkSettings input.prefs input.checkReads).takeResult input.prefs input.networkUp
    input.takeReads input.takeUs).serviceNetwork input

end NtpState

/-- What happens: a pass of the main loop, a resync asked for, the task's result, and the
task's end. -/
inductive NtpAct
  | service (input : NtpState.ServiceInput)
  | resync
  | published (poll : NtpPollResult)
  | rested

namespace NtpState

/-- The servers from `ntp_init` on. -/
def machine : Machine NtpState NtpAct where
  start ntp := ∃ prefs, ntp = init prefs
  step ntp act :=
    match act with
    | .service input => ntp.service input
    | .resync => ntp.resync
    | .published poll =>
        { ntp with client := ntp.client.publish poll, calls := .published poll :: ntp.calls }
    | .rested => { ntp with client := ntp.client.rest }

/-- The task does what it is asked to, in order. -/
def Admits (ntp : NtpState) : NtpAct → Prop
  | .published _ => ntp.client.running = true
  | .rested => ntp.client.running = false
  | _ => True

end NtpState

end GpsClock.Ntp
