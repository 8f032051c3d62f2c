import GpsClock.Lib.Recent
import GpsClock.Ntp.Servers

/-! # One server at a time

What the clock's window holds came from one server, polled under one name: whatever servers
are followed, whatever names change, and whatever the task is doing when they do
(`GpsClock.Ntp.NtpState.window_of_one_server`). It is seen on the part of the state that
decides it, in which following a server is no more than giving its latest sample.
-/

namespace GpsClock.Ntp

/-- A server's name and its samples. -/
structure ServerCore where
  host : String
  history : List EspClockSample
  count : Nat
  next : Nat
  appliedLocalUs : Int

/-- The servers' names and samples, the polls, and the clock's window. -/
@[ext]
structure NtpCore where
  servers : Fin ntpServers → ServerCore
  polling : Option (Fin ntpServers)
  client : NtpClient
  fedBy : FedBy
  window : List RawSample
  windowCount : Nat
  windowNext : Nat
  calls : List NtpCall

def NtpServer.core (server : NtpServer) : ServerCore where
  host := server.host
  history := server.history
  count := server.count
  next := server.next
  appliedLocalUs := server.appliedLocalUs

def NtpState.core (ntp : NtpState) : NtpCore where
  servers index := (ntp.servers index).core
  polling := ntp.polling
  client := ntp.client
  fedBy := ntp.fedBy
  window := ntp.clock.window
  windowCount := ntp.clock.windowCount
  windowNext := ntp.clock.windowNext
  calls := ntp.calls

/-- What the clock keeps of a sample. -/
def EspClockSample.raw (sample : EspClockSample) : RawSample :=
  ⟨sample.localUs, sample.offsetUs, sample.delayUs⟩

def ServerCore.latest (server : ServerCore) : EspClockSample :=
  server.history.getD ((server.next + historySamples - 1) % historySamples) {}

namespace NtpCore

/-- Samples of another server than the window's start it again. -/
def feed (core : NtpCore) (index : Fin ntpServers) : NtpCore :=
  if core.fedBy = .server index then core
  else
    { core with
      windowCount := if core.fedBy = .nobody then core.windowCount else 0
      windowNext := if core.fedBy = .nobody then core.windowNext else 0
      fedBy := .server index }

/-- A server's latest sample to the clock. -/
def give (core : NtpCore) (index : Fin ntpServers) : NtpCore :=
  let server := core.servers index
  { core with
    servers :=
      Function.update core.servers index { server with appliedLocalUs := server.latest.localUs }
    window := core.window.set core.windowNext server.latest.raw
    windowNext := (core.windowNext + 1) % espClockWindow
    windowCount :=
      if core.windowCount < espClockWindow then core.windowCount + 1 else core.windowCount
    calls := .update index server.latest :: core.calls }

/-- `apply`, unless the clock has had it. -/
def apply (core : NtpCore) (index : Fin ntpServers) : NtpCore :=
  if (core.servers index).count = 0 ∨
      (core.servers index).appliedLocalUs = (core.servers index).latest.localUs then core
  else (core.feed index).give index

end NtpCore

namespace NtpState

variable {ntp : NtpState}

theorem adaptInterval_core (ntp : NtpState) (errorUs : Int) :
    (ntp.adaptInterval errorUs).core = ntp.core := by
  rw [adaptInterval]
  rfl

theorem set_core (ntp : NtpState) (index : Fin ntpServers) (server : NtpServer) :
    (ntp.set index server).core =
      { ntp.core with servers := Function.update ntp.core.servers index server.core } := by
  rw [core, set]
  congr 1
  funext other
  exact Function.apply_update (fun _ => NtpServer.core) ntp.servers index server other

theorem set_same (ntp : NtpState) {index : Fin ntpServers} {server : NtpServer}
    (same : server.core = (ntp.servers index).core) : (ntp.set index server).core = ntp.core := by
  rw [set_core, same]
  exact congrArg (fun servers => { ntp.core with servers := servers })
    (Function.update_eq_self index ntp.core.servers)

theorem scheduleNext_core (ntp : NtpState) (index : Fin ntpServers) (good : Bool) (nowUs : Int) :
    (ntp.scheduleNext index good nowUs).core = ntp.core := by
  have same : (ntp.nextDelayS (ntp.servers index) good).2.core = (ntp.servers index).core := by
    rw [nextDelayS]
    split
    · rfl
    · dsimp only
      split <;> rfl
  rw [scheduleNext]
  exact ntp.set_same same

end NtpState

namespace EspClock

/-- An update puts its sample into the window, and nothing else does anything to it. -/
theorem update_window (clock : EspClock) (input : Update) :
    ((clock.update input).2.window, (clock.update input).2.windowCount,
        (clock.update input).2.windowNext) =
      ((clock.remember input.sample).window, (clock.remember input.sample).windowCount,
        (clock.remember input.sample).windowNext) := by
  rw [update]
  dsimp only
  split
  · rfl
  · split
    · rfl
    · rw [slew]
      rfl

end EspClock

namespace NtpState

variable {ntp : NtpState}

theorem core_latest (ntp : NtpState) (index : Fin ntpServers) :
    (ntp.core.servers index).latest = (ntp.servers index).latest := rfl

theorem feed_core (ntp : NtpState) (index : Fin ntpServers) :
    (ntp.feed index).core = ntp.core.feed index := by
  rw [feed, NtpCore.feed]
  change core (if ntp.fedBy = .server index then _ else _) = if ntp.fedBy = .server index then _ else _
  by_cases same : ntp.fedBy = .server index
  · rw [if_pos same, if_pos same]
  · rw [if_neg same, if_neg same]
    by_cases first : ntp.fedBy = .nobody
    · have clock : (if ntp.fedBy = .nobody then ntp.clock else ntp.clock.newReference) =
          ntp.clock := if_pos first
      have count : (if ntp.core.fedBy = .nobody then ntp.core.windowCount else 0) =
          ntp.core.windowCount := if_pos first
      have next : (if ntp.core.fedBy = .nobody then ntp.core.windowNext else 0) =
          ntp.core.windowNext := if_pos first
      rw [clock, count, next]
      rfl
    · have clock : (if ntp.fedBy = .nobody then ntp.clock else ntp.clock.newReference) =
          ntp.clock.newReference := if_neg first
      have count : (if ntp.core.fedBy = .nobody then ntp.core.windowCount else 0) = 0 :=
        if_neg first
      have next : (if ntp.core.fedBy = .nobody then ntp.core.windowNext else 0) = 0 :=
        if_neg first
      rw [clock, count, next]
      rfl

theorem feed_servers (ntp : NtpState) (index : Fin ntpServers) :
    (ntp.feed index).servers = ntp.servers := by
  rw [feed]
  split <;> rfl

/-- Giving the clock a sample, and noting that it has had it. -/
theorem give_core (ntp : NtpState) (index : Fin ntpServers) (input : EspClock.Update)
    (sample : input.sample = (ntp.servers index).latest) :
    core { ntp.set index
        { ntp.servers index with appliedLocalUs := (ntp.servers index).latest.localUs } with
      clock := (ntp.clock.update input).2
      calls := .update index (ntp.servers index).latest :: ntp.calls } =
        ntp.core.give index := by
  obtain ⟨window, counts⟩ := Prod.mk.inj (ntp.clock.update_window input)
  obtain ⟨count, next⟩ := Prod.mk.inj counts
  rw [sample] at window count next
  have servers := congrArg NtpCore.servers (ntp.set_core index
    { ntp.servers index with appliedLocalUs := (ntp.servers index).latest.localUs })
  exact NtpCore.ext servers rfl rfl rfl window count next rfl

/-- The clock is given a sample unless it has had it. -/
theorem apply_core (ntp : NtpState) (index : Fin ntpServers) (nowUs : Int)
    (estimate : Option (Int × Nat)) :
    (ntp.apply index nowUs estimate).core = ntp.core.apply index := by
  have adapted (given : NtpState) (errorUs : Int) (condition : Prop) [Decidable condition] :
      (if condition then given.adaptInterval errorUs else given).core = given.core := by
    split
    · exact adaptInterval_core _ _
    · rfl
  rw [apply, NtpCore.apply]
  dsimp only
  by_cases had : (ntp.servers index).count = 0 ∨
      (ntp.servers index).appliedLocalUs = (ntp.servers index).latest.localUs
  · rw [if_pos had]
    exact (if_pos had).symm
  · rw [if_neg had, adapted, ← ntp.feed_servers index, ← feed_core]
    exact (give_core (ntp.feed index) index _ rfl).trans (if_neg had).symm

theorem weighed_core (ntp : NtpState) (reads : SelectReads) (index : Fin ntpServers) :
    (ntp.weighed reads index).core = (ntp.servers index).core := by
  rw [weighed]
  dsimp only
  split <;> rfl

/-- Choosing a server gives the clock no more than that server's latest sample. -/
theorem choose_core (ntp : NtpState) (reads : SelectReads) :
    ∃ given : List (Fin ntpServers), (ntp.choose reads).core = given.foldl NtpCore.apply ntp.core := by
  have same (peer : Option (Fin ntpServers)) (disagree : Bool) (verdict : Nat → NtpVerdict) :
      core { ntp with
        servers := fun index => { ntp.weighed reads index with verdict := verdict index }
        peer := peer
        disagree := disagree } = ntp.core :=
    NtpCore.ext (funext fun index => ntp.weighed_core reads index) rfl rfl rfl rfl rfl rfl rfl
  rw [choose]
  dsimp only
  split
  · next index _ =>
      refine ⟨[index], ?_⟩
      rw [apply_core, same]
      rfl
  · exact ⟨[], same _ _ _⟩

theorem selectServer_core (ntp : NtpState) (fresh : Option (Fin ntpServers)) (reads : SelectReads) :
    ∃ given : List (Fin ntpServers),
      (ntp.selectServer fresh reads).core = given.foldl NtpCore.apply ntp.core := by
  unfold selectServer
  split
  · exact ntp.choose_core reads
  · split
    · exact ⟨[], rfl⟩
    · next index =>
        split
        · exact ⟨[], rfl⟩
        · obtain ⟨given, chosen⟩ := choose_core
            (apply { ntp with peer := some index } index reads.firstUs reads.firstEstimate) reads
          refine ⟨index :: given, ?_⟩
          rw [chosen, apply_core]
          rfl

end NtpState

namespace NtpCore

/-- `reset_server`. -/
def reset (core : NtpCore) (index : Fin ntpServers) (host : String) : NtpCore :=
  { core with
    servers := Function.update core.servers index (freshServer host).core
    fedBy := if core.fedBy = .server index then .other else core.fedBy }

/-- `handle_poll`, a good sample. -/
def store (core : NtpCore) (index : Fin ntpServers) (sample : EspClockSample) : NtpCore :=
  let server := core.servers index
  { core with
    servers :=
      Function.update core.servers index
        { server with
          history := server.history.set server.next sample
          next := (server.next + 1) % historySamples
          count := if server.count < historySamples then server.count + 1 else server.count }
    calls := .answered index sample :: core.calls }

/-- `start_poll`. -/
def start (core : NtpCore) (index : Fin ntpServers) : NtpCore :=
  match core.client.poll with
  | none => core
  | some client =>
      { core with
        client := client
        polling := some index
        calls := .asked index (core.servers index).host :: core.calls }

/-- `take_result`, the result taken. -/
def taken (core : NtpCore) : NtpCore :=
  { core with client := { core.client with result := none }, polling := none }

end NtpCore

namespace NtpState

variable {ntp : NtpState}

theorem resetServer_core (ntp : NtpState) (index : Fin ntpServers) (host : String) :
    (ntp.resetServer index host).core = ntp.core.reset index host := by
  have servers := congrArg NtpCore.servers (ntp.set_core index (freshServer host))
  exact NtpCore.ext servers rfl rfl rfl rfl rfl rfl rfl

theorem startPoll_core (ntp : NtpState) (index : Fin ntpServers) :
    (ntp.startPoll index).core = ntp.core.start index := by
  have same : ntp.core.client = ntp.client := rfl
  rw [startPoll, NtpCore.start, same]
  cases ntp.client.poll with
  | none => rfl
  | some client => rfl

/-- A poll that fails gives nothing, and one that does not its sample. -/
theorem handlePoll_core (ntp : NtpState) (index : Fin ntpServers) (poll : NtpPollResult)
    (reads : SelectReads) (scheduleUs : Int) :
    ∃ given : List (Fin ntpServers),
      (ntp.handlePoll index poll reads scheduleUs).core =
        given.foldl NtpCore.apply (if poll.ok then ntp.core.store index poll.sample else ntp.core) := by
  let polled : NtpServer :=
    { ntp.servers index with
      last := poll
      haveLast := true
      polls := (ntp.servers index).polls + 1
      reach := (ntp.servers index).reach <<< 1 ||| (if poll.ok then 1 else 0) }
  let measured : NtpServer :=
    { polled with
      goodPolls := polled.goodPolls + 1
      measuredUs := if ntp.clock.status.valid then againstClock ntp.clock poll.sample else 0 }
  rw [handlePoll]
  dsimp only
  cases ok : poll.ok with
  | false =>
      simp only [Bool.not_false, if_true, Bool.false_eq_true, if_false]
      obtain ⟨given, selected⟩ := selectServer_core
        ((ntp.set index polled).scheduleNext index false scheduleUs) none reads
      have same : ((ntp.set index polled).scheduleNext index false scheduleUs).core = ntp.core :=
        (scheduleNext_core _ _ _ _).trans (ntp.set_same rfl)
      rw [same] at selected
      simp only [polled, ok, Bool.false_eq_true, if_false] at selected
      exact ⟨given, selected⟩
  | true =>
      simp only [Bool.not_true, Bool.false_eq_true, if_false, if_true]
      obtain ⟨given, selected⟩ := selectServer_core
        { ntp.set index (measured.store poll.sample) with
          calls := .answered index poll.sample :: ntp.calls } (some index) reads
      have servers := congrArg NtpCore.servers (ntp.set_core index (measured.store poll.sample))
      have same : core { ntp.set index (measured.store poll.sample) with
          calls := .answered index poll.sample :: ntp.calls } =
            ntp.core.store index poll.sample :=
        NtpCore.ext servers rfl rfl rfl rfl rfl rfl rfl
      rw [same] at selected
      simp only [measured, polled, ok, if_true] at selected
      refine ⟨given, ?_⟩
      rw [scheduleNext_core]
      exact selected

end NtpState

/-! ## What has passed -/

/-- Not a sample given to the clock. -/
def NtpCall.OfPoll : NtpCall → Bool
  | .update _ _ => false
  | _ => true

/-- A sample returned for a server: of a good result, which the task published next after it
was asked to poll that server, by that name. -/
def Returned (calls : List NtpCall) (index : Fin ntpServers) (host : String)
    (sample : EspClockSample) : Prop :=
  ∃ poll : NtpPollResult, poll.ok = true ∧ poll.sample = sample ∧
    [.answered index sample, .published poll, .asked index host] <:+: calls.filter NtpCall.OfPoll

/-- A server's latest sample, unless the clock has been given it. -/
def pending (index : Fin ntpServers) : List NtpCall → Option EspClockSample
  | [] => none
  | .answered other sample :: calls => if other = index then some sample else pending index calls
  | .update other _ :: calls => if other = index then none else pending index calls
  | _ :: calls => pending index calls

/-- Each sample given to the clock was its server's latest, and had not been given. -/
def GivenOnce : List NtpCall → Prop
  | [] => True
  | .update index sample :: calls => pending index calls = some sample ∧ GivenOnce calls
  | _ :: calls => GivenOnce calls

variable {calls : List NtpCall} {index : Fin ntpServers} {host : String} {sample : EspClockSample}

theorem Returned.later (returned : Returned calls index host sample) (call : NtpCall) :
    Returned (call :: calls) index host sample := by
  obtain ⟨poll, ok, same, infixed⟩ := returned
  refine ⟨poll, ok, same, ?_⟩
  rw [List.filter_cons]
  split
  · exact infixed.trans (List.suffix_cons _ _).isInfix
  · exact infixed

/-- The poll in flight, or its result. -/
def Asking (client : NtpClient) (calls : List NtpCall) (index : Fin ntpServers) (host : String) :
    Prop :=
  (client.running = true ∧ client.result = none ∧
    [.asked index host] <+: calls.filter NtpCall.OfPoll) ∨
  (client.running = false ∧ ∃ poll, client.result = some poll ∧
    [.published poll, .asked index host] <+: calls.filter NtpCall.OfPoll)

/-- A server's samples were returned for it by the name it has. -/
structure Credited (calls : List NtpCall) (index : Fin ntpServers) (server : ServerCore) :
    Prop where
  history : Recent historySamples server.history server.count server.next
    (Returned calls index server.host)
  pending : server.count ≠ 0 → server.appliedLocalUs ≠ server.latest.localUs →
    pending index calls = some server.latest

/-- What the window holds came from one server by one name, the one that feeds it if it is
still as it was. -/
structure OneServer (core : NtpCore) (index : Fin ntpServers) (host : String) : Prop where
  nobody : core.fedBy = .nobody → core.windowCount = 0
  server : ∀ other, core.fedBy = .server other → other = index ∧ (core.servers index).host = host
  window : Recent espClockWindow core.window core.windowCount core.windowNext fun raw =>
    ∃ sample : EspClockSample, raw = sample.raw ∧ Returned core.calls index host sample

structure Sound (core : NtpCore) : Prop where
  idle : core.polling = none → core.client.running = false ∧ core.client.result = none
  busy : core.client.running = true → core.client.busy = true
  asking : ∀ index, core.polling = some index →
    Asking core.client core.calls index (core.servers index).host
  credited : ∀ index, Credited core.calls index (core.servers index)
  oneServer : ∃ index host, OneServer core index host
  once : GivenOnce core.calls

variable {core : NtpCore}

/-- Feeding a server's samples. -/
theorem Sound.feed (sound : Sound core) (index : Fin ntpServers) :
    Sound (core.feed index) ∧ OneServer (core.feed index) index (core.servers index).host ∧
      (core.feed index).fedBy = .server index ∧ (core.feed index).servers = core.servers ∧
      (core.feed index).calls = core.calls := by
  obtain ⟨before, host, one⟩ := sound.oneServer
  rw [NtpCore.feed]
  by_cases same : core.fedBy = .server index
  · rw [if_pos same]
    obtain ⟨rfl, rfl⟩ := one.server index same
    exact ⟨sound, one, same, rfl, rfl⟩
  · rw [if_neg same]
    -- Either there is nothing in the window, or it is cleared.
    have cleared : (if core.fedBy = .nobody then core.windowCount else 0) = 0 := by
      split
      · next first => exact one.nobody first
      · rfl
    have empty : OneServer
        { core with
          windowCount := if core.fedBy = .nobody then core.windowCount else 0
          windowNext := if core.fedBy = .nobody then core.windowNext else 0
          fedBy := .server index } index (core.servers index).host :=
      { nobody := fun first => (by cases first)
        server := fun other same => (by cases same; exact ⟨rfl, rfl⟩)
        window := by
          have next : (if core.fedBy = .nobody then core.windowNext else 0) = 0 := by
            split
            · next first =>
                have none := one.nobody first
                exact (one.window.filling (none ▸ by decide)).trans none
            · rfl
          dsimp only
          rw [cleared, next]
          exact one.window.clear }
    exact ⟨{ sound with oneServer := ⟨index, _, empty⟩ }, empty, rfl, rfl, rfl⟩

/-- A server changed, but not in its name. -/
theorem update_host (servers : Fin ntpServers → ServerCore) (index : Fin ntpServers)
    {server : ServerCore} (same : server.host = (servers index).host) (other : Fin ntpServers) :
    (Function.update servers index server other).host = (servers other).host := by
  by_cases changed : other = index
  · rw [changed, Function.update_self, same]
  · rw [Function.update_of_ne changed]

theorem Sound.give (sound : Sound core) (one : OneServer core index (core.servers index).host)
    (fed : core.fedBy = .server index) (used : (core.servers index).count ≠ 0)
    (new : (core.servers index).appliedLocalUs ≠ (core.servers index).latest.localUs) :
    Sound (core.give index) := by
  have credit := sound.credited index
  have pend := credit.pending used new
  have returned : Returned core.calls index (core.servers index).host (core.servers index).latest :=
    credit.history.latest used {}
  have hosts (other : Fin ntpServers) :
      ((core.give index).servers other).host = (core.servers other).host := by
    rw [NtpCore.give]
    exact update_host core.servers index (by rfl) other
  refine ⟨sound.idle, sound.busy, fun other polled => ?_, fun other => ?_, ?_, ⟨pend, sound.once⟩⟩
  · rw [hosts]
    exact sound.asking other polled
  · by_cases same : other = index
    · rw [same]
      have applied : (core.give index).servers index =
          { core.servers index with
            appliedLocalUs := (core.servers index).latest.localUs } := Function.update_self _ _ _
      rw [applied]
      exact ⟨credit.history, fun _ differs => absurd rfl differs⟩
    · have kept : (core.give index).servers other = core.servers other :=
        Function.update_of_ne same _ _
      rw [kept]
      refine ⟨(sound.credited other).history, fun some differs => ?_⟩
      have rest : pending other (core.give index).calls = pending other core.calls :=
        if_neg (Ne.symm same)
      rw [rest]
      exact (sound.credited other).pending some differs
  · refine ⟨index, _, fun first => ?_, fun other same => ?_, one.window.put ⟨_, rfl, returned⟩⟩
    · cases fed.symm.trans first
    · rw [hosts]
      exact one.server other same

theorem Sound.apply (sound : Sound core) (index : Fin ntpServers) : Sound (core.apply index) := by
  rw [NtpCore.apply]
  split
  · exact sound
  · next had =>
      obtain ⟨used, new⟩ := not_or.mp had
      obtain ⟨fed, one, same, servers, -⟩ := sound.feed index
      rw [← servers] at one used new
      exact fed.give one same used new

theorem Sound.applies (sound : Sound core) (given : List (Fin ntpServers)) :
    Sound (given.foldl NtpCore.apply core) := by
  induction given generalizing core with
  | nil => exact sound
  | cons index given ih => exact ih (sound.apply index)

/-- A server that is not being polled starts again. -/
theorem Sound.reset (sound : Sound core) (unpolled : core.polling ≠ some index) (host : String) :
    Sound (core.reset index host) := by
  refine ⟨sound.idle, sound.busy, fun other polled => ?_, fun other => ?_, ?_, sound.once⟩
  · have different : other ≠ index := fun same => unpolled (same ▸ polled)
    have kept : (core.reset index host).servers other = core.servers other :=
      Function.update_of_ne different _ _
    rw [kept]
    exact sound.asking other polled
  · by_cases same : other = index
    · rw [same, show (core.reset index host).servers index = (freshServer host).core from
        Function.update_self _ _ _]
      exact ⟨.start _ (by decide), fun used => absurd rfl used⟩
    · rw [show (core.reset index host).servers other = core.servers other from
        Function.update_of_ne same _ _]
      exact sound.credited other
  · obtain ⟨before, name, one⟩ := sound.oneServer
    refine ⟨before, name, fun first => one.nobody ?_, fun other fed => ?_, one.window⟩
    · rw [NtpCore.reset] at first
      dsimp only at first
      split at first
      · cases first
      · exact first
    · have fedBy : (core.reset index host).fedBy =
          if core.fedBy = .server index then .other else core.fedBy := rfl
      rw [fedBy] at fed
      by_cases same : core.fedBy = .server index
      · rw [if_pos same] at fed
        cases fed
      · rw [if_neg same] at fed
        have different : other ≠ index := by
          rintro rfl
          exact same fed
        rw [show (core.reset index host).servers before = core.servers before from
          Function.update_of_ne ((one.server other fed).1 ▸ different) _ _]
        exact one.server other fed

theorem Credited.later {server : ServerCore} (credited : Credited calls index server)
    (call : NtpCall) (same : Ntp.pending index (call :: calls) = Ntp.pending index calls) :
    Credited (call :: calls) index server where
  history := credited.history.imp fun _ returned => returned.later call
  pending used differs := same.trans (credited.pending used differs)

/-- A call that gives the clock nothing and credits no server. -/
theorem Sound.called (sound : Sound core) {call : NtpCall} {client : NtpClient}
    {polling : Option (Fin ntpServers)}
    (quiet : ∀ index, Ntp.pending index (call :: core.calls) = Ntp.pending index core.calls)
    (once : GivenOnce (call :: core.calls) = GivenOnce core.calls)
    (idle : polling = none → client.running = false ∧ client.result = none)
    (busy : client.running = true → client.busy = true)
    (asking : ∀ index, polling = some index →
      Asking client (call :: core.calls) index (core.servers index).host) :
    Sound { core with calls := call :: core.calls, client := client, polling := polling } := by
  obtain ⟨index, host, one⟩ := sound.oneServer
  refine ⟨idle, busy, asking, fun index => (sound.credited index).later call (quiet index),
    ⟨index, host, one.nobody, one.server, one.window.imp fun raw found => ?_⟩, once ▸ sound.once⟩
  obtain ⟨sample, same, returned⟩ := found
  exact ⟨sample, same, returned.later call⟩

/-- The client's own affairs. -/
theorem Sound.waits (sound : Sound core) {client : NtpClient} {polling : Option (Fin ntpServers)}
    (idle : polling = none → client.running = false ∧ client.result = none)
    (busy : client.running = true → client.busy = true)
    (asking : ∀ index, polling = some index →
      Asking client core.calls index (core.servers index).host) :
    Sound { core with client := client, polling := polling } := by
  obtain ⟨index, host, one⟩ := sound.oneServer
  exact ⟨idle, busy, asking, sound.credited, ⟨index, host, one.nobody, one.server, one.window⟩,
    sound.once⟩

/-- A poll asked of the task. -/
theorem Sound.start (sound : Sound core) (unpolled : core.polling = none) (index : Fin ntpServers) :
    Sound (core.start index) := by
  obtain ⟨-, result⟩ := sound.idle unpolled
  rw [NtpCore.start, NtpClient.poll]
  by_cases busy : core.client.busy = true
  · rw [if_pos busy]
    exact sound
  · rw [if_neg busy]
    refine sound.called (fun _ => rfl) rfl (fun none => ?_) (fun _ => rfl) fun other polled => ?_
    · cases none
    · cases polled
      exact .inl ⟨rfl, result, ⟨_, rfl⟩⟩

/-- The task publishes its result. -/
theorem Sound.publish (sound : Sound core) (running : core.client.running = true)
    (poll : NtpPollResult) :
    Sound { core with client := core.client.publish poll, calls := .published poll :: core.calls } := by
  have polled : core.polling ≠ none := by
    intro none
    rw [(sound.idle none).1] at running
    cases running
  refine sound.called (fun _ => rfl) rfl (fun none => absurd none polled) (fun never => ?_)
    fun index polling => ?_
  · cases never
  · obtain ⟨-, -, asked⟩ | ⟨rested, -⟩ := sound.asking index polling
    · refine .inr ⟨rfl, poll, rfl, ?_⟩
      exact List.cons_prefix_cons.mpr ⟨rfl, asked⟩
    · rw [running] at rested
      cases rested

theorem Sound.rest (sound : Sound core) (rested : core.client.running = false) :
    Sound { core with client := core.client.rest } :=
  sound.waits sound.idle (fun running => absurd (rested.symm.trans running) Bool.false_ne_true)
    sound.asking

/-- The result taken. -/
theorem Sound.taken (sound : Sound core) {poll : NtpPollResult} (polling : core.polling = some index)
    (result : core.client.result = some poll) :
    Sound core.taken ∧
      [.published poll, .asked index (core.servers index).host] <+:
        core.calls.filter NtpCall.OfPoll := by
  obtain ⟨-, none, -⟩ | ⟨rested, published, same, prefixed⟩ := sound.asking index polling
  · rw [none] at result
    cases result
  · cases same.symm.trans result
    exact ⟨sound.waits (fun _ => ⟨rested, rfl⟩) sound.busy fun other polled => (by cases polled),
      prefixed⟩

/-- A good sample credited to its server. -/
theorem Sound.store (sound : Sound core) (unpolled : core.polling = none) {poll : NtpPollResult}
    (ok : poll.ok = true)
    (prefixed : [.published poll, .asked index (core.servers index).host] <+:
      core.calls.filter NtpCall.OfPoll) : Sound (core.store index poll.sample) := by
  have returned : Returned (.answered index poll.sample :: core.calls) index
      (core.servers index).host poll.sample :=
    ⟨poll, ok, rfl, (List.cons_prefix_cons.mpr ⟨rfl, prefixed⟩).isInfix⟩
  obtain ⟨before, host, one⟩ := sound.oneServer
  have hosts (other : Fin ntpServers) :
      ((core.store index poll.sample).servers other).host = (core.servers other).host := by
    rw [NtpCore.store]
    exact update_host core.servers index (by rfl) other
  refine ⟨sound.idle, sound.busy, fun other polled => ?_, fun other => ?_,
    ⟨before, host, one.nobody, fun other fed => ?_, one.window.imp fun raw found => ?_⟩, sound.once⟩
  · cases unpolled.symm.trans polled
  · by_cases same : other = index
    · rw [same, show (core.store index poll.sample).servers index =
        { core.servers index with
          history := (core.servers index).history.set (core.servers index).next poll.sample
          next := ((core.servers index).next + 1) % historySamples
          count := if (core.servers index).count < historySamples then (core.servers index).count + 1
            else (core.servers index).count } from Function.update_self _ _ _]
      have history := (sound.credited index).history
      refine ⟨(history.imp fun _ before => before.later _).put returned, fun _ _ => ?_⟩
      exact (if_pos rfl).trans (congrArg some (history.latest_put poll.sample {}).symm)
    · rw [show (core.store index poll.sample).servers other = core.servers other from
        Function.update_of_ne same _ _]
      exact (sound.credited other).later _ (if_neg (Ne.symm same))
  · rw [hosts]
    exact one.server other fed
  · obtain ⟨sample, same, earlier⟩ := found
    exact ⟨sample, same, earlier.later _⟩

/-! ## A pass of the main loop -/

namespace NtpState

variable {ntp : NtpState} {prefs : NtpPrefs}

theorem selectServer_sound (sound : Sound ntp.core) (fresh : Option (Fin ntpServers))
    (reads : SelectReads) : Sound (ntp.selectServer fresh reads).core := by
  obtain ⟨given, same⟩ := ntp.selectServer_core fresh reads
  rw [same]
  exact sound.applies given

theorem checkServer_sound (reads : Fin ntpServers → SelectReads) (sound : Sound ntp.core)
    (index : Fin ntpServers) : Sound (checkServer prefs reads ntp index).core := by
  rw [checkServer]
  split
  · next changed =>
      have reset := sound.reset (fun polled => changed.1 polled.symm) (prefs.hosts index)
      rw [← resetServer_core] at reset
      exact selectServer_sound reset none _
  · exact sound

theorem checkSettings_sound (reads : Fin ntpServers → SelectReads) (sound : Sound ntp.core) :
    Sound (ntp.checkSettings prefs reads).core := by
  have checked (indexes : List (Fin ntpServers)) (given : NtpState) (sound : Sound given.core) :
      Sound (indexes.foldl (checkServer prefs reads) given).core := by
    induction indexes generalizing given with
    | nil => exact sound
    | cons index indexes ih => exact ih _ (checkServer_sound reads sound index)
  rw [checkSettings]
  refine checked _ _ ?_
  split <;> exact sound

theorem startPoll_sound (sound : Sound ntp.core) (unpolled : ntp.polling = none)
    (index : Fin ntpServers) : Sound (ntp.startPoll index).core := by
  rw [startPoll_core]
  exact sound.start unpolled index

theorem takeResult_sound (networkUp : Bool) (reads : SelectReads) (scheduleUs : Int)
    (sound : Sound ntp.core) : Sound (ntp.takeResult prefs networkUp reads scheduleUs).core := by
  unfold takeResult
  split
  · next index poll polling result =>
      obtain ⟨taken, prefixed⟩ := sound.taken polling result
      dsimp only
      split
      · exact taken
      · split
        · refine startPoll_sound ?_ rfl index
          rw [set_same _ (by rfl)]
          exact taken
        · obtain ⟨given, handled⟩ := handlePoll_core
            { ntp with client := { ntp.client with result := none }, polling := none } index poll
            reads scheduleUs
          rw [handled]
          split
          · next ok => exact (taken.store rfl ok prefixed).applies given
          · exact taken.applies given
  · exact sound

theorem pollNext_sound (input : ServiceInput) (sound : Sound ntp.core)
    (unpolled : ntp.polling = none) : Sound (ntp.pollNext input).core := by
  unfold pollNext
  split
  · exact sound
  · next index _ =>
      dsimp only
      split
      · obtain ⟨given, handled⟩ := handlePoll_core
          ({ ntp with polledOnLink := true }.set index
            { ntp.servers index with
              due := false
              resync := false
              targets := input.resolve (ntp.servers index).host
              target := 0
              dnsFailures := (ntp.servers index).dnsFailures + 1 }) index
          { dnsFailed := true } input.failReads input.failUs
        have same : (({ ntp with polledOnLink := true } : NtpState).set index
            { ntp.servers index with
              due := false
              resync := false
              targets := input.resolve (ntp.servers index).host
              target := 0
              dnsFailures := (ntp.servers index).dnsFailures + 1 }).core = ntp.core :=
          set_same _ rfl
        rw [if_neg Bool.false_ne_true, same] at handled
        rw [handled]
        exact sound.applies given
      · refine startPoll_sound ?_ (by exact unpolled) index
        rw [set_same _ (by rfl)]
        exact sound

theorem serviceNetwork_sound (input : ServiceInput) (sound : Sound ntp.core) :
    Sound (ntp.serviceNetwork input).core := by
  have upped (given : NtpState) (same : given.core = ntp.core) :
      Sound (if !given.polledOnLink ∧ !input.ipv6Ready ∧
          input.waitMs - given.networkUpMs < ipv6WaitMs then given
        else if given.polling.isSome ∨ given.client.busy then given
        else given.pollNext input).core := by
    have kept : Sound given.core := same ▸ sound
    split
    · exact kept
    · split
      · exact kept
      · next free =>
          refine pollNext_sound input kept ?_
          rw [not_or, Bool.not_eq_true, Option.isSome_eq_false_iff, Option.isNone_iff_eq_none] at free
          exact free.1
  rw [serviceNetwork]
  split
  · exact sound
  · dsimp only
    split
    · exact upped _ rfl
    · exact upped _ rfl

theorem sound : machine.Invariant Admits fun ntp => Sound ntp.core where
  start := by
    rintro ntp ⟨prefs, rfl⟩
    refine ⟨fun _ => ⟨rfl, rfl⟩, fun never => (by cases never), fun index polled => (by cases polled),
      fun index => ⟨.start _ (by decide), fun used => absurd rfl used⟩,
      ⟨0, "", fun _ => rfl, fun other fed => (by cases fed), .start _ (by decide)⟩, trivial⟩
  step ntp act sound admitted := by
    cases act with
    | service input =>
        exact serviceNetwork_sound input (takeResult_sound input.networkUp input.takeReads
          input.takeUs (checkSettings_sound input.checkReads sound))
    | resync => exact sound
    | published poll => exact sound.publish admitted poll
    | rested => exact sound.rest admitted

/-- **The window never mixes servers.** In every run, whatever polls find, whichever servers
are followed, however names and intervals change and whatever the task is doing when they
do: every sample in the clock's window was returned for one server, polled by one name; and
each sample given to the clock was its server's latest, given for the first time. -/
theorem window_of_one_server (reached : machine.Reachable Admits ntp) :
    (∃ index host, ∀ slot < ntp.clock.windowCount, ∃ sample : EspClockSample,
        ntp.clock.window[slot]? = some sample.raw ∧ Returned ntp.calls index host sample) ∧
      GivenOnce ntp.calls := by
  have kept := sound.reachable reached
  obtain ⟨index, host, one⟩ := kept.oneServer
  refine ⟨⟨index, host, fun slot used => ?_⟩, kept.once⟩
  obtain ⟨raw, found, sample, same, returned⟩ := one.window.held slot used
  exact ⟨sample, found.trans (congrArg some same), returned⟩

instance (ntp : NtpState) (act : NtpAct) : Decidable (Admits ntp act) :=
  match act with
  | .published _ => inferInstanceAs (Decidable (ntp.client.running = true))
  | .rested => inferInstanceAs (Decidable (ntp.client.running = false))
  | .service _ => .isTrue trivial
  | .resync => .isTrue trivial

/-- What a pass reads at a time of the timer. -/
def plainReads (nowUs : Int) : SelectReads where
  firstUs := nowUs
  firstEstimate := none
  nowUs := nowUs
  jitter _ := 0
  applyUs := nowUs
  applyEstimate := none

/-- Two servers, by their names. -/
def twoNames : NtpPrefs where
  hosts index := if index = 0 then "first" else if index = 1 then "second" else ""
  interval := 512

/-- A pass on a link that is up, with every name known. -/
def plainPass (nowUs : Int) : ServiceInput where
  prefs := twoNames
  networkUp := true
  checkReads _ := plainReads nowUs
  takeReads := plainReads nowUs
  takeUs := nowUs
  upMs := 0
  waitMs := 0
  ipv6Ready := true
  dueUs := nowUs
  resolve _ := [⟨false, [192, 0, 2, 10], 0⟩]
  failReads := plainReads nowUs
  failUs := nowUs

/-- A good result, of an exchange at a time. -/
def plainResult (localUs : Int) : NtpPollResult where
  ok := true
  sample :=
    { localUs := localUs
      offsetUs := 1700000000000000
      delayUs := 20000
      stratum := 2 }
  replies := 1

/-- Both servers polled, one after the other. -/
def twoPolls : List NtpAct :=
  [.service (plainPass 1000000), .published (plainResult 1500000), .rested,
    .service (plainPass 2000000), .published (plainResult 2500000), .rested,
    .service (plainPass 3000000)]

theorem window_of_one_server_two :
    let ntp := twoPolls.foldl machine.step (init twoNames)
    (∃ index host, ∀ slot < ntp.clock.windowCount, ∃ sample : EspClockSample,
        ntp.clock.window[slot]? = some sample.raw ∧ Returned ntp.calls index host sample) ∧
      GivenOnce ntp.calls :=
  window_of_one_server (Machine.Reachable.run (.start ⟨twoNames, rfl⟩)
    (Machine.Run.of_admitted (by decide)))

end NtpState

end GpsClock.Ntp
