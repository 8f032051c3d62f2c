import GpsClock.Ntp.PpsOutput
import GpsClock.Sync.SourceNtp

/-! # The ESP's seconds

The clock, the output that marks its seconds and the loop between them: `service_pps` takes
each rise as it finds it, reports which second of the clock it marks, and plans the next.
The loop may be late, or away: then the output runs on by itself, and a plan that comes too
late is for a second that has gone. However they interleave, and whatever updates the clock
takes without a step, the rises mark the seconds one by one: a report's second and its
edge's number keep their distance, and the edge is as near its second as the time the loop
was away allows (`GpsClock.Ntp.EspSecond.seconds_follow_edges`).
-/

namespace GpsClock.Ntp

open GpsClock.Sync (SmlTimeNtpPayload)

/-- `PPS_SYNC_LIMIT_NS`. -/
abbrev ppsSyncLimitNs : Int := 1000000

/-- The ESP's clock, its output, and `ntp.cpp`'s part between them: the edge `service_pps`
has reported and is yet to plan from. And, which nothing reads: the local time, when the
last plan was made and when the one the output runs on from was, and every report made. -/
structure EspSecond where
  clock : EspClock
  output : PpsOutput
  edges : BitVec 32 := 0
  report : SmlTimeNtpPayload := {}
  reportReady : Bool := false
  lastEdgeUtcUs : Int := 0
  serviced : Option PpsEdge := none
  nowUs : Int
  plannedUs : Int
  runsFromUs : Int
  reports : List SmlTimeNtpPayload := []

inductive EspSecondAct
  /-- `esp_clock_update`. -/
  | update (input : EspClock.Update)
  /-- `esp_clock_new_reference`. -/
  | newReference
  /-- `on_alarm`, at a count and a local time. -/
  | alarm (countValue nowUs : Int)
  /-- `service_pps`, as far as its plan. -/
  | service (nowUs : Int)
  /-- `service_pps`, its plan. -/
  | plan (nowUs : Int)
  /-- `ntp_take_report`. -/
  | takeReport
  deriving DecidableEq, Repr

namespace EspClock

/-- The second an edge marks. -/
def secondOf (clock : EspClock) (edge : PpsEdge) : Int :=
  (clock.utcUs edge.localUs + 500000).tdiv 1000000

/-- How far after its second an edge is. -/
def phaseNs (clock : EspClock) (edge : PpsEdge) : Int :=
  (clock.utcUs edge.localUs - clock.secondOf edge * 1000000) * 1000

/-- `build_report`, its flags. -/
def reportFlags (clock : EspClock) (edge : PpsEdge) : BitVec 16 :=
  (0x0002 ||| 0x0020) |||
    (if clock.status.updates ≠ 0 then 0x0004 else 0) |||
    (if clock.phaseNs edge < ppsSyncLimitNs ∧ -ppsSyncLimitNs < clock.phaseNs edge then
      0x0008 ||| 0x0010 else 0) |||
    (if clock.correcting edge.localUs then 0x0040 else 0)

/-- `build_report`, the payload. -/
def buildReport (clock : EspClock) (edge : PpsEdge) : SmlTimeNtpPayload where
  flags := clock.reportFlags edge
  utcSeconds := BitVec.ofInt 32 (clock.secondOf edge)
  utcPhaseNs := BitVec.ofInt 32 (clock.phaseNs edge)
  uncertaintyNs := BitVec.ofInt 32 (clock.uncertaintyNs edge.localUs)
  ppsSequence := edge.sequence
  lastUpdateUtc := BitVec.ofInt 32 ((clock.utcUs clock.status.lastUpdateLocalUs).tdiv 1000000)

end EspClock

namespace EspSecond

/-- `start_pps`, at a local time and a count. -/
def startPps (clock : EspClock) (output : PpsOutput) (nowUs nowCount : Int) : PpsOutput :=
  let nextSecond := ((clock.utcUs nowUs).tdiv 1000000 + 1) * 1000000
  output.start (clock.localUs nextSecond) clock.periodAdjustQ16 nowCount

/-- `service_pps`, as far as its plan. -/
def service (second : EspSecond) (nowUs : Int) : EspSecond :=
  match second.output.takeEdge with
  | (none, output) => { second with output := output, nowUs := nowUs }
  | (some edge, output) =>
      if !second.clock.status.valid then { second with output := output, nowUs := nowUs }
      else
        { second with
          output := output
          edges := second.edges + 1
          report := second.clock.buildReport edge
          reportReady := true
          lastEdgeUtcUs := second.clock.utcUs edge.localUs
          serviced := some edge
          nowUs := nowUs
          reports := second.clock.buildReport edge :: second.reports }

/-- `service_pps`, its plan: for the second after the one reported. -/
def plan (second : EspSecond) (nowUs : Int) : EspSecond :=
  let next := ((second.report.utcSeconds.toNat : Int) + 1) * 1000000
  { second with
    output :=
      second.output.plan (second.clock.localUs next) second.clock.periodAdjustQ16
    serviced := none
    nowUs := nowUs
    plannedUs := nowUs }

/-- `on_alarm`: a falling edge with a fresh plan runs from it. -/
def alarmAt (second : EspSecond) (countValue nowUs : Int) : EspSecond :=
  match second.output.alarm with
  | none => second
  | some alarmValue =>
      { second with
        output := second.output.onAlarm alarmValue countValue nowUs
        nowUs := nowUs
        runsFromUs :=
          if second.output.high && second.output.planFresh then second.plannedUs
          else second.runsFromUs }

def step (second : EspSecond) : EspSecondAct → EspSecond
  | .update input =>
      { second with clock := (second.clock.update input).2, nowUs := input.nowUs }
  | .newReference => { second with clock := second.clock.newReference }
  | .alarm countValue nowUs => second.alarmAt countValue nowUs
  | .service nowUs => second.service nowUs
  | .plan nowUs => second.plan nowUs
  | .takeReport => { second with reportReady := false }

end EspSecond

/-- How late the alarm's interrupt may be, how long after an edge its plan may be made, and
how long the output may run on from one plan. -/
structure PpsLimits where
  latencyUs : Int
  lagUs : Int
  awayUs : Int
  latency : 0 ≤ latencyUs ∧ latencyUs ≤ 10000
  lag : 0 ≤ lagUs ∧ lagUs ≤ 3000000
  away : 0 ≤ awayUs ∧ awayUs ≤ 60000000

/-- How far an edge is from its second at most, a millionfold: the interrupt, the plan, and
the clock's rate while the output runs on and until the edge is taken. -/
def PpsLimits.phaseLimit (limits : PpsLimits) : Int :=
  1000000 * limits.latencyUs + 600 * (limits.lagUs + 2 * limits.awayUs + 4800000) + 9000000

namespace EspSecond

/-- The output just started, on a clock that has been stepped. -/
def Started (second : EspSecond) : Prop :=
  ∃ (events : List EspClock.Event) (countOffsetUs nowUs : Int),
    let clock := events.foldl EspClock.machine.step ({} : EspClock)
    clock.anchorLocalUs ≤ nowUs ∧ nowUs ≤ clock.anchorLocalUs + 900000000000 ∧
      0 ≤ clock.utcUs nowUs ∧
      second =
        { clock := clock
          output := startPps clock { countOffsetUs := countOffsetUs } nowUs (nowUs - countOffsetUs)
          nowUs := nowUs
          plannedUs := nowUs
          runsFromUs := nowUs }

/-- Time goes on, the alarm is served in time, and the loop and the updates come by. -/
def InTime (limits : PpsLimits) (second : EspSecond) (nowUs : Int) : Prop :=
  second.nowUs ≤ nowUs ∧ nowUs ≤ second.runsFromUs + limits.awayUs ∧
    nowUs ≤ second.clock.anchorLocalUs + 900000000000 ∧
    ∀ alarmValue ∈ second.output.alarm,
      nowUs ≤ alarmValue + second.output.countOffsetUs + limits.latencyUs

/-- What the surroundings do: no update steps the clock, or comes between a report and its
plan; an alarm is served once its count is reached, at a count and then a local time read;
the seconds fit their 32 bits. -/
def Admits (limits : PpsLimits) (second : EspSecond) : EspSecondAct → Prop
  | .update input =>
      second.InTime limits input.nowUs ∧ input.sample.localUs ≤ input.nowUs ∧
        second.serviced = none ∧ (second.clock.update input).1 ≠ .stepped
  | .newReference => True
  | .alarm countValue nowUs =>
      second.InTime limits nowUs ∧
        (∀ alarmValue ∈ second.output.alarm, alarmValue ≤ countValue) ∧
        countValue + second.output.countOffsetUs ≤ nowUs
  | .service nowUs =>
      second.InTime limits nowUs ∧ second.serviced = none ∧
        1000000 ≤ second.clock.utcUs nowUs - 2000000 ∧
        second.clock.utcUs nowUs < 4294967290 * 1000000
  | .plan nowUs =>
      second.InTime limits nowUs ∧
        ∃ edge ∈ second.serviced, nowUs ≤ edge.localUs + limits.lagUs
  | .takeReport => True

instance (limits : PpsLimits) (second : EspSecond) (nowUs : Int) :
    Decidable (second.InTime limits nowUs) :=
  inferInstanceAs (Decidable (_ ∧ _ ∧ _ ∧ ∀ _ ∈ _, _))

instance (limits : PpsLimits) (second : EspSecond) :
    ∀ act, Decidable (second.Admits limits act)
  | .update _ => inferInstanceAs (Decidable (_ ∧ _ ∧ _ ∧ _))
  | .newReference => inferInstanceAs (Decidable True)
  | .alarm _ _ => inferInstanceAs (Decidable (_ ∧ (∀ _ ∈ _, _) ∧ _))
  | .service _ => inferInstanceAs (Decidable (_ ∧ _ ∧ _ ∧ _))
  | .plan _ => inferInstanceAs (Decidable (_ ∧ ∃ _ ∈ _, _))
  | .takeReport => inferInstanceAs (Decidable True)

end EspSecond

/-- The ESP's seconds from the output's start on. -/
def espSecondMachine : Machine EspSecond EspSecondAct where
  start := EspSecond.Started
  step := EspSecond.step

/-! ## The clock's reading -/

/-- From a time on a clock reads, against what it was ahead by at an earlier one, no
further off than its rates have taken it since. -/
def EspClock.Reads (clock : EspClock) (nowUs fromUs aheadUs : Int) : Prop :=
  ∀ localUs, nowUs ≤ localUs →
    -(600 * (localUs - fromUs) + 2000000) ≤ 1000000 * (clock.aheadUs localUs - aheadUs) ∧
      1000000 * (clock.aheadUs localUs - aheadUs) ≤ 600 * (localUs - fromUs) + 2000000

namespace EspClock

variable {clock : EspClock} {nowUs laterUs fromUs aheadUs : Int}

theorem Reads.start (paced : clock.Paced) (nowUs : Int) :
    clock.Reads nowUs nowUs (clock.aheadUs nowUs) :=
  fun _ later => paced.drift later

theorem Reads.later (reads : clock.Reads nowUs fromUs aheadUs) (later : nowUs ≤ laterUs) :
    clock.Reads laterUs fromUs aheadUs :=
  fun localUs order => reads localUs (later.trans order)

theorem update_anchor {input : Update} (slews : (clock.update input).1 ≠ .stepped) :
    (clock.update input).2.anchorLocalUs = input.at := by
  rcases clock.update_cases input with ⟨_, error, steps⟩ | ⟨_, _, slew⟩
  · exact absurd (congrArg Prod.fst steps) slews
  · rw [slew]
    rfl

/-- An update that slews adds no more than the rates do: the clock goes on from what it
reads. -/
theorem Reads.update (reads : clock.Reads nowUs fromUs aheadUs) (paced : clock.Paced)
    {input : Update} (slews : (clock.update input).1 ≠ .stepped) (later : nowUs ≤ input.at) :
    (clock.update input).2.Reads input.at fromUs aheadUs := by
  intro localUs order
  have anchor := update_anchor slews
  have after : (clock.update input).2.anchorLocalUs ≤ localUs := by rwa [anchor]
  have onward := (update_paced paced input).from_anchor (update_anchored input) after
  have same : (clock.update input).2.aheadUs input.at = clock.aheadUs input.at := by
    rw [EspClock.aheadUs, EspClock.aheadUs, update_continues slews]
  have before := reads input.at later
  rw [anchor, same] at onward
  omega

end EspClock

namespace EspSecond

/-- A local time marks a second: by what the clock was ahead by, it is this near. -/
def Marks (second localUs aheadUs slack : Int) : Prop :=
  -slack ≤ 1000000 * (localUs + aheadUs - second * 1000000) ∧
    1000000 * (localUs + aheadUs - second * 1000000) ≤ slack

/-- How near its second a plan is. -/
def planSlack (limits : PpsLimits) : Int :=
  600 * (limits.lagUs + 2000000) + 5000000

/-- The last rise, in local time. -/
def roseUs (second : EspSecond) : Int :=
  second.output.lastRiseCount + second.output.countOffsetUs

/-- A report whose second is its edge's, and whose phase is within the limit. -/
def Follows (limits : PpsLimits) (base : Int) (report : SmlTimeNtpPayload) : Prop :=
  report.utcSeconds = BitVec.ofInt 32 base + report.ppsSequence ∧
    1000 * |report.utcPhaseNs.toInt| ≤ limits.phaseLimit

/-- What the output runs on from: the next rise, or the last, marks its second. -/
structure Runs (limits : PpsLimits) (base : Int) (rises : Nat) (second : EspSecond)
    (aheadUs : Int) : Prop where
  reads : second.clock.Reads second.nowUs second.runsFromUs aheadUs
  past : second.runsFromUs ≤ second.nowUs
  rose : second.output.high = true → second.runsFromUs ≤ second.roseUs ∧
    Marks (base + rises) second.roseUs aheadUs
      (planSlack limits + 600 * (second.roseUs - second.runsFromUs))
  rises : second.output.high = false → ∀ alarmValue ∈ second.output.alarm,
    second.runsFromUs ≤ alarmValue + second.output.countOffsetUs ∧
      Marks (base + rises + 1) (alarmValue + second.output.countOffsetUs) aheadUs
        (planSlack limits +
          600 * (alarmValue + second.output.countOffsetUs - second.runsFromUs))

/-- The alarm set: the pulse's end, or the next rise. -/
structure Armed (rises : Nat) (second : EspSecond) (alarmValue : Int) : Prop where
  alarm : second.output.alarm = some alarmValue
  falls : second.output.high = true → alarmValue = second.output.lastRiseCount + ppsPulseUs
  rises : second.output.high = false → 0 < rises →
    alarmValue ≤ second.output.lastRiseCount + 1200000

/-- The last edge: when it was, and the second it marks by what the output then ran from. -/
structure Rose (limits : PpsLimits) (base : Int) (rises : Nat) (second : EspSecond)
    (fromUs aheadUs : Int) : Prop where
  after : second.roseUs ≤ second.output.outputEdge.localUs
  latency : second.output.outputEdge.localUs ≤ second.roseUs + limits.latencyUs
  past : second.output.outputEdge.localUs ≤ second.nowUs
  reads : second.clock.Reads second.nowUs fromUs aheadUs
  ran : fromUs ≤ second.roseUs ∧ second.roseUs ≤ fromUs + limits.awayUs
  marks : Marks (base + rises) second.roseUs aheadUs
    (planSlack limits + 600 * (second.roseUs - fromUs))

/-- A fresh plan: for the second after one that has been marked. -/
structure Planned (limits : PpsLimits) (base : Int) (rises : Nat) (second : EspSecond)
    (aheadUs number : Int) : Prop where
  reads : second.clock.Reads second.nowUs second.plannedUs aheadUs
  past : second.plannedUs ≤ second.nowUs
  risen : 0 < rises
  known : number ≤ rises + 1
  recent : second.roseUs ≤ second.plannedUs + 1300000
  low : second.output.high = false → second.roseUs ≤ second.plannedUs
  marks : Marks (base + number) (second.output.planRiseCount + second.output.countOffsetUs)
    aheadUs (planSlack limits)

/-- An edge reported and not planned from: its second, and when it was. -/
structure Serviced (base : Int) (rises : Nat) (second : EspSecond) (edge : PpsEdge)
    (fromUs aheadUs number : Int) : Prop where
  reads : second.clock.Reads second.nowUs fromUs aheadUs
  past : fromUs ≤ second.nowUs
  after : edge.localUs ≤ fromUs
  risen : 0 < rises
  known : number ≤ rises
  second : (second.report.utcSeconds.toNat : Int) = base + number
  marks : Marks (base + number) edge.localUs aheadUs 200000000000

/-- What every act keeps, with so many rises so far. -/
structure Kept (limits : PpsLimits) (base : Int) (rises : Nat) (second : EspSecond) : Prop where
  paced : second.clock.Paced
  anchored : second.clock.Anchored
  anchor : second.clock.anchorLocalUs ≤ second.nowUs
  adjust : -32768000 ≤ second.output.periodAdjustQ16 ∧ second.output.periodAdjustQ16 ≤ 32768000
  remainder : 0 ≤ second.output.adjustRemainderQ16 ∧ second.output.adjustRemainderQ16 < 65536
  sequence : second.output.outputEdge.sequence = BitVec.ofNat 32 rises
  armed : ∃ alarmValue, second.Armed rises alarmValue
  runs : ∃ aheadUs, second.Runs limits base rises aheadUs
  rose : 0 < rises → ∃ fromUs aheadUs, second.Rose limits base rises fromUs aheadUs
  planned : second.output.planFresh = true →
    ∃ aheadUs number, second.Planned limits base rises aheadUs number
  serviced : ∀ edge ∈ second.serviced,
    ∃ fromUs aheadUs number, second.Serviced base rises edge fromUs aheadUs number
  reports : ∀ report ∈ second.reports, Follows limits base report

variable {limits : PpsLimits} {base : Int} {rises : Nat} {second : EspSecond} {nowUs : Int}

/-! ## The acts -/

theorem Serviced.carried {edge : PpsEdge} {fromUs aheadUs number : Int}
    (serviced : second.Serviced base rises edge fromUs aheadUs number) {next : EspSecond}
    (reads : next.clock.Reads next.nowUs fromUs aheadUs) (later : second.nowUs ≤ next.nowUs)
    (report : next.report = second.report) :
    next.Serviced base rises edge fromUs aheadUs number where
  reads := reads
  past := serviced.past.trans later
  after := serviced.after
  risen := serviced.risen
  known := serviced.known
  second := by
    rw [report]
    exact serviced.second
  marks := serviced.marks

/-- Where the output is only looked at, and the clock reads on, everything about it stays. -/
theorem Kept.carried (kept : second.Kept limits base rises) {next : EspSecond}
    (taken : BitVec 32)
    (output : next.output =
      { second.output with outputEdge := { second.output.outputEdge with taken := taken } })
    (planned : next.plannedUs = second.plannedUs) (runs : next.runsFromUs = second.runsFromUs)
    (paced : next.clock.Paced) (anchored : next.clock.Anchored)
    (anchor : next.clock.anchorLocalUs ≤ next.nowUs) (later : second.nowUs ≤ next.nowUs)
    (onward : ∀ {fromUs aheadUs : Int}, second.clock.Reads second.nowUs fromUs aheadUs →
      next.clock.Reads next.nowUs fromUs aheadUs)
    (serviced : ∀ edge ∈ next.serviced,
      ∃ fromUs aheadUs number, next.Serviced base rises edge fromUs aheadUs number)
    (reports : ∀ report ∈ next.reports, Follows limits base report) :
    next.Kept limits base rises := by
  obtain ⟨clock, _, edges, report, ready, last, waiting, nowUs, _, _, reported⟩ := next
  dsimp only at *
  subst output planned runs
  exact {
    paced := paced
    anchored := anchored
    anchor := anchor
    adjust := kept.adjust
    remainder := kept.remainder
    sequence := kept.sequence
    armed := kept.armed.imp fun _ armed => ⟨armed.alarm, armed.falls, armed.rises⟩
    runs := kept.runs.imp fun _ runs =>
      ⟨onward runs.reads, runs.past.trans later, runs.rose, runs.rises⟩
    rose := fun risen => (kept.rose risen).imp fun _ => Exists.imp fun _ rose =>
      ⟨rose.after, rose.latency, rose.past.trans later, onward rose.reads, rose.ran, rose.marks⟩
    planned := fun fresh => (kept.planned fresh).imp fun _ => Exists.imp fun _ planned =>
      ⟨onward planned.reads, planned.past.trans later, planned.risen, planned.known,
        planned.recent, planned.low, planned.marks⟩
    serviced := serviced
    reports := reports }

theorem Kept.newReference (kept : second.Kept limits base rises) :
    (second.step .newReference).Kept limits base rises := by
  refine kept.carried second.output.outputEdge.taken rfl rfl rfl ?_ kept.anchored kept.anchor
    (le_refl _) (fun reads => reads) (fun edge waits => ?_) kept.reports
  · exact ⟨kept.paced.frequency, kept.paced.slew.imp_right fun slewing =>
      ⟨slewing.positive, slewing.rate, slewing.ends⟩⟩
  · obtain ⟨fromUs, aheadUs, number, serviced⟩ := kept.serviced edge waits
    exact ⟨fromUs, aheadUs, number, serviced.carried serviced.reads (le_refl _) rfl⟩

theorem Kept.takeReport (kept : second.Kept limits base rises) :
    (second.step .takeReport).Kept limits base rises := by
  refine kept.carried second.output.outputEdge.taken rfl rfl rfl kept.paced kept.anchored
    kept.anchor (le_refl _) (fun reads => reads) (fun edge waits => ?_) kept.reports
  obtain ⟨fromUs, aheadUs, number, serviced⟩ := kept.serviced edge waits
  exact ⟨fromUs, aheadUs, number, serviced.carried serviced.reads (le_refl _) rfl⟩

theorem Kept.update (kept : second.Kept limits base rises) {input : EspClock.Update}
    (admitted : second.Admits limits (.update input)) :
    (second.step (.update input)).Kept limits base rises := by
  obtain ⟨⟨later, _, _, _⟩, sampled, idle, slews⟩ := admitted
  have moment : input.at = input.nowUs := if_neg (not_lt.mpr sampled)
  refine kept.carried second.output.outputEdge.taken rfl rfl rfl
    (EspClock.update_paced kept.paced input) (EspClock.update_anchored input)
    ((EspClock.update_anchor slews).trans moment).le later (fun reads => ?_)
    (fun edge waits => ?_) kept.reports
  · have read := reads.update kept.paced slews (by rwa [moment])
    rwa [moment] at read
  · rw [show (second.step (.update input)).serviced = none from idle] at waits
    cases waits

theorem onAlarm_rises (low : second.output.high = false) {alarmValue : Int}
    (alarm : second.output.alarm = some alarmValue) (countValue nowUs : Int) :
    second.alarmAt countValue nowUs =
      { second with
        output := second.output.rises alarmValue nowUs
        nowUs := nowUs } := by
  rw [alarmAt, alarm]
  dsimp only
  rw [PpsOutput.onAlarm, low]
  rfl

/-- A rise: what was to mark the next second is now the last rise. -/
theorem Kept.rise (kept : second.Kept limits base rises) (low : second.output.high = false)
    {countValue : Int} (admitted : second.Admits limits (.alarm countValue nowUs)) :
    (second.step (.alarm countValue nowUs)).Kept limits base (rises + 1) := by
  obtain ⟨⟨later, away, _, served⟩, reached, read⟩ := admitted
  obtain ⟨alarmValue, armed⟩ := kept.armed
  have served := served alarmValue armed.alarm
  have reached := reached alarmValue armed.alarm
  obtain ⟨aheadUs, runs⟩ := kept.runs
  obtain ⟨from_before, marks⟩ := runs.rises low alarmValue armed.alarm
  have number : base + ((rises + 1 : Nat) : Int) = base + rises + 1 := by
    push_cast
    ring
  rw [← number] at marks
  rw [step, onAlarm_rises low armed.alarm]
  exact {
    paced := kept.paced
    anchored := kept.anchored
    anchor := kept.anchor.trans later
    adjust := kept.adjust
    remainder := kept.remainder
    sequence := by
      change second.output.outputEdge.sequence + 1 = _
      rw [kept.sequence]
      exact (BitVec.ofNat_add rises 1).symm
    armed := ⟨alarmValue + ppsPulseUs, rfl, fun _ => rfl, fun impossible => by cases impossible⟩
    runs := ⟨aheadUs, runs.reads.later later, runs.past.trans later,
      fun _ => ⟨from_before, marks⟩, fun impossible => by cases impossible⟩
    rose := fun _ => ⟨second.runsFromUs, aheadUs, by
        change alarmValue + second.output.countOffsetUs ≤ nowUs
        omega,
      served, le_refl _, runs.reads.later later, ⟨from_before, by
        change alarmValue + second.output.countOffsetUs ≤ _
        omega⟩, marks⟩
    planned := fun fresh => by
      obtain ⟨aheadUs, number, planned⟩ := kept.planned fresh
      have before := planned.low low
      have near := armed.rises low planned.risen
      exact ⟨aheadUs, number, planned.reads.later later, planned.past.trans later, by omega,
        by push_cast; linarith [planned.known], by
          change alarmValue + second.output.countOffsetUs ≤ second.plannedUs + 1300000
          rw [roseUs] at before
          omega,
        fun impossible => (by cases impossible), planned.marks⟩
    serviced := fun edge waits => by
      obtain ⟨fromUs, aheadUs, number, serviced⟩ := kept.serviced edge waits
      exact ⟨fromUs, aheadUs, number, serviced.reads.later later, serviced.past.trans later,
        serviced.after, by omega, by push_cast; linarith [serviced.known], serviced.second,
        serviced.marks⟩
    reports := kept.reports }

theorem onAlarm_falls (high : second.output.high = true) {alarmValue : Int}
    (alarm : second.output.alarm = some alarmValue) (countValue nowUs : Int) :
    second.alarmAt countValue nowUs =
      { second with
        output := second.output.falls countValue
        nowUs := nowUs
        runsFromUs := if second.output.planFresh then second.plannedUs else second.runsFromUs } := by
  rw [alarmAt, alarm]
  dsimp only
  rw [PpsOutput.onAlarm, high]
  rfl

/-- What is the same after a falling edge, once the next rise is known. -/
theorem Kept.fallen (kept : second.Kept limits base rises) (later : second.nowUs ≤ nowUs)
    {output : PpsOutput} (fell : second.output.Fell output) {riseCount runsFromUs aheadUs : Int}
    (alarm : output.alarm = some riseCount)
    (remainder : 0 ≤ output.adjustRemainderQ16 ∧ output.adjustRemainderQ16 < 65536)
    (near : riseCount ≤ second.output.lastRiseCount + 1200000)
    (reads : second.clock.Reads second.nowUs runsFromUs aheadUs) (past : runsFromUs ≤ second.nowUs)
    (before : runsFromUs ≤ riseCount + second.output.countOffsetUs)
    (marks : Marks (base + rises + 1) (riseCount + second.output.countOffsetUs) aheadUs
      (planSlack limits + 600 * (riseCount + second.output.countOffsetUs - runsFromUs))) :
    Kept limits base rises
      { second with output := output, nowUs := nowUs, runsFromUs := runsFromUs } where
  paced := kept.paced
  anchored := kept.anchored
  anchor := kept.anchor.trans later
  adjust := by
    dsimp only
    rw [fell.periodAdjustQ16]
    exact kept.adjust
  remainder := remainder
  sequence := by
    dsimp only
    rw [fell.outputEdge]
    exact kept.sequence
  armed := ⟨riseCount, alarm, fun high => absurd (fell.high.symm.trans high) Bool.false_ne_true,
    fun _ _ => by
      dsimp only
      rw [fell.lastRiseCount]
      exact near⟩
  runs := ⟨aheadUs, reads.later later, past.trans later,
    fun high => absurd (fell.high.symm.trans high) Bool.false_ne_true, fun _ alarmValue member => by
      dsimp only at member ⊢
      rw [alarm] at member
      cases member
      rw [fell.countOffsetUs]
      exact ⟨before, marks⟩⟩
  rose risen := by
    obtain ⟨fromUs, aheadUs, rose⟩ := kept.rose risen
    have same : roseUs { second with output := output, nowUs := nowUs, runsFromUs := runsFromUs } =
        second.roseUs := by
      rw [roseUs, roseUs]
      dsimp only
      rw [fell.lastRiseCount, fell.countOffsetUs]
    refine ⟨fromUs, aheadUs, ?_, ?_, ?_, rose.reads.later later, ?_, ?_⟩
    · rw [same]
      dsimp only
      rw [fell.outputEdge]
      exact rose.after
    · rw [same]
      dsimp only
      rw [fell.outputEdge]
      exact rose.latency
    · dsimp only
      rw [fell.outputEdge]
      exact rose.past.trans later
    · rw [same]
      exact rose.ran
    · rw [same]
      exact rose.marks
  planned fresh := absurd (fell.planFresh.symm.trans fresh) Bool.false_ne_true
  serviced edge waits := by
    obtain ⟨fromUs, aheadUs, number, serviced⟩ := kept.serviced edge waits
    exact ⟨fromUs, aheadUs, number, serviced.reads.later later, serviced.past.trans later,
      serviced.after, serviced.risen, serviced.known, serviced.second, serviced.marks⟩
  reports := kept.reports

/-- Two marks read by one clock at one time tell how far apart they are. -/
theorem marks_apart {clock : EspClock} {nowUs first second firstFrom secondFrom : Int}
    {firstUs secondUs firstAhead secondAhead firstSlack secondSlack : Int}
    (firstReads : clock.Reads nowUs firstFrom firstAhead)
    (secondReads : clock.Reads nowUs secondFrom secondAhead)
    (firstMarks : Marks first firstUs firstAhead firstSlack)
    (secondMarks : Marks second secondUs secondAhead secondSlack) :
    -(firstSlack + secondSlack + 600 * (nowUs - firstFrom) + 600 * (nowUs - secondFrom) + 4000000) ≤
        1000000 * (secondUs - firstUs - (second - first) * 1000000) ∧
      1000000 * (secondUs - firstUs - (second - first) * 1000000) ≤
        firstSlack + secondSlack + 600 * (nowUs - firstFrom) + 600 * (nowUs - secondFrom) +
          4000000 := by
  have firstRead := firstReads nowUs (le_refl _)
  have secondRead := secondReads nowUs (le_refl _)
  obtain ⟨firstLow, firstHigh⟩ := firstMarks
  obtain ⟨secondLow, secondHigh⟩ := secondMarks
  constructor <;> linarith

/-- The end of a pulse: the next rise is for the next second, from a plan or without, and
however many seconds late the plan is. -/
theorem Kept.fall (kept : second.Kept limits base rises) (high : second.output.high = true)
    {countValue : Int}
    (admitted : second.Admits limits (.alarm countValue nowUs)) :
    (second.step (.alarm countValue nowUs)).Kept limits base rises := by
  obtain ⟨⟨later, away, _, served⟩, reached, read⟩ := admitted
  obtain ⟨alarmValue, armed⟩ := kept.armed
  have served := served alarmValue armed.alarm
  have reached := reached alarmValue armed.alarm
  have pulse := armed.falls high
  obtain ⟨aheadUs, runs⟩ := kept.runs
  obtain ⟨began, rose⟩ := runs.rose high
  have latency := limits.latency
  have lag := limits.lag
  have most := limits.away
  have past := runs.past
  rw [step, onAlarm_falls high armed.alarm]
  cases fresh : second.output.planFresh with
  | true =>
      rw [if_pos rfl]
      obtain ⟨fell, next, same⟩ := PpsOutput.nextRise_planned fresh countValue
      obtain ⟨planAhead, number, planned⟩ := kept.planned fresh
      have apart := marks_apart runs.reads planned.reads rose planned.marks
      have recent := planned.recent
      have known := planned.known
      have earlier := planned.past
      obtain ⟨sum, lead, least⟩ := PpsOutput.putOff_spec second.output.planRiseCount countValue
      generalize (PpsOutput.putOff second.output.planRiseCount countValue).1 = riseCount at *
      generalize (PpsOutput.putOff second.output.planRiseCount countValue).2 = seconds at *
      have marked := planned.marks
      dsimp only [roseUs, planSlack, Marks, ppsPulseUs, secondUs, minLeadUs] at *
      -- The plan comes as many seconds short of the next as it is put off by.
      have counted : number + seconds = rises + 1 := by
        rcases least with none | least <;> omega
      refine kept.fallen later fell next (by rw [same]; exact kept.remainder) ?_ planned.reads
        planned.past ?_ ?_
      · omega
      · omega
      · dsimp only [planSlack, Marks]
        omega
  | false =>
      rw [if_neg Bool.false_ne_true]
      obtain ⟨fell, next, same⟩ := PpsOutput.nextRise_extrapolated fresh countValue
      have adjust := kept.adjust
      have remainder := kept.remainder
      rw [PpsOutput.putOff_of_lead (by
        dsimp only [ppsPulseUs, secondUs, minLeadUs] at *
        omega)] at next
      dsimp only [roseUs, planSlack, Marks, ppsPulseUs, secondUs, minLeadUs] at *
      refine kept.fallen later fell next (by rw [same]; omega) ?_ runs.reads runs.past ?_ ?_
      · omega
      · omega
      · dsimp only [planSlack, Marks]
        omega

/-- A rise that is yet to be taken marks its second as the clock stands, and the second it
is nearest is that one. -/
theorem Kept.marked (kept : second.Kept limits base rises) (risen : 0 < rises)
    (due : second.InTime limits nowUs) (positive : 1000000 ≤ second.clock.utcUs nowUs - 2000000) :
    let edge : PpsEdge := ⟨second.output.outputEdge.localUs, second.output.outputEdge.sequence⟩
    second.clock.secondOf edge = base + rises ∧
      -limits.phaseLimit ≤ 1000000 * (second.clock.utcUs edge.localUs - (base + rises) * 1000000) ∧
      1000000 * (second.clock.utcUs edge.localUs - (base + rises) * 1000000) ≤
        limits.phaseLimit ∧
      edge.localUs ≤ nowUs ∧
      nowUs ≤ edge.localUs + 1220000 ∧
      Marks (base + rises) edge.localUs (second.clock.aheadUs nowUs) 200000000000 := by
  obtain ⟨later, _, _, served⟩ := due
  obtain ⟨alarmValue, armed⟩ := kept.armed
  have served := served alarmValue armed.alarm
  obtain ⟨fromUs, aheadUs, rose⟩ := kept.rose risen
  have latency := limits.latency
  have lag := limits.lag
  have most := limits.away
  have after := rose.after
  have late := rose.latency
  have past := rose.past
  have ran := rose.ran
  have marks := rose.marks
  have recent : nowUs ≤ second.roseUs + 1220000 := by
    cases high : second.output.high with
    | true =>
        have pulse := armed.falls high
        dsimp only [roseUs, ppsPulseUs] at *
        omega
    | false =>
        have near := armed.rises high risen
        dsimp only [roseUs] at *
        omega
  have read := rose.reads nowUs later
  have back := kept.paced.drift (past.trans later)
  have same := second.clock.utcUs_eq
  intro edge
  have place : second.output.outputEdge.localUs = edge.localUs := rfl
  clear_value edge
  rw [EspClock.secondOf, same edge.localUs]
  rw [same nowUs] at positive
  rw [place] at after late past back
  dsimp only [roseUs, planSlack, Marks, PpsLimits.phaseLimit] at *
  refine ⟨?_, by omega, by omega, by omega, by omega, by omega, by omega⟩
  rw [Int.tdiv_eq_ediv_of_nonneg (by omega)]
  omega

/-- What a report says of an edge that marks its second. -/
theorem reported {clock : EspClock} {edge : PpsEdge} {number : Nat}
    (sequence : edge.sequence = BitVec.ofNat 32 number)
    (marked : clock.secondOf edge = base + number)
    (low : -limits.phaseLimit ≤
      1000000 * (clock.utcUs edge.localUs - (base + number) * 1000000))
    (high : 1000000 * (clock.utcUs edge.localUs - (base + number) * 1000000) ≤
      limits.phaseLimit) : Follows limits base (clock.buildReport edge) := by
  have latency := limits.latency
  have lag := limits.lag
  have away := limits.away
  refine ⟨?_, ?_⟩
  · change BitVec.ofInt 32 (clock.secondOf edge) = BitVec.ofInt 32 base + edge.sequence
    rw [marked, BitVec.ofInt_add, BitVec.ofInt_natCast, sequence]
  · change 1000 * |(BitVec.ofInt 32 (clock.phaseNs edge)).toInt| ≤ limits.phaseLimit
    have phase : clock.phaseNs edge =
        (clock.utcUs edge.localUs - (base + number) * 1000000) * 1000 := by
      rw [EspClock.phaseNs, marked]
    dsimp only [PpsLimits.phaseLimit] at *
    rw [phase, BitVec.toInt_ofInt, Int.bmod_eq_of_le (by omega) (by omega), Int.abs_eq_natAbs]
    omega

theorem Kept.service (kept : second.Kept limits base rises)
    (admitted : second.Admits limits (.service nowUs)) :
    (second.step (.service nowUs)).Kept limits base rises := by
  obtain ⟨due, idle, positive, fits⟩ := admitted
  have later := due.1
  have anchor := kept.anchor.trans later
  rw [step, EspSecond.service, PpsOutput.takeEdge]
  rcases second.output.outputEdge.take_new with none | ⟨some, new⟩
  · rw [none]
    refine kept.carried second.output.outputEdge.taken rfl rfl rfl kept.paced kept.anchored
      anchor later (fun reads => reads.later later) (fun edge waits => ?_) kept.reports
    exact absurd (idle.symm.trans waits) (by simp)
  · rw [new]
    cases valid : second.clock.status.valid with
    | false =>
        refine kept.carried second.output.outputEdge.sequence rfl rfl rfl kept.paced
          kept.anchored anchor later (fun reads => reads.later later) (fun edge waits => ?_)
          kept.reports
        exact absurd (idle.symm.trans waits) (by simp)
    | true =>
        have risen : 0 < rises := by
          rcases rises.eq_zero_or_pos with rfl | risen
          · exact absurd kept.sequence some
          · exact risen
        obtain ⟨marked, low, high, past, recent, marks⟩ := kept.marked risen due positive
        refine kept.carried second.output.outputEdge.sequence rfl rfl rfl kept.paced
          kept.anchored anchor later (fun reads => reads.later later) (fun edge waits => ?_)
          (fun report member => ?_)
        · cases waits
          refine ⟨nowUs, second.clock.aheadUs nowUs, rises, .start kept.paced nowUs, le_refl _,
            past, risen, le_refl _, ?_, marks⟩
          change ((BitVec.ofInt 32 (second.clock.secondOf _)).toNat : Int) = base + rises
          have same := second.clock.utcUs_eq nowUs
          dsimp only [Marks] at *
          rw [marked, BitVec.toNat_ofInt]
          omega
        · rcases List.mem_cons.mp member with rfl | earlier
          · exact reported kept.sequence marked low high
          · exact kept.reports report earlier

/-- A plan is as near the next second as the clock's inverse, carried over the lag. -/
theorem Kept.plan (kept : second.Kept limits base rises)
    (admitted : second.Admits limits (.plan nowUs)) :
    (second.step (.plan nowUs)).Kept limits base rises := by
  obtain ⟨⟨later, _, fresh, _⟩, edge, waits, lag⟩ := admitted
  obtain ⟨fromUs, aheadUs, number, serviced⟩ := kept.serviced edge waits
  obtain ⟨_, _, rose⟩ := kept.rose serviced.risen
  have limit := limits.lag
  have anchor := kept.anchor
  have read := serviced.reads nowUs later
  have marks := serviced.marks
  have after := serviced.after
  have past := serviced.past
  have known := serviced.known
  have since := kept.paced.drift (anchor.trans later)
  have from_anchor : second.clock.anchorUtcUs =
      second.clock.anchorLocalUs + second.clock.aheadUs second.clock.anchorLocalUs := by
    rw [← EspClock.utcUs_eq, kept.anchored.reads]
  have near : |((second.report.utcSeconds.toNat : Int) + 1) * 1000000 -
      second.clock.anchorUtcUs| ≤ 10 ^ 12 := by
    rw [serviced.second, from_anchor]
    dsimp only [Marks] at marks
    rw [abs_le]
    norm_num
    omega
  obtain ⟨low, high⟩ := kept.paced.localUs_near kept.anchored near
  generalize riseUs : second.clock.localUs
    (((second.report.utcSeconds.toNat : Int) + 1) * 1000000) = rise at low high
  have same := second.clock.utcUs_eq rise
  have apart : -(600 * (limits.lagUs + 2000000) + 2000000) ≤
        1000000 * (second.clock.aheadUs rise - second.clock.aheadUs nowUs) ∧
      1000000 * (second.clock.aheadUs rise - second.clock.aheadUs nowUs) ≤
        600 * (limits.lagUs + 2000000) + 2000000 := by
    dsimp only [Marks] at marks
    rw [serviced.second] at low high
    rcases le_total nowUs rise with ahead | behind
    · have moved := kept.paced.drift ahead
      omega
    · have moved := kept.paced.drift behind
      omega
  have adjust := kept.paced.periodAdjust
  have risen := rose.after
  have edged := rose.past
  exact {
    paced := kept.paced
    anchored := kept.anchored
    anchor := kept.anchor.trans later
    adjust := adjust
    remainder := kept.remainder
    sequence := kept.sequence
    armed := kept.armed.imp fun _ armed => ⟨armed.alarm, armed.falls, armed.rises⟩
    runs := kept.runs.imp fun _ runs =>
      ⟨runs.reads.later later, runs.past.trans later, runs.rose, runs.rises⟩
    rose := fun risen => (kept.rose risen).imp fun _ => Exists.imp fun _ rose =>
      ⟨rose.after, rose.latency, rose.past.trans later, rose.reads.later later, rose.ran,
        rose.marks⟩
    planned := fun _ => ⟨second.clock.aheadUs nowUs, number + 1, .start kept.paced nowUs,
      le_refl _, serviced.risen, by omega, by
        change second.roseUs ≤ nowUs + 1300000
        omega, fun _ => by
        change second.roseUs ≤ nowUs
        omega, by
        change Marks (base + (number + 1)) (second.clock.localUs
          (((second.report.utcSeconds.toNat : Int) + 1) * 1000000) -
            second.output.countOffsetUs + second.output.countOffsetUs) _ _
        rw [riseUs, sub_add_cancel]
        rw [serviced.second] at low high
        dsimp only [Marks, planSlack]
        omega⟩
    serviced := fun edge waits => by cases waits
    reports := kept.reports }

/-- The output's start: the first rise is for a whole second to come. -/
theorem Started.kept (started : second.Started) : ∃ base, second.Kept limits base 0 := by
  obtain ⟨events, countOffsetUs, nowUs, anchor, fresh, positive, rfl⟩ := started
  have paced := EspClock.paced_after events
  have anchored : (events.foldl EspClock.machine.step ({} : EspClock)).Anchored :=
    EspClock.anchored.run (EspClock.anchored.start _ rfl)
      (Machine.Run.foldl (fun _ _ => trivial) events _)
  generalize events.foldl EspClock.machine.step ({} : EspClock) = clock at *
  have lag := limits.lag
  have reads := anchored.reads
  have since := paced.drift anchor
  have now := clock.utcUs_eq nowUs
  have then_ : clock.anchorUtcUs = clock.anchorLocalUs + clock.aheadUs clock.anchorLocalUs := by
    rw [← EspClock.utcUs_eq, reads]
  have whole : (clock.utcUs nowUs).tdiv 1000000 = clock.utcUs nowUs / 1000000 :=
    Int.tdiv_eq_ediv_of_nonneg positive
  have near : |((clock.utcUs nowUs).tdiv 1000000 + 1) * 1000000 - clock.anchorUtcUs| ≤ 10 ^ 12 := by
    rw [whole, then_, abs_le]
    norm_num
    omega
  obtain ⟨low, high⟩ := paced.localUs_near anchored near
  generalize next : clock.localUs (((clock.utcUs nowUs).tdiv 1000000 + 1) * 1000000) = rise at low high
  have same := clock.utcUs_eq rise
  obtain ⟨sum, lead, _⟩ := PpsOutput.putOff_spec (rise - countOffsetUs) (nowUs - countOffsetUs)
  have alarm : (startPps clock { countOffsetUs := countOffsetUs } nowUs
      (nowUs - countOffsetUs)).alarm =
        some (PpsOutput.putOff (rise - countOffsetUs) (nowUs - countOffsetUs)).1 := by
    rw [← next]
    rfl
  generalize (PpsOutput.putOff (rise - countOffsetUs) (nowUs - countOffsetUs)).1 = riseCount at *
  generalize (PpsOutput.putOff (rise - countOffsetUs) (nowUs - countOffsetUs)).2 = seconds at *
  have apart : -(600 * 2000000 + 2000000) ≤
        1000000 * (clock.aheadUs rise - clock.aheadUs nowUs) ∧
      1000000 * (clock.aheadUs rise - clock.aheadUs nowUs) ≤ 600 * 2000000 + 2000000 := by
    rw [whole] at low high
    rcases le_total nowUs rise with ahead | behind
    · have moved := paced.drift ahead
      omega
    · have moved := paced.drift behind
      omega
  refine ⟨(clock.utcUs nowUs).tdiv 1000000 + seconds, paced, anchored, anchor, paced.periodAdjust,
    show (0 : Int) ≤ 0 ∧ (0 : Int) < 65536 from ⟨le_refl _, by norm_num⟩, rfl,
    ⟨riseCount, alarm, fun high => (by cases high), fun _ none => absurd none (lt_irrefl _)⟩,
    ⟨clock.aheadUs nowUs, .start paced nowUs, le_refl _, fun high => (by cases high),
      fun _ alarmValue member => ?_⟩,
    fun none => absurd none (lt_irrefl _), fun fresh => (by cases fresh),
    fun _ waits => (by cases waits), fun _ none => (by cases none)⟩
  dsimp only at member ⊢
  rw [alarm] at member
  cases member
  change nowUs ≤ riseCount + countOffsetUs ∧
    Marks _ (riseCount + countOffsetUs) _ (_ + 600 * (riseCount + countOffsetUs - nowUs))
  dsimp only [Marks, planSlack, secondUs, minLeadUs] at *
  rw [whole] at low high ⊢
  constructor <;> omega

theorem kept_invariant (limits : PpsLimits) :
    espSecondMachine.Invariant (Admits limits) fun second =>
      ∃ base rises, second.Kept limits base rises where
  start second started := (Started.kept started).imp fun _ kept => ⟨0, kept⟩
  step second act := by
    rintro ⟨base, rises, kept⟩ admitted
    cases act with
    | update input => exact ⟨base, rises, kept.update admitted⟩
    | newReference => exact ⟨base, rises, kept.newReference⟩
    | alarm countValue nowUs =>
        cases level : second.output.high with
        | false => exact ⟨base, rises + 1, kept.rise level admitted⟩
        | true => exact ⟨base, rises, kept.fall level admitted⟩
    | service nowUs => exact ⟨base, rises, kept.service admitted⟩
    | plan nowUs => exact ⟨base, rises, kept.plan admitted⟩
    | takeReport => exact ⟨base, rises, kept.takeReport⟩

/-- **No second lost, none twice.** In every run that no update steps, whatever the loop
misses for a minute at most and however its calls fall among the interrupts, every report
gives its edge's second as the edges are counted, and the edge is as near that second by the
clock as the interrupt's latency, the lag of its plan and the time the output has run on
allow. -/
theorem seconds_follow_edges (limits : PpsLimits) (second : EspSecond)
    (reached : espSecondMachine.Reachable (Admits limits) second) :
    ∃ base, ∀ report ∈ second.reports, Follows limits base report := by
  obtain ⟨base, _, kept⟩ := (kept_invariant limits).reachable reached
  exact ⟨base, kept.reports⟩

/-- A clock stepped once, to a time in 2023. -/
def steppedClock : EspClock :=
  ([.update ⟨{ localUs := 900000, offsetUs := 1700000000250000 }, 1000000, 0, none⟩] :
    List EspClock.Event).foldl EspClock.machine.step {}

/-- Its output just started, its timer's count 40 microseconds behind. -/
def startedSecond : EspSecond where
  clock := steppedClock
  output := startPps steppedClock { countOffsetUs := 40 } 1000000 (1000000 - 40)
  nowUs := 1000000
  plannedUs := 1000000
  runsFromUs := 1000000

/-- A tenth of a millisecond, half a second and ten seconds. -/
def usualLimits : PpsLimits :=
  ⟨100, 500000, 10000000, by decide, by decide, by decide⟩

/-- A rise reported and planned from; then the loop is away for two more. -/
def busyLoop : List EspSecondAct :=
  [.alarm 1749965 1750010, .service 1760000, .plan 1760100, .alarm 1849970 1850020,
    .alarm 2749965 2750010, .alarm 2849965 2850010, .alarm 3749965 3750010, .service 3800000]

/-- The reports are two seconds apart, as are the edges' numbers. -/
theorem seconds_follow_edges_busy :
    let second := busyLoop.foldl espSecondMachine.step startedSecond
    second.reports.length = 2 ∧
      ∃ base, ∀ report ∈ second.reports, Follows usualLimits base report := by
  have started : startedSecond.Started :=
    ⟨_, 40, 1000000, by decide, by decide, by decide, rfl⟩
  have run : espSecondMachine.Run (Admits usualLimits) startedSecond busyLoop
      (busyLoop.foldl espSecondMachine.step startedSecond) :=
    Machine.Run.of_admitted (by decide +kernel)
  exact ⟨by decide +kernel, seconds_follow_edges usualLimits _ ((Machine.Reachable.start started).run run)⟩

end EspSecond

end GpsClock.Ntp
