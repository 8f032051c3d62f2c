import GpsClock.Ntp.Servers

/-! # A server renamed while it is polled

A changed name takes effect when its server is not being polled, and the result of a poll
by the old name is dropped without another being scheduled. The server is then overdue, in
the same pass and before its name is looked at again: it is polled by its old name anew, and
no other server is polled at all, until the network goes or a resync is asked for
(`GpsClock.Ntp.NtpState.renamed_polled_on`).
-/

namespace GpsClock.Ntp

namespace NtpState

variable {ntp : NtpState} {prefs : NtpPrefs} {index : Fin ntpServers} {host : String}

/-- A server being polled by a name it no longer has, as overdue as the others are not. -/
structure Renamed (prefs : NtpPrefs) (index : Fin ntpServers) (host : String) (ntp : NtpState) :
    Prop where
  interval : ntp.maxIntervalS = prefs.interval
  polling : ntp.polling = some index
  old : (ntp.servers index).host = host
  renamed : host ≠ prefs.hosts index
  configured : (ntp.servers index).configured = true
  same : ∀ other ≠ index, (ntp.servers other).host = prefs.hosts other
  later : ∀ other ≠ index, (ntp.servers other).configured = true →
    (ntp.servers other).due = false ∧
      (ntp.servers index).nextPollUs < (ntp.servers other).nextPollUs
  up : ntp.networkWasUp = true ∧ ntp.polledOnLink = true

/-- The network stays up, the old name is known, and the task, which goes before the main
loop, has rested when its result is taken. -/
def Goes (prefs : NtpPrefs) (index : Fin ntpServers) (host : String) (ntp : NtpState) :
    NtpAct → Prop
  | .service input => input.prefs = prefs ∧ input.networkUp = true ∧ input.resolve host ≠ [] ∧
      (ntp.servers index).nextPollUs ≤ input.dueUs ∧
      (ntp.client.result.isSome = true → ntp.client.busy = false)
  | .resync => False
  | .published _ => ntp.client.running = true
  | .rested => ntp.client.running = false

/-- No name is changed that is not being polled. -/
theorem checkSettings_renamed (renamed : Renamed prefs index host ntp)
    (reads : Fin ntpServers → SelectReads) : ntp.checkSettings prefs reads = ntp := by
  have still (other : Fin ntpServers) : checkServer prefs reads ntp other = ntp := by
    rw [checkServer]
    by_cases polled : other = index
    · rw [if_neg (fun changed => changed.1 (by rw [polled, renamed.polling]))]
    · rw [if_neg (fun changed => changed.2 (renamed.same other polled))]
  have all (indexes : List (Fin ntpServers)) :
      indexes.foldl (checkServer prefs reads) ntp = ntp := by
    induction indexes with
    | nil => rfl
    | cons other indexes ih => rw [List.foldl_cons, still, ih]
  rw [checkSettings, if_neg (fun differs => differs renamed.interval)]
  exact all _

/-- The longest overdue is the next to be polled. -/
theorem nextDue_overdue {nowUs : Int} (configured : (ntp.servers index).configured = true)
    (due : (ntp.servers index).nextPollUs ≤ nowUs)
    (later : ∀ other ≠ index, (ntp.servers other).configured = true →
      (ntp.servers other).due = false ∧
        (ntp.servers index).nextPollUs < (ntp.servers other).nextPollUs) :
    ntp.nextDue nowUs = some index := by
  have keeps (other : Fin ntpServers) : ntp.dueBefore nowUs (some index) other = some index := by
    unfold dueBefore
    dsimp only
    by_cases same : other = index
    · rw [same]
      simp
    · cases set : (ntp.servers other).configured with
      | false => simp
      | true =>
          obtain ⟨idle, after⟩ := later other same set
          simp [idle, Int.not_lt.mpr after.le]
  have takes (chosen : Option (Fin ntpServers))
      (known : ∀ other ∈ chosen, (ntp.servers other).configured = true) :
      ntp.dueBefore nowUs chosen index = some index := by
    unfold dueBefore
    simp only [configured, Bool.not_true, Bool.false_or, decide_eq_false (Int.not_lt.mpr due),
      Bool.and_false, Bool.false_eq_true, if_false]
    cases chosen with
    | none => rfl
    | some other =>
        by_cases same : other = index
        · simp [same]
        · obtain ⟨idle, after⟩ := later other same (known other rfl)
          cases (ntp.servers index).due <;> simp [idle, after]
  have passes (other : Fin ntpServers) (chosen : Option (Fin ntpServers))
      (known : ∀ other ∈ chosen, (ntp.servers other).configured = true) :
      ∀ next ∈ ntp.dueBefore nowUs chosen other, (ntp.servers next).configured = true := by
    unfold dueBefore
    dsimp only
    split
    · exact known
    · next ready =>
        have set : (ntp.servers other).configured = true := by
          simp only [Bool.or_eq_true, not_or, Bool.not_eq_true, Bool.not_eq_false'] at ready
          exact ready.1
        cases chosen with
        | none => simpa using set
        | some best =>
            dsimp only
            split
            · simpa using set
            · exact known
  have folds (indexes : List (Fin ntpServers)) (chosen : Option (Fin ntpServers))
      (known : ∀ other ∈ chosen, (ntp.servers other).configured = true)
      (coming : chosen = some index ∨ index ∈ indexes) :
      indexes.foldl (ntp.dueBefore nowUs) chosen = some index := by
    induction indexes generalizing chosen with
    | nil =>
        rcases coming with same | never
        · exact same
        · cases never
    | cons other indexes ih =>
        refine ih _ (passes other chosen known) ?_
        rcases coming with same | inside
        · rw [same]
          exact .inl (keeps other)
        · rcases List.mem_cons.mp inside with same | rest
          · rw [← same]
            exact .inl (takes chosen known)
          · exact .inr rest
  exact folds _ none (fun other never => (by cases never)) (.inr (List.mem_finRange index))

/-- What a pass has asked and been told, before what it had. -/
def Only (host : String) (index : Fin ntpServers) (calls : List NtpCall) : Prop :=
  ∀ call ∈ calls, call = .asked index host ∨ ∃ poll, call = .published poll

theorem startPoll_free (free : ntp.client.busy = false) (index : Fin ntpServers) :
    ntp.startPoll index =
      { ntp with
        client := { ntp.client with busy := true, running := true }
        polling := some index
        calls := .asked index (ntp.servers index).host :: ntp.calls } := by
  rw [startPoll, NtpClient.poll, free]
  rfl

/-- The server as it is polled. -/
def asked (ntp : NtpState) (input : ServiceInput) (index : Fin ntpServers) : NtpServer :=
  { ntp.servers index with
    due := false
    resync := false
    targets := input.resolve (ntp.servers index).host
    target := 0 }

/-- The server as it is polled is the one next polled, if its name is known. -/
theorem pollNext_asks {input : ServiceInput} (next : ntp.nextDue input.dueUs = some index)
    (known : input.resolve (ntp.servers index).host ≠ []) (free : ntp.client.busy = false) :
    ntp.pollNext input =
      { { ntp with polledOnLink := true }.set index (ntp.asked input index) with
        client := { ntp.client with busy := true, running := true }
        polling := some index
        calls := .asked index (ntp.servers index).host :: ntp.calls } := by
  have some : (input.resolve (ntp.servers index).host).length ≠ 0 :=
    fun none => known (List.length_eq_zero_iff.mp none)
  unfold pollNext
  rw [next]
  dsimp only
  rw [if_neg some]
  refine (startPoll_free (by exact free) index).trans ?_
  have own : (({ ntp with polledOnLink := true } : NtpState).set index
      (ntp.asked input index)).servers index = ntp.asked input index := Function.update_self _ _ _
  have name : ((({ ntp with polledOnLink := true } : NtpState).set index
      (ntp.asked input index)).servers index).host = (ntp.servers index).host := by
    rw [own]
    rfl
  exact congrArg (fun name =>
    ({ ({ ntp with polledOnLink := true } : NtpState).set index (ntp.asked input index) with
      client := { ntp.client with busy := true, running := true }
      polling := Option.some index
      calls := .asked index name :: ntp.calls } : NtpState)) name

/-- A pass polls the server by its old name again, if its poll has ended. -/
theorem service_renamed {input : ServiceInput} (renamed : Renamed prefs index host ntp)
    (goes : Goes prefs index host ntp (.service input)) :
    Renamed prefs index host (ntp.service input) ∧ (ntp.service input).clock = ntp.clock ∧
      (ntp.service input).peer = ntp.peer ∧
      ((ntp.client.result = none ∧ ntp.service input = ntp) ∨
        (ntp.service input).calls = .asked index host :: ntp.calls) := by
  obtain ⟨given, up, known, due, rested⟩ := goes
  have unchanged : ntp.service input =
      (ntp.takeResult prefs true input.takeReads input.takeUs).serviceNetwork input := by
    rw [service, given, up, checkSettings_renamed renamed]
  rw [unchanged]
  cases result : ntp.client.result with
  | none =>
      have untaken : ntp.takeResult prefs true input.takeReads input.takeUs = ntp := by
        unfold takeResult
        rw [result]
        split
        · next never => cases never
        · rfl
      have waits : ntp.serviceNetwork input = ntp := by
        rw [serviceNetwork]
        simp [up, renamed.up.1, renamed.up.2, renamed.polling]
      rw [untaken, waits]
      exact ⟨renamed, rfl, rfl, .inl ⟨rfl, rfl⟩⟩
  | some poll =>
      let dropped : NtpState :=
        { ntp with client := { ntp.client with result := none }, polling := none }
      have drops : ntp.takeResult prefs true input.takeReads input.takeUs = dropped := by
        unfold takeResult
        rw [result, renamed.polling]
        dsimp only
        rw [renamed.old, if_pos renamed.renamed]
      have free : dropped.client.busy = false := rested (by rw [result]; rfl)
      have passes : dropped.serviceNetwork input = dropped.pollNext input := by
        rw [serviceNetwork]
        simp [up, dropped, renamed.up.1, renamed.up.2, rested (by rw [result]; rfl)]
      have name : (dropped.servers index).host = host := renamed.old
      have next : dropped.nextDue input.dueUs = some index :=
        nextDue_overdue renamed.configured due renamed.later
      have asks := pollNext_asks next
        (show input.resolve (dropped.servers index).host ≠ [] from name.symm ▸ known) free
      rw [drops, passes, asks, name]
      have server (other : Fin ntpServers) (changed : other ≠ index) :
          Function.update ntp.servers index (dropped.asked input index) other =
            ntp.servers other := Function.update_of_ne changed _ _
      have own : Function.update ntp.servers index (dropped.asked input index) index =
          dropped.asked input index := Function.update_self _ _ _
      refine ⟨⟨renamed.interval, rfl, ?_, renamed.renamed, ?_, fun other changed => ?_,
        fun other changed => ?_, renamed.up.1, rfl⟩, rfl, rfl, .inr rfl⟩
      · change (Function.update ntp.servers index (dropped.asked input index) index).host = host
        rw [own]
        exact name
      · change (Function.update ntp.servers index (dropped.asked input index) index).configured = true
        rw [own]
        exact renamed.configured
      · change (Function.update ntp.servers index (dropped.asked input index) other).host = _
        rw [server other changed]
        exact renamed.same other changed
      · change (Function.update ntp.servers index (dropped.asked input index) other).configured =
          true → (Function.update ntp.servers index (dropped.asked input index) other).due = false ∧
            (Function.update ntp.servers index (dropped.asked input index) index).nextPollUs <
              (Function.update ntp.servers index (dropped.asked input index) other).nextPollUs
        rw [server other changed, own]
        exact renamed.later other changed

/-- What the task does changes nothing else. -/
theorem client_renamed (renamed : Renamed prefs index host ntp) (client : NtpClient)
    (calls : List NtpCall) :
    Renamed prefs index host { ntp with client := client, calls := calls } :=
  ⟨renamed.interval, renamed.polling, renamed.old, renamed.renamed, renamed.configured,
    renamed.same, renamed.later, renamed.up⟩

/-- **A server renamed while it is polled is polled on by its old name.** If it is further
overdue than the others, then for as long as the network is up, the old name is known and no
resync is asked for, however long: it is never reset, no poll is made but of it by the old
name, no server is chosen, and the clock is given nothing. -/
theorem renamed_polled_on {final : NtpState} {acts : List NtpAct}
    (renamed : Renamed prefs index host ntp)
    (run : machine.Run (Goes prefs index host) ntp acts final) :
    Renamed prefs index host final ∧ final.clock = ntp.clock ∧ final.peer = ntp.peer ∧
      ∃ since, final.calls = since ++ ntp.calls ∧ Only host index since := by
  induction run with
  | nil => exact ⟨renamed, rfl, rfl, [], rfl, fun call never => (by cases never)⟩
  | @cons before final acts act goes _ ih =>
      -- One act keeps what a run of them does.
      have step : Renamed prefs index host (machine.step before act) ∧
          (machine.step before act).clock = before.clock ∧
          (machine.step before act).peer = before.peer ∧
          ∃ since, (machine.step before act).calls = since ++ before.calls ∧
            Only host index since := by
        cases act with
        | service input =>
            obtain ⟨kept, clock, peer, ⟨-, same⟩ | asks⟩ := service_renamed renamed goes
            · exact ⟨kept, clock, peer, [], congrArg NtpState.calls same,
                fun call never => (by cases never)⟩
            · refine ⟨kept, clock, peer, [.asked index host], asks, fun call one => ?_⟩
              exact .inl (List.mem_singleton.mp one)
        | resync => exact goes.elim
        | published poll =>
            refine ⟨client_renamed renamed _ _, rfl, rfl, [.published poll], rfl,
              fun call one => ?_⟩
            exact .inr ⟨poll, List.mem_singleton.mp one⟩
        | rested => exact ⟨client_renamed renamed _ _, rfl, rfl, [], rfl,
            fun call never => (by cases never)⟩
      obtain ⟨kept, clock, peer, first, firstCalls, firstOnly⟩ := step
      obtain ⟨last, lastClock, lastPeer, rest, restCalls, restOnly⟩ := ih kept
      refine ⟨last, lastClock.trans clock, lastPeer.trans peer, rest ++ first, ?_, ?_⟩
      · rw [restCalls, firstCalls, List.append_assoc]
      · intro call member
        rcases List.mem_append.mp member with inside | inside
        · exact restOnly call inside
        · exact firstOnly call inside

/-- One server, by a name. -/
def oneName (name : String) : NtpPrefs where
  hosts index := if index.val = 0 then name else ""
  interval := 512

/-- A pass on a link that is up, with every name known. -/
def anyPass (prefs : NtpPrefs) (nowUs : Int) : ServiceInput :=
  let reads : SelectReads := ⟨nowUs, none, nowUs, fun _ => 0, nowUs, none⟩
  { prefs := prefs
    networkUp := true
    checkReads := fun _ => reads
    takeReads := reads
    takeUs := nowUs
    upMs := 0
    waitMs := 0
    ipv6Ready := true
    dueUs := nowUs
    resolve := fun _ => [⟨false, [192, 0, 2, 10], 0⟩]
    failReads := reads
    failUs := nowUs }

/-- The only server's name is changed in its first poll, and the poll ends well. -/
theorem renamed_polled_on_first :
    let polled := (init (oneName "first")).service (anyPass (oneName "first") 1000000)
    let good : NtpPollResult := { ok := true, replies := 4 }
    let acts : List NtpAct :=
      [.published good, .rested, .service (anyPass (oneName "second") 9000000)]
    let final := acts.foldl machine.step polled
    Renamed (oneName "second") 0 "first" final ∧ final.clock = polled.clock ∧
      final.peer = polled.peer ∧
      ∃ since, final.calls = since ++ polled.calls ∧ Only "first" 0 since := by
  intro polled good acts final
  have renamed : Renamed (oneName "second") 0 "first" polled :=
    ⟨rfl, by decide, by decide, by decide, by decide, by decide, by decide, by decide⟩
  have run : machine.Run (Goes (oneName "second") 0 "first") polled acts final := by
    refine .cons (NtpAct.published good) ?_
      (.cons NtpAct.rested ?_ (.cons (NtpAct.service _) ?_ (.nil _)))
    · change polled.client.running = true
      decide
    · change (machine.step polled (.published good)).client.running = false
      decide
    · refine ⟨rfl, rfl, ?_, ?_, ?_⟩ <;> decide
  exact renamed_polled_on renamed run

end NtpState

end GpsClock.Ntp
