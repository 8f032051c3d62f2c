import GpsClock.Link.Coherent
import GpsClock.Link.System

/-! # No settings update is lost

Each of the PIC's bodies has a revision of its own until the counter comes round, so
a write the PIC accepts, expecting the present revision, comes from an edit of the
present body (`GpsClock.Link.System.accepted_write_replaces_its_base`). Two counters can come
round: the PIC's revision after 2^32 changes, and the ESP's token after 65535
requests while an answer is still on its way (`GpsClock.Link.System.counters_wrap`).
-/

namespace GpsClock.Link

/-- The PIC had this body some changes ago, under this revision. -/
def Known (history : List SmlSettingsBody) (present revision : BitVec 32)
    (body : SmlSettingsBody) : Prop :=
  ∃ ago : Nat, history[ago]? = some body ∧ revision + BitVec.ofNat 32 ago = present

namespace System

structure Inv (system : System) : Prop where
  present : system.history[0]? = some system.pic.settings.running.body
  silent : system.pic.uart = []
  written : system.esp.uart = []
  coherent : Coherent (Known system.history system.pic.settings.revision) system.pic.savedToken
    system.toEsp system.toPic system.base system.esp

variable {system : System}

theorem Inv.mono {toPic : List (EspFrame × SmlSettingsBody)} {toEsp : List PicFrame}
    (inv : system.Inv) (fewer : ∀ frame ∈ toPic, frame ∈ system.toPic)
    (less : ∀ frame ∈ toEsp, frame ∈ system.toEsp) :
    ({ system with toPic := toPic, toEsp := toEsp } : System).Inv :=
  ⟨inv.present, inv.silent, inv.written, inv.coherent.mono fewer less⟩

theorem Inv.espAct (inv : system.Inv) (act : PicLink.Act)
    (continues : Continues (Known system.history system.pic.settings.revision)
      system.pic.savedToken system.toEsp system.toPic (system.baseAfter act) system.esp
      (system.esp.act act)) : (system.espAct act).Inv := by
  obtain ⟨frames, wrote, coherent⟩ := continues
  rw [inv.written, List.nil_append] at wrote
  refine ⟨inv.present, inv.silent, rfl, ?_⟩
  rw [← wrote] at coherent
  exact ⟨coherent.cached, coherent.writes, coherent.stats, coherent.one, coherent.flag,
    coherent.idle, coherent.awaited⟩

/-- The PIC's pairs of revision and body stay known when it moves on. -/
theorem known_moves {before after : Settings.State} {history : List SmlSettingsBody}
    (moves : Settings.Moves before after) (revision : BitVec 32) (body : SmlSettingsBody)
    (known : Known history before.revision revision body) :
    Known (if after.running.body ≠ before.running.body then after.running.body :: history
      else history) after.revision revision body := by
  obtain ⟨ago, had, counted⟩ := known
  obtain ⟨same, kept⟩ | ⟨differs, next⟩ := moves
  · rw [if_neg (not_not.mpr kept), same]
    exact ⟨ago, had, counted⟩
  · rw [if_pos differs, next]
    refine ⟨ago + 1, had, ?_⟩
    rw [BitVec.ofNat_add, ← BitVec.add_assoc, counted]
    rfl

/-- The PIC does a step. An unanswered write's frame is answered with the body that
was written, if it is acknowledged. -/
theorem Inv.picDone {after : EspLink} {token : Option Word} (inv : system.Inv)
    (steps : system.pic.Steps after token)
    (answered : ∀ index, (system.esp.pending index).IsWrite →
      token = some (system.esp.pending index).token →
      after.savedToken = system.pic.savedToken ∧
        ∀ response, .response response ∈ after.uart → response.status = smlResultAck →
          after.settings.running.body =
            if system.esp.settings.waiting then system.base else system.esp.settings.body) :
    (system.picDone after).Inv := by
  have present : (system.picDone after).history[0]? = some after.settings.running.body := by
    simp only [System.picDone]
    split
    · rfl
    · next same =>
        rw [not_not.mp same]
        exact inv.present
  have now : Known (system.picDone after).history after.settings.revision after.settings.revision
      after.settings.running.body := ⟨0, present, BitVec.add_zero _⟩
  have coherent := inv.coherent.imp (known_moves steps.moves)
  refine ⟨present, rfl, inv.written, ?_⟩
  refine ⟨coherent.cached, coherent.writes, ?_, coherent.one, coherent.flag, coherent.idle, ?_⟩
  · intro stat member
    obtain earlier | new := List.mem_append.mp member
    · exact coherent.stats stat earlier
    · obtain ⟨revision, body⟩ := steps.stats stat new
      rw [revision, body]
      exact now
  · intro index write
    have awaited := coherent.awaited index write
    have own := answered index write
    refine ⟨awaited.frames, fun response member same ack => ?_, fun kept => ?_⟩
    · obtain earlier | new := List.mem_append.mp member
      · exact awaited.answers response earlier same ack
      · obtain ⟨revision, owed⟩ := steps.answers response new
        rw [same] at owed
        obtain delivered | save := owed
        · have body := (own delivered).2 response new ack
          obtain ⟨ago, had, counted⟩ := now
          refine ⟨ago, had.trans (congrArg some body), ?_⟩
          rw [revision]
          exact counted
        · exact (awaited.save save).elim
    · have kept : after.savedToken = some (system.esp.pending index).token := kept
      obtain same | none_ | delivered := steps.save
      · exact awaited.save (same.symm.trans kept)
      · rw [none_] at kept
        cases kept
      · have before := (own (delivered.symm.trans kept)).1
        exact awaited.save (before.symm.trans kept)

/-- A token not in use is free for the next frame. -/
theorem unused_of_not_carries {token : Word} (unused : ¬ system.Carries token) :
    Unused system.pic.savedToken system.toEsp system.toPic token ∧
      ∀ index, (system.esp.pending index).token ≠ token := by
  simp only [Carries, not_or, not_exists, not_and] at unused
  obtain ⟨slots, frames, answers, save⟩ := unused
  refine ⟨⟨frames, answers, fun kept => ?_⟩, slots⟩
  unfold EspLink.savedToken at kept
  split at kept
  · next due => exact save due (Option.some.inj kept)
  · cases kept

theorem Inv.act (inv : system.Inv) (act : Act) (fresh : system.Fresh act) :
    (system.act act).Inv := by
  have unused := fun changed => unused_of_not_carries (fresh changed)
  cases act with
  | request command argument now =>
      refine inv.espAct _ ?_
      exact inv.coherent.request (fun index _ => (unused (nextToken_ne _)).2 index) now _ _
  | read now =>
      refine inv.espAct _ ?_
      simp only [System.act, System.espAct, PicLink.act, PicLink.picLinkSettings] at unused ⊢
      split
      · next unknown =>
          rw [if_pos unknown] at unused
          exact inv.coherent.request (fun index _ => (unused (nextToken_ne _)).2 index) now _ _
      · exact inv.coherent.continues
  | write body now =>
      refine inv.espAct _ ?_
      exact inv.coherent.write body now unused
  | service reading =>
      refine inv.espAct _ ?_
      rw [PicLink.act_service]
      exact inv.coherent.expireSlots reading slots
  | pic act =>
      exact inv.picDone (EspLink.act_steps inv.silent act) fun _ _ none_ => by cases none_
  | deliverToPic other =>
      simp only [System.act]
      split
      · exact inv
      · next frame base rest delivered =>
          have member : (frame, base) ∈ system.toPic := by
            rw [delivered]
            exact List.mem_cons_self
          have left : ({ system with toPic := rest } : System).Inv :=
            inv.mono (fun other member => by rw [delivered]; exact List.mem_cons_of_mem _ member)
              (fun _ member => member)
          refine left.picDone (EspLink.receive_steps inv.silent frame other) ?_
          intro index write same
          obtain ⟨sent, rfl, body⟩ := (inv.coherent.awaited index write).frames _ member
            (Option.some.inj same)
          refine ⟨?_, fun response answer ack => ?_⟩
          · rfl
          · have accepted := EspLink.handleSettings_ack inv.silent sent response answer ack
            have running := ((system.pic.checkedWrite_cases sent).2 accepted).2
            rw [← (system.pic.handleSettings_body sent).1] at running
            exact running.trans body
  | deliverToEsp now =>
      simp only [System.act] at unused ⊢
      split
      · exact inv
      · next stat rest delivered =>
          have left : ({ system with toEsp := rest } : System).Inv :=
            inv.mono (fun _ member => member)
              (fun other member => by rw [delivered]; exact List.mem_cons_of_mem _ member)
          refine left.espAct (.stat stat) (left.coherent.noteSettings stat ?_)
          refine inv.coherent.stats stat ?_
          rw [delivered]
          exact List.mem_cons_self
      · next response rest delivered =>
          have whole : ({ system with toEsp := .response response :: rest } : System).Inv :=
            inv.mono (fun _ member => member) (fun other member => by rw [delivered]; exact member)
          have left : ({ system with toEsp := rest } : System).Inv :=
            inv.mono (fun _ member => member)
              (fun other member => by rw [delivered]; exact List.mem_cons_of_mem _ member)
          refine left.espAct (.response response now) (whole.coherent.handleResponse now ?_)
          intro changed
          rw [delivered] at unused
          obtain ⟨free, _⟩ := unused changed
          exact ⟨free.frames, fun other member => free.answers other (List.mem_cons_of_mem _ member),
            free.save⟩
  | loseToPic => exact inv.mono (fun _ member => List.mem_of_mem_tail member) fun _ member => member
  | loseToEsp => exact inv.mono (fun _ member => member) fun _ member => List.mem_of_mem_tail member

theorem inv_init (settings : Settings.State) (base : SmlSettingsBody) (now : BitVec 32) :
    (init settings base now).Inv := by
  have none_ : ∀ index, ¬ (({} : PicLink).pending index).IsWrite := fun _ write => write.1 rfl
  have started : Coherent (Known [settings.running.body] settings.revision) none []
      [(.user { command := SmlUser.show_.code, token := 0, argument := 0 }, base)] base
      (({} : PicLink).send (.user { command := SmlUser.show_.code, token := 0, argument := 0 })) := by
    refine ⟨fun valid => (Bool.false_ne_true valid).elim, fun frame member write same => ?_,
      fun _ member => (List.not_mem_nil member).elim, fun first _ write => (none_ first write).elim,
      fun index write => (none_ index write).elim, fun waits => (Bool.false_ne_true waits).elim,
      fun index write => (none_ index write).elim⟩
    obtain rfl := List.mem_singleton.mp member
    cases same
  obtain ⟨frames, wrote, coherent⟩ := started.request
    (fun index write => (none_ index write).elim) now .requestMessage
    (smlClassStat <<< 8 ||| smlStatSettings)
  refine ⟨rfl, rfl, rfl, ?_⟩
  have sent : (PicLink.picLinkInit now).uart.map (fun frame => (frame, base)) =
      [(.user { command := SmlUser.show_.code, token := 0, argument := 0 }, base)] ++
        frames.map fun frame => (frame, base) := by
    have whole : (PicLink.picLinkInit now).uart =
        [.user { command := SmlUser.show_.code, token := 0, argument := 0 }] ++ frames := wrote
    rw [whole, List.map_append]
    rfl
  rw [← sent] at coherent
  exact ⟨coherent.cached, coherent.writes, coherent.stats, coherent.one, coherent.flag,
    coherent.idle, coherent.awaited⟩

theorem invariant : machine.Invariant Fresh Inv where
  start := by
    rintro system ⟨settings, base, now, rfl⟩
    exact inv_init settings base now
  step system act inv fresh := inv.act act fresh

/-- An accepted write next in line replaces the body its edit started from. -/
def ReplacesBase (system : System) : Prop :=
  ∀ write base rest, system.toPic = (.settings write, base) :: rest →
    (system.pic.handleSettings write).1 = .none →
      system.pic.settings.running.body = base ∧
        (system.act (.deliverToPic .none)).pic.settings.running.body = write.settings

/-- **No settings update is lost.** In every run in which no token is handed out
while it is still in use, as long as the PIC's settings have had no more than 2^32
bodies: a write that the PIC accepts replaces the very body that the ESP's edit
started from. -/
theorem accepted_write_replaces_its_base (system : System)
    (reached : machine.Reachable Fresh system) (few : system.history.length ≤ 2 ^ 32) :
    system.ReplacesBase := by
  intro write base rest front accepted
  have inv := invariant.reachable reached
  obtain ⟨expected, running⟩ := (system.pic.checkedWrite_cases write).2 accepted
  obtain ⟨ago, had, counted⟩ := inv.coherent.writes (.settings write, base)
    (by rw [front]; exact List.mem_cons_self) write rfl
  have bound : ago < 2 ^ 32 := Nat.lt_of_lt_of_le (List.getElem?_eq_some_iff.mp had).1 few
  have now : ago = 0 := by
    have zero : BitVec.ofNat 32 ago = 0#32 := by
      rw [expected] at counted
      simpa using counted
    have value := congrArg BitVec.toNat zero
    rwa [BitVec.toNat_ofNat, Nat.mod_eq_of_lt bound] at value
  subst now
  refine ⟨Option.some.inj (inv.present.symm.trans had), ?_⟩
  rw [← (system.pic.handleSettings_body write).1] at running
  simp only [System.act, front]
  exact running

/-! ## Counters that come round -/

/-- A body the settings accept, told apart by its brightness. -/
def bodyOf (brightness : Word) : SmlSettingsBody :=
  { Settings.settingsDefaults with brightness := brightness }

def startSettings : Settings.State where
  running := ⟨bodyOf 1, 0⟩
  stored := ⟨bodyOf 1, 0⟩
  revision := 0
  haveRecord := true
  saveRequested := false
  saveError := .none

/-- The system started, the settings sent and received, and the ESP's first frames lost. -/
def synced : System :=
  [.pic .stat, .deliverToEsp 0, .loseToPic, .loseToPic].foldl act (init startSettings (bodyOf 1) 0)

theorem synced_reachable : machine.Reachable Fresh synced := by
  have start : machine.Reachable Fresh (init startSettings (bodyOf 1) 0) :=
    .start ⟨_, _, _, rfl⟩
  exact (((start.step (.pic .stat) fun changed => (changed rfl).elim).step (.deliverToEsp 0)
    fun changed => (changed rfl).elim).step .loseToPic fun changed => (changed rfl).elim).step
      .loseToPic fun changed => (changed rfl).elim

/-- The ESP changes the body it has cached. -/
def edited : System := synced.act (.write (bodyOf 2) 0)

theorem edited_reachable : machine.Reachable Fresh edited := by
  refine synced_reachable.step (.write (bodyOf 2) 0) fun _ carried => ?_
  obtain ⟨index, same⟩ | ⟨frame, member, _⟩ | ⟨response, member, _⟩ | ⟨due, _⟩ := carried
  · revert index
    decide
  · cases member
  · cases member
  · cases due

/-- The edit is accepted, and replaces the body it started from. -/
theorem accepted_write_replaces_its_base_edited :
    edited.ReplacesBase ∧ (edited.pic.handleSettings
      { token := 2, expectedRevision := 0, settings := bodyOf 2 }).1 = .none :=
  ⟨accepted_write_replaces_its_base edited edited_reachable (by decide), by decide⟩

/-- The PIC with another body and revision, the edit still on its way. -/
def moved (revision : BitVec 32) (body : SmlSettingsBody) (history : List SmlSettingsBody) :
    System :=
  { edited with
    pic := { edited.pic with
      settings := { edited.pic.settings with revision := revision, running := ⟨body, 0⟩ } }
    history := history }

theorem moved_write (revision : BitVec 32) (body next : SmlSettingsBody)
    (history : List SmlSettingsBody) (valid : Settings.settingsCheck next = .none)
    (differs : next ≠ body) :
    (moved revision body history).act (.pic (.write next)) =
      moved (revision + 1) next (next :: history) := by
  have written : ((moved revision body history).pic.settings.settingsWrite next).2 =
      (moved (revision + 1) next (next :: history)).pic.settings := by
    obtain ⟨refused, _⟩ | ⟨_, same, _⟩ | ⟨_, _, changed⟩ :=
      (moved revision body history).pic.settings.settingsWrite_cases next
    · exact (refused valid).elim
    · exact (differs same).elim
    · rw [changed]
      rfl
  simp only [System.act, EspLink.act, System.picDone, written]
  rw [if_pos]
  · rfl
  · exact differs

theorem moved_reachable (turns : Nat) :
    ∃ history, machine.Reachable Fresh (moved (BitVec.ofNat 32 (2 * turns)) (bodyOf 1) history) := by
  induction turns with
  | zero => exact ⟨_, edited_reachable⟩
  | succ turns ih =>
      obtain ⟨history, reached⟩ := ih
      have away := reached.step (.pic (.write (bodyOf 3))) fun changed => (changed rfl).elim
      have back := away.step (.pic (.write (bodyOf 1))) fun changed => (changed rfl).elim
      simp only [machine] at back
      rw [moved_write _ _ _ _ (by decide) (by decide), moved_write _ _ _ _ (by decide) (by decide),
        BitVec.add_assoc] at back
      rw [Nat.mul_succ, BitVec.ofNat_add]
      exact ⟨_, back⟩

/-- After 2^32 changes the PIC is at the revision the edit expects, with a body
nobody at the ESP has seen. -/
theorem revision_wraps : ¬ ∀ system, machine.Reachable Fresh system → system.ReplacesBase := by
  intro replaces
  obtain ⟨history, reached⟩ := moved_reachable (2 ^ 31 - 1)
  have away := reached.step (.pic (.write (bodyOf 3))) fun changed => (changed rfl).elim
  have unseen := away.step (.pic (.write (bodyOf 4))) fun changed => (changed rfl).elim
  simp only [machine] at unseen
  rw [moved_write _ _ _ _ (by decide) (by decide), moved_write _ _ _ _ (by decide) (by decide)]
    at unseen
  have round : BitVec.ofNat 32 (2 * (2 ^ 31 - 1)) + 1 + 1 = 0 := by decide
  rw [round] at unseen
  have front : ∀ history, (moved 0 (bodyOf 4) history).toPic =
      [(.settings { token := 2, expectedRevision := 0, settings := bodyOf 2 }, bodyOf 1)] :=
    fun _ => rfl
  have accepted : ∀ history, ((moved 0 (bodyOf 4) history).pic.handleSettings
      { token := 2, expectedRevision := 0, settings := bodyOf 2 }).1 = .none := fun _ => by
    rfl
  have same : bodyOf 4 = bodyOf 1 := (replaces _ unseen _ _ _ (front _) (accepted _)).1
  exact absurd same (by decide)

/-! A token that comes round: every request handed one that is lost and expires. -/

/-- The token after this one. -/
def nextToken (token : Word) : Word := if token = 0xFFFF then 1 else token + 1

/-- A reading of the clock after every timeout. -/
def lateReading : Slot → PicLink.Reading := fun _ => ⟨6000, 6000⟩

theorem expireSlots_idle (reading : Slot → PicLink.Reading) (link : PicLink) (indices : List Slot)
    (idle : ∀ index, (link.pending index).token = 0) :
    indices.foldl (PicLink.expireSlot reading) link = link := by
  induction indices with
  | nil => rfl
  | cons index rest ih =>
      have waits : ¬ link.Expired index (reading index).check := fun expired =>
        expired.1 (idle index)
      rw [List.foldl_cons, PicLink.expireSlot, if_neg waits, ih]

/-- With nothing waiting, a request is given up at its timeout, and only the token
moves on. -/
theorem request_expires (link : PicLink) (idle : ∀ index, (link.pending index).token = 0)
    (some_ : link.nextToken ≠ 0) :
    ∃ stats, ({ link.picLinkRequest 0 .show_ 0 with uart := [] } : PicLink).act
        (.service lateReading) =
      { link with
        pending := Function.update link.pending 0 ⟨0, SmlUser.show_.code, 0, 0⟩
        nextToken := nextToken link.nextToken
        stats := stats
        uart := [] } := by
  have first : link.nextSlot = 0 := by
    simp [PicLink.nextSlot, slots, List.finRange_succ, PicLink.chooseSlot, idle]
  let asked : PicLink := { link.picLinkRequest 0 .show_ 0 with uart := [] }
  have table : asked.pending =
      Function.update link.pending 0 ⟨link.nextToken, SmlUser.show_.code, 0, 0⟩ := by
    simp only [asked, PicLink.picLinkRequest, PicLink.send, PicLink.takeSlot, first]
  have freed : (asked.free 0).pending =
      Function.update link.pending 0 ⟨0, SmlUser.show_.code, 0, 0⟩ := by
    simp only [PicLink.free, table, Function.update_self, Function.update_idem]
  have expired : asked.Expired 0 (lateReading 0).check := by
    rw [PicLink.Expired, table, Function.update_self]
    exact ⟨some_, (by decide : (6000 : BitVec 32) - 0 > requestTimeoutMs)⟩
  have other : ¬ ((asked.free 0).pending 0).command = smlOperationSettingsWrite := by
    rw [freed, Function.update_self]
    exact SmlUser.show_.code_ne_settingsWrite
  have free : ∀ index, ((asked.free 0).pending index).token = 0 := by
    intro index
    rw [freed]
    by_cases same : index = 0
    · rw [same, Function.update_self]
    · rw [Function.update_of_ne same]
      exact idle index
  have counted : PicLink.expireSlot lateReading asked 0 =
      { asked.free 0 with stats :=
        { asked.stats with unanswered := asked.stats.unanswered + 1 } } := by
    rw [PicLink.expireSlot, if_pos expired]
    exact if_neg other
  have split : slots = 0 :: slots.tail := rfl
  refine ⟨{ asked.stats with unanswered := asked.stats.unanswered + 1 }, ?_⟩
  rw [PicLink.act_service, split, List.foldl_cons]
  refine (congrArg (List.foldl _ · _) counted).trans ?_
  rw [expireSlots_idle]
  · rw [← freed]
    rfl
  · exact free

/-- Nothing waits or is on its way to the PIC, and the first slot was last used by
such a request. -/
structure Resting (system : System) : Prop where
  idle : ∀ index, (system.esp.pending index).token = 0
  slot : system.esp.pending 0 = ⟨0, SmlUser.show_.code, 0, 0⟩
  written : system.esp.uart = []
  clear : system.toPic = []

/-- The same system some requests later. -/
def later (system : System) (token : Word) (stats : PicLinkStats) : System :=
  { system with esp := { system.esp with nextToken := token, stats := stats } }

theorem Resting.turn {system : System} (resting : system.Resting) (token : Word)
    (stats : PicLinkStats) (some_ : token ≠ 0) :
    ∃ stats', (((system.later token stats).act (.request .show_ 0 0)).act .loseToPic).act
      (.service lateReading) = system.later (nextToken token) stats' := by
  obtain ⟨⟨pending, settings, before, counts, uart⟩, pic, toPic, toEsp, base, history⟩ := system
  obtain ⟨idle, slot, rfl, rfl⟩ := resting
  obtain ⟨stats', expired⟩ := request_expires ⟨pending, settings, token, stats, []⟩ idle some_
  have same : Function.update pending 0 ⟨0, SmlUser.show_.code, 0, 0⟩ = pending := by
    rw [← slot]
    exact Function.update_eq_self (0 : Slot) pending
  rw [same] at expired
  refine ⟨stats', ?_⟩
  have lost : ((later ⟨⟨pending, settings, before, counts, []⟩, pic, [], toEsp, base, history⟩ token
      stats).act (.request .show_ 0 0)).act .loseToPic =
      ⟨{ PicLink.picLinkRequest ⟨pending, settings, token, stats, []⟩ 0 .show_ 0 with uart := [] },
        pic, [], toEsp, base, history⟩ := rfl
  rw [lost]
  simp only [System.act, System.espAct, expired]
  rfl

theorem Resting.reachable {system : System} (resting : system.Resting) (stats : PicLinkStats)
    (start : machine.Reachable (fun _ _ => True) (system.later 3 stats)) (count : Nat)
    (bound : count + 3 ≤ 0xFFFF) :
    ∃ stats', machine.Reachable (fun _ _ => True)
      (system.later (BitVec.ofNat 16 (count + 3)) stats') := by
  induction count with
  | zero => exact ⟨stats, start⟩
  | succ count ih =>
      obtain ⟨stats', reached⟩ := ih (Nat.le_of_succ_le bound)
      have value : (BitVec.ofNat 16 (count + 3)).toNat = count + 3 := by
        rw [BitVec.toNat_ofNat, Nat.mod_eq_of_lt (by omega)]
      have some_ : BitVec.ofNat 16 (count + 3) ≠ 0 := fun zero => by
        rw [zero] at value
        cases value
      have last : BitVec.ofNat 16 (count + 3) ≠ 0xFFFF := fun last => by
        rw [last] at value
        change 65535 = count + 3 at value
        omega
      obtain ⟨stats'', turned⟩ := resting.turn _ stats' some_
      have next : nextToken (BitVec.ofNat 16 (count + 3)) = BitVec.ofNat 16 (count + 1 + 3) := by
        rw [nextToken, if_neg last, Nat.add_right_comm, BitVec.ofNat_add (count + 3) 1]
        rfl
      refine ⟨stats'', ?_⟩
      rw [← next, ← turned]
      exact ((reached.step (.request .show_ 0 0) trivial).step .loseToPic trivial).step
        (.service lateReading) trivial

/-- The request for the settings answered and given up, its acknowledgement still on
its way to the ESP, and another request lost and given up. -/
def late : System :=
  [.loseToPic, .deliverToPic .none, .deliverToEsp 0, .service lateReading, .request .show_ 0 0,
    .loseToPic, .service lateReading].foldl act (init startSettings (bodyOf 1) 0)

theorem late_resting : late.Resting := ⟨by decide, rfl, rfl, rfl⟩

/-- Once every token has been handed out, a write that is lost, the acknowledgement of
the first request taken for its own, and a write that starts from it. -/
def mistaken (stats : PicLinkStats) : System :=
  [.write (bodyOf 2) 0, .loseToPic, .deliverToEsp 0, .write (bodyOf 3) 0].foldl act
    (late.later 1 stats)

theorem act_write_pic (system : System) (body : SmlSettingsBody) (now : BitVec 32) :
    (system.act (.write body now)).pic = system.pic := rfl

theorem loseToPic_pic (system : System) : (system.act .loseToPic).pic = system.pic := rfl

theorem deliverToEsp_pic (system : System) (now : BitVec 32) :
    (system.act (.deliverToEsp now)).pic = system.pic := by
  simp only [System.act]
  split <;> rfl

theorem mistaken_front (stats : PicLinkStats) : (mistaken stats).toPic =
    [(.settings { token := 2, expectedRevision := 0, settings := bodyOf 3 }, bodyOf 2)] := rfl

theorem mistaken_accepted (stats : PicLinkStats) : ((mistaken stats).pic.handleSettings
    { token := 2, expectedRevision := 0, settings := bodyOf 3 }).1 = .none := by
  have same : (mistaken stats).pic = late.pic := by
    simp only [mistaken, List.foldl_cons, List.foldl_nil, act_write_pic, deliverToEsp_pic,
      loseToPic_pic]
    rfl
  rw [same]
  decide +kernel

theorem token_wraps : ¬ ∀ system, machine.Reachable (fun _ _ => True) system →
    system.history.length ≤ 2 ^ 32 → system.ReplacesBase := by
  intro replaces
  have start : machine.Reachable (fun _ _ => True) (init startSettings (bodyOf 1) 0) :=
    .start ⟨_, _, _, rfl⟩
  have rest : machine.Reachable (fun _ _ => True) (late.later 3 late.esp.stats) :=
    start.run (.foldl (fun _ _ => trivial) _ _)
  obtain ⟨stats, reached⟩ := late_resting.reachable late.esp.stats rest 65532 (by decide)
  obtain ⟨stats', turned⟩ := late_resting.turn (BitVec.ofNat 16 (65532 + 3)) stats (by decide)
  have round : nextToken (BitVec.ofNat 16 (65532 + 3)) = 1 := by decide
  have again := ((reached.step (.request .show_ 0 0) trivial).step .loseToPic trivial).step
    (.service lateReading) trivial
  simp only [machine] at again
  rw [turned, round] at again
  have final : machine.Reachable (fun _ _ => True) (mistaken stats') :=
    again.run (.foldl (fun _ _ => trivial) _ _)
  have same : bodyOf 1 = bodyOf 2 :=
    (replaces _ final Nat.one_le_two_pow _ _ _ (mistaken_front stats') (mistaken_accepted stats')).1
  exact absurd same (by decide)

/-- Either counter coming round lets a write replace a body its edit did not start
from. -/
theorem counters_wrap :
    (¬ ∀ system, machine.Reachable Fresh system → system.ReplacesBase) ∧
      ¬ ∀ system, machine.Reachable (fun _ _ => True) system →
        system.history.length ≤ 2 ^ 32 → system.ReplacesBase :=
  ⟨revision_wraps, token_wraps⟩

end System

end GpsClock.Link
