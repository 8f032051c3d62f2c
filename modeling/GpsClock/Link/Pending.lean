import GpsClock.Lib.Machine
import GpsClock.Link.PicLink

/-! # The unanswered write and its slot

The flag `writing` stands in one structure and the slot that waits for the answer
in another. As long as no request takes over that slot, the flag is set exactly
while one slot waits for a settings write, so the write ends with its answer or
with its timeout (`GpsClock.Link.PicLink.settings_write_ends`). A request made while
all eight slots wait takes the oldest, which may be the write's: from then on the
flag stays set with nothing waiting (`GpsClock.Link.PicLink.Consistent.takes_over`).
-/

namespace GpsClock.Link

/-- A slot that waits for the answer to a settings write. -/
def Pending.IsWrite (slot : Pending) : Prop :=
  slot.token ≠ 0 ∧ slot.command = smlOperationSettingsWrite

instance (slot : Pending) : Decidable slot.IsWrite := inferInstanceAs (Decidable (_ ∧ _))

theorem SmlUser.code_ne_settingsWrite (command : SmlUser) :
    command.code ≠ smlOperationSettingsWrite := by
  cases command <;> decide

namespace PicLink

/-- The slots that wait for a settings write: none, or the one held. -/
def Writes (link : PicLink) (held : Option Slot) : Prop :=
  ∀ index, (link.pending index).IsWrite ↔ held = some index

/-- What ties the flags to the table. -/
structure Consistent (link : PicLink) (held : Option Slot) : Prop where
  writes : link.Writes held
  flag : link.settings.writing = held.isSome
  token : link.nextToken ≠ 0
  known : link.settings.writing = true → link.settings.valid = true

variable {link : PicLink} {held : Option Slot}

/-! ## Taking and freeing slots -/

theorem chooseSlot_free (pending : Slot → Pending) (slot : Slot) (indices : List Slot)
    (free : ∃ index ∈ indices, (pending index).token = 0) :
    (pending (chooseSlot pending slot indices)).token = 0 := by
  induction indices generalizing slot with
  | nil =>
      obtain ⟨_, member, _⟩ := free
      cases member
  | cons index rest ih =>
      unfold chooseSlot
      split
      · assumption
      · next taken =>
          have later : ∃ index ∈ rest, (pending index).token = 0 := by
            obtain ⟨other, member, empty⟩ := free
            obtain rfl | member := List.mem_cons.mp member
            · exact (taken empty).elim
            · exact ⟨other, member, empty⟩
          split
          · exact ih index later
          · exact ih slot later

/-- While a slot is free, the next request takes a free one. -/
theorem nextSlot_free (link : PicLink) (index : Slot) (empty : (link.pending index).token = 0) :
    (link.pending link.nextSlot).token = 0 :=
  chooseSlot_free link.pending 0 slots ⟨index, List.mem_finRange index, empty⟩

theorem nextToken_ne_zero (token : Word) :
    (if token = 0xFFFF then 1 else token + 1 : Word) ≠ 0 := by
  split
  · decide
  · next room =>
      intro wrapped
      apply room
      have same := congrArg (· - 1) wrapped
      simpa using same

theorem Writes.take (writes : link.Writes held) (spared : held ≠ some link.nextSlot)
    {now : BitVec 32} {command : Word} {argument : BitVec 32}
    (other : command ≠ smlOperationSettingsWrite) :
    (link.takeSlot now command argument).2.Writes held := by
  intro index
  by_cases taken : index = link.nextSlot
  · subst taken
    simp only [takeSlot, Function.update_self, Pending.IsWrite]
    exact ⟨fun write => (other write.2).elim, fun same => (spared same).elim⟩
  · simp only [takeSlot, Function.update_of_ne taken]
    exact writes index

theorem Writes.take_write (writes : link.Writes none) (some_ : link.nextToken ≠ 0)
    {now argument : BitVec 32} :
    (link.takeSlot now smlOperationSettingsWrite argument).2.Writes (some link.nextSlot) := by
  intro index
  by_cases taken : index = link.nextSlot
  · subst taken
    simp only [takeSlot, Function.update_self, Pending.IsWrite]
    exact ⟨fun _ => trivial, fun _ => ⟨some_, trivial⟩⟩
  · simp only [takeSlot, Function.update_of_ne taken]
    refine ⟨fun write => ?_, fun same => (taken (Option.some.inj same).symm).elim⟩
    cases (writes index).mp write

theorem Writes.free_held {index : Slot} (writes : link.Writes (some index)) :
    (link.free index).Writes none := by
  intro other
  by_cases same : other = index
  · subst same
    simp [free, Pending.IsWrite]
  · simp only [free, Function.update_of_ne same]
    refine ⟨fun write => ?_, fun none_ => by cases none_⟩
    exact (same (Option.some.inj ((writes other).mp write)).symm).elim

theorem Writes.free_other {index : Slot} (writes : link.Writes held)
    (spared : held ≠ some index) : (link.free index).Writes held := by
  intro other
  by_cases same : other = index
  · subst same
    simp only [free, Function.update_self, Pending.IsWrite, ne_eq, not_true_eq_false, false_and,
      false_iff]
    exact spared
  · simp only [free, Function.update_of_ne same]
    exact writes other

/-! ## One operation at a time -/

theorem Consistent.request (consistent : link.Consistent held)
    (spared : held ≠ some link.nextSlot) (now : BitVec 32) (command : SmlUser)
    (argument : BitVec 32) : (link.picLinkRequest now command argument).Consistent held where
  writes := consistent.writes.take spared command.code_ne_settingsWrite
  flag := consistent.flag
  token := nextToken_ne_zero _
  known := consistent.known

theorem Consistent.sendSettings (writes : link.Writes none) (token : link.nextToken ≠ 0)
    (known : link.settings.valid = true) (now : BitVec 32) :
    (link.sendSettings now).Consistent (some link.nextSlot) where
  writes := writes.take_write token
  flag := rfl
  token := nextToken_ne_zero _
  known := fun _ => known

/-- Without a write unanswered, asking for the settings disturbs nothing. -/
theorem Consistent.askForSettings (consistent : link.Consistent none) (now : BitVec 32) :
    (link.askForSettings now).Consistent none :=
  consistent.request (Option.some_ne_none _).symm now _ _

/-- Without an answer no write is left unanswered. -/
theorem Consistent.settingsAnswered_none (writes : link.Writes none) (token : link.nextToken ≠ 0)
    (now : BitVec 32) : (link.settingsAnswered now none).Consistent none := by
  apply Consistent.askForSettings
  exact ⟨writes, rfl, token, fun flag => (Bool.false_ne_true flag).elim⟩

/-- However a write is answered, the flags and the table agree again. -/
theorem Consistent.settingsAnswered (writes : link.Writes none) (token : link.nextToken ≠ 0)
    (known : link.settings.valid = true) (now : BitVec 32) (response : Option SmlCmdResponse) :
    ∃ held, (link.settingsAnswered now response).Consistent held := by
  unfold PicLink.settingsAnswered
  split
  · simp only
    split
    · refine ⟨_, Consistent.sendSettings ?_ ?_ ?_ now⟩
      · exact writes
      · exact token
      · exact known
    · exact ⟨none, writes, rfl, token, fun flag => (Bool.false_ne_true flag).elim⟩
  · refine ⟨none, Consistent.askForSettings ?_ now⟩
    exact ⟨writes, rfl, token, fun flag => (Bool.false_ne_true flag).elim⟩

theorem Consistent.noteSettings (consistent : link.Consistent held) (stat : SmlStatSettings) :
    (link.noteSettings stat).Consistent held := by
  unfold PicLink.noteSettings
  split
  · exact consistent
  · exact ⟨consistent.writes, consistent.flag, consistent.token, fun _ => rfl⟩

/-! ## Answers and timeouts -/

theorem awaiting_some {token : Word} {index : Slot} (found : link.awaiting token = some index) :
    (link.pending index).token ≠ 0 ∧ (link.pending index).token = token := by
  have matching := List.find?_some found
  simpa using matching

/-- What an answer does: nothing but count, free a slot that waits for something
else, or end the write. -/
theorem handleResponse_cases (consistent : link.Consistent held) (now : BitVec 32)
    (response : SmlCmdResponse) :
    ((link.handleResponse now response).pending = link.pending ∧
        (link.handleResponse now response).Consistent held) ∨
      (∃ index, held ≠ some index ∧
        (link.handleResponse now response).pending = (link.free index).pending ∧
        (link.handleResponse now response).Consistent held) ∨
      (link.awaiting response.token = held ∧ held.isSome ∧
        response.status ≠ smlResultAccepted ∧
        ∃ later, (link.handleResponse now response).Consistent later) := by
  have same : PicLink.awaiting
      { link with stats := { link.stats with responses := link.stats.responses + 1 } }
      response.token = link.awaiting response.token := rfl
  have counted : PicLink.Consistent
      { link with stats := { link.stats with responses := link.stats.responses + 1 } } held :=
    ⟨consistent.writes, consistent.flag, consistent.token, consistent.known⟩
  unfold PicLink.handleResponse
  simp only [same]
  split
  · exact .inl ⟨rfl, counted⟩
  · next index found =>
      obtain ⟨some_, _⟩ := awaiting_some found
      split
      · next final =>
          split
          · next write =>
              have write : (link.pending index).command = smlOperationSettingsWrite := by
                simpa [PicLink.free] using write
              obtain rfl := (consistent.writes index).mp ⟨some_, write⟩
              refine .inr (.inr ⟨found, rfl, final, ?_⟩)
              refine Consistent.settingsAnswered ?_ ?_ ?_ now _
              · exact consistent.writes.free_held
              · exact consistent.token
              · exact consistent.known consistent.flag
          · next other =>
              have spared : held ≠ some index := fun same => by
                apply other
                have write := ((consistent.writes index).mpr same).2
                simpa [PicLink.free] using write
              refine .inr (.inl ⟨index, spared, rfl, ?_, ?_, ?_, ?_⟩)
              · exact consistent.writes.free_other spared
              · exact consistent.flag
              · exact consistent.token
              · exact consistent.known
      · exact .inl ⟨rfl, counted⟩

/-- What one turn of `expire_requests` does: leave its slot waiting, free one that
waits for something else, or end the write. -/
theorem expireSlot_cases (consistent : link.Consistent held) (reading : Slot → Reading)
    (index : Slot) :
    (¬ link.Expired index (reading index).check ∧ expireSlot reading link index = link) ∨
      (held ≠ some index ∧
        (expireSlot reading link index).pending = (link.free index).pending ∧
        (expireSlot reading link index).Consistent held) ∨
      (held = some index ∧ (expireSlot reading link index).Consistent none) := by
  by_cases expired : link.Expired index (reading index).check
  · refine .inr ?_
    unfold expireSlot
    rw [if_pos expired]
    simp only
    split
    · next write =>
        have write : (link.pending index).command = smlOperationSettingsWrite := by
          simpa [PicLink.free] using write
        obtain rfl := (consistent.writes index).mp ⟨expired.1, write⟩
        refine .inr ⟨rfl, ?_⟩
        refine Consistent.settingsAnswered_none ?_ ?_ _
        · exact consistent.writes.free_held
        · exact consistent.token
    · next other =>
        have spared : held ≠ some index := fun same => by
          apply other
          have write := ((consistent.writes index).mpr same).2
          simpa [PicLink.free] using write
        refine .inl ⟨spared, rfl, ?_, ?_, ?_, ?_⟩
        · exact consistent.writes.free_other spared
        · exact consistent.flag
        · exact consistent.token
        · exact consistent.known
  · refine .inl ⟨expired, ?_⟩
    unfold expireSlot
    rw [if_neg expired]

/-- Turns of `expire_requests` leave the write waiting unless they reach its slot
after its timeout; then nothing is left unanswered. -/
theorem expireSlots_cases (reading : Slot → Reading) (indices : List Slot)
    (consistent : link.Consistent held) :
    ((indices.foldl (expireSlot reading) link).Consistent held ∧
        ∀ index, held = some index →
          (indices.foldl (expireSlot reading) link).pending index = link.pending index ∧
          (index ∈ indices → ¬ link.Expired index (reading index).check)) ∨
      (indices.foldl (expireSlot reading) link).Consistent none := by
  induction indices generalizing link held with
  | nil => exact .inl ⟨consistent, fun index _ => ⟨rfl, fun member => by cases member⟩⟩
  | cons slot rest ih =>
      rw [List.foldl_cons]
      obtain ⟨waits, same⟩ | ⟨other, freed, kept⟩ | ⟨_, ended⟩ :=
        expireSlot_cases consistent reading slot
      · rw [same]
        refine (ih consistent).imp_left fun ⟨later, waiting⟩ => ⟨later, fun index write => ?_⟩
        obtain ⟨standing, unexpired⟩ := waiting index write
        refine ⟨standing, fun member => ?_⟩
        obtain rfl | member := List.mem_cons.mp member
        · exact waits
        · exact unexpired member
      · refine (ih kept).imp_left fun ⟨later, waiting⟩ => ⟨later, fun index write => ?_⟩
        obtain ⟨standing, unexpired⟩ := waiting index write
        have differs : index ≠ slot := fun same => other (same ▸ write)
        have before : (expireSlot reading link slot).pending index = link.pending index := by
          rw [freed]
          exact Function.update_of_ne differs _ _
        rw [Expired, before] at unexpired
        refine ⟨standing.trans before, fun member => ?_⟩
        obtain same | member := List.mem_cons.mp member
        · exact (differs same).elim
        · exact unexpired member
      · exact .inr ((ih ended).elim And.left id)

/-! ## Runs -/

/-- The ESP's end, from its start. -/
def machine : Machine PicLink Act where
  start link := ∃ now, link = picLinkInit now
  step := act

/-- The act does not take over the slot in which a settings write waits. Only a
request can, and only when the table is full. -/
def Spares (link : PicLink) : Act → Prop
  | .request _ _ _ => ¬ (link.pending link.nextSlot).IsWrite
  | _ => True

theorem spares_of_free (index : Slot) (empty : (link.pending index).token = 0) (act : Act) :
    link.Spares act := by
  cases act with
  | request command argument now => exact fun write => write.1 (link.nextSlot_free index empty)
  | _ => trivial

theorem reachable_init {admits : PicLink → Act → Prop} (now : BitVec 32) :
    machine.Reachable admits (picLinkInit now) :=
  .start ⟨now, rfl⟩

theorem consistent_init (now : BitVec 32) : (picLinkInit now).Consistent none := by
  apply Consistent.askForSettings
  refine ⟨fun index => ?_, rfl, by decide, fun flag => (Bool.false_ne_true flag).elim⟩
  refine ⟨fun write => (write.1 rfl).elim, fun none_ => by cases none_⟩

theorem Consistent.not_valid (consistent : link.Consistent held)
    (unknown : link.settings.valid ≠ true) : held = none := by
  have idle := mt consistent.known unknown
  rw [consistent.flag] at idle
  simpa using idle

theorem act_service (link : PicLink) (reading : Slot → Reading) :
    link.act (.service reading) = slots.foldl (expireSlot reading) link := by
  simp only [PicLink.act, expireRequests]

/-- While a write waits, only its answer or its timeout ends it. -/
theorem Consistent.act_of_write {index : Slot} (consistent : link.Consistent (some index))
    (act : Act) (spared : link.Spares act) :
    ((link.act act).Consistent (some index) ∧
        (link.act act).pending index = link.pending index ∧
        ∀ reading, act = .service reading → ¬ link.Expired index (reading index).check) ∨
      (∃ response now, act = .response response now ∧
        link.awaiting response.token = some index ∧ response.status ≠ smlResultAccepted ∧
        ∃ later, (link.act act).Consistent later) ∨
      (link.act act).Consistent none := by
  have known := consistent.known consistent.flag
  cases act with
  | request command argument now =>
      have other : some index ≠ some link.nextSlot := fun same => by
        apply spared
        rw [← Option.some.inj same]
        exact (consistent.writes index).mpr rfl
      refine .inl ⟨consistent.request other now command argument, ?_, fun _ same => by cases same⟩
      exact Function.update_of_ne (fun same => other (congrArg some same)) _ _
  | read now =>
      refine .inl ?_
      simp only [PicLink.act, picLinkSettings, known, Bool.not_true, Bool.false_eq_true, ↓reduceIte]
      exact ⟨consistent, trivial, fun _ same => by cases same⟩
  | write body now =>
      have flag : link.settings.writing = true := consistent.flag
      refine .inl ?_
      simp only [PicLink.act, picLinkWriteSettings, known, flag, Bool.not_true, Bool.false_eq_true,
        ↓reduceIte]
      exact ⟨⟨consistent.writes, rfl, consistent.token, fun _ => rfl⟩, trivial,
        fun _ same => by cases same⟩
  | stat stat =>
      refine .inl ⟨consistent.noteSettings stat, ?_, fun _ same => by cases same⟩
      simp only [PicLink.act, PicLink.noteSettings]
      split <;> rfl
  | response response now =>
      obtain ⟨same, kept⟩ | ⟨slot, other, freed, kept⟩ | ⟨found, _, final, later⟩ :=
        handleResponse_cases consistent now response
      · exact .inl ⟨kept, congrFun same index, fun _ same => by cases same⟩
      · refine .inl ⟨kept, ?_, fun _ same => by cases same⟩
        simp only [PicLink.act, freed]
        exact Function.update_of_ne (fun same => other (congrArg some same)) _ _
      · exact .inr (.inl ⟨response, now, rfl, found, final, later⟩)
  | service reading =>
      rw [act_service]
      obtain ⟨kept, waiting⟩ | ended := expireSlots_cases reading slots consistent
      · obtain ⟨same, unexpired⟩ := waiting index rfl
        refine .inl ⟨kept, same, fun other equal => ?_⟩
        cases equal
        exact unexpired (List.mem_finRange index)
      · exact .inr (.inr ended)

theorem Consistent.act (consistent : link.Consistent held) (act : Act)
    (spared : link.Spares act) : ∃ later, (link.act act).Consistent later := by
  cases held with
  | some index =>
      obtain ⟨kept, _⟩ | ⟨_, _, _, _, _, later⟩ | ended := consistent.act_of_write act spared
      · exact ⟨_, kept⟩
      · exact later
      · exact ⟨_, ended⟩
  | none =>
      cases act with
      | request command argument now =>
          exact ⟨_, consistent.request (Option.some_ne_none _).symm now command argument⟩
      | read now =>
          simp only [PicLink.act, picLinkSettings]
          split
          · exact ⟨_, consistent.askForSettings now⟩
          · exact ⟨_, consistent⟩
      | write body now =>
          simp only [PicLink.act, picLinkWriteSettings]
          split
          · exact ⟨_, consistent.askForSettings now⟩
          · next valid =>
              have idle : link.settings.writing = false := consistent.flag
              simp only [idle, Bool.false_eq_true, ↓reduceIte]
              refine ⟨_, Consistent.sendSettings ?_ ?_ ?_ now⟩
              · exact consistent.writes
              · exact consistent.token
              · simpa using valid
      | stat stat => exact ⟨_, consistent.noteSettings stat⟩
      | response response now =>
          obtain ⟨_, kept⟩ | ⟨_, _, _, kept⟩ | ⟨_, _, _, later⟩ :=
            handleResponse_cases consistent now response
          · exact ⟨_, kept⟩
          · exact ⟨_, kept⟩
          · exact later
      | service reading =>
          rw [act_service]
          obtain ⟨kept, _⟩ | ended := expireSlots_cases reading slots consistent
          · exact ⟨_, kept⟩
          · exact ⟨_, ended⟩

theorem invariant : machine.Invariant Spares fun link => ∃ held, link.Consistent held where
  start := by
    rintro link ⟨now, rfl⟩
    exact ⟨none, consistent_init now⟩
  step := by
    rintro link act ⟨held, consistent⟩ spared
    exact consistent.act act spared

/-- Along some acts the write waiting in a slot ends: no write is left unanswered,
or a final answer comes to that slot. -/
def Ends (link : PicLink) (index : Slot) (acts : List Act) : Prop :=
  ∃ before after middle, acts = before ++ after ∧ machine.Run Spares link before middle ∧
    (middle.settings.writing = false ∨
      ∃ response now rest, after = .response response now :: rest ∧
        middle.awaiting response.token = some index ∧ response.status ≠ smlResultAccepted)

theorem Ends.cons {index : Slot} {act : Act} {acts : List Act} (spared : link.Spares act)
    (ends : (link.act act).Ends index acts) : link.Ends index (act :: acts) := by
  obtain ⟨before, after, middle, rfl, run, ended⟩ := ends
  exact ⟨act :: before, after, middle, rfl, .cons act spared run, ended⟩

theorem run_act (act : Act) (spared : link.Spares act) :
    machine.Run Spares link [act] (link.act act) :=
  .single act spared

/-- A write that waits ends, at the latest when its timeout is noticed. -/
theorem Consistent.ends {index : Slot} (consistent : link.Consistent (some index))
    {acts : List Act} {final : PicLink} (run : machine.Run Spares link acts final)
    (reading : Slot → Reading)
    (late : (reading index).check - (link.pending index).sentMs > requestTimeoutMs) :
    link.Ends index (acts ++ [.service reading]) := by
  induction run with
  | nil link =>
      obtain ⟨_, _, unexpired⟩ | ⟨_, _, same, _⟩ | ended :=
        consistent.act_of_write (.service reading) trivial
      · exact (unexpired reading rfl ⟨((consistent.writes index).mpr rfl).1, late⟩).elim
      · cases same
      · exact ⟨[.service reading], [], _, rfl, run_act (.service reading) trivial,
          .inl ended.flag⟩
  | @cons link final acts act spared rest ih =>
      rw [List.cons_append]
      obtain ⟨kept, same, _⟩ | ⟨response, now, rfl, found, answered, _⟩ | ended :=
        consistent.act_of_write act spared
      · refine Ends.cons spared (ih kept ?_)
        change (reading index).check - ((link.act act).pending index).sentMs > requestTimeoutMs
        rw [same]
        exact late
      · exact ⟨[], _, link, rfl, .nil link, .inr ⟨response, now, _, rfl, found, answered⟩⟩
      · exact ⟨[act], _, _, rfl, run_act act spared, .inl ended.flag⟩

theorem Consistent.writing_iff (consistent : link.Consistent held) :
    link.settings.writing = true ↔ ∃! index, (link.pending index).IsWrite := by
  rw [consistent.flag, Option.isSome_iff_exists]
  constructor
  · rintro ⟨index, rfl⟩
    refine ⟨index, (consistent.writes index).mpr rfl, fun other write => ?_⟩
    exact (Option.some.inj ((consistent.writes other).mp write)).symm
  · rintro ⟨index, write, _⟩
    exact ⟨index, (consistent.writes index).mp write⟩

/-- A request that takes over the write's slot leaves the flag set with no slot
waiting for a write. -/
theorem Consistent.takes_over (consistent : link.Consistent held) (now : BitVec 32)
    (command : SmlUser) (argument : BitVec 32) (taken : (link.pending link.nextSlot).IsWrite) :
    (link.picLinkRequest now command argument).settings.writing = true ∧
      ∀ index, ¬ ((link.picLinkRequest now command argument).pending index).IsWrite := by
  obtain rfl := (consistent.writes _).mp taken
  refine ⟨consistent.flag, fun index write => ?_⟩
  simp only [picLinkRequest, send, takeSlot] at write
  by_cases same : index = link.nextSlot
  · subst same
    rw [Function.update_self] at write
    exact command.code_ne_settingsWrite write.2
  · rw [Function.update_of_ne same] at write
    exact same (Option.some.inj ((consistent.writes index).mp write)).symm

/-- **A settings write is answered or expires.** In every state reached without a
request taking over the slot of an unanswered settings write, `writing` is set
exactly while one slot waits for a write; that write ends, with a final answer to
its slot or by the first service after its timeout; and the next act keeps the
flag and the table together exactly when it too spares that slot. -/
theorem settings_write_ends (link : PicLink) (reached : machine.Reachable Spares link) :
    (link.settings.writing = true ↔ ∃! index, (link.pending index).IsWrite) ∧
      (∀ index, (link.pending index).IsWrite → ∀ acts final reading,
        machine.Run Spares link acts final →
        (reading index).check - (link.pending index).sentMs > requestTimeoutMs →
        link.Ends index (acts ++ [.service reading])) ∧
      ∀ act, ((link.act act).settings.writing = true ↔
        ∃! index, ((link.act act).pending index).IsWrite) ↔ link.Spares act := by
  obtain ⟨held, consistent⟩ := invariant.reachable reached
  refine ⟨consistent.writing_iff, ?_, fun act => ⟨fun same => ?_, fun spared => ?_⟩⟩
  · intro index write acts final reading run late
    obtain rfl := (consistent.writes index).mp write
    exact consistent.ends run reading late
  · cases act with
    | request command argument now =>
        intro taken
        obtain ⟨flag, none_⟩ := consistent.takes_over now command argument taken
        obtain ⟨index, write, _⟩ := same.mp flag
        exact none_ index write
    | _ => trivial
  · obtain ⟨_, later⟩ := consistent.act act spared
    exact later.writing_iff

/-- The settings arrive and a write is sent. -/
def firstWrite : List Act :=
  [.response ⟨smlResultAck, 0, 1, smlUserRequestMessage, 0⟩ 0,
    .stat ⟨Settings.smlSettingsValid, 0, Settings.settingsDefaults⟩,
    .write { Settings.settingsDefaults with brightness := 100 } 0]

theorem settings_write_ends_firstWrite :
    let link := firstWrite.foldl act (picLinkInit 0)
    (link.settings.writing = true ↔ ∃! index, (link.pending index).IsWrite) ∧
      (∀ index, (link.pending index).IsWrite → ∀ acts final reading,
        machine.Run Spares link acts final →
        (reading index).check - (link.pending index).sentMs > requestTimeoutMs →
        link.Ends index (acts ++ [.service reading])) ∧
      ∀ act, ((link.act act).settings.writing = true ↔
        ∃! index, ((link.act act).pending index).IsWrite) ↔ link.Spares act := by
  have run : machine.Run Spares (picLinkInit 0) firstWrite (firstWrite.foldl act (picLinkInit 0)) :=
    .cons _ trivial (.cons _ trivial (.cons _ trivial (.nil _)))
  exact settings_write_ends _ ((reachable_init 0).run run)

def requestBurst : List Act := List.replicate 8 (.request .show_ 0 0)

/-- Eight requests after a write take over its slot: the first seven fill the
table, and the write's is then the oldest. -/
theorem requests_take_over_the_write :
    ¬ ∀ link, machine.Reachable (fun _ _ => True) link →
      (link.settings.writing = true ↔ ∃! index, (link.pending index).IsWrite) := by
  intro together
  have reached : machine.Reachable (fun _ _ => True)
      ((firstWrite ++ requestBurst).foldl act (picLinkInit 0)) :=
    (reachable_init 0).run (.foldl (fun _ _ => trivial) _ _)
  have flag : ((firstWrite ++ requestBurst).foldl act
      (picLinkInit 0)).settings.writing = true := by
    decide +kernel
  have none_ : ∀ index, ¬ (((firstWrite ++ requestBurst).foldl act
      (picLinkInit 0)).pending index).IsWrite := by
    decide +kernel
  obtain ⟨index, write, _⟩ := (together _ reached).mp flag
  exact none_ index write

end PicLink

end GpsClock.Link
