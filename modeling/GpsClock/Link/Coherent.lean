import GpsClock.Link.Pending

/-! # What the ESP knows of the PIC's settings

A revision stands for a body of the PIC's as long as it has not come round again.
Over whatever pairs of revision and body are known to be the PIC's, the invariant
`GpsClock.Link.Coherent` says where such pairs stand: in the ESP's cache while no
write is unanswered, in what STAT-SETTINGS carries, in the revision a write expects
with the body its edit started from, and in an acknowledgement with the body that
was written. Every operation of the ESP's keeps it.
-/

namespace GpsClock.Link

/-- What is settled about the answer to an unanswered write of `body` under `token`,
given the pairs of revision and body known to be the PIC's. -/
structure Awaited (knows : BitVec 32 → SmlSettingsBody → Prop) (saved : Option Word)
    (sent : List (EspFrame × SmlSettingsBody)) (toEsp : List PicFrame) (token : Word)
    (body : SmlSettingsBody) : Prop where
  frames : ∀ frame ∈ sent, frame.1.token = token →
    ∃ write, frame.1 = .settings write ∧ write.settings = body
  answers : ∀ response, .response response ∈ toEsp → response.token = token →
    response.status = smlResultAck → knows response.settingsRevision body
  save : saved ≠ some token

/-- What ties the ESP's end to the frames on their way, `sent` being those to the PIC. -/
structure Coherent (knows : BitVec 32 → SmlSettingsBody → Prop) (saved : Option Word)
    (toEsp : List PicFrame) (sent : List (EspFrame × SmlSettingsBody)) (base : SmlSettingsBody)
    (esp : PicLink) : Prop where
  cached : esp.settings.valid = true → esp.settings.writing = false →
    knows esp.settings.revision esp.settings.body
  writes : ∀ frame ∈ sent, ∀ write, frame.1 = .settings write →
    knows write.expectedRevision frame.2
  stats : ∀ stat, .stat stat ∈ toEsp → knows stat.revision stat.settings
  one : ∀ first second, (esp.pending first).IsWrite → (esp.pending second).IsWrite →
    first = second
  flag : ∀ index, (esp.pending index).IsWrite → esp.settings.writing = true
  idle : esp.settings.waiting = true → esp.settings.writing = true
  awaited : ∀ index, (esp.pending index).IsWrite →
    Awaited knows saved sent toEsp (esp.pending index).token
      (if esp.settings.waiting then base else esp.settings.body)

variable {knows : BitVec 32 → SmlSettingsBody → Prop} {saved : Option Word}
  {toEsp : List PicFrame} {sent : List (EspFrame × SmlSettingsBody)} {base : SmlSettingsBody}
  {esp : PicLink}

/-! ## What the links do -/

theorem Awaited.mono {token : Word} {body : SmlSettingsBody} {later : List PicFrame}
    {left : List (EspFrame × SmlSettingsBody)}
    (awaited : Awaited knows saved sent toEsp token body)
    (fewer : ∀ frame ∈ left, frame ∈ sent) (less : ∀ frame ∈ later, frame ∈ toEsp) :
    Awaited knows saved left later token body where
  frames frame member := awaited.frames frame (fewer frame member)
  answers response member := awaited.answers response (less _ member)
  save := awaited.save

/-- Frames delivered or lost. -/
theorem Coherent.mono {later : List PicFrame} {left : List (EspFrame × SmlSettingsBody)}
    (coherent : Coherent knows saved toEsp sent base esp)
    (fewer : ∀ frame ∈ left, frame ∈ sent) (less : ∀ frame ∈ later, frame ∈ toEsp) :
    Coherent knows saved later left base esp where
  cached := coherent.cached
  writes frame member := coherent.writes frame (fewer frame member)
  stats stat member := coherent.stats stat (less _ member)
  one := coherent.one
  flag := coherent.flag
  idle := coherent.idle
  awaited index write := (coherent.awaited index write).mono fewer less

theorem Coherent.imp {more : BitVec 32 → SmlSettingsBody → Prop}
    (coherent : Coherent knows saved toEsp sent base esp)
    (still : ∀ revision body, knows revision body → more revision body) :
    Coherent more saved toEsp sent base esp where
  cached valid idle := still _ _ (coherent.cached valid idle)
  writes frame member write same := still _ _ (coherent.writes frame member write same)
  stats stat member := still _ _ (coherent.stats stat member)
  one := coherent.one
  flag := coherent.flag
  idle := coherent.idle
  awaited index write :=
    let awaited := coherent.awaited index write
    ⟨awaited.frames, fun response member same ack =>
      still _ _ (awaited.answers response member same ack), awaited.save⟩

/-! ## What the ESP does -/

/-- The ESP has gone on from one state to another, what it wrote meanwhile being on
its way with the body its edits started from. -/
def Continues (knows : BitVec 32 → SmlSettingsBody → Prop) (saved : Option Word)
    (toEsp : List PicFrame) (sent : List (EspFrame × SmlSettingsBody)) (base : SmlSettingsBody)
    (esp later : PicLink) : Prop :=
  ∃ frames, later.uart = esp.uart ++ frames ∧
    Coherent knows saved toEsp (sent ++ frames.map fun frame => (frame, base)) base later

theorem Coherent.continues (coherent : Coherent knows saved toEsp sent base esp) :
    Continues knows saved toEsp sent base esp esp :=
  ⟨[], (List.append_nil _).symm, by rwa [List.map_nil, List.append_nil]⟩

/-- A token in use by neither link, nor by a SAVE. -/
structure Unused (saved : Option Word) (toEsp : List PicFrame)
    (sent : List (EspFrame × SmlSettingsBody)) (token : Word) : Prop where
  frames : ∀ frame ∈ sent, frame.1.token ≠ token
  answers : ∀ response, .response response ∈ toEsp → response.token ≠ token
  save : saved ≠ some token

theorem nextToken_ne (token : Word) :
    (if token = 0xFFFF then 1 else token + 1 : Word) ≠ token := by
  split
  · next last =>
      rw [last]
      decide
  · intro same
    simp at same

/-- A request under a token no unanswered write has. -/
theorem Coherent.request (coherent : Coherent knows saved toEsp sent base esp)
    (fresh : ∀ index, (esp.pending index).IsWrite → (esp.pending index).token ≠ esp.nextToken)
    (now : BitVec 32) (command : SmlUser) (argument : BitVec 32) :
    Continues knows saved toEsp sent base esp (esp.picLinkRequest now command argument) := by
  have kept : ∀ index, ((esp.picLinkRequest now command argument).pending index).IsWrite →
      (esp.picLinkRequest now command argument).pending index = esp.pending index := by
    intro index write
    by_cases taken : index = esp.nextSlot
    · subst taken
      simp only [PicLink.picLinkRequest, PicLink.send, PicLink.takeSlot,
        Function.update_self] at write
      exact (command.code_ne_settingsWrite write.2).elim
    · exact Function.update_of_ne taken _ _
  refine ⟨[_], rfl, ?_⟩
  rw [List.map_singleton]
  refine ⟨coherent.cached, ?_, coherent.stats, ?_, ?_, coherent.idle, ?_⟩
  · intro frame member write same
    obtain member | member := List.mem_append.mp member
    · exact coherent.writes frame member write same
    · obtain rfl := List.mem_singleton.mp member
      cases same
  · intro first second firstWrite secondWrite
    rw [kept first firstWrite] at firstWrite
    rw [kept second secondWrite] at secondWrite
    exact coherent.one first second firstWrite secondWrite
  · intro index write
    rw [kept index write] at write
    exact coherent.flag index write
  · intro index write
    have same := kept index write
    rw [same] at write ⊢
    have awaited := coherent.awaited index write
    refine ⟨fun frame member same => ?_, awaited.answers, awaited.save⟩
    obtain member | member := List.mem_append.mp member
    · exact awaited.frames frame member same
    · obtain rfl := List.mem_singleton.mp member
      exact (fresh index write same.symm).elim

/-- A write sent while none is unanswered, against a known pair. -/
theorem Coherent.sendSettings
    (writes : ∀ frame ∈ sent, ∀ write, frame.1 = .settings write →
      knows write.expectedRevision frame.2)
    (stats : ∀ stat, .stat stat ∈ toEsp → knows stat.revision stat.settings)
    (none_ : ∀ index, ¬ (esp.pending index).IsWrite) (fresh : Unused saved toEsp sent esp.nextToken)
    (known : knows esp.settings.revision base) (sentAll : esp.settings.waiting = false)
    (now : BitVec 32) :
    Continues knows saved toEsp sent base esp (esp.sendSettings now) := by
  have only : ∀ index, ((esp.sendSettings now).pending index).IsWrite → index = esp.nextSlot := by
    intro index write
    by_contra other
    simp only [PicLink.sendSettings, PicLink.send, PicLink.takeSlot,
      Function.update_of_ne other] at write
    exact none_ index write
  refine ⟨[_], rfl, ?_⟩
  rw [List.map_singleton]
  refine ⟨fun _ flag => (Bool.false_ne_true flag.symm).elim, ?_, stats, ?_, fun _ _ => rfl,
    fun _ => rfl, ?_⟩
  · intro frame member write same
    obtain member | member := List.mem_append.mp member
    · exact writes frame member write same
    · obtain rfl := List.mem_singleton.mp member
      cases same
      exact known
  · intro first second firstWrite secondWrite
    rw [only first firstWrite, only second secondWrite]
  · intro index write
    obtain rfl := only index write
    simp only [PicLink.sendSettings, PicLink.send, PicLink.takeSlot, Function.update_self, sentAll,
      Bool.false_eq_true, ↓reduceIte]
    refine ⟨fun frame member same => ?_, fun response member same => ?_, fresh.save⟩
    · obtain member | member := List.mem_append.mp member
      · exact (fresh.frames frame member same).elim
      · obtain rfl := List.mem_singleton.mp member
        exact ⟨_, rfl, rfl⟩
    · exact (fresh.answers response member same).elim

theorem Coherent.free (coherent : Coherent knows saved toEsp sent base esp) (index : Slot) :
    Coherent knows saved toEsp sent base (esp.free index) := by
  have kept : ∀ other, ((esp.free index).pending other).IsWrite →
      (esp.free index).pending other = esp.pending other := by
    intro other write
    by_cases same : other = index
    · subst same
      simp only [PicLink.free, Function.update_self] at write
      exact (write.1 rfl).elim
    · exact Function.update_of_ne same _ _
  refine ⟨coherent.cached, coherent.writes, coherent.stats, ?_, ?_, coherent.idle, ?_⟩
  · intro first second firstWrite secondWrite
    rw [kept first firstWrite] at firstWrite
    rw [kept second secondWrite] at secondWrite
    exact coherent.one first second firstWrite secondWrite
  · intro other write
    rw [kept other write] at write
    exact coherent.flag other write
  · intro other write
    have same := kept other write
    rw [same] at write ⊢
    exact coherent.awaited other write

/-- With its slot freed no write is unanswered. -/
theorem Coherent.free_write (coherent : Coherent knows saved toEsp sent base esp) {index : Slot}
    (write : (esp.pending index).IsWrite) (other : Slot) :
    ¬ ((esp.free index).pending other).IsWrite := by
  intro left
  by_cases same : other = index
  · subst same
    simp only [PicLink.free, Function.update_self] at left
    exact left.1 rfl
  · simp only [PicLink.free, Function.update_of_ne same] at left
    exact same (coherent.one other index left write)

/-- The write answered: its revision and body are the PIC's, or the cache is given up. -/
theorem Coherent.settingsAnswered
    (writes : ∀ frame ∈ sent, ∀ write, frame.1 = .settings write →
      knows write.expectedRevision frame.2)
    (stats : ∀ stat, .stat stat ∈ toEsp → knows stat.revision stat.settings)
    (none_ : ∀ index, ¬ (esp.pending index).IsWrite) (response : Option SmlCmdResponse)
    (answer : ∀ answer, response = some answer → answer.status = smlResultAck →
      knows answer.settingsRevision (if esp.settings.waiting then base else esp.settings.body))
    (now : BitVec 32)
    (fresh : response.isSome → (esp.settingsAnswered now response).nextToken ≠ esp.nextToken →
      Unused saved toEsp sent esp.nextToken) :
    Continues knows saved toEsp sent base esp (esp.settingsAnswered now response) := by
  unfold PicLink.settingsAnswered at fresh ⊢
  split
  · next acked found =>
      obtain ⟨answered, ack⟩ := Option.filter_eq_some_iff.mp found
      have ack : acked.status = smlResultAck := by simpa using ack
      have known := answer acked answered ack
      simp only [found] at fresh ⊢
      split
      · next waits =>
          have waits : esp.settings.waiting = true := waits
          rw [if_pos waits] at known
          rw [if_pos waits] at fresh
          have free := fresh (by rw [answered]; rfl) (nextToken_ne _)
          refine Coherent.sendSettings writes stats ?_ ?_ ?_ ?_ now
          · exact none_
          · exact free
          · exact known
          · rfl
      · next sentAll =>
          have sentAll : esp.settings.waiting = false := by simpa using sentAll
          rw [sentAll, if_neg Bool.false_ne_true] at known
          apply Coherent.continues
          refine ⟨fun _ _ => known, writes, stats, fun first _ write => (none_ first write).elim,
            fun index write => (none_ index write).elim, fun waits => ?_,
            fun index write => (none_ index write).elim⟩
          exact (Bool.false_ne_true (sentAll.symm.trans waits)).elim
  · have unknown : Coherent knows saved toEsp sent base
        { esp with settings := { esp.settings with
            writing := false, waiting := false, valid := false } } :=
      ⟨fun valid => (Bool.false_ne_true valid).elim, writes, stats,
        fun first _ write => (none_ first write).elim,
        fun index write => (none_ index write).elim,
        fun waits => (Bool.false_ne_true waits).elim,
        fun index write => (none_ index write).elim⟩
    exact unknown.request (fun index write => (none_ index write).elim) now _ _

theorem Coherent.noteSettings (coherent : Coherent knows saved toEsp sent base esp)
    (stat : SmlStatSettings) (known : knows stat.revision stat.settings) :
    Continues knows saved toEsp sent base esp (esp.noteSettings stat) := by
  unfold PicLink.noteSettings
  split
  · exact coherent.continues
  · next idle =>
      have idle : esp.settings.writing = false := by
        cases flag : esp.settings.writing
        · rfl
        · simp [flag] at idle
      have none_ : ∀ index, ¬ (esp.pending index).IsWrite := fun index write =>
        Bool.false_ne_true (idle.symm.trans (coherent.flag index write))
      have noted : Coherent knows saved toEsp sent base
          { esp with settings := { esp.settings with
              valid := true, revision := stat.revision, body := stat.settings } } :=
        ⟨fun _ _ => known, coherent.writes, coherent.stats, coherent.one, coherent.flag,
          coherent.idle, fun index write => (none_ index write).elim⟩
      exact noted.continues

/-- A response delivered. -/
theorem Coherent.handleResponse {response : SmlCmdResponse}
    (coherent : Coherent knows saved (.response response :: toEsp) sent base esp)
    (now : BitVec 32)
    (fresh : (esp.handleResponse now response).nextToken ≠ esp.nextToken →
      Unused saved toEsp sent esp.nextToken) :
    Continues knows saved toEsp sent base esp (esp.handleResponse now response) := by
  have less : ∀ frame ∈ toEsp, frame ∈ PicFrame.response response :: toEsp := fun frame member =>
    List.mem_cons_of_mem _ member
  have delivered : Coherent knows saved toEsp sent base
      { esp with stats := { esp.stats with responses := esp.stats.responses + 1 } } :=
    let left := coherent.mono (fun _ member => member) less
    ⟨left.cached, left.writes, left.stats, left.one, left.flag, left.idle, left.awaited⟩
  have counted : Continues knows saved toEsp sent base esp
      { esp with stats := { esp.stats with responses := esp.stats.responses + 1 } } :=
    delivered.continues
  unfold PicLink.handleResponse at fresh ⊢
  simp only at fresh ⊢
  split
  · exact counted
  · next index found =>
      obtain ⟨some_, sameToken⟩ := PicLink.awaiting_some found
      simp only [found] at fresh
      split
      · next final =>
        rw [if_pos final] at fresh
        split
        · next command =>
            rw [if_pos command] at fresh
            have write : (esp.pending index).IsWrite :=
              ⟨some_, by simpa [PicLink.free] using command⟩
            have awaited := coherent.awaited index write
            exact Coherent.settingsAnswered delivered.writes delivered.stats
              (delivered.free_write write) (some response)
              (fun answer same ack => by
                cases same
                exact awaited.answers _ List.mem_cons_self sameToken.symm ack)
              now (fun _ => fresh)
        · exact (delivered.free index).continues
      · exact counted

/-- One turn of the timeouts. -/
theorem Coherent.expireSlot (coherent : Coherent knows saved toEsp sent base esp)
    (reading : Slot → PicLink.Reading) (index : Slot) :
    Continues knows saved toEsp sent base esp (PicLink.expireSlot reading esp index) := by
  unfold PicLink.expireSlot
  split
  · next expired =>
      simp only
      have freed := coherent.free index
      have counted : Coherent knows saved toEsp sent base
          { esp.free index with stats :=
            { (esp.free index).stats with unanswered := (esp.free index).stats.unanswered + 1 } } :=
        ⟨freed.cached, freed.writes, freed.stats, freed.one, freed.flag, freed.idle, freed.awaited⟩
      split
      · next command =>
          have write : (esp.pending index).IsWrite :=
            ⟨expired.1, by simpa [PicLink.free] using command⟩
          refine Coherent.settingsAnswered counted.writes counted.stats ?_ none ?_ _ ?_
          · exact coherent.free_write write
          · exact fun _ same => by cases same
          · exact fun some_ => by cases some_
      · exact counted.continues
  · exact coherent.continues

theorem Coherent.expireSlots (coherent : Coherent knows saved toEsp sent base esp)
    (reading : Slot → PicLink.Reading) (indices : List Slot) :
    Continues knows saved toEsp sent base esp (indices.foldl (PicLink.expireSlot reading) esp) := by
  induction indices generalizing esp sent with
  | nil => exact coherent.continues
  | cons index rest ih =>
      obtain ⟨first, wrote, middle⟩ := coherent.expireSlot reading index
      obtain ⟨second, later, final⟩ := ih middle
      refine ⟨first ++ second, ?_, ?_⟩
      · rw [List.foldl_cons, later, wrote, List.append_assoc]
      · rw [List.foldl_cons, List.map_append, ← List.append_assoc]
        exact final

/-- A user's change: sent at once against the cached pair, or merged into the
changes that wait for an answer. -/
theorem Coherent.write (coherent : Coherent knows saved toEsp sent base esp)
    (body : SmlSettingsBody) (now : BitVec 32)
    (fresh : (esp.picLinkWriteSettings now body).2.nextToken ≠ esp.nextToken →
      Unused saved toEsp sent esp.nextToken ∧ ∀ index, (esp.pending index).token ≠ esp.nextToken) :
    Continues knows saved toEsp sent
      (if esp.settings.valid && !esp.settings.waiting then esp.settings.body else base) esp
      (esp.picLinkWriteSettings now body).2 := by
  unfold PicLink.picLinkWriteSettings at fresh ⊢
  cases valid : esp.settings.valid with
  | false =>
      simp only [valid, Bool.not_false, ↓reduceIte, Bool.false_and, Bool.false_eq_true] at fresh ⊢
      exact coherent.request (fun index _ => (fresh (nextToken_ne _)).2 index) now _ _
  | true =>
      cases writing : esp.settings.writing with
      | true =>
          simp only [valid, writing, Bool.not_true, Bool.false_eq_true, ↓reduceIte, Bool.true_and]
          apply Coherent.continues
          refine ⟨fun _ idle => (Bool.false_ne_true idle.symm).elim, coherent.writes,
            coherent.stats, coherent.one, fun _ _ => rfl, fun _ => rfl, fun index write => ?_⟩
          have awaited := coherent.awaited index write
          rw [if_pos rfl]
          cases waiting : esp.settings.waiting <;> simpa [waiting] using awaited
      | false =>
          have waiting : esp.settings.waiting = false := by
            cases waits : esp.settings.waiting
            · rfl
            · exact (coherent.idle waits).symm.trans writing
          have none_ : ∀ index, ¬ (esp.pending index).IsWrite := fun index write =>
            Bool.false_ne_true (writing.symm.trans (coherent.flag index write))
          simp only [valid, writing, waiting, Bool.not_true, Bool.not_false, Bool.false_eq_true,
            ↓reduceIte, Bool.true_and] at fresh ⊢
          refine Coherent.sendSettings coherent.writes coherent.stats ?_ ?_ ?_ ?_ now
          · exact none_
          · exact (fresh (nextToken_ne _)).1
          · exact coherent.cached valid writing
          · rfl

end GpsClock.Link
