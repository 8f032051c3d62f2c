import GpsClock.TimeZone.Schedule

/-! # One schedule, two processors

The ESP leaves out of a TZ-STATE the entries already passed, and the PIC walks what
is left in entries of its own. Sent at any moment, the payload of a schedule parsed
is one the PIC can use, and once applied gives the PIC, at every second from then
on, the entry the ESP picks from the whole schedule
(`GpsClock.TimeZone.schedules_agree`).
-/

namespace GpsClock.TimeZone

open Settings (offsetOk)

/-- A schedule as a parse leaves it, its horizon beyond its last entry. -/
structure TzSchedule.Sound (schedule : TzSchedule) (current : TzEntry) (later : List TzEntry) :
    Prop where
  entries : schedule.entries = current :: later
  few : later.length ≤ smlTzTransitionMax
  ascending : Steps.Ascending TzEntry.time current later
  zones : ∀ entry ∈ current :: later, offsetOk entry.baseOffsetS = true
  whole : schedule.subsecondOffsetNs = 0
  valid : schedule.valid = true
  covered : ∀ entry ∈ current :: later, entry.time < schedule.horizonEndUtc.toNat

/-- An entry that reads has a time zone's offset. -/
theorem offsetOk_of_readEntry {object : Json} {entry : TzEntry}
    (read : readEntry object = .ok entry) : offsetOk entry.baseOffsetS = true := by
  rw [readEntry] at read
  split at read
  · cases read
  · split at read
    · next utcSeconds base dst active _ _ _ _ =>
        split at read
        · cases read
        · next inside =>
            cases read
            simp only [tzScheduleOffsetMax, not_or, Int.not_lt] at inside
            have value : (BitVec.ofInt 32 base).toInt = base := by
              rw [BitVec.toInt_ofInt, Int.bmod_eq_of_le] <;> omega
            simp [offsetOk, Settings.timezoneOffsetLimitS, value, inside.1, inside.2.1]
    · cases read

theorem Reads.zones {objects : List Json} {entries : List TzEntry} (reads : Reads objects entries) :
    ∀ entry ∈ entries, offsetOk entry.baseOffsetS = true := by
  induction reads with
  | nil => exact fun _ member => nomatch member
  | cons read _ ih => exact List.forall_mem_cons.mpr ⟨offsetOk_of_readEntry read, ih⟩

/-- The horizon is beyond every entry kept, where the last of them leaves room. -/
theorem lt_horizonOf {current : TzEntry} {future : List TzEntry}
    (ascending : Steps.Ascending TzEntry.time current future)
    (last : ∀ entry ∈ current :: future.take smlTzTransitionMax, entry.time < 2 ^ 32 - 1) :
    ∀ entry ∈ current :: future.take smlTzTransitionMax,
      entry.time < (horizonOf current future).toNat := by
  intro entry member
  rw [horizonOf]
  split
  · exact last entry member
  · next enough =>
      split
      · next exactly =>
          rw [← exactly, List.take_length] at member last
          have before := ascending.le_getLast entry member
          have room := last _ (List.getLast_mem (List.cons_ne_nil current future))
          have final : (current :: future).getLastD {} =
              (current :: future).getLast (List.cons_ne_nil _ _) := by
            rw [List.getLastD_eq_getLast?, List.getLast?_eq_some_getLast (List.cons_ne_nil _ _)]
            rfl
          rw [final]
          simp only [TzEntry.time] at before room ⊢
          bv_omega
      · next differs =>
          have longer : smlTzTransitionMax < future.length := by omega
          have before := ascending.lt_getElem smlTzTransitionMax longer entry member
          rw [List.getD_eq_getElem _ _ longer]
          exact before

theorem sound_of_parsed {asInt : Json → Int} {response : Option Json} {schedule : TzSchedule}
    (parsed : tzScheduleParseV1 asInt response = .ok schedule)
    (last : ∀ entry ∈ schedule.entries, entry.time < 2 ^ 32 - 1) :
    ∃ current later, schedule.Sound current later := by
  obtain ⟨object, next, zone, source, generatedUtc, refreshUtc, current, future, read, reads,
    ascending, known, rfl⟩ := parsed_of_ok parsed
  refine ⟨current, future.take smlTzTransitionMax, rfl, List.length_take_le _ _,
    ascending.take _, ?_, rfl, rfl, lt_horizonOf ascending last⟩
  refine List.forall_mem_cons.mpr ⟨offsetOk_of_readEntry read, fun entry member => ?_⟩
  exact reads.zones entry (List.mem_of_mem_take member)

variable {schedule : TzSchedule} {current : TzEntry} {later : List TzEntry}

/-- The entry the ESP picks is the last that has come. -/
theorem entryAt_of_entries (entries : schedule.entries = current :: later)
    (utcSeconds : BitVec 32) :
    schedule.entryAt utcSeconds = Steps.lookup TzEntry.time utcSeconds.toNat current later := by
  have found := Steps.lookup_eq_getElem TzEntry.time utcSeconds.toNat current later
  rw [TzSchedule.entryAt, TzSchedule.indexAt, entries, List.getD_eq_getElem?_getD]
  exact congrArg (Option.getD · {}) found

/-- The entries a TZ-STATE is built of: the one in force when it is sent, and those after. -/
def sentFrom (current : TzEntry) (later : List TzEntry) : Option (BitVec 32) →
    TzEntry × List TzEntry
  | some now => (Steps.lookup TzEntry.time now.toNat current later,
      later.drop (Steps.passed TzEntry.time now.toNat later))
  | none => (current, later)

/-- What is sent keeps the order, and gives the same entry at every second from then on. -/
theorem sentFrom_spec (sound : schedule.Sound current later) (now : Option (BitVec 32)) :
    Steps.Ascending TzEntry.time (sentFrom current later now).1 (sentFrom current later now).2 ∧
      (sentFrom current later now).2.length ≤ smlTzTransitionMax ∧
      (∀ entry ∈ (sentFrom current later now).1 :: (sentFrom current later now).2,
        entry ∈ current :: later) ∧
      ∀ utcSeconds : BitVec 32, (∀ start ∈ now, start ≤ utcSeconds) →
        Steps.lookup TzEntry.time utcSeconds.toNat (sentFrom current later now).1
            (sentFrom current later now).2 =
          Steps.lookup TzEntry.time utcSeconds.toNat current later := by
  cases now with
  | none => exact ⟨sound.ascending, sound.few, fun _ member => member, fun _ _ => rfl⟩
  | some now =>
      refine ⟨sound.ascending.drop _, ?_, ?_, fun utcSeconds onward => ?_⟩
      · rw [sentFrom, List.length_drop]
        exact (Nat.sub_le _ _).trans sound.few
      · refine List.forall_mem_cons.mpr ⟨Steps.lookup_mem _ _ _, fun entry member => ?_⟩
        exact List.mem_cons_of_mem _ (List.mem_of_mem_drop member)
      · exact Steps.lookup_drop (BitVec.le_def.mp (onward now rfl)) current later

/-- The payload built. -/
theorem TzSchedule.Sound.state (sound : schedule.Sound current later) (now : Option (BitVec 32)) :
    schedule.state now =
      { flags := smlTzValid ||| (if schedule.ambiguous then smlTzAmbiguous else 0)
        source := schedule.source
        count := BitVec.ofNat 8 (sentFrom current later now).2.length
        issuedUtc := schedule.generatedUtc
        horizonEndUtc := schedule.horizonEndUtc
        subsecondOffsetNs := 0
        current := putEntry (sentFrom current later now).1
        next := futureEntries ((sentFrom current later now).2.map putEntry) } := by
  unfold TzSchedule.state
  rw [sound.valid, sound.entries, sound.whole]
  cases now with
  | none => rfl
  | some now =>
      have first : (current :: later).getD (schedule.indexAt now) {} =
          Steps.lookup TzEntry.time now.toNat current later := by
        rw [← entryAt_of_entries sound.entries now, TzSchedule.entryAt, sound.entries]
      have index : schedule.indexAt now = Steps.passed TzEntry.time now.toNat later := by
        rw [TzSchedule.indexAt, sound.entries]
        rfl
      simp only [first]
      simp [sentFrom, index]

theorem lastInOrder_putEntry {held : TzEntry} {future : List TzEntry}
    (ascending : Steps.Ascending TzEntry.time held future)
    (zones : ∀ entry ∈ future, offsetOk entry.baseOffsetS = true) :
    lastInOrder held.utcSeconds (future.map putEntry) =
      some ((held :: future).getLast (List.cons_ne_nil _ _)).utcSeconds := by
  induction future generalizing held with
  | nil => rfl
  | cons next future ih =>
      obtain ⟨zone, zones⟩ := List.forall_mem_cons.mp zones
      have late : ¬next.utcSeconds ≤ held.utcSeconds :=
        fun order => absurd ascending.1 (Nat.not_lt.mpr (BitVec.le_def.mp order))
      have ok : offsetOk (putEntry next).baseOffsetS = true := zone
      rw [List.map_cons, lastInOrder, ok]
      simp only [putEntry, late, decide_false, Bool.not_true, Bool.or_self, Bool.false_eq_true,
        ↓reduceIte]
      exact ih ascending.2 zones

/-- The PIC's entry of an ESP entry. -/
def carried (entry : TzEntry) : TimezoneEntry := copyEntry (putEntry entry)

theorem carried_eq (entry : TzEntry) :
    carried entry =
      { utcSeconds := entry.utcSeconds, baseOffsetS := entry.baseOffsetS,
        dstOffsetS := entry.dstOffsetS, dstActive := entry.dstActive } := by
  cases entry with
  | mk utcSeconds baseOffsetS dstOffsetS dstActive =>
      cases dstActive <;> simp [carried, copyEntry, putEntry, smlTzEntryDstActive]

theorem TzSchedule.Sound.future (sound : schedule.Sound current later)
    (now : Option (BitVec 32)) :
    (schedule.state now).future = (sentFrom current later now).2.map putEntry := by
  obtain ⟨_, few, _⟩ := sentFrom_spec sound now
  have count : (BitVec.ofNat 8 (sentFrom current later now).2.length).toNat =
      (sentFrom current later now).2.length := by
    rw [BitVec.toNat_ofNat, Nat.mod_eq_of_lt]
    rw [smlTzTransitionMax] at few
    omega
  have kept := future_futureEntries ((sentFrom current later now).2.map putEntry)
    (by rw [List.length_map]; exact few)
  rw [List.length_map] at kept
  rw [sound.state now, SmlTzState.future, count]
  exact kept

/-- The PIC can use what is sent. -/
theorem TzSchedule.Sound.usable (sound : schedule.Sound current later)
    (now : Option (BitVec 32)) : (schedule.state now).Usable := by
  obtain ⟨ascending, few, kept, _⟩ := sentFrom_spec sound now
  have order := lastInOrder_putEntry ascending fun entry member =>
    sound.zones entry (kept entry (List.mem_cons_of_mem _ member))
  rw [← sound.future now] at order
  have current' : (schedule.state now).current = putEntry (sentFrom current later now).1 := by
    rw [sound.state now]
  have whole : (schedule.state now).subsecondOffsetNs = 0 := by rw [sound.state now]
  refine ⟨?_, (wellFormed_iff _).mpr ⟨?_, ?_, ?_, ?_, ((sentFrom current later now).1 ::
    (sentFrom current later now).2).getLast (List.cons_ne_nil _ _) |>.utcSeconds, ?_, ?_⟩⟩
  · rw [sound.state now]
    dsimp only
    split <;> decide
  · rw [sound.state now, BitVec.toNat_ofNat]
    exact (Nat.mod_le _ _).trans few
  · rw [current']
    exact sound.zones _ (kept _ List.mem_cons_self)
  · rw [whole]
    decide
  · rw [whole]
    decide
  · rw [current']
    exact order
  · have covered := sound.covered _ (kept _ (List.getLast_mem (List.cons_ne_nil _ _)))
    rw [sound.state now]
    exact BitVec.lt_def.mpr covered

/-- The entry the PIC picks of what was sent is the one the ESP picks. -/
theorem TzSchedule.Sound.carried (sound : schedule.Sound current later)
    (now : Option (BitVec 32)) (utcSeconds : BitVec 32)
    (onward : ∀ start ∈ now, start ≤ utcSeconds) :
    (schedule.state now).schedule.entryAt utcSeconds =
      TimeZone.carried (schedule.entryAt utcSeconds) := by
  obtain ⟨_, _, _, same⟩ := sentFrom_spec sound now
  have current' : copyEntry (schedule.state now).current =
      TimeZone.carried (sentFrom current later now).1 := by
    rw [sound.state now]
    rfl
  have future : (schedule.state now).future.map copyEntry =
      (sentFrom current later now).2.map TimeZone.carried := by
    rw [sound.future now, List.map_map]
    rfl
  have walked := Steps.lookup_map TzEntry.time TimezoneEntry.time TimeZone.carried (fun entry => by rw [carried_eq]; rfl) utcSeconds.toNat
    (sentFrom current later now).1 (sentFrom current later now).2
  rw [same utcSeconds onward, ← entryAt_of_entries sound.entries utcSeconds] at walked
  rw [TimezoneSchedule.entryAt, SmlTzState.schedule, current', future]
  exact walked

/-- **The ESP and the PIC apply one schedule.** Any schedule parsed whose last transition
leaves room for a horizon, sent at any moment, is one the PIC can use, and unless the
PIC holds one of that source issued later, which it keeps, gives it from then on the
offsets of the entry the ESP picks. -/
theorem schedules_agree {asInt : Json → Int} {response : Option Json}
    (parsed : tzScheduleParseV1 asInt response = .ok schedule)
    (last : ∀ entry ∈ schedule.entries, entry.utcSeconds < 0xFFFFFFFF) (zone : Timezone)
    (automatic : zone.settings.automatic = true)
    (dstAutomatic : zone.settings.dstAutomatic = true) (now : Option (BitVec 32)) :
    let sent := decodeTzState (encodeTzState (schedule.state now))
    ((zone.apply sent).1 ≠ .malformed ∧ (zone.apply sent).1 ≠ .notValid) ∧
      ((zone.apply sent).1 = .older ↔ zone.FindsOlder sent) ∧
      (¬zone.FindsOlder sent → ∀ utcSeconds, (∀ start ∈ now, start ≤ utcSeconds) →
        let offset := (zone.apply sent).2.offsetAt utcSeconds
        let entry := schedule.entryAt utcSeconds
        offset.offsetS = entry.offset ∧ offset.baseOffsetS = entry.baseOffsetS ∧
          offset.dstOffsetS = entry.dstOffsetS.signExtend 32 ∧
          offset.dstActive = entry.dstActive) := by
  intro sent
  have arrives : sent = schedule.state now := decodeTzState_encodeTzState _
  obtain ⟨current, later, sound⟩ := sound_of_parsed parsed fun entry member =>
    BitVec.lt_def.mp (last entry member)
  rw [arrives]
  obtain ⟨older, refused⟩ | ⟨fresh, schedules, settings, verdict⟩ :=
    zone.apply_usable (sound.usable now)
  · rw [refused]
    exact ⟨⟨nofun, nofun⟩, iff_of_true rfl older, fun fresh => absurd older fresh⟩
  · refine ⟨?_, ?_, fun _ utcSeconds onward => ?_⟩
    · obtain ⟨unchanged, _⟩ | ⟨applied, _⟩ := verdict
      · rw [unchanged]
        exact ⟨nofun, nofun⟩
      · rw [applied]
        exact ⟨nofun, nofun⟩
    · refine iff_of_false (fun older => ?_) fresh
      obtain ⟨unchanged, _⟩ | ⟨applied, _⟩ := verdict
      · rw [unchanged] at older
        cases older
      · rw [applied] at older
        cases older
    · have held : (schedule.state now).schedule.held = true := rfl
      have whole : (schedule.state now).schedule.subsecondOffsetNs = 0 := by
        rw [sound.state now]
        rfl
      have rounded : roundedSeconds 0 = 0 := by decide
      have entry := sound.carried now utcSeconds onward
      rw [carried_eq] at entry
      simp only [Timezone.offsetAt, schedules, settings, held, automatic, dstAutomatic, whole,
        rounded, entry, Bool.and_self, ↓reduceIte, TzEntry.offset, and_self]
      exact ⟨BitVec.zero_add _, trivial⟩

/-! ## The runs -/

/-- A response of one state, generated at a time. -/
def plainResponse (generated : Int) : Json :=
  .object [("version", .integer 1), ("generated", .integer generated),
    ("valid_until", .integer (generated + 604800)), ("zone", .string "Etc/UTC"),
    ("source", .string "geoip"), ("next", .array []),
    ("current", .array [.object [("transition_utc", .integer 0), ("offset", .integer 0),
      ("dst_offset", .integer 0), ("dst", .boolean false)]])]

/-- The library's `as<int>` of a number that is one. -/
def plainInt : Json → Int
  | .integer value => value
  | _ => 0

/-- The schedule of it. -/
def plainSchedule (generatedUtc refreshUtc : BitVec 32) : TzSchedule :=
  parsedSchedule "Etc/UTC" "geoip" generatedUtc refreshUtc {} []

theorem plainResponse_parses :
    tzScheduleParseV1 plainInt (some (plainResponse 1000)) = .ok (plainSchedule 1000 605800) ∧
      tzScheduleParseV1 plainInt (some (plainResponse 2000)) = .ok (plainSchedule 2000 606800) := by
  decide

theorem plainSchedule_room (generatedUtc refreshUtc : BitVec 32) :
    ∀ entry ∈ (plainSchedule generatedUtc refreshUtc).entries, entry.utcSeconds < 0xFFFFFFFF := by
  intro entry member
  rw [List.mem_singleton.mp member]
  decide

theorem schedules_agree_plain :
    let sent := decodeTzState (encodeTzState ((plainSchedule 1000 605800).state none))
    (timezoneInit.apply sent).1 ≠ .malformed :=
  (schedules_agree plainResponse_parses.1 (plainSchedule_room 1000 605800) timezoneInit rfl rfl
    none).1.1

/-- **Not every schedule is applied**: one generated before another that the PIC was sent
of the same source is refused as older. -/
theorem older_schedule_refused :
    ¬∀ (asInt : Json → Int) (response : Option Json) (schedule : TzSchedule) (zone : Timezone)
      (now : Option (BitVec 32)), tzScheduleParseV1 asInt response = .ok schedule →
      (∀ entry ∈ schedule.entries, entry.utcSeconds < 0xFFFFFFFF) →
      (zone.apply (schedule.state now)).1 = .applied ∨
        (zone.apply (schedule.state now)).1 = .unchanged := by
  intro claimed
  have accepted := claimed plainInt _ (plainSchedule 1000 605800)
    (timezoneInit.apply ((plainSchedule 2000 606800).state none)).2 none plainResponse_parses.1
    (plainSchedule_room 1000 605800)
  have refused : ((timezoneInit.apply ((plainSchedule 2000 606800).state none)).2.apply
      ((plainSchedule 1000 605800).state none)).1 = .older := by
    decide
  rw [refused] at accepted
  obtain impossible | impossible := accepted <;> cases impossible

end GpsClock.TimeZone
