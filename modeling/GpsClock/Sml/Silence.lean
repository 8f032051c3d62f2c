import GpsClock.Lib.Framing
import GpsClock.Sml.Batch

/-! # Frames and silences

A receiver pushes every byte and asks for frames until there is none; when the line
goes quiet it calls `sml_parser_timeout`, which drops what is buffered. The parser's
verdicts are a framing (`GpsClock.Sml.smlFraming`), so between two silences the frames
are those of a parse from left to right. At a silence a parse that gives up an incomplete
candidate by one byte would still find the frames inside its span; the timeout gives
those up too, so that nothing is lost exactly where no complete frame is buffered at a
silence (`GpsClock.Sml.lossless_iff`).
-/

namespace GpsClock.Sml

open Framing (Heard)

/-! ## The verdicts as a framing -/

/-- What `scan` makes of the front of its buffer. -/
def smlFraming : Framing Byte SmlFrame where
  judge bytes :=
    match verdict bytes with
    | .complete => .frame (frameTotal bytes) (frameOf bytes)
    | .open_ => .wait
    | .noise => .reject
  empty := rfl
  fits := by
    intro bytes length value found
    cases judged : verdict bytes with
    | complete =>
        rw [judged] at found
        cases found
        exact ⟨frameTotal_pos bytes, (verdict_complete judged).2.2⟩
    | open_ => rw [judged] at found; cases found
    | noise => rw [judged] at found; cases found
  settled := by
    intro bytes more settled
    cases judged : verdict bytes with
    | complete =>
        have whole := verdict_complete judged
        have later : verdict (bytes ++ more) = .complete := by
          rw [verdict_append more (by rw [judged]; exact Verdict.noConfusion), judged]
        rw [later, frameTotal_append bytes more whole.1, frameOf_append bytes more whole.2.2]
    | open_ =>
        rw [judged] at settled
        exact absurd rfl settled
    | noise =>
        have later : verdict (bytes ++ more) = .noise := by
          rw [verdict_append more (by rw [judged]; exact Verdict.noConfusion), judged]
        rw [later]

variable {bytes : List Byte}

theorem judge_complete (found : verdict bytes = .complete) :
    smlFraming.judge bytes = .frame (frameTotal bytes) (frameOf bytes) := by
  change (match verdict bytes with | .complete => _ | .open_ => _ | .noise => _) = _
  rw [found]

theorem judge_open (found : verdict bytes = .open_) : smlFraming.judge bytes = .wait := by
  change (match verdict bytes with | .complete => _ | .open_ => _ | .noise => _) = _
  rw [found]

theorem judge_noise (found : verdict bytes = .noise) : smlFraming.judge bytes = .reject := by
  change (match verdict bytes with | .complete => _ | .open_ => _ | .noise => _) = _
  rw [found]

theorem judge_frame_iff :
    (∃ length value, smlFraming.judge bytes = .frame length value) ↔ verdict bytes = .complete := by
  refine ⟨fun ⟨length, value, framed⟩ => ?_, fun found => ⟨_, _, judge_complete found⟩⟩
  cases found : verdict bytes with
  | complete => rfl
  | open_ => rw [judge_open found] at framed; cases framed
  | noise => rw [judge_noise found] at framed; cases framed

/-! ## One scan -/

/-- A scan drops bytes from the front, each counted and each one that a parse drops, up to
where a frame could still start, or stands. -/
structure Dropped (consumed : Nat) (bytes : List Byte) (stats : SmlParserStats)
    (result : Option SmlFrame × SmlParser) (dropped : List Byte) : Prop where
  kept : bytes = dropped ++ result.2.buffer
  counted : result.2.stats.noiseBytes = stats.noiseBytes + BitVec.ofNat 32 dropped.length
  parsed : smlFraming.parse false bytes =
    (smlFraming.parse false result.2.buffer).after (dropped.map fun byte => ⟨[byte], none⟩)
  ended : (result.1 = none ∧ verdict result.2.buffer = .open_ ∧ result.2.consumed = consumed) ∨
    (result.1 = some (frameOf result.2.buffer) ∧ verdict result.2.buffer = .complete ∧
      result.2.consumed = frameTotal result.2.buffer)

theorem Dropped.here {consumed : Nat} {stats : SmlParserStats}
    {result : Option SmlFrame × SmlParser} (kept : result.2.buffer = bytes)
    (counted : result.2.stats.noiseBytes = stats.noiseBytes)
    (ended : (result.1 = none ∧ verdict result.2.buffer = .open_ ∧ result.2.consumed = consumed) ∨
      (result.1 = some (frameOf result.2.buffer) ∧ verdict result.2.buffer = .complete ∧
        result.2.consumed = frameTotal result.2.buffer)) :
    Dropped consumed bytes stats result [] where
  kept := kept.symm
  counted := counted.trans (BitVec.add_zero _).symm
  parsed := by rw [kept]; rfl
  ended := ended

theorem Dropped.reject {consumed : Nat} {first : Byte} {rest : List Byte}
    {stats worse : SmlParserStats} {result : Option SmlFrame × SmlParser} {dropped : List Byte}
    (scanned : Dropped consumed rest worse.noise result dropped)
    (kept : worse.noiseBytes = stats.noiseBytes) (found : verdict (first :: rest) = .noise) :
    Dropped consumed (first :: rest) stats result (first :: dropped) where
  kept := congrArg (List.cons first) scanned.kept
  counted := by
    have more : BitVec.ofNat 32 (dropped.length + 1) = 1#32 + BitVec.ofNat 32 dropped.length := by
      rw [Nat.add_comm, BitVec.ofNat_add]
    rw [scanned.counted, List.length_cons, more, ← BitVec.add_assoc, ← kept]
    rfl
  parsed := by
    have rejected : smlFraming.verdict false (first :: rest) = .reject := by
      rw [Framing.verdict_waiting, judge_noise found]
    rw [Framing.parse_reject rejected, List.tail_cons, scanned.parsed]
    rfl
  ended := scanned.ended

theorem scanBuffer_dropped (consumed : Nat) (bytes : List Byte) (stats : SmlParserStats) :
    ∃ dropped, Dropped consumed bytes stats (scanBuffer consumed bytes stats) dropped := by
  induction bytes generalizing stats with
  | nil => exact ⟨[], Dropped.here rfl rfl (.inl ⟨rfl, rfl, rfl⟩)⟩
  | cons first rest ih =>
      obtain ⟨found, scanned⟩ | ⟨found, scanned⟩ | ⟨found, worse, kept, scanned⟩ :=
        scanBuffer_cons consumed first rest stats
      · rw [scanned]
        exact ⟨[], Dropped.here rfl rfl (.inl ⟨rfl, found, rfl⟩)⟩
      · rw [scanned]
        exact ⟨[], Dropped.here rfl rfl (.inr ⟨rfl, found, rfl⟩)⟩
      · rw [scanned]
        obtain ⟨dropped, inner⟩ := ih worse.noise
        exact ⟨first :: dropped, inner.reject kept found⟩

/-! ## The receiver -/

/-- After a call that returned a frame, the next until there is none; a call for each byte
buffered is enough. -/
def nextFrames : Nat → Option SmlFrame × SmlParser → List SmlFrame × SmlParser
  | _, (none, parser) => ([], parser)
  | 0, (some frame, parser) => ([frame], parser)
  | calls + 1, (some frame, parser) =>
      let (frames, final) := nextFrames calls (smlParserNext parser)
      (frame :: frames, final)

/-- The frames handled at a byte, or at a silence. -/
def hear (parser : SmlParser) : Heard Byte → List SmlFrame × SmlParser
  | .byte byte => nextFrames (parser.count + 1) (smlParserPush parser byte)
  | .silence => ([], (smlParserTimeout parser).2)

def hearAll : SmlParser → List (Heard Byte) → List SmlFrame × SmlParser
  | parser, [] => ([], parser)
  | parser, heard :: later =>
      let (frames, next) := hear parser heard
      let (more, final) := hearAll next later
      (frames ++ more, final)

/-- Nothing is lost: the frames are those a parse from left to right finds in what came
between the silences, an incomplete candidate given up by one byte at its end; and what is
counted as noise is what that parse leaves outside the frames. -/
def Lossless (heard : List (Heard Byte)) : Prop :=
  (hearAll smlParserInit heard).1 = (smlFraming.batch [] heard).frames ∧
    (hearAll smlParserInit heard).2.stats.noiseBytes =
      BitVec.ofNat 32 (smlFraming.batch [] heard).noise.length

/-! ## What the receiver finds -/

/-- What some calls did to a parser at rest: the frames, the noise counted and what is
buffered, nothing of it to be released. -/
structure Found (stats : SmlParserStats) (result : List SmlFrame × SmlParser)
    (frames : List SmlFrame) (noise rest : List Byte) : Prop where
  frames : result.1 = frames
  noise : result.2.stats.noiseBytes = stats.noiseBytes + BitVec.ofNat 32 noise.length
  rest : result.2.buffer = rest
  kept : result.2.consumed = 0

/-- A frame taken, and what is found after it. -/
theorem Found.cons {stats between : SmlParserStats} {result : List SmlFrame × SmlParser}
    {held dropped taken : List Byte} {frame : SmlFrame}
    (found : Found between result (smlFraming.parse false held).frames
      (smlFraming.parse false held).noise (smlFraming.parse false held).rest)
    (counted : between.noiseBytes = stats.noiseBytes + BitVec.ofNat 32 dropped.length)
    (parsed : smlFraming.parse false bytes =
      ((smlFraming.parse false held).after [⟨taken, some frame⟩]).after
        (dropped.map fun byte => ⟨[byte], none⟩)) :
    Found stats (frame :: result.1, result.2) (smlFraming.parse false bytes).frames
      (smlFraming.parse false bytes).noise (smlFraming.parse false bytes).rest where
  frames := by
    rw [found.frames, parsed, Parsed.frames_after_dropped, Parsed.frames_after]
    rfl
  noise := by
    rw [parsed, Parsed.noise_after_dropped, Parsed.noise_after, found.noise, counted,
      List.length_append, BitVec.ofNat_add, BitVec.add_assoc]
    rfl
  rest := by
    rw [found.rest, parsed]
    rfl
  kept := found.kept

/-- Asking for frames until there is none is a parse. -/
theorem nextFrames_found (calls : Nat) (bytes : List Byte) (stats : SmlParserStats)
    (enough : bytes.length ≤ calls) :
    Found stats (nextFrames calls (scanBuffer 0 bytes stats)) (smlFraming.parse false bytes).frames
      (smlFraming.parse false bytes).noise (smlFraming.parse false bytes).rest := by
  induction calls generalizing bytes stats with
  | zero =>
      obtain rfl := List.length_eq_zero_iff.mp (Nat.le_zero.mp enough)
      rw [Framing.parse_nil]
      exact ⟨rfl, (BitVec.add_zero _).symm, rfl, rfl⟩
  | succ calls ih =>
      obtain ⟨dropped, scanned⟩ := scanBuffer_dropped 0 bytes stats
      generalize scanBuffer 0 bytes stats = result at scanned
      obtain ⟨found, parser⟩ := result
      obtain ⟨result, open_, kept⟩ | ⟨result, complete, kept⟩ := scanned.ended
      · obtain rfl : found = none := result
        have waits := Framing.parse_wait ((Framing.verdict_waiting _).trans (judge_open open_))
        rw [scanned.parsed, waits]
        refine ⟨?_, ?_, rfl, kept⟩
        · rw [Parsed.frames_after_dropped]
          rfl
        · rw [Parsed.noise_after_dropped, List.length_append]
          exact scanned.counted
      · obtain rfl : found = some (frameOf parser.buffer) := result
        have whole := (verdict_complete complete).2.2
        have moved : smlParserNext parser =
            scanBuffer 0 (parser.buffer.drop (frameTotal parser.buffer)) parser.stats := by
          rw [smlParserNext, release_eq, scan, SmlParser.unreleased]
          exact congrArg (fun consumed => scanBuffer 0 (parser.buffer.drop consumed) _) kept
        have shorter : (parser.buffer.drop (frameTotal parser.buffer)).length ≤ calls := by
          have lengths := congrArg List.length scanned.kept
          have some_ := frameTotal_pos parser.buffer
          rw [List.length_append] at lengths
          rw [List.length_drop]
          dsimp only at lengths
          omega
        rw [nextFrames, moved]
        have parsed := scanned.parsed
        rw [Framing.parse_frame (judge_complete complete)] at parsed
        exact (ih _ parser.stats shorter).cons scanned.counted parsed

/-- A byte pushed to a parser with nothing to release. -/
theorem hear_byte_found {parser : SmlParser} (kept : parser.consumed = 0) (byte : Byte) :
    Found parser.stats (hear parser (.byte byte))
      (smlFraming.receive parser.buffer (.byte byte)).frames
      (smlFraming.receive parser.buffer (.byte byte)).noise
      (smlFraming.receive parser.buffer (.byte byte)).rest := by
  have pushed : smlParserPush parser byte =
      scanBuffer 0 (parser.buffer ++ [byte]) parser.stats := by
    rw [smlParserPush, release_eq, scan, SmlParser.unreleased, kept, List.drop_zero]
  rw [hear, pushed]
  refine nextFrames_found _ _ _ (Nat.le_of_eq ?_)
  rw [List.length_append, SmlParser.count]
  rfl

/-- A silence drops what is buffered. -/
theorem hear_silence {parser : SmlParser} (kept : parser.consumed = 0) :
    (hear parser .silence).1 = [] ∧ (hear parser .silence).2.buffer = [] ∧
      (hear parser .silence).2.consumed = 0 ∧
      (hear parser .silence).2.stats.noiseBytes =
        parser.stats.noiseBytes + BitVec.ofNat 32 parser.buffer.length := by
  have released : release parser = parser := by rw [release, if_neg (not_not.mpr kept)]
  rw [hear, smlParserTimeout, released]
  by_cases empty : parser.count = 0
  · have none : parser.buffer = [] := List.length_eq_zero_iff.mp empty
    rw [if_pos empty]
    refine ⟨rfl, none, kept, ?_⟩
    rw [none]
    exact (BitVec.add_zero _).symm
  · rw [if_neg empty]
    exact ⟨rfl, rfl, kept, rfl⟩

/-- The receiver against a parse that drops at a silence all that it holds. -/
theorem hearAll_found {parser : SmlParser} (kept : parser.consumed = 0)
    (heard : List (Heard Byte)) :
    Found parser.stats (hearAll parser heard) (smlFraming.abandon parser.buffer heard).frames
      (smlFraming.abandon parser.buffer heard).noise
      (smlFraming.abandon parser.buffer heard).rest := by
  induction heard generalizing parser with
  | nil => exact ⟨rfl, (BitVec.add_zero _).symm, rfl, kept⟩
  | cons heard later ih =>
      rw [hearAll]
      cases heard with
      | byte byte =>
          have here := hear_byte_found kept byte
          have there := ih here.kept
          rw [here.rest] at there
          rw [Framing.abandon]
          refine ⟨?_, ?_, there.rest, there.kept⟩
          · rw [Parsed.frames_after, ← there.frames]
            exact congrArg (· ++ _) here.frames
          · rw [Parsed.noise_after, List.length_append, BitVec.ofNat_add, ← BitVec.add_assoc]
            exact there.noise.trans (congrArg (· + _) here.noise)
      | silence =>
          obtain ⟨none, empty, still, counted⟩ := hear_silence kept
          have there := ih still
          rw [empty] at there
          rw [Framing.abandon]
          refine ⟨?_, ?_, there.rest, there.kept⟩
          · rw [Parsed.frames_after_dropped, ← there.frames]
            exact congrArg (· ++ _) none
          · rw [Parsed.noise_after_dropped, List.length_append, BitVec.ofNat_add,
              ← BitVec.add_assoc]
            exact there.noise.trans (congrArg (· + _) counted)

/-- The reference, a receiver that flushes at a silence. -/
theorem stream_eq_batch_nil (heard : List (Heard Byte)) :
    smlFraming.stream [] heard = smlFraming.batch [] heard := by
  have same := smlFraming.stream_eq_batch [] heard
  rwa [Framing.parse_nil, Parsed.after_nil] at same

/-- Nothing is lost exactly where no silence finds a complete frame buffered. -/
theorem lossless_iff_bare (heard : List (Heard Byte)) :
    Lossless heard ↔ smlFraming.Bare [] heard := by
  obtain ⟨frames, noise, -, -⟩ :=
    hearAll_found (show smlParserInit.consumed = 0 from rfl) heard
  have counted : (hearAll smlParserInit heard).2.stats.noiseBytes =
      BitVec.ofNat 32 (smlFraming.abandon smlParserInit.buffer heard).noise.length :=
    noise.trans (BitVec.zero_add _)
  rw [Lossless, counted, frames, ← stream_eq_batch_nil]
  refine ⟨fun lossless => (smlFraming.abandon_frames [] heard).2.mp lossless.1, fun bare => ?_⟩
  have same : smlFraming.abandon smlParserInit.buffer heard = smlFraming.stream [] heard :=
    (smlFraming.abandon_eq_iff [] heard).mpr bare
  rw [same]
  exact ⟨rfl, rfl⟩

theorem bare_iff_verdict (heard : List (Heard Byte)) :
    smlFraming.Bare [] heard ↔ ∀ earlier later, heard = earlier ++ .silence :: later →
      ∀ start, verdict ((hearAll smlParserInit earlier).2.buffer.drop start) ≠ .complete := by
  rw [Framing.bare_iff]
  refine forall₃_congr fun earlier later split => ?_
  have held := (hearAll_found (show smlParserInit.consumed = 0 from rfl) earlier).rest
  rw [Framing.flush_frames_eq_nil_iff, held]
  refine forall_congr' fun start => ?_
  rw [Ne, ← judge_frame_iff]
  simp only [not_exists, ne_eq]
  rfl

/-- **What a silence costs.** The frames and the noise are those of a parse that gives an
incomplete candidate up by one byte exactly where, whenever the line goes quiet, no complete
frame stands anywhere in what is buffered. -/
theorem lossless_iff (heard : List (Heard Byte)) :
    Lossless heard ↔ ∀ earlier later, heard = earlier ++ .silence :: later →
      ∀ start, verdict ((hearAll smlParserInit earlier).2.buffer.drop start) ≠ .complete :=
  (lossless_iff_bare heard).trans (bare_iff_verdict heard)

/-- A header of 240 bytes, cut short, and a whole frame; then the line goes quiet. -/
theorem frame_lost : ¬ ∀ heard, Lossless heard := by
  intro lossless
  let heard : List (Heard Byte) :=
    ([smlMagic1, smlMagic2, 0, 0, 0, 0xF0] ++ smlFrame 0x20 0x01 []).map Heard.byte
  have bare := (lossless_iff_bare _).mp (lossless (heard ++ [.silence]))
  have none := (bare_iff_verdict _).mp bare heard [] rfl 6
  refine none ?_
  decide +kernel

end GpsClock.Sml
