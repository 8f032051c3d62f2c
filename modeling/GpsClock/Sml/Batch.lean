import GpsClock.Sml.Parser

/-! # Streaming and batch parsing agree

The reference parses a whole byte string from its front: a complete frame is
emitted and parsing goes on after it, a place where one could still start stops
the parse, and any other byte is noise (`GpsClock.Sml.batchParse`). A verdict
once reached stands when more bytes come, so parsing a string in two pieces is
parsing the first and then its unresolved suffix with the second
(`GpsClock.Sml.batchParse_append`). A receiver that pushes every byte and asks
for the next frame after each success until there is none therefore emits the
reference's frames (`GpsClock.Sml.Feeding.spec`).
-/

namespace GpsClock.Sml

/-- A parsed byte string: its frames, its noise bytes and its unresolved suffix. -/
structure Parsed where
  frames : List SmlFrame
  noise : Nat
  rest : List Byte
  deriving DecidableEq, Repr

theorem frameTotal_pos (bytes : List Byte) : 0 < frameTotal bytes := by
  unfold frameTotal smlHeaderBytes
  omega

/-- The reference parse. -/
def batchParse (bytes : List Byte) : Parsed :=
  match found : verdict bytes with
  | .open_ => ⟨[], 0, bytes⟩
  | .complete =>
      let later := batchParse (bytes.drop (frameTotal bytes))
      ⟨frameOf bytes :: later.frames, later.noise, later.rest⟩
  | .noise =>
      let later := batchParse bytes.tail
      ⟨later.frames, later.noise + 1, later.rest⟩
termination_by bytes.length
decreasing_by
  · have whole := (verdict_complete found).2.2
    have some_ := frameTotal_pos bytes
    rw [List.length_drop]
    omega
  · cases bytes with
    | nil => cases found
    | cons first rest => simp

/-- Noise and frames found before a parse. -/
def Parsed.after (frames : List SmlFrame) (noise : Nat) (later : Parsed) : Parsed :=
  ⟨frames ++ later.frames, noise + later.noise, later.rest⟩

@[simp] theorem Parsed.after_nothing (later : Parsed) : later.after [] 0 = later := by
  simp [Parsed.after]

theorem Parsed.after_after (first second : List SmlFrame) (noise more : Nat) (later : Parsed) :
    (later.after second more).after first noise = later.after (first ++ second) (noise + more) := by
  simp [Parsed.after, Nat.add_assoc]

theorem batchParse_open {bytes : List Byte} (unresolved : verdict bytes = .open_) :
    batchParse bytes = ⟨[], 0, bytes⟩ := by
  rw [batchParse]
  split <;> simp_all

theorem batchParse_complete {bytes : List Byte} (complete : verdict bytes = .complete) :
    batchParse bytes =
      (batchParse (bytes.drop (frameTotal bytes))).after [frameOf bytes] 0 := by
  rw [batchParse]
  split <;> simp_all [Parsed.after]

theorem batchParse_noise {bytes : List Byte} (rejected : verdict bytes = .noise) :
    batchParse bytes = (batchParse bytes.tail).after [] 1 := by
  rw [batchParse]
  split <;> simp_all [Parsed.after, Nat.add_comm]

/-- Induction along the reference parse. -/
theorem batchParse_induction {motive : List Byte → Prop}
    (unresolved : ∀ bytes, verdict bytes = .open_ → motive bytes)
    (complete : ∀ bytes, verdict bytes = .complete →
      motive (bytes.drop (frameTotal bytes)) → motive bytes)
    (noise : ∀ first rest, verdict (first :: rest) = .noise → motive rest →
      motive (first :: rest)) (bytes : List Byte) : motive bytes := by
  induction bytes using batchParse.induct with
  | case1 bytes found => exact unresolved bytes found
  | case2 bytes found ih => exact complete bytes found ih
  | case3 bytes found ih =>
      cases bytes with
      | nil => cases found
      | cons first rest => exact noise first rest found ih

/-- What is left over could still start a frame. -/
theorem verdict_rest (bytes : List Byte) : verdict (batchParse bytes).rest = .open_ := by
  induction bytes using batchParse_induction with
  | unresolved bytes found => rwa [batchParse_open found]
  | complete bytes found ih => rwa [batchParse_complete found]
  | noise first rest found ih => rwa [batchParse_noise found]

/-- **Parsing in two pieces.** The first piece's frames and noise are settled;
its unresolved suffix is parsed again with the second. -/
theorem batchParse_append (bytes more : List Byte) :
    batchParse (bytes ++ more) =
      (batchParse ((batchParse bytes).rest ++ more)).after (batchParse bytes).frames
        (batchParse bytes).noise := by
  induction bytes using batchParse_induction with
  | unresolved bytes found => rw [batchParse_open found, Parsed.after_nothing]
  | complete bytes found ih =>
      have settled : verdict (bytes ++ more) = .complete := by
        rw [verdict_append more (by rw [found]; exact Verdict.noConfusion), found]
      have whole := verdict_complete found
      rw [batchParse_complete settled, batchParse_complete found,
        frameTotal_append bytes more whole.1, frameOf_append bytes more whole.2.2,
        List.drop_append_of_le_length whole.2.2, ih, Parsed.after_after]
      simp [Parsed.after]
  | noise first rest found ih =>
      have settled : verdict (first :: rest ++ more) = .noise := by
        rw [verdict_append more (by rw [found]; exact Verdict.noConfusion), found]
      rw [batchParse_noise settled, batchParse_noise found, List.cons_append, List.tail_cons,
        List.tail_cons, ih, Parsed.after_after]
      simp [Parsed.after]

/-- A frame's bytes on the wire. -/
def SmlFrame.bytes (frame : SmlFrame) : Nat :=
  smlHeaderBytes + frame.length + smlCrcBytes

/-- The bytes of some frames on the wire. -/
def frameBytes (frames : List SmlFrame) : Nat :=
  (frames.map SmlFrame.bytes).sum

@[simp] theorem frameBytes_nil : frameBytes [] = 0 := rfl

@[simp] theorem frameBytes_append (first second : List SmlFrame) :
    frameBytes (first ++ second) = frameBytes first + frameBytes second := by
  simp [frameBytes]

theorem frameBytes_frameOf (bytes : List Byte) : frameBytes [frameOf bytes] = frameTotal bytes := by
  simp [frameBytes, SmlFrame.bytes, frameOf, frameTotal]

/-- Every byte is in a frame, is noise or is left over. -/
theorem length_eq_batchParse (bytes : List Byte) :
    bytes.length = frameBytes (batchParse bytes).frames + (batchParse bytes).noise +
      (batchParse bytes).rest.length := by
  induction bytes using batchParse_induction with
  | unresolved bytes found => simp [batchParse_open found]
  | complete bytes found ih =>
      have whole := (verdict_complete found).2.2
      rw [List.length_drop] at ih
      simp only [batchParse_complete found, Parsed.after, frameBytes_append, frameBytes_frameOf]
      omega
  | noise first rest found ih =>
      simp only [batchParse_noise found, Parsed.after, List.tail_cons, List.nil_append,
        List.length_cons]
      omega

/-! ## One scan -/

/-- What one turn of `scan`'s loop does, by the verdict on the buffer. -/
theorem scanBuffer_cons (consumed : Nat) (first : Byte) (rest : List Byte)
    (stats : SmlParserStats) :
    (verdict (first :: rest) = .open_ ∧
        scanBuffer consumed (first :: rest) stats = (none, ⟨first :: rest, consumed, stats⟩)) ∨
      (verdict (first :: rest) = .complete ∧
        scanBuffer consumed (first :: rest) stats =
          (some (frameOf (first :: rest)),
            ⟨first :: rest, frameTotal (first :: rest),
              { stats with frames := stats.frames + 1 }⟩)) ∨
      (verdict (first :: rest) = .noise ∧
        ∃ worse : SmlParserStats, worse.noiseBytes = stats.noiseBytes ∧
          scanBuffer consumed (first :: rest) stats = scanBuffer consumed rest worse.noise) := by
  simp only [verdict, scanBuffer]
  split
  · exact .inr (.inr ⟨rfl, stats, rfl, rfl⟩)
  · split
    · exact .inl ⟨rfl, rfl⟩
    · split
      · exact .inr (.inr ⟨rfl, { stats with lengthErrors := stats.lengthErrors + 1 }, rfl, rfl⟩)
      · split
        · exact .inl ⟨rfl, rfl⟩
        · split
          · exact .inr (.inl ⟨rfl, rfl⟩)
          · exact .inr (.inr ⟨rfl, { stats with crcErrors := stats.crcErrors + 1 }, rfl, rfl⟩)

/-- A scan that dropped some bytes from the front: exactly the reference's noise,
and it stopped where a frame could still start or returned the frame there. -/
structure Scanned (consumed : Nat) (bytes : List Byte) (stats : SmlParserStats)
    (result : Option SmlFrame × SmlParser) (dropped : Nat) : Prop where
  lengths : bytes.length = dropped + result.2.buffer.length
  counted : result.2.stats.noiseBytes = stats.noiseBytes + BitVec.ofNat 32 dropped
  parsed : batchParse bytes = (batchParse result.2.buffer).after [] dropped
  ended : (result.1 = none ∧ verdict result.2.buffer = .open_ ∧ result.2.consumed = consumed) ∨
    (result.1 = some (frameOf result.2.buffer) ∧ verdict result.2.buffer = .complete ∧
      result.2.consumed = frameTotal result.2.buffer)

theorem Scanned.reject {consumed : Nat} {first : Byte} {rest : List Byte}
    {stats worse : SmlParserStats} {result : Option SmlFrame × SmlParser} {dropped : Nat}
    (scanned : Scanned consumed rest worse.noise result dropped)
    (kept : worse.noiseBytes = stats.noiseBytes) (found : verdict (first :: rest) = .noise) :
    Scanned consumed (first :: rest) stats result (dropped + 1) where
  lengths := by
    rw [List.length_cons, scanned.lengths]
    omega
  counted := by
    have more : BitVec.ofNat 32 (dropped + 1) = 1#32 + BitVec.ofNat 32 dropped := by
      rw [Nat.add_comm, BitVec.ofNat_add]
    rw [scanned.counted, more, ← BitVec.add_assoc, ← kept]
    rfl
  parsed := by
    rw [batchParse_noise found, List.tail_cons, scanned.parsed, Parsed.after_after, Nat.add_comm]
    rfl
  ended := scanned.ended

theorem scanBuffer_scanned (consumed : Nat) (bytes : List Byte) (stats : SmlParserStats) :
    ∃ dropped, Scanned consumed bytes stats (scanBuffer consumed bytes stats) dropped := by
  induction bytes generalizing stats with
  | nil => exact ⟨0, by simp [scanBuffer], by simp [scanBuffer], by simp [scanBuffer],
      .inl ⟨rfl, rfl, rfl⟩⟩
  | cons first rest ih =>
      obtain ⟨found, scanned⟩ | ⟨found, scanned⟩ | ⟨found, worse, kept, scanned⟩ :=
        scanBuffer_cons consumed first rest stats
      · rw [scanned]
        exact ⟨0, by simp, by simp, by simp, .inl ⟨rfl, found, rfl⟩⟩
      · rw [scanned]
        exact ⟨0, by simp, by simp, by simp, .inr ⟨rfl, found, rfl⟩⟩
      · rw [scanned]
        obtain ⟨dropped, inner⟩ := ih worse.noise
        exact ⟨dropped + 1, inner.reject kept found⟩

/-! ## The receiver -/

/-- A receiver that pushes a stream byte by byte and, after a call returned a
frame, asks for the next until there is none: the bytes pushed so far, the frames
emitted, the parser, and whether the last call returned a frame. -/
inductive Feeding : List Byte → List SmlFrame → SmlParser → Bool → Prop
  | start : Feeding [] [] smlParserInit false
  | push {pushed emitted parser} (byte : Byte) (idle : Feeding pushed emitted parser false) :
      Feeding (pushed ++ [byte]) (emitted ++ (smlParserPush parser byte).1.toList)
        (smlParserPush parser byte).2 (smlParserPush parser byte).1.isSome
  | next {pushed emitted parser} (busy : Feeding pushed emitted parser true) :
      Feeding pushed (emitted ++ (smlParserNext parser).1.toList) (smlParserNext parser).2
        (smlParserNext parser).1.isSome

/-- The bytes the next call will keep. -/
def SmlParser.unreleased (parser : SmlParser) : List Byte :=
  parser.buffer.drop parser.consumed

theorem release_eq (parser : SmlParser) :
    release parser = ⟨parser.unreleased, 0, parser.stats⟩ := by
  unfold release SmlParser.unreleased SmlParser.drop
  split
  · rfl
  · next kept =>
      rw [not_not] at kept
      cases parser
      simp_all

/-- A receiver's state against the reference parse of what was pushed. -/
structure Feeding.Spec (pushed : List Byte) (emitted : List SmlFrame) (parser : SmlParser)
    (returned : Bool) (noise : Nat) : Prop where
  counted : parser.stats.noiseBytes = BitVec.ofNat 32 noise
  parsed : batchParse pushed = (batchParse parser.unreleased).after emitted noise
  bounded : parser.count ≤ smlMaxFrameBytes
  held : parser.consumed ≤ parser.count
  resolved : returned = false → parser.consumed = 0 ∧ verdict parser.buffer = .open_

/-- A scan of bytes whose parse completes that of what was pushed. -/
theorem Feeding.Spec.scan {pushed bytes : List Byte} {emitted : List SmlFrame}
    {stats : SmlParserStats} {noise : Nat} (counted : stats.noiseBytes = BitVec.ofNat 32 noise)
    (parsed : batchParse pushed = (batchParse bytes).after emitted noise)
    (bounded : bytes.length ≤ smlMaxFrameBytes) :
    ∃ later, Feeding.Spec pushed (emitted ++ (scanBuffer 0 bytes stats).1.toList)
      (scanBuffer 0 bytes stats).2 (scanBuffer 0 bytes stats).1.isSome later := by
  obtain ⟨dropped, scanned⟩ := scanBuffer_scanned 0 bytes stats
  refine ⟨noise + dropped, ?_⟩
  have total : BitVec.ofNat 32 (noise + dropped) = BitVec.ofNat 32 noise + BitVec.ofNat 32 dropped :=
    BitVec.ofNat_add ..
  have shorter : (scanBuffer 0 bytes stats).2.count ≤ smlMaxFrameBytes := by
    have := scanned.lengths
    unfold SmlParser.count
    omega
  obtain ⟨result, open_, kept⟩ | ⟨result, complete, kept⟩ := scanned.ended
  · refine ⟨by rw [scanned.counted, counted, total], ?_, shorter, by omega, fun _ => ⟨kept, open_⟩⟩
    rw [parsed, scanned.parsed, Parsed.after_after, SmlParser.unreleased, kept, List.drop_zero,
      result]
    rfl
  · have whole := verdict_complete complete
    refine ⟨by rw [scanned.counted, counted, total], ?_, shorter, ?_, fun none_ => ?_⟩
    · rw [parsed, scanned.parsed, Parsed.after_after, batchParse_complete complete,
        Parsed.after_after, SmlParser.unreleased, kept, result]
      simp
    · rw [kept]
      exact whole.2.2
    · rw [result] at none_
      cases none_

/-- Every state of a receiver agrees with the reference. -/
theorem Feeding.spec {pushed : List Byte} {emitted : List SmlFrame} {parser : SmlParser}
    {returned : Bool} (fed : Feeding pushed emitted parser returned) :
    ∃ noise, Feeding.Spec pushed emitted parser returned noise := by
  induction fed with
  | start =>
      refine ⟨0, rfl, ?_, by decide, by decide, fun _ => ⟨rfl, rfl⟩⟩
      simp [SmlParser.unreleased, smlParserInit]
  | push byte idle ih =>
      obtain ⟨noise, spec⟩ := ih
      obtain ⟨kept, open_⟩ := spec.resolved rfl
      rename_i pushed emitted parser
      have same : parser.unreleased = parser.buffer := by
        rw [SmlParser.unreleased, kept, List.drop_zero]
      have earlier := spec.parsed
      rw [same, batchParse_open open_] at earlier
      have short := verdict_open_length open_
      simp only [smlParserPush, release_eq, Sml.scan, same]
      refine Feeding.Spec.scan spec.counted ?_ ?_
      · rw [batchParse_append, earlier]
        simp [Parsed.after]
      · rw [List.length_append, List.length_singleton]
        omega
  | next busy ih =>
      obtain ⟨noise, spec⟩ := ih
      simp only [smlParserNext, release_eq, Sml.scan]
      refine Feeding.Spec.scan spec.counted spec.parsed ?_
      rw [SmlParser.unreleased, List.length_drop]
      have := spec.bounded
      unfold SmlParser.count at this
      omega

/-- From any state the receiver reaches one where the last call returned nothing:
every frame returned releases some of the buffer. -/
theorem Feeding.settles {pushed : List Byte} {emitted : List SmlFrame} {parser : SmlParser}
    {returned : Bool} (fed : Feeding pushed emitted parser returned) :
    ∃ more settled, Feeding pushed (emitted ++ more) settled false := by
  induction room : parser.unreleased.length using Nat.strong_induction_on
    generalizing emitted parser returned with
  | _ room_ ih =>
      cases returned with
      | false => exact ⟨[], parser, by simpa using fed⟩
      | true =>
          have step := fed.next
          obtain ⟨dropped, scanned⟩ := scanBuffer_scanned 0 parser.unreleased parser.stats
          have moved : smlParserNext parser = scanBuffer 0 parser.unreleased parser.stats := by
            simp only [smlParserNext, release_eq, Sml.scan]
          rw [moved] at step
          obtain ⟨result, -, -⟩ | ⟨result, complete, kept⟩ := scanned.ended
          · rw [result] at step
            exact ⟨_, _, step⟩
          · have less : (scanBuffer 0 parser.unreleased parser.stats).2.unreleased.length <
                room_ := by
              have whole := (verdict_complete complete).2.2
              have some_ := frameTotal_pos (scanBuffer 0 parser.unreleased parser.stats).2.buffer
              have lengths := scanned.lengths
              rw [SmlParser.unreleased, List.length_drop, kept]
              omega
            obtain ⟨more, settled, done⟩ := ih _ less step rfl
            exact ⟨_, settled, by simpa only [List.append_assoc] using done⟩

/-- Every stream can be fed to the end. -/
theorem Feeding.exists_settled (stream : List Byte) :
    ∃ emitted parser, Feeding stream emitted parser false := by
  induction stream using List.reverseRecOn with
  | nil => exact ⟨[], _, .start⟩
  | append_singleton stream byte ih =>
      obtain ⟨emitted, parser, idle⟩ := ih
      obtain ⟨more, settled, done⟩ := (idle.push byte).settles
      exact ⟨_, settled, done⟩

/-- **The streaming parser refines the batch parse.** Any stream can be fed to the
end; at every call along the way the bytes pushed are those of the emitted frames,
the noise and what is still buffered, and the buffer never holds more than a
frame; once there is no further frame, the frames emitted and the bytes buffered
are the reference's. The noise counter keeps the noise modulo 2^32. -/
theorem smlParser_refines_batchParse (stream : List Byte) :
    (∃ emitted parser, Feeding stream emitted parser false) ∧
      ∀ emitted parser returned, Feeding stream emitted parser returned →
        (∃ noise, parser.stats.noiseBytes = BitVec.ofNat 32 noise ∧
          stream.length = frameBytes emitted + noise + (parser.count - parser.consumed)) ∧
        parser.count ≤ smlMaxFrameBytes ∧
        (returned = false → parser.count < smlMaxFrameBytes ∧
          emitted = (batchParse stream).frames ∧ parser.buffer = (batchParse stream).rest) := by
  refine ⟨Feeding.exists_settled stream, fun emitted parser returned fed => ?_⟩
  obtain ⟨noise, spec⟩ := fed.spec
  refine ⟨⟨noise, spec.counted, ?_⟩, spec.bounded, fun idle => ?_⟩
  · have whole := length_eq_batchParse stream
    have unreleased := length_eq_batchParse parser.unreleased
    have buffered : parser.unreleased.length = parser.count - parser.consumed := by
      rw [SmlParser.unreleased, List.length_drop, SmlParser.count]
    rw [spec.parsed] at whole
    simp only [Parsed.after, frameBytes_append] at whole
    omega
  · obtain ⟨kept, unresolved⟩ := spec.resolved idle
    have parsed := spec.parsed
    rw [SmlParser.unreleased, kept, List.drop_zero, batchParse_open unresolved] at parsed
    refine ⟨verdict_open_length unresolved, ?_, ?_⟩ <;> rw [parsed] <;> simp [Parsed.after]

/-- A run of zeros is all noise. -/
theorem batchParse_replicate_zero (count : Nat) :
    batchParse (List.replicate count 0#8) = ⟨[], count, []⟩ := by
  induction count with
  | zero => exact batchParse_open rfl
  | succ count ih =>
      have rejected : verdict (List.replicate (count + 1) 0#8) = .noise := by
        simp [List.replicate_succ, verdict, smlMagic1]
      rw [batchParse_noise rejected, List.replicate_succ, List.tail_cons, ih]
      simp [Parsed.after, Nat.add_comm]

/-- The noise counter is a `uint32_t`: after 2^32 bytes of noise it reads zero
again, with nothing emitted and nothing buffered. -/
theorem noiseBytes_wraps :
    ¬ ∀ stream emitted parser returned, Feeding stream emitted parser returned →
      stream.length = frameBytes emitted + parser.stats.noiseBytes.toNat +
        (parser.count - parser.consumed) := by
  intro exact_
  obtain ⟨emitted, parser, fed⟩ := Feeding.exists_settled (List.replicate (2 ^ 32) 0#8)
  obtain ⟨noise, spec⟩ := fed.spec
  obtain ⟨kept, unresolved⟩ := spec.resolved rfl
  have parsed := spec.parsed
  rw [SmlParser.unreleased, kept, List.drop_zero, batchParse_open unresolved,
    batchParse_replicate_zero] at parsed
  simp only [Parsed.after, Parsed.mk.injEq, List.append_nil, Nat.add_zero] at parsed
  obtain ⟨none_, count, empty⟩ := parsed
  have claimed := exact_ _ _ _ _ fed
  rw [spec.counted, ← count, ← none_, SmlParser.count, ← empty, List.length_replicate] at claimed
  simp at claimed

end GpsClock.Sml
