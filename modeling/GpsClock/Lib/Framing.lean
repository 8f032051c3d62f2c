import Mathlib

/-! # Frames in a stream

A framing judges what stands at the front of some bytes: a whole frame, something that
could still become one, or neither. Parsing from left to right takes a frame whole, drops
a byte where none can start, and stops where one could still come; flushing gives that one
up too. A judgement that more bytes cannot change lets a stream be parsed as it comes
(`Framing.parse_append`), and a receiver that is told of silences then finds what parsing
every stretch between them at once would find (`Framing.stream_eq_batch`).
-/

universe u v

inductive Verdict (Frame : Type v)
  | wait
  | frame (length : Nat) (value : Frame)
  | reject

/-- What stands at the front, settled once it is known. -/
structure Framing (Byte : Type u) (Frame : Type v) where
  judge : List Byte → Verdict Frame
  empty : judge [] = .wait
  fits : ∀ {bytes length value}, judge bytes = .frame length value →
    0 < length ∧ length ≤ bytes.length
  settled : ∀ {bytes} more, judge bytes ≠ .wait → judge (bytes ++ more) = judge bytes

/-- A run of bytes taken from the front: a frame, or one byte dropped. -/
structure Piece (Byte : Type u) (Frame : Type v) where
  bytes : List Byte
  frame : Option Frame

structure Parsed (Byte : Type u) (Frame : Type v) where
  pieces : List (Piece Byte Frame)
  rest : List Byte

namespace Parsed

variable {Byte : Type u} {Frame : Type v}

/-- What was found before a parse. -/
def after (pieces : List (Piece Byte Frame)) (later : Parsed Byte Frame) : Parsed Byte Frame :=
  ⟨pieces ++ later.pieces, later.rest⟩

@[simp] theorem after_nil (later : Parsed Byte Frame) : later.after [] = later :=
  rfl

theorem after_after (first second : List (Piece Byte Frame)) (later : Parsed Byte Frame) :
    (later.after second).after first = later.after (first ++ second) := by
  simp only [after, List.append_assoc]

/-- The frames found, in their order. -/
def frames (parsed : Parsed Byte Frame) : List Frame :=
  parsed.pieces.filterMap Piece.frame

theorem frames_after (pieces : List (Piece Byte Frame)) (later : Parsed Byte Frame) :
    (later.after pieces).frames = pieces.filterMap Piece.frame ++ later.frames := by
  simp only [frames, after, List.filterMap_append]

/-- The bytes in no frame, in their order. -/
def noise (parsed : Parsed Byte Frame) : List Byte :=
  parsed.pieces.flatMap fun piece => if piece.frame.isNone then piece.bytes else []

theorem noise_after (pieces : List (Piece Byte Frame)) (later : Parsed Byte Frame) :
    (later.after pieces).noise = (Parsed.mk pieces []).noise ++ later.noise :=
  List.flatMap_append

/-- Bytes dropped one after another before a parse are noise, and no frame. -/
theorem frames_after_dropped (dropped : List Byte) (later : Parsed Byte Frame) :
    (later.after (dropped.map fun byte => ⟨[byte], none⟩)).frames = later.frames := by
  rw [frames_after, List.filterMap_map]
  exact congrArg (· ++ later.frames) (List.filterMap_none _)

theorem noise_after_dropped (dropped : List Byte) (later : Parsed Byte Frame) :
    (later.after (dropped.map fun byte => ⟨[byte], none⟩)).noise = dropped ++ later.noise := by
  rw [noise_after, noise, List.flatMap_map]
  exact congrArg (· ++ later.noise) (List.flatMap_singleton' dropped)

end Parsed

namespace Framing

variable {Byte : Type u} {Frame : Type v} (framing : Framing Byte Frame)

/-- The judgement where what could still become a frame is given up. -/
def verdict (flush : Bool) (bytes : List Byte) : Verdict Frame :=
  match framing.judge bytes with
  | .wait => if flush && !bytes.isEmpty then .reject else .wait
  | .frame length value => .frame length value
  | .reject => .reject

variable {framing} {bytes : List Byte}

theorem verdict_of_judge (flush : Bool) (settled : framing.judge bytes ≠ .wait) :
    framing.verdict flush bytes = framing.judge bytes := by
  unfold verdict
  cases found : framing.judge bytes with
  | wait => exact absurd found settled
  | frame => rfl
  | reject => rfl

theorem verdict_waiting (bytes : List Byte) :
    framing.verdict false bytes = framing.judge bytes := by
  unfold verdict
  cases framing.judge bytes with
  | wait => rfl
  | frame => rfl
  | reject => rfl

theorem verdict_flush (waits : framing.judge bytes = .wait) (some : bytes ≠ []) :
    framing.verdict true bytes = .reject := by
  cases bytes with
  | nil => exact absurd rfl some
  | cons byte rest =>
      rw [verdict, waits]
      rfl

theorem verdict_frame {flush : Bool} {length : Nat} {value : Frame}
    (found : framing.verdict flush bytes = .frame length value) :
    framing.judge bytes = .frame length value := by
  unfold verdict at found
  cases judged : framing.judge bytes with
  | wait =>
      rw [judged] at found
      dsimp only at found
      split at found <;> cases found
  | frame => rwa [judged] at found
  | reject =>
      rw [judged] at found
      cases found

theorem verdict_reject_ne_nil {flush : Bool} (found : framing.verdict flush bytes = .reject) :
    bytes ≠ [] := by
  rintro rfl
  rw [verdict, framing.empty] at found
  dsimp only at found
  rw [List.isEmpty_nil, Bool.not_true, Bool.and_false] at found
  cases found

variable (framing) in
/-- From left to right; `flush` gives up what could still become a frame. -/
def parse (flush : Bool) (bytes : List Byte) : Parsed Byte Frame :=
  match found : framing.verdict flush bytes with
  | .frame length value =>
      (parse flush (bytes.drop length)).after [⟨bytes.take length, some value⟩]
  | .reject => (parse flush bytes.tail).after [⟨bytes.take 1, none⟩]
  | .wait => ⟨[], bytes⟩
termination_by bytes.length
decreasing_by
  · obtain ⟨some, whole⟩ := framing.fits (verdict_frame found)
    rw [List.length_drop]
    exact Nat.sub_lt (Nat.lt_of_lt_of_le some whole) some
  · have some := List.length_pos_iff.mpr (verdict_reject_ne_nil found)
    rw [List.length_tail]
    exact Nat.sub_lt some Nat.one_pos

theorem parse_wait {flush : Bool} (found : framing.verdict flush bytes = .wait) :
    framing.parse flush bytes = ⟨[], bytes⟩ := by
  rw [parse]
  split <;> simp_all

theorem parse_nil (flush : Bool) : framing.parse flush [] = ⟨[], []⟩ := by
  apply parse_wait
  rw [verdict, framing.empty]
  cases flush <;> rfl

theorem parse_frame {flush : Bool} {length : Nat} {value : Frame}
    (found : framing.judge bytes = .frame length value) :
    framing.parse flush bytes =
      (framing.parse flush (bytes.drop length)).after [⟨bytes.take length, some value⟩] := by
  have same : framing.verdict flush bytes = .frame length value := by
    rw [verdict_of_judge flush (found.trans_ne nofun), found]
  rw [parse]
  split <;> simp_all

theorem parse_reject {flush : Bool} (found : framing.verdict flush bytes = .reject) :
    framing.parse flush bytes =
      (framing.parse flush bytes.tail).after [⟨bytes.take 1, none⟩] := by
  rw [parse]
  split <;> simp_all

/-- Induction along a parse. -/
theorem parse_induction (flush : Bool) {motive : List Byte → Prop}
    (wait : ∀ bytes, framing.verdict flush bytes = .wait → motive bytes)
    (frame : ∀ bytes length value, framing.judge bytes = .frame length value →
      motive (bytes.drop length) → motive bytes)
    (reject : ∀ byte rest, framing.verdict flush (byte :: rest) = .reject → motive rest →
      motive (byte :: rest)) (bytes : List Byte) : motive bytes := by
  induction bytes using parse.induct framing flush with
  | case1 bytes length value found ih => exact frame bytes length value (verdict_frame found) ih
  | case2 bytes found ih =>
      cases bytes with
      | nil => exact absurd rfl (verdict_reject_ne_nil found)
      | cons byte rest => exact reject byte rest found ih
  | case3 bytes found => exact wait bytes found

/-- Every byte is in one piece, or left over, in its place. -/
theorem parse_bytes (flush : Bool) (bytes : List Byte) :
    (framing.parse flush bytes).pieces.flatMap Piece.bytes ++ (framing.parse flush bytes).rest =
      bytes := by
  induction bytes using framing.parse_induction flush with
  | wait bytes found =>
      rw [parse_wait found]
      rfl
  | frame bytes length value found ih =>
      rw [parse_frame found]
      simp only [Parsed.after, List.singleton_append, List.flatMap_cons, List.append_assoc, ih]
      exact List.take_append_drop length bytes
  | reject byte rest found ih =>
      rw [parse_reject found]
      simp only [Parsed.after, List.singleton_append, List.flatMap_cons, List.append_assoc,
        List.tail_cons, ih]
      rfl

/-- What is left over could still become a frame. -/
theorem verdict_rest (framing : Framing Byte Frame) (flush : Bool) (bytes : List Byte) :
    framing.verdict flush (framing.parse flush bytes).rest = .wait := by
  induction bytes using framing.parse_induction flush with
  | wait bytes found => rwa [parse_wait found]
  | frame bytes length value found ih => rwa [parse_frame found]
  | reject byte rest found ih => rwa [parse_reject found]

theorem judge_rest (framing : Framing Byte Frame) (bytes : List Byte) :
    framing.judge (framing.parse false bytes).rest = .wait :=
  (verdict_waiting _).symm.trans (framing.verdict_rest false bytes)

/-- After a flush nothing is left. -/
theorem flush_rest (bytes : List Byte) : (framing.parse true bytes).rest = [] := by
  by_contra some
  have waits := framing.verdict_rest true bytes
  cases judged : framing.judge (framing.parse true bytes).rest with
  | wait =>
      rw [verdict_flush judged some] at waits
      cases waits
  | frame => rw [verdict_of_judge true (judged.trans_ne nofun), judged] at waits; cases waits
  | reject => rw [verdict_of_judge true (judged.trans_ne nofun), judged] at waits; cases waits

/-- **Parsing as it comes.** What the first piece settles stays; what it leaves over is
parsed again with the second. -/
theorem parse_append (framing : Framing Byte Frame) (flush : Bool) (bytes more : List Byte) :
    framing.parse flush (bytes ++ more) =
      (framing.parse flush ((framing.parse false bytes).rest ++ more)).after
        (framing.parse false bytes).pieces := by
  induction bytes using framing.parse_induction false with
  | wait bytes found =>
      rw [parse_wait found]
      rfl
  | frame bytes length value found ih =>
      have whole := (framing.fits found).2
      have settled : framing.judge (bytes ++ more) = .frame length value := by
        rw [framing.settled more (found.trans_ne nofun), found]
      rw [parse_frame settled, parse_frame found, List.drop_append_of_le_length whole,
        List.take_append_of_le_length whole, ih, Parsed.after_after]
      rfl
  | reject byte rest found ih =>
      rw [verdict_waiting] at found
      have settled : framing.judge (byte :: rest ++ more) = .reject := by
        rw [framing.settled more (found.trans_ne nofun), found]
      have flushed : framing.verdict flush (byte :: rest ++ more) = .reject := by
        rw [verdict_of_judge flush (settled.trans_ne nofun), settled]
      have waiting : framing.verdict false (byte :: rest) = .reject := by
        rw [verdict_waiting, found]
      rw [parse_reject flushed, parse_reject waiting]
      simp only [List.cons_append, List.tail_cons, ih, Parsed.after_after]
      rfl

/-! ## Streams -/

/-- What a receiver is given: a byte, or word that none has come for a while. -/
inductive Heard (Byte : Type u)
  | byte (value : Byte)
  | silence

def Heard.toBytes : Heard Byte → List Byte
  | .byte value => [value]
  | .silence => []

variable (framing) in
/-- A receiver's parse of the bytes it holds. -/
def receive (held : List Byte) : Heard Byte → Parsed Byte Frame
  | .byte byte => framing.parse false (held ++ [byte])
  | .silence => framing.parse true held

variable (framing) in
def stream : List Byte → List (Heard Byte) → Parsed Byte Frame
  | held, [] => ⟨[], held⟩
  | held, heard :: later =>
      (stream (framing.receive held heard).rest later).after (framing.receive held heard).pieces

variable (framing) in
/-- The bytes of every stretch between two silences parsed at once: what a silence ends
with nothing kept back. -/
def batch : List Byte → List (Heard Byte) → Parsed Byte Frame
  | stretch, [] => framing.parse false stretch
  | stretch, .byte byte :: later => batch (stretch ++ [byte]) later
  | stretch, .silence :: later => (batch [] later).after (framing.parse true stretch).pieces

/-- **Streaming and batch parsing agree**, wherever the silences fall. -/
theorem stream_eq_batch (framing : Framing Byte Frame) (stretch : List Byte)
    (heard : List (Heard Byte)) :
    (framing.stream (framing.parse false stretch).rest heard).after
        (framing.parse false stretch).pieces =
      framing.batch stretch heard := by
  induction heard generalizing stretch with
  | nil =>
      rw [stream, Parsed.after, List.append_nil]
      rfl
  | cons heard later ih =>
      cases heard with
      | byte byte =>
          have appended := framing.parse_append false stretch [byte]
          rw [stream, batch, ← ih, appended, Parsed.after_after]
          rfl
      | silence =>
          have flushed := framing.parse_append true stretch []
          have fresh := ih []
          rw [parse_nil, Parsed.after_nil] at fresh
          rw [List.append_nil, List.append_nil] at flushed
          rw [stream, batch, ← fresh, Parsed.after_after, receive, flush_rest, flushed]
          rfl

/-- A flush finds no frame exactly where none stands anywhere in the bytes. -/
theorem flush_frames_eq_nil_iff (bytes : List Byte) :
    (framing.parse true bytes).frames = [] ↔
      ∀ start length value, framing.judge (bytes.drop start) ≠ .frame length value := by
  induction bytes using framing.parse_induction true with
  | wait bytes found =>
      have empty : bytes = [] := by
        by_contra some
        cases judged : framing.judge bytes with
        | wait => rw [verdict_flush judged some] at found; cases found
        | frame => rw [verdict_of_judge true (judged.trans_ne nofun), judged] at found; cases found
        | reject => rw [verdict_of_judge true (judged.trans_ne nofun), judged] at found; cases found
      rw [parse_wait found, empty]
      refine iff_of_true rfl fun start length value judged => ?_
      rw [List.drop_nil, framing.empty] at judged
      cases judged
  | frame bytes length value found ih =>
      rw [parse_frame found, Parsed.frames_after]
      exact iff_of_false (List.cons_ne_nil _ _) fun none => none 0 length value found
  | reject byte rest found ih =>
      rw [parse_reject found, Parsed.frames_after, List.tail_cons]
      refine ih.trans ⟨fun none start => ?_, fun none start => none (start + 1)⟩
      cases start with
      | zero =>
          intro length value judged
          rw [List.drop_zero] at judged
          rw [verdict_of_judge true (judged.trans_ne nofun), judged] at found
          cases found
      | succ start => exact none start

/-- A flush that finds no frame drops every byte. -/
theorem flush_pieces (bytes : List Byte) (none : (framing.parse true bytes).frames = []) :
    (framing.parse true bytes).pieces = bytes.map fun byte => ⟨[byte], Option.none⟩ := by
  induction bytes using framing.parse_induction true with
  | wait bytes found =>
      have empty : (framing.parse true bytes).rest = [] := flush_rest bytes
      rw [parse_wait found] at empty
      obtain rfl : bytes = [] := empty
      rw [parse_wait found]
      rfl
  | frame bytes length value found ih =>
      rw [parse_frame found, Parsed.frames_after] at none
      exact absurd none (List.cons_ne_nil _ _)
  | reject byte rest found ih =>
      rw [parse_reject found, Parsed.frames_after, List.tail_cons] at none
      rw [parse_reject found]
      exact congrArg (List.cons _) (ih none)

variable (framing) in
/-- A receiver that gives up at a silence all that it holds. -/
def abandon : List Byte → List (Heard Byte) → Parsed Byte Frame
  | held, [] => ⟨[], held⟩
  | held, .byte byte :: later =>
      (abandon (framing.receive held (.byte byte)).rest later).after
        (framing.receive held (.byte byte)).pieces
  | held, .silence :: later => (abandon [] later).after (held.map fun byte => ⟨[byte], none⟩)

variable (framing) in
/-- At no silence is there a frame in what is held. -/
def Bare : List Byte → List (Heard Byte) → Prop
  | _, [] => True
  | held, .byte byte :: later => Bare (framing.receive held (.byte byte)).rest later
  | held, .silence :: later => (framing.parse true held).frames = [] ∧ Bare [] later

theorem abandon_frames (framing : Framing Byte Frame) (held : List Byte) (heard : List (Heard Byte)) :
    (framing.abandon held heard).frames.length ≤ (framing.stream held heard).frames.length ∧
      ((framing.abandon held heard).frames = (framing.stream held heard).frames ↔
        framing.Bare held heard) := by
  induction heard generalizing held with
  | nil => exact ⟨Nat.le_refl _, iff_of_true rfl trivial⟩
  | cons heard later ih =>
      cases heard with
      | byte byte =>
          obtain ⟨fewer, same⟩ := ih (framing.receive held (.byte byte)).rest
          rw [abandon, stream, Parsed.frames_after, Parsed.frames_after]
          refine ⟨?_, ?_⟩
          · rw [List.length_append, List.length_append]
            exact Nat.add_le_add_left fewer _
          · rw [List.append_right_inj]
            exact same
      | silence =>
          obtain ⟨fewer, same⟩ := ih []
          rw [abandon, stream, receive, flush_rest, Parsed.frames_after_dropped,
            Parsed.frames_after]
          refine ⟨?_, ⟨fun whole => ?_, ?_⟩⟩
          · rw [List.length_append]
            exact fewer.trans (Nat.le_add_left _ _)
          · have lengths := congrArg List.length whole
            rw [List.length_append] at lengths
            have none : (framing.parse true held).frames = [] :=
              List.length_eq_zero_iff.mp (by unfold Parsed.frames; omega)
            refine ⟨none, same.mp ?_⟩
            rw [whole]
            exact congrArg (· ++ _) none
          · rintro ⟨none, bare⟩
            rw [same.mpr bare]
            exact (congrArg (· ++ _) none).symm

/-- Giving up what is held is as good as a flush exactly where no frame is in it. -/
theorem abandon_eq_iff (framing : Framing Byte Frame) (held : List Byte) (heard : List (Heard Byte)) :
    framing.abandon held heard = framing.stream held heard ↔ framing.Bare held heard := by
  refine ⟨fun same => (framing.abandon_frames held heard).2.mp (congrArg Parsed.frames same), ?_⟩
  induction heard generalizing held with
  | nil => exact fun _ => rfl
  | cons heard later ih =>
      cases heard with
      | byte byte =>
          intro bare
          rw [abandon, stream, ih _ bare]
      | silence =>
          rintro ⟨none, bare⟩
          rw [abandon, stream, receive, flush_rest, ih _ bare, flush_pieces held none]

/-- Each silence finds held what was heard before it left over. -/
theorem bare_iff (framing : Framing Byte Frame) (held : List Byte) (heard : List (Heard Byte)) :
    framing.Bare held heard ↔ ∀ earlier later, heard = earlier ++ .silence :: later →
      (framing.parse true (framing.abandon held earlier).rest).frames = [] := by
  induction heard generalizing held with
  | nil =>
      refine iff_of_true trivial fun earlier later split => ?_
      exact absurd split.symm (List.append_ne_nil_of_right_ne_nil _ (List.cons_ne_nil _ _))
  | cons heard rest ih =>
      cases heard with
      | byte byte =>
          refine (ih _).trans ⟨fun none earlier later split => ?_, fun none earlier later split => ?_⟩
          · cases earlier with
            | nil => cases split
            | cons first earlier =>
                rw [List.cons_append, List.cons.injEq] at split
                rw [← split.1]
                exact none earlier later split.2
          · exact none (.byte byte :: earlier) later (congrArg (List.cons _) split)
      | silence =>
          refine (and_congr_right fun _ => ih []).trans ⟨fun bare earlier later split => ?_,
            fun none => ⟨none [] rest rfl, fun earlier later split => ?_⟩⟩
          · cases earlier with
            | nil => exact bare.1
            | cons first earlier =>
                rw [List.cons_append, List.cons.injEq] at split
                rw [← split.1]
                exact bare.2 earlier later split.2
          · exact none (.silence :: earlier) later (congrArg (List.cons _) split)

/-- Silences end stretches, and nothing of a stretch is kept back or parsed twice. -/
theorem stream_bytes (framing : Framing Byte Frame) (held : List Byte)
    (heard : List (Heard Byte)) :
    (framing.stream held heard).pieces.flatMap Piece.bytes ++ (framing.stream held heard).rest =
      held ++ heard.flatMap Heard.toBytes := by
  induction heard generalizing held with
  | nil =>
      rw [stream, List.flatMap_nil, List.flatMap_nil, List.append_nil]
      rfl
  | cons heard later ih =>
      have rest := ih (framing.receive held heard).rest
      rw [stream, Parsed.after, List.flatMap_append, List.append_assoc, rest,
        ← List.append_assoc, List.flatMap_cons]
      cases heard with
      | byte byte => rw [receive, parse_bytes, List.append_assoc, Heard.toBytes]
      | silence => rw [receive, parse_bytes, Heard.toBytes, List.nil_append]

end Framing
