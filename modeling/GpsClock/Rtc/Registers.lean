import GpsClock.Lib.Bcd
import GpsClock.Rtc.Pcf8563

/-! # The registers hold the time

A time written to the chip's registers is the time read back from them; and whatever they hold, it
is believed exactly when it is a date and time that exists and can be counted, which is then the
time read (`GpsClock.Rtc.registers_hold_time`).
-/

namespace GpsClock.Rtc

open GpsClock.Platform Calendar

/-! ## A byte of two digits -/

theorem toNat_shiftRight_four (bcd : BitVec 8) : (bcd >>> 4).toNat = bcd.toNat / 16 := by
  rw [BitVec.toNat_ushiftRight, Nat.shiftRight_eq_div_pow]

theorem bcdValid_iff (bcd : BitVec 8) : bcdValid bcd = true ↔ Bcd.Digits bcd.toNat := by
  have units : (bcd &&& 0x0F).toNat = bcd.toNat % 16 := by
    rw [BitVec.toNat_and]
    exact Nat.and_two_pow_sub_one_eq_mod _ 4
  rw [bcdValid, Bool.and_eq_true_iff, decide_eq_true_iff, decide_eq_true_iff, BitVec.le_def,
    BitVec.le_def, units, toNat_shiftRight_four]
  exact And.comm

theorem toNat_bcdToBinary {bcd : BitVec 8} (valid : bcdValid bcd = true) :
    (bcdToBinary bcd).toNat = Bcd.number bcd.toNat := by
  obtain ⟨tens, units⟩ := (bcdValid_iff bcd).mp valid
  have range := bcd.isLt
  rw [bcdToBinary, BitVec.toNat_sub, BitVec.toNat_mul, toNat_shiftRight_four, Bcd.number]
  change (2 ^ 8 - 6 * (bcd.toNat / 16) % 2 ^ 8 + bcd.toNat) % 2 ^ 8 = _
  omega

theorem toNat_binaryToBcd {binary : BitVec 8} (few : binary.toNat ≤ 99) :
    (binaryToBcd binary).toNat = Bcd.pack binary.toNat := by
  rw [binaryToBcd, BitVec.toNat_add, BitVec.toNat_mul, BitVec.toNat_udiv, Bcd.pack]
  change (binary.toNat + 6 * (binary.toNat / 10) % 2 ^ 8) % 2 ^ 8 = _
  omega

/-! ## The fields -/

/-- A register's low bits. -/
theorem toNat_and_low (register : BitVec 8) (bits : Nat) (few : bits ≤ 8) :
    (register &&& BitVec.ofNat 8 (2 ^ bits - 1)).toNat = register.toNat % 2 ^ bits := by
  have range : 2 ^ bits - 1 < 2 ^ 8 := by
    have most := Nat.pow_le_pow_right (by decide : 0 < 2) few
    have some := Nat.two_pow_pos bits
    omega
  rw [BitVec.toNat_and, BitVec.toNat_ofNat, Nat.mod_eq_of_lt range, Nat.and_two_pow_sub_one_eq_mod]

/-- A register's top bit. -/
theorem top_iff (register : BitVec 8) :
    (register &&& 0x80 != 0) = decide (128 ≤ register.toNat) := by
  revert register
  decide +kernel

/-- A field spells a number: its two digits, packed. -/
def Spells (field number : Nat) : Prop := field = Bcd.pack number ∧ number ≤ 99

/-- What is spelt is what is decoded from a byte of two digits. -/
theorem spells_iff (bcd : BitVec 8) (number : Nat) :
    Spells bcd.toNat number ↔ bcdValid bcd = true ∧ (bcdToBinary bcd).toNat = number := by
  constructor
  · rintro ⟨packed, few⟩
    have valid : bcdValid bcd = true := (bcdValid_iff bcd).mpr (packed ▸ Bcd.digits_pack few)
    refine ⟨valid, ?_⟩
    rw [toNat_bcdToBinary valid, packed, Bcd.number_pack]
  · rintro ⟨valid, rfl⟩
    have digits := (bcdValid_iff bcd).mp valid
    rw [toNat_bcdToBinary valid]
    exact ⟨(Bcd.pack_number digits).symm, Bcd.number_le digits⟩

/-- The registers denote a date and time: each field, flags aside, spells its number, the years
those of the century, which is 2000's or, by its bit, the next. -/
structure Registers.Denotes (registers : Registers) (civil : UtcCivil) : Prop where
  second : Spells (registers.vlSeconds.toNat % 128) civil.second
  minute : Spells (registers.minutes.toNat % 128) civil.minute
  hour : Spells (registers.hours.toNat % 64) civil.hour
  day : Spells (registers.days.toNat % 64) civil.day
  month : Spells (registers.centuryMonths.toNat % 32) civil.month
  year : Spells registers.years.toNat (civil.year % 100)
  century : civil.year / 100 = if 128 ≤ registers.centuryMonths.toNat then 21 else 20

/-- What the registers denote is what is decoded. -/
theorem Registers.denotes_iff (registers : Registers) (civil : UtcCivil) :
    registers.Denotes civil ↔ registers.digits = true ∧ registers.civil = civil := by
  have seven : ∀ register : BitVec 8, (register &&& 0x7F).toNat = register.toNat % 128 :=
    fun register => toNat_and_low register 7 (by decide)
  have six : ∀ register : BitVec 8, (register &&& 0x3F).toNat = register.toNat % 64 :=
    fun register => toNat_and_low register 6 (by decide)
  have five : (registers.centuryMonths &&& 0x1F).toNat = registers.centuryMonths.toNat % 32 :=
    toNat_and_low _ 5 (by decide)
  have century : registers.century = decide (128 ≤ registers.centuryMonths.toNat) := top_iff _
  constructor
  · rintro ⟨second, minute, hour, day, month, year, yearCentury⟩
    rw [← seven, spells_iff] at second minute
    rw [← six, spells_iff] at hour day
    rw [← five, spells_iff] at month
    rw [spells_iff] at year
    refine ⟨?_, ?_⟩
    · simp only [Registers.digits, second, minute, hour, day, month, year, Bool.and_self]
    · cases civil
      dsimp only at *
      rw [Registers.civil, century, second.2, minute.2, hour.2, day.2, month.2, year.2]
      congr 1
      by_cases next : 128 ≤ registers.centuryMonths.toNat
      · rw [if_pos next] at yearCentury
        rw [if_pos (decide_eq_true next)]
        omega
      · rw [if_neg next] at yearCentury
        rw [if_neg (by rw [decide_eq_false next]; exact Bool.false_ne_true)]
        omega
  · rintro ⟨digits, rfl⟩
    simp only [Registers.digits, Bool.and_eq_true] at digits
    obtain ⟨⟨⟨⟨⟨second, minute⟩, hour⟩, day⟩, month⟩, year⟩ := digits
    have spelt := (spells_iff _ _).mpr ⟨year, rfl⟩
    have few := spelt.2
    refine ⟨?_, ?_, ?_, ?_, ?_, ?_, ?_⟩
    · rw [← seven]
      exact (spells_iff _ _).mpr ⟨second, rfl⟩
    · rw [← seven]
      exact (spells_iff _ _).mpr ⟨minute, rfl⟩
    · rw [← six]
      exact (spells_iff _ _).mpr ⟨hour, rfl⟩
    · rw [← six]
      exact (spells_iff _ _).mpr ⟨day, rfl⟩
    · rw [← five]
      exact (spells_iff _ _).mpr ⟨month, rfl⟩
    · have ofCentury : registers.civil.year % 100 = (bcdToBinary registers.years).toNat := by
        rw [Registers.civil]
        dsimp only
        split <;> omega
      rw [ofCentury]
      exact spelt
    · rw [Registers.civil, century]
      dsimp only
      by_cases next : 128 ≤ registers.centuryMonths.toNat
      · rw [if_pos (decide_eq_true next), if_pos next]
        omega
      · rw [if_neg (by rw [decide_eq_false next]; exact Bool.false_ne_true), if_neg next]
        omega

/-! ## Decoding -/

/-- The time is believed as a date and time when it is one that 32 bits count. -/
theorem Pcf8563Status.decode_valid_iff (status : Pcf8563Status) :
    status.decode.calendarValid = true ↔
      status.registers.digits = true ∧ status.registers.civil.Counted := by
  rw [Pcf8563Status.decode]
  dsimp only
  cases digits : status.registers.digits
  · exact ⟨fun wrong => absurd wrong Bool.false_ne_true, fun both => absurd both.1.symm (by decide)⟩
  · rw [if_neg (by decide)]
    by_cases common : status.registers.civil.second ≤ 59
    · rw [← utcCivilIsValid_iff common]
      cases valid : utcCivilIsValid status.registers.civil
      · rw [Bool.not_false, Bool.or_true, if_pos rfl]
        exact ⟨fun wrong => absurd wrong Bool.false_ne_true, fun both => both.2⟩
      · rw [decide_eq_false (Nat.not_lt.mpr common), Bool.not_true, Bool.or_false,
          if_neg Bool.false_ne_true]
        exact ⟨fun _ => ⟨rfl, rfl⟩, fun _ => rfl⟩
    · rw [decide_eq_true (Nat.lt_of_not_le common), Bool.true_or, if_pos rfl]
      exact ⟨fun wrong => absurd wrong Bool.false_ne_true, fun both => absurd both.2.second common⟩

theorem Pcf8563Status.decode_valid {status : Pcf8563Status}
    (valid : status.decode.calendarValid = true) :
    status.decode.utcSeconds = utcFromCivil status.registers.civil ∧
      status.decode.timeValid = (!status.registers.voltageLow && !status.registers.stop) := by
  rw [Pcf8563Status.decode] at valid ⊢
  dsimp only at valid ⊢
  split at valid
  · exact absurd valid Bool.false_ne_true
  · next digits =>
      rw [if_neg digits]
      split at valid
      · exact absurd valid Bool.false_ne_true
      · next accepted =>
          rw [if_neg accepted]
          exact ⟨rfl, rfl⟩

/-! ## Encoding -/

/-- A number of two digits, written and read back with the flags' bits away. -/
theorem spells_binaryToBcd {number limit : Nat} (few : number ≤ 99)
    (fits : Bcd.pack number < limit) :
    Spells ((binaryToBcd (BitVec.ofNat 8 number)).toNat % limit) number := by
  have value : (BitVec.ofNat 8 number).toNat = number := by
    rw [BitVec.toNat_ofNat, Nat.mod_eq_of_lt (by omega)]
  refine ⟨?_, few⟩
  rw [toNat_binaryToBcd (by rw [value]; exact few), value, Nat.mod_eq_of_lt fits]

/-- Seconds of a time of day leave VL clear. -/
theorem voltageLow_encode (utcSeconds : BitVec 32) (control1 : BitVec 8) :
    (encode utcSeconds control1).voltageLow = false := by
  obtain ⟨-, -, -, -, -, second, -⟩ := utcToCivil_spec utcSeconds
  unfold Registers.voltageLow encode pcf8563Vl
  generalize utcToCivil utcSeconds false = civil at *
  have value : (BitVec.ofNat 8 civil.second).toNat = civil.second := by
    rw [BitVec.toNat_ofNat, Nat.mod_eq_of_lt (by omega)]
  have small : (binaryToBcd (BitVec.ofNat 8 civil.second)).toNat < 128 := by
    rw [toNat_binaryToBcd (by omega), value]
    exact lt_of_le_of_lt (Bcd.pack_mono second) (by decide)
  rw [top_iff, decide_eq_false (Nat.not_le.mpr small)]

/-- From the chip's first second on, the year is of its centuries. -/
theorem year_of_first {utcSeconds : BitVec 32} (first : pcf8563FirstUtc ≤ utcSeconds) :
    2000 ≤ (utcToCivil utcSeconds false).year := by
  obtain ⟨counted, seconds⟩ := counted_utcToCivil utcSeconds
  obtain ⟨date, since, hour, minute, second, -⟩ := counted
  by_contra before
  obtain ⟨firstMonth, lastMonth, firstDay, lastDay⟩ := date
  have earlier : monthIndex (utcToCivil utcSeconds false).year (utcToCivil utcSeconds false).month <
      monthIndex 2000 1 := by
    rw [monthIndex, monthIndex]
    omega
  have ends := monthStart_add_le earlier
  obtain ⟨year, month⟩ := monthIndex_parts 2000 (by decide : 1 ≤ 12)
  have years : daysBeforeYear 2000 = 366 + (365 * 1999 + 1999 / 4 + 1999 / 400 - 1999 / 100) :=
    daysBeforeYear_succ 1999
  have months : daysOfMonths 2000 (1 - 1) = 0 := rfl
  rw [lengthAt_monthIndex _ firstMonth lastMonth, monthStart.eq_def (monthIndex 2000 1), year, month,
    years, months] at ends
  have days := dayNumber_eq (utcToCivil utcSeconds false).year lastMonth
    (utcToCivil utcSeconds false).day
  have least : 946684800 ≤ utcSeconds.toNat := first
  rw [← seconds, unixSeconds, dayNumber_1970, Nat.min_eq_left second, utcSecondsPerDay] at least
  omega

/-- A month with the century's flag, or without. -/
theorem toNat_or_century {month : BitVec 8} (short : month.toNat ≤ 18) (late : Prop)
    [Decidable late] :
    (month ||| (if late then pcf8563Century else 0)).toNat =
      month.toNat + if late then 128 else 0 := by
  have all : ∀ value ≤ 18, (BitVec.ofNat 8 value ||| pcf8563Century).toNat = value + 128 := by
    decide +kernel
  have flagged := all month.toNat short
  rw [BitVec.ofNat_toNat, BitVec.setWidth_eq] at flagged
  split
  · exact flagged
  · exact congrArg BitVec.toNat BitVec.or_zero

/-- The registers written for a time denote its date and time. -/
theorem denotes_encode {utcSeconds : BitVec 32} (first : pcf8563FirstUtc ≤ utcSeconds)
    (control1 : BitVec 8) :
    (encode utcSeconds control1).Denotes (utcToCivil utcSeconds false) := by
  have century := year_of_first first
  obtain ⟨date, since, range, hour, minute, second, -⟩ := utcToCivil_spec utcSeconds
  obtain ⟨firstMonth, lastMonth, firstDay, lastDay⟩ := date
  have short := lastDay.trans (monthLength_le _ _)
  unfold encode
  generalize utcToCivil utcSeconds false = civil at *
  have few : civil.month ≤ 99 := by omega
  have month : (binaryToBcd (BitVec.ofNat 8 civil.month)).toNat ≤ 18 := by
    have value : (BitVec.ofNat 8 civil.month).toNat = civil.month := by
      rw [BitVec.toNat_ofNat, Nat.mod_eq_of_lt (by omega)]
    rw [toNat_binaryToBcd (by rw [value]; exact few), value]
    exact Bcd.pack_mono lastMonth
  have flagged := toNat_or_century month (2100 ≤ civil.year)
  refine ⟨?_, ?_, ?_, ?_, ?_, ?_, ?_⟩
  · exact spells_binaryToBcd (by omega) (lt_of_le_of_lt (Bcd.pack_mono second) (by decide))
  · exact spells_binaryToBcd (by omega) (lt_of_le_of_lt (Bcd.pack_mono minute) (by decide))
  · exact spells_binaryToBcd (by omega) (lt_of_le_of_lt (Bcd.pack_mono hour) (by decide))
  · exact spells_binaryToBcd (by omega) (lt_of_le_of_lt (Bcd.pack_mono short) (by decide))
  · have spells := spells_binaryToBcd few (lt_of_le_of_lt (Bcd.pack_mono lastMonth) (by decide) :
      Bcd.pack civil.month < 32)
    have unflagged : ∀ register, (register + 128) % 32 = register % 32 := fun register => by omega
    dsimp only
    rw [flagged]
    split
    · rw [unflagged]
      exact spells
    · rw [Nat.add_zero]
      exact spells
  · have spells := spells_binaryToBcd (by omega : civil.year % 100 ≤ 99)
      (lt_of_le_of_lt (Bcd.pack_mono (by omega : civil.year % 100 ≤ 99)) (by decide) :
        Bcd.pack (civil.year % 100) < 2 ^ 8)
    rwa [Nat.mod_eq_of_lt (BitVec.isLt _)] at spells
  · dsimp only
    rw [flagged]
    split <;> split <;> omega

/-- Written for a time, the registers are read back as it. -/
theorem Pcf8563Status.decode_encode {status : Pcf8563Status} {utcSeconds : BitVec 32}
    {control1 : BitVec 8} (first : pcf8563FirstUtc ≤ utcSeconds)
    (running : control1 &&& pcf8563Stop = 0)
    (written : status.registers = encode utcSeconds control1) :
    status.decode.calendarValid = true ∧ status.decode.timeValid = true ∧
      status.decode.utcSeconds = utcSeconds := by
  have denotes := denotes_encode first control1
  rw [← written] at denotes
  obtain ⟨digits, civil⟩ := (Registers.denotes_iff _ _).mp denotes
  have valid := status.decode_valid_iff.mpr ⟨digits, civil ▸ (counted_utcToCivil utcSeconds).1⟩
  obtain ⟨seconds, believed⟩ := Pcf8563Status.decode_valid valid
  have voltage : status.registers.voltageLow = false := by
    rw [written, voltageLow_encode]
  have stop : status.registers.stop = false := by
    rw [Registers.stop, written]
    change (control1 &&& pcf8563Stop != 0) = false
    rw [running]
    rfl
  refine ⟨valid, ?_, ?_⟩
  · rw [believed, voltage, stop]
    rfl
  · rw [seconds, civil, utcFromCivil_utcToCivil]

/-- Every time from the chip's first second on is read back from the registers written for it; and
whatever the registers hold, they are believed exactly when they denote a date and time that exists
and that 32 bits count, whose count is then the one read. -/
theorem registers_hold_time (status : Pcf8563Status) :
    (∀ utcSeconds control1, pcf8563FirstUtc ≤ utcSeconds → control1 &&& pcf8563Stop = 0 →
        let read := { status with registers := encode utcSeconds control1 }.decode
        read.calendarValid = true ∧ read.timeValid = true ∧ read.utcSeconds = utcSeconds) ∧
      (status.decode.calendarValid = true ↔
        ∃ civil, status.registers.Denotes civil ∧ civil.Counted) ∧
      (status.decode.calendarValid = true → ∀ civil, status.registers.Denotes civil →
        status.decode.utcSeconds.toNat = unixSeconds civil) := by
  refine ⟨?_, ?_, ?_⟩
  · intro utcSeconds control1 first running
    exact Pcf8563Status.decode_encode first running rfl
  · rw [status.decode_valid_iff]
    constructor
    · rintro ⟨digits, counted⟩
      exact ⟨_, (Registers.denotes_iff _ _).mpr ⟨digits, rfl⟩, counted⟩
    · rintro ⟨civil, denotes, counted⟩
      obtain ⟨digits, rfl⟩ := (Registers.denotes_iff _ _).mp denotes
      exact ⟨digits, counted⟩
  · intro valid civil denotes
    obtain ⟨digits, rfl⟩ := (Registers.denotes_iff _ _).mp denotes
    rw [(Pcf8563Status.decode_valid valid).1]
    exact toNat_utcFromCivil_counted (status.decode_valid_iff.mp valid).2

end GpsClock.Rtc
