import GpsClock.Lib.Decimal
import GpsClock.Platform.Civil

/-! # Console arguments

`parse.cpp`: a moment in ISO 8601, loosely, or in Unix seconds. A function of the source that moves a
text along gives what it read and the text left; a text is the characters before its end.
-/

namespace GpsClock.Console

open GpsClock.Platform

/-- `isspace`. -/
def isSpace (char : Char) : Bool :=
  char = ' ' || decide ('\t'.toNat ≤ char.toNat ∧ char.toNat ≤ '\r'.toNat)

/-- `has_text`. -/
def hasText (text : List Char) : Bool :=
  match text with
  | [] => false
  | char :: _ => !isSpace char

/-- `parse_u32`: `strtoull` takes a plus. -/
def parseU32 (text : List Char) (minimum maximum : Nat) : Option (BitVec 32) :=
  if !hasText text || text.head? = some '-' then none
  else
    let number := if text.head? = some '+' then text.tail else text
    if number.isEmpty || !number.all Char.isDigit then none
    else
      let parsed := Decimal.read number
      if parsed < minimum ∨ maximum < parsed then none else some (BitVec.ofNat 32 parsed)

/-- A digit's value. -/
def digitValue (char : Char) : Nat :=
  char.toNat - '0'.toNat

/-- `digits`' loop. -/
def digitsLoop : (left parsed : Nat) → List Char → Option (Nat × List Char)
  | _, parsed, [] => some (parsed, [])
  | left, parsed, char :: text =>
      if char.isDigit then
        match left with
        | 0 => none
        | left + 1 => digitsLoop left (parsed * 10 + digitValue char) text
      else some (parsed, char :: text)

/-- `digits`. -/
def digits (text : List Char) (maxDigits : Nat) : Option (Nat × List Char) :=
  match digitsLoop maxDigits 0 text with
  | none => none
  | some (parsed, rest) => if rest.length = text.length then none else some (parsed, rest)

/-- `clock_fields`, what follows a colon: exactly two digits, below 60. -/
def clockField (text : List Char) : Option (Nat × List Char) :=
  match digits text 2 with
  | none => none
  | some (value, rest) =>
      if text.length - rest.length ≠ 2 ∨ 59 < value then none else some (value, rest)

/-- The text past a character, if that is what it starts with. -/
def past (mark : Char) (text : List Char) : Option (List Char) :=
  match text with
  | [] => none
  | char :: text => if char = mark then some text else none

/-- `clock_fields`. -/
def clockFields (text : List Char) : Option (Nat × List Char) :=
  match digits text 2 with
  | none => none
  | some (hours, text) =>
      match past ':' text with
      | none => some (hours * 3600, text)
      | some text =>
          match clockField text with
          | none => none
          | some (minutes, text) =>
              match past ':' text with
              | none => some (hours * 3600 + minutes * 60, text)
              | some text =>
                  match clockField text with
                  | none => none
                  | some (secs, text) => some (hours * 3600 + minutes * 60 + secs, text)

/-- `days_from_civil`. -/
def daysFromCivil (year : Int) (month day : Nat) : Int :=
  let year := year - if month ≤ 2 then 1 else 0
  let era := (if 0 ≤ year then year else year - 399).tdiv 400
  let yearOfEra := (year - era * 400).toNat
  let dayOfYear := (153 * (if 2 < month then month - 3 else month + 9) + 2) / 5 + day - 1
  let dayOfEra := yearOfEra * 365 + yearOfEra / 4 - yearOfEra / 100 + dayOfYear
  era * 146097 + (dayOfEra : Int) - 719468

/-- `days_in_month`. -/
def daysInMonth (year month : Nat) : Nat :=
  let leap := (year % 4 = 0 ∧ year % 100 ≠ 0) ∨ year % 400 = 0
  if month = 2 ∧ leap then 29
  else [31, 28, 31, 30, 31, 30, 31, 31, 30, 31, 30, 31].getD (month - 1) 0

/-- `fixed_digits`' loop. -/
def fixedDigitsLoop : (count parsed : Nat) → List Char → Option (Nat × List Char)
  | 0, parsed, text => some (parsed, text)
  | _ + 1, _, [] => none
  | count + 1, parsed, char :: text =>
      if char.isDigit then fixedDigitsLoop count (parsed * 10 + digitValue char) text else none

/-- `fixed_digits`. -/
def fixedDigits (text : List Char) (count : Nat) : Option (Nat × List Char) :=
  fixedDigitsLoop count 0 text

/-- `skip_spaces`. -/
def skipSpaces (text : List Char) : List Char :=
  text.dropWhile (· = ' ')

/-- `strspn` of the digits. -/
def digitRun (text : List Char) : Nat :=
  (text.takeWhile Char.isDigit).length

/-- `moment_clock`, the basic form. -/
def basicClock (text : List Char) (run : Nat) : Option (Nat × List Char) :=
  match fixedDigits text 2 with
  | none => none
  | some (hours, text) =>
      match fixedDigits text 2 with
      | none => none
      | some (minutes, text) =>
          match if run = 6 then fixedDigits text 2 else some (0, text) with
          | none => none
          | some (secs, text) =>
              if 23 < hours ∨ 59 < minutes ∨ 59 < secs then none
              else some (hours * 3600 + minutes * 60 + secs, text)

/-- `moment_clock`, any fraction of a second. -/
def skipFraction (text : List Char) : List Char :=
  match text with
  | mark :: digit :: text =>
      if (mark = '.' ∨ mark = ',') ∧ digit.isDigit then text.dropWhile Char.isDigit
      else mark :: digit :: text
  | text => text

/-- `moment_clock`, the extended form. -/
def extendedClock (text : List Char) : Option (Nat × List Char) :=
  match clockFields text with
  | none => none
  | some (seconds, text) => if 86400 ≤ seconds then none else some (seconds, text)

/-- `moment_clock`, the time: basic, or else extended. -/
def extendedOrBasic (text : List Char) : Option (Nat × List Char) :=
  let run := digitRun text
  if (run = 4 ∨ run = 6) ∧ text[run]? ≠ some ':' then basicClock text run else extendedClock text

/-- `moment_clock`. -/
def momentClock (text : List Char) : Option (Nat × List Char) :=
  match extendedOrBasic text with
  | none => none
  | some (seconds, text) => some (seconds, skipFraction text)

/-- `moment_zone`, after the sign: the hours and the minutes. -/
def zoneFields (text : List Char) : Option ((Nat × Nat) × List Char) :=
  let run := digitRun text
  if run = 4 then
    match fixedDigits text 2 with
    | none => none
    | some (hours, text) =>
        match fixedDigits text 2 with
        | none => none
        | some (minutes, text) => some ((hours, minutes), text)
  else if run = 1 ∨ run = 2 then
    match fixedDigits text run with
    | none => none
    | some (hours, text) =>
        match past ':' text with
        | none => some ((hours, 0), text)
        | some text =>
            match fixedDigits text 2 with
            | none => none
            | some (minutes, text) => some ((hours, minutes), text)
  else none

/-- `moment_zone`. -/
def momentZone (text : List Char) : Option (Int × List Char) :=
  match text with
  | [] => none
  | sign :: text =>
      if sign = 'Z' ∨ sign = 'z' then some (0, text)
      else
        match zoneFields text with
        | none => none
        | some ((hours, minutes), text) =>
            if 23 < hours ∨ 59 < minutes then none
            else some (((hours * 3600 + minutes * 60 : Nat) : Int) * (if sign = '-' then -1 else 1), text)

/-- `parse_moment`, the month and the day: extended or basic. -/
def monthAndDay (text : List Char) : Option ((Nat × Nat) × List Char) :=
  match past '-' text with
  | some text =>
      match fixedDigits text 2 with
      | none => none
      | some (month, text) =>
          match past '-' text with
          | none => none
          | some text =>
              match fixedDigits text 2 with
              | none => none
              | some (day, text) => some ((month, day), text)
  | none =>
      match fixedDigits text 2 with
      | none => none
      | some (month, text) =>
          match fixedDigits text 2 with
          | none => none
          | some (day, text) => some ((month, day), text)

/-- `parse_moment`, the date, as its days. -/
def momentDate (text : List Char) : Option (Int × List Char) :=
  match fixedDigits text 4 with
  | none => none
  | some (year, text) =>
      match monthAndDay text with
      | none => none
      | some ((month, day), text) =>
          if month < 1 ∨ 12 < month ∨ day < 1 ∨ daysInMonth year month < day then none
          else some (daysFromCivil year month day, text)

/-- `parse_moment`, the time. -/
def momentTime (text : List Char) : Option (Nat × List Char) :=
  match text with
  | [] => some (0, [])
  | mark :: rest =>
      if mark = 'T' ∨ mark = 't' ∨ mark = ' ' then momentClock (skipSpaces rest)
      else some (0, text)

/-- `parse_moment`, the zone, if there is one. -/
def momentOffset (text : List Char) : Option (Option Int × List Char) :=
  match text with
  | [] => some (none, [])
  | sign :: _ =>
      if sign = 'Z' ∨ sign = 'z' ∨ sign = '+' ∨ sign = '-' then
        match momentZone text with
        | none => none
        | some (offset, text) => some (some offset, text)
      else some (none, text)

/-- `parse_moment`: the seconds, and whether they are local. -/
def parseMoment (text : List Char) : Option (BitVec 32 × Bool) :=
  if !hasText text then none
  else if text.all Char.isDigit then
    match parseU32 text 0 (2 ^ 32 - 1) with
    | none => none
    | some utcSeconds => some (utcSeconds, false)
  else
    match momentDate text with
    | none => none
    | some (days, text) =>
        match momentTime text with
        | none => none
        | some (clock, text) =>
            match momentOffset (skipSpaces text) with
            | none => none
            | some (_, _ :: _) => none
            | some (zone, []) =>
                let seconds := days * 86400 + (clock : Int) - zone.getD 0
                if seconds < 0 ∨ 2 ^ 32 - 1 < seconds then none
                else some (BitVec.ofInt 32 seconds, zone.isNone)

end GpsClock.Console
