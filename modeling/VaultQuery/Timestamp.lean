import VaultQuery.Date
import VaultQuery.Text.Blank
import VaultQuery.Text.Decimal

namespace VaultQuery

-- A moment in UTC. Second 60 is a leap second and stays one.
structure Timestamp where
  date : Date
  hour : Nat
  minute : Nat
  second : Nat
  nano : Nat
  hour_lt : hour < 24
  minute_lt : minute < 60
  second_le : second ≤ 60
  nano_lt : nano < 1000000000
deriving Repr, DecidableEq

namespace Timestamp

-- The moment on a local date at a local minute of the day, where local time is ahead of UTC by the
-- given number of minutes.
def ofLocal? (date : Date) (minutes : Nat) (second nano : Nat) (ahead : Int) : Option Timestamp :=
  let utc : Int := minutes - ahead
  let day := if utc < 0 then date.previous else if utc < 1440 then date else date.next
  let minutes := (utc % 1440).toNat
  if h : minutes / 60 < 24 ∧ second ≤ 60 ∧ nano < 1000000000 then
    if day.inRange then
      some ⟨day, minutes / 60, minutes % 60, second, nano, h.1, Nat.mod_lt _ (by decide),
        h.2.1, h.2.2⟩
    else none
  else none

open Text

def skipBlanks (cs : List Char) : List Char :=
  cs.dropWhile isBlank

-- Reads up to `most` digits behind any blanks.
def readField (most : Nat) (cs : List Char) : Option (Nat × List Char) :=
  readDigits most (skipBlanks cs)

-- Reads a separator behind any blanks.
def readMark (mark : Char) (cs : List Char) : Option (List Char) :=
  readChar mark (skipBlanks cs)

-- Without a sign a year has four digits at most.
def readYear (cs : List Char) : Option (Int × List Char) :=
  match skipBlanks cs with
  | '-' :: cs => (readNumber cs).map fun (year, rest) => (-(year : Int), rest)
  | '+' :: cs => (readNumber cs).map fun (year, rest) => ((year : Int), rest)
  | cs => (readDigits 4 cs).map fun (year, rest) => ((year : Int), rest)

def readDate (cs : List Char) : Option (Date × List Char) := do
  let (year, cs) ← readYear cs
  let (month, cs) ← readField 2 (← readMark '-' cs)
  let (day, cs) ← readField 2 (← readMark '-' cs)
  let date ← Date.of? year month day
  if date.inRange then some (date, cs) else none

-- A fraction of a second in nanoseconds. Digits behind the ninth are dropped.
def readFraction : List Char → Option (Nat × List Char)
  | '.' :: cs =>
    let digits := cs.takeWhile isDigit
    if digits.isEmpty then none
    else
      let kept := digits.take 9
      some (ofDigits kept * Nat.pow 10 (9 - kept.length), cs.drop digits.length)
  | cs => some (0, cs)

-- A two-digit number.
def readPair : List Char → Option (Nat × List Char)
  | tens :: units :: cs =>
    if isDigit tens && isDigit units then some (10 * digitValue tens + digitValue units, cs)
    else none
  | _ => none

-- The hours and minutes behind the sign of an offset.
def readOffsetMinutes (cs : List Char) : Option (Nat × List Char) := do
  let (hours, cs) ← readPair cs
  let (minutes, cs) ← readPair (cs.dropWhile fun c => c = ':' || isBlank c)
  if minutes < 60 ∧ hours < 24 then some (60 * hours + minutes, cs) else none

-- How many minutes local time is ahead of UTC.
def readOffset (cs : List Char) : Option (Int × List Char) :=
  if (cs.take 3).map Char.toUpper = ['U', 'T', 'C'] then some (0, cs.drop 3)
  else
    match cs with
    | 'Z' :: cs | 'z' :: cs => some (0, cs)
    | '+' :: cs => (readOffsetMinutes cs).map fun (minutes, rest) => ((minutes : Int), rest)
    | '-' :: cs | '−' :: cs =>
      (readOffsetMinutes cs).map fun (minutes, rest) => (-(minutes : Int), rest)
    | _ => none

def readSeparator : List Char → Option (List Char)
  | 'T' :: cs | 't' :: cs | ' ' :: cs => some cs
  | _ => none

-- Reads a date, a time of day and an offset from UTC.
def ofString? (text : String) : Option Timestamp := do
  let (date, cs) ← readDate text.toList
  let (hour, cs) ← readField 2 (← readSeparator cs)
  let (minute, cs) ← readField 2 (← readMark ':' cs)
  let (second, cs) ← readField 2 (← readMark ':' cs)
  let (nano, cs) ← readFraction cs
  let (ahead, cs) ← readOffset (skipBlanks cs)
  if hour < 24 ∧ minute < 60 ∧ skipBlanks cs = [] then
    ofLocal? date (60 * hour + minute) second nano ahead
  else none

-- Years of four digits are written plainly, all others with a sign.
def yearText (year : Int) : List Char :=
  if year < 0 then '-' :: paddedDigits 4 (-year).toNat
  else if year < 10000 then fixedDigits 4 year.toNat
  else '+' :: paddedDigits 4 year.toNat

-- The fewest of 0, 3, 6 or 9 digits that are exact.
def fractionText (nano : Nat) : List Char :=
  if nano = 0 then []
  else if nano % 1000000 = 0 then '.' :: fixedDigits 3 (nano / 1000000)
  else if nano % 1000 = 0 then '.' :: fixedDigits 6 (nano / 1000)
  else '.' :: fixedDigits 9 nano

-- Writes a moment in UTC.
def toText (time : Timestamp) : String :=
  String.ofList <|
    yearText time.date.year ++ '-' :: fixedDigits 2 time.date.month ++
      '-' :: fixedDigits 2 time.date.day ++ 'T' :: fixedDigits 2 time.hour ++
      ':' :: fixedDigits 2 time.minute ++ ':' :: fixedDigits 2 time.second ++
      fractionText time.nano ++ ['Z']

end Timestamp

end VaultQuery
