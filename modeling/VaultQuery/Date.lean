namespace VaultQuery

namespace Date

def isLeapYear (year : Int) : Bool :=
  year % 4 == 0 && (year % 100 != 0 || year % 400 == 0)

def daysInMonth (year : Int) (month : Nat) : Nat :=
  if month = 2 then (if isLeapYear year then 29 else 28)
  else if month = 4 ∨ month = 6 ∨ month = 9 ∨ month = 11 then 30
  else 31

theorem daysInMonth_pos (year : Int) (month : Nat) : 1 ≤ daysInMonth year month := by
  unfold daysInMonth
  split
  · split <;> decide
  · split <;> decide

end Date

-- A day of the Gregorian calendar, extended to all years.
structure Date where
  year : Int
  month : Nat
  day : Nat
  month_mem : 1 ≤ month ∧ month ≤ 12
  day_mem : 1 ≤ day ∧ day ≤ Date.daysInMonth year month
deriving Repr, DecidableEq

namespace Date

def of? (year : Int) (month day : Nat) : Option Date :=
  if hm : 1 ≤ month ∧ month ≤ 12 then
    if hd : 1 ≤ day ∧ day ≤ daysInMonth year month then some ⟨year, month, day, hm, hd⟩
    else none
  else none

def next (date : Date) : Date :=
  if hd : date.day < daysInMonth date.year date.month then
    ⟨date.year, date.month, date.day + 1, date.month_mem, by omega⟩
  else if hm : date.month < 12 then
    ⟨date.year, date.month + 1, 1, by have := date.month_mem; omega,
      ⟨Nat.le_refl 1, daysInMonth_pos _ _⟩⟩
  else
    ⟨date.year + 1, 1, 1, by decide, ⟨Nat.le_refl 1, daysInMonth_pos _ _⟩⟩

def previous (date : Date) : Date :=
  if hd : 1 < date.day then
    ⟨date.year, date.month, date.day - 1, date.month_mem, by have := date.day_mem; omega⟩
  else if hm : 1 < date.month then
    ⟨date.year, date.month - 1, daysInMonth date.year (date.month - 1),
      by have := date.month_mem; omega, ⟨daysInMonth_pos _ _, Nat.le_refl _⟩⟩
  else
    ⟨date.year - 1, 12, 31, by decide, by simp [daysInMonth]⟩

-- The years that are kept.
def firstYear : Int := -262143

def lastYear : Int := 262142

def inRange (date : Date) : Bool :=
  firstYear ≤ date.year && date.year ≤ lastYear

end Date

end VaultQuery
