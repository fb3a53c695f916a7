import QueryTemplate.Toml.Number

/-! # Dates and times

A TOML moment is a date, a time of day, or both with an optional offset from universal time. Only
days of the calendar and times of the clock can be written.

* `date`, `timeOfDay`, `offset`: the parts.
* `moment`: a moment of any form.
-/

namespace QueryTemplate.Toml

open Reader

def twoDigits (least most : Nat) : Reader Nat := do
  let value := valueOf 10 (← repeated Char.isDigit 2)
  if least ≤ value ∧ value ≤ most then return value else failure

def daysIn (year month : Nat) : Nat :=
  if month = 2 then
    if year % 4 = 0 ∧ (year % 100 ≠ 0 ∨ year % 400 = 0) then 29 else 28
  else if month ∈ [4, 6, 9, 11] then 30
  else 31

def date : Reader Unit := do
  let year := valueOf 10 (← repeated Char.isDigit 4)
  char '-'
  let month ← twoDigits 1 12
  char '-'
  let day ← twoDigits 1 31
  if day ≤ daysIn year month then return () else failure

/-- A time of the clock, to the second or to a fraction of it. A minute may have a leap second. -/
def timeOfDay : Reader Unit := do
  let _ ← twoDigits 0 23
  char ':'
  let _ ← twoDigits 0 59
  char ':'
  let _ ← twoDigits 0 60
  let _ ← optional do
    char '.'
    run₁ Char.isDigit

def offset : Reader Unit :=
  (do let _ ← satisfy fun c => c == 'Z' || c == 'z') <|> do
    let _ ← satisfy fun c => c == '+' || c == '-'
    let _ ← twoDigits 0 23
    char ':'
    let _ ← twoDigits 0 59

def moment : Reader Unit :=
  (do
    date
    let _ ← optional do
      let _ ← satisfy fun c => c == 'T' || c == 't' || c == ' '
      timeOfDay
      optional offset) <|>
    timeOfDay

end QueryTemplate.Toml
