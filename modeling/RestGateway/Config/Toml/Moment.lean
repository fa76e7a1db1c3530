import RestGateway.Text.Ascii
import RestGateway.Text.Scan

/-!
# Dates and times in TOML

A date, a time of day, or both with or without an offset from universal time (RFC 3339). What is read
is given as text in one form: a `T` between date and time, a capital `Z`, no more than nine digits of
a second and no zeros behind them.
-/

set_option autoImplicit false

namespace RestGateway.Config.Toml

def digits (count low high : Nat) : Scan (List Char) := fun cs =>
  let ds := cs.take count
  let n := Ascii.ofDigits 0 ds
  if ds.length = count ∧ ds.all Ascii.isDigit ∧ low ≤ n ∧ n ≤ high then some (ds, cs.drop count)
  else none

def isLeap (year : Nat) : Bool := year % 4 == 0 && (year % 100 != 0 || year % 400 == 0)

def daysIn (year month : Nat) : Nat :=
  if month = 2 then if isLeap year then 29 else 28
  else if [4, 6, 9, 11].contains month then 30 else 31

def date : Scan (List Char) := do
  let year ← digits 4 0 9999
  Scan.expect ['-']
  let month ← digits 2 1 12
  Scan.expect ['-']
  let day ← digits 2 1 (daysIn (Ascii.ofDigits 0 year) (Ascii.ofDigits 0 month))
  pure (year ++ '-' :: month ++ '-' :: day)

def fraction : Scan (List Char) := do
  if ← Scan.takes ['.'] then
    let ds ← Scan.run Ascii.isDigit
    if ds.isEmpty then Scan.refuse
    else
      let kept := ((ds.take 9).reverse.dropWhile (· == '0')).reverse
      pure (if kept.isEmpty then [] else '.' :: kept)
  else pure []

/-- A time of day. The second 60 is for leap seconds. -/
def time : Scan (List Char) := do
  let hour ← digits 2 0 23
  Scan.expect [':']
  let minute ← digits 2 0 59
  Scan.expect [':']
  let second ← digits 2 0 60
  pure (hour ++ ':' :: minute ++ ':' :: second ++ (← fraction))

def distance (sign : Char) : Scan (List Char) := do
  let hour ← digits 2 0 23
  Scan.expect [':']
  let minute ← digits 2 0 59
  let isZero := (hour ++ minute).all (· == '0')
  pure ((if isZero then '+' else sign) :: hour ++ ':' :: minute)

def offset : Scan (List Char) := do
  if ← Scan.takes ['Z'] then pure ['Z']
  else if ← Scan.takes ['z'] then pure ['Z']
  else if ← Scan.takes ['+'] then distance '+'
  else if ← Scan.takes ['-'] then distance '-'
  else pure []

def begins (count : Nat) (mark : Char) (cs : List Char) : Bool :=
  (cs.take count).all Ascii.isDigit && cs[count]? == some mark

/-- A date, and the time behind it. A blank may stand before a time, and also before a comment. -/
def dated : Scan (List Char) := do
  let day ← date
  fun
    | c :: rest =>
      if ['T', 't', ' '].contains c && begins 2 ':' rest then
        (do pure (day ++ 'T' :: (← time) ++ (← offset)) : Scan (List Char)) rest
      else some (day, c :: rest)
    | [] => some (day, [])

def moment? : Scan (Option (List Char)) := fun cs =>
  if begins 4 '-' cs then (some <$> dated) cs
  else if begins 2 ':' cs then (some <$> time) cs
  else some (none, cs)

end RestGateway.Config.Toml
