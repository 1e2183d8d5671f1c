/-!
# Durations

Durations are whole milliseconds. They are written in the largest of seconds and milliseconds
that they reach, with the thousandths that matter and no trailing zero.
-/

namespace Coordination.Text

/-- The three digits of a number of thousandths, without the zeros at the end. -/
def thousandths (n : Nat) : List Char :=
  let digits := [n / 100 % 10, n / 10 % 10, n % 10].map Nat.digitChar
  (digits.reverse.dropWhile (· == '0')).reverse

/-- The duration of `millis` milliseconds: `0ns`, `15ms`, `1s`, `1.5s`. -/
def duration (millis : Nat) : String :=
  if millis = 0 then "0ns"
  else if millis < 1000 then s!"{millis}ms"
  else if millis % 1000 = 0 then s!"{millis / 1000}s"
  else s!"{millis / 1000}.{String.ofList (thousandths (millis % 1000))}s"

example : duration 1234567 = "1234.567s" := by decide +kernel
example : duration 1500 = "1.5s" := by decide +kernel

end Coordination.Text
