import Explainer.Text.Number

/-!
# Durations

Durations are whole milliseconds. Below a second they are written in milliseconds, from a second
on in seconds with as many decimals as are needed.
-/

namespace Explainer

/-- The last three decimals of a number of seconds, without zeros at the end. -/
def milliDecimals (ms : Nat) : Text :=
  let digits := natText ms
  let padded := List.replicate (3 - digits.length) '0' ++ digits
  (padded.reverse.dropWhile (· = '0')).reverse

/-- A duration for a reader. -/
def durationText (ms : Nat) : Text :=
  if ms = 0 then "0ns".toList
  else if ms < 1000 then natText ms ++ "ms".toList
  else
    let decimals := milliDecimals (ms % 1000)
    natText (ms / 1000) ++ (if decimals.isEmpty then [] else '.' :: decimals) ++ ['s']

end Explainer
