import ServiceDiscovery.Duration
import ServiceDiscovery.Text.Ascii

namespace ServiceDiscovery.Interval

open Text

-- Whole seconds as seconds, all else as milliseconds rounded down, but never as none.
def text (d : Duration) : String :=
  if d.subsecNanos = 0 then toString d.secs ++ "s"
  else toString (max d.millis 1) ++ "ms"

def denote? (text : String) : Option Nat :=
  let digits := text.toList.takeWhile isAsciiDigit
  if digits = [] then none
  else
    match text.toList.dropWhile isAsciiDigit with
    | ['s'] => some (numeral 10 digits * 10 ^ 9)
    | ['m', 's'] => some (numeral 10 digits * 10 ^ 6)
    | _ => none

end ServiceDiscovery.Interval
