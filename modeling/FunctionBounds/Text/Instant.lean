import Std.Time.DateTime.PlainDateTime
import Std.Time.DateTime.Timestamp
import FunctionBounds.Text.Number

/-!
# Points in time

* `Text.instant`: a point in time as a text with date, time and a zero offset.
-/

namespace FunctionBounds.Text

open Std.Time

/-- Decimal digits with zeros in front of them up to `width`. -/
def decimalField (width : Nat) (n : Int) : String := zeroPadded width (toString n.natAbs)

/-- A point in time: the date, the time to the second, the microseconds unless they are zero, and
the offset from universal time. -/
def instant (t : Timestamp) : String :=
  let nanos := t.toNanosecondsSinceUnixEpoch
  let micros := nanos.val / 1000 % 1000000
  let t := PlainDateTime.ofWallTime (.ofNanoseconds nanos)
  s!"{decimalField 4 t.year.toInt}-{decimalField 2 t.month.val}-{decimalField 2 t.day.val}T" ++
    s!"{decimalField 2 t.hour.val}:{decimalField 2 t.minute.val}:{decimalField 2 t.second.val}" ++
    (if micros = 0 then "" else "." ++ decimalField 6 micros) ++ "+00:00"

end FunctionBounds.Text
