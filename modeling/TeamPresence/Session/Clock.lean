import TeamPresence.Number.Binary64

/-!
# The clock

Times and delays are counted in seconds. A time is kept as a number of 64 bits, so it is rounded
whenever a delay is added: delays that add up to half a millisecond may come out below or above it.
What is due within a billionth of a second is due now.
-/

namespace TeamPresence.Clock

/-- The time after a delay. -/
def after (delay now : Rat) : Rat := Binary64.nearest (now + delay)

/-- Times that are closer than this are not told apart. -/
def resolution : Rat := Binary64.nearest (1 / 1000000000)

def hasCome (time now : Rat) : Bool := time ≤ now || time < after resolution now

/-- The time when another one has come. -/
def reach (time now : Rat) : Rat := if hasCome time now then now else time

def delayOfMilliseconds (ms : Rat) : Rat := Binary64.nearest (Binary64.nearest ms / 1000)

/-- A time in whole milliseconds, a half to the even one. -/
def milliseconds (time : Rat) : Nat :=
  let ms := Binary64.nearest (time * 1000)
  Binary64.roundRatio ms.num.natAbs ms.den

end TeamPresence.Clock
