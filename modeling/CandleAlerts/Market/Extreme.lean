/-!
The larger and the smaller of two doubles.

A double that is not a number loses against one that is; of two equal doubles the first is taken.
-/

namespace CandleAlerts

def larger (first second : Float) : Float :=
  if first.isNaN then second else if first < second then second else first

def smaller (first second : Float) : Float :=
  if first.isNaN then second else if second < first then second else first

end CandleAlerts
