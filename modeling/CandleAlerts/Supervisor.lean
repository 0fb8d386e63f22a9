/-!
Keeping a task running.

A task that fails is started again after a wait, which doubles with every failure up to a bound. A
run that lasted longer than the bound sets the wait back. A run that ends well ends the supervision.
-/

namespace CandleAlerts

/-- One run of a task: how long it takes and whether it ends well. -/
structure TaskRun where
  duration : Nat
  succeeds : Bool

namespace Supervisor

/-! Time is counted in units of which so many make a second. -/

section Clock

variable (second : Nat)

/-- The first wait. -/
def shortestWait : Nat := second

/-- The longest wait. -/
def longestWait : Nat := 60 * second

/-- A run that lasts longer than this sets the wait back. -/
def stableAfter : Nat := 60 * second

/-- The wait after a failed run, `wait` being what it would be otherwise. -/
def waitAfter (wait : Nat) (run : TaskRun) : Nat :=
  if stableAfter second < run.duration then shortestWait second else wait

def nextWait (wait : Nat) : Nat := min (wait * 2) (longestWait second)

end Clock

/-- What supervision came to: when runs were started, how many of them failed, whether the last run
ended well, and when supervision ended. -/
structure Supervision where
  starts : List Nat := []
  failures : Nat := 0
  finished : Bool := false
  endedAt : Nat
deriving DecidableEq

/-- Supervise runs from `now` until `limit`; after the given runs comes one that ends well at once.
A run or wait that would go on beyond the limit is cut off there. -/
def superviseBy (second limit wait now : Nat) : List TaskRun → Supervision
  | [] => { starts := [now], finished := true, endedAt := now }
  | run :: rest =>
      if limit < now + run.duration then { starts := [now], endedAt := limit }
      else if run.succeeds then { starts := [now], finished := true, endedAt := now + run.duration }
      else
        let wait := waitAfter second wait run
        let restart := now + run.duration + wait
        if limit < restart then { starts := [now], failures := 1, endedAt := limit }
        else
          let later := superviseBy second limit (nextWait second wait) restart rest
          { later with starts := now :: later.starts, failures := later.failures + 1 }

/-! Here time is counted in milliseconds. -/

def firstWait : Nat := shortestWait 1000

def supervise (limit wait now : Nat) (runs : List TaskRun) : Supervision :=
  superviseBy 1000 limit wait now runs

end Supervisor

end CandleAlerts
