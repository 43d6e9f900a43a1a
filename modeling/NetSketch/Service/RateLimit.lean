import NetSketch.Number.Quantity
import NetSketch.Text.Blank

/-!
# Rate limits

Every caller may do so much within a window of time that slides along. What is refused does not
count.

* `callerOf`: who calls;
* `RateLimiter`, `RateLimiter.allow`: a call admitted or refused.
-/

namespace NetSketch.Service

open Number

/-- Who calls: the name that a call gives, or a common one. -/
def callerOf (name : Option String) : String :=
  let name := Text.trim (name.getD "")
  if name.isEmpty then "anonymous" else name

/-- The times at which the calls of every caller were admitted, as far as they matter. -/
structure RateLimiter where
  limit : Quantity
  /-- The length of the window, in seconds. -/
  window : Quantity
  hits : List (String × List Quantity) := []

namespace RateLimiter

/-- The times of a caller set anew. -/
def setTimes (caller : String) (times : List Quantity) :
    List (String × List Quantity) → List (String × List Quantity)
  | [] => [(caller, times)]
  | (c, ts) :: rest =>
    if c = caller then (c, times) :: rest else (c, ts) :: setTimes caller times rest

variable (r : RateLimiter)

/-- The times of a caller. -/
def times (caller : String) : List Quantity := (r.hits.lookup caller).getD []

/-- Whether a time is no longer in the window. -/
def expired (now time : Quantity) : Bool := r.window.le (now.sub time)

/-- The times of a caller from the first one on that is still in the window. -/
def recent (caller : String) (now : Quantity) : List Quantity :=
  (r.times caller).dropWhile (r.expired now)

/-- **A call admitted or refused**, and the limiter behind it. -/
def allow (caller : String) (now : Quantity) : Bool × RateLimiter :=
  let recent := r.recent caller now
  let allowed := !r.limit.le (.whole recent.length)
  (allowed, { r with
    hits := setTimes caller (if allowed then recent ++ [now] else recent) r.hits })

/-- A limiter that has forgotten all calls. -/
def reset : RateLimiter := { r with hits := [] }

end RateLimiter

end NetSketch.Service
