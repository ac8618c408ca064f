import FormIntake.Assoc
/-!
# Rate limiting

A limiter gives every key `points` calls in a window of the given duration. The
window opens with the key's first call and is replaced once it has elapsed. Now
and then elapsed windows are swept away. Times may be of any kind that can be
subtracted and compared.
-/

namespace FormIntake

/-- The open window of a key, and how many calls it has taken. -/
structure Window (τ : Type) where
  start : τ
  count : Nat
  deriving DecidableEq

structure RateLimiter (κ τ : Type) where
  points : τ
  duration : τ
  windows : Assoc κ (Window τ)
  lastSweep : τ

namespace RateLimiter

variable {κ τ : Type} [DecidableEq κ] [Sub τ] [LE τ] [DecidableLE τ] [NatCast τ]

def start (points duration now : τ) : RateLimiter κ τ :=
  ⟨points, duration, [], now⟩

def elapsed (l : RateLimiter κ τ) (since now : τ) : Bool :=
  decide (l.duration ≤ now - since)

def sweep (l : RateLimiter κ τ) (now : τ) : RateLimiter κ τ :=
  if l.elapsed l.lastSweep now then
    { l with
      windows := l.windows.filter fun (_, w) => !l.elapsed w.start now
      lastSweep := now }
  else l

/-- The window in which a call at the given time falls, this call not counted. -/
def windowAt (l : RateLimiter κ τ) (key : κ) (now : τ) : Window τ :=
  match Assoc.get? l.windows key with
  | some w => if l.elapsed w.start now then ⟨now, 0⟩ else w
  | none => ⟨now, 0⟩

/-- One call of a key: nothing if it is allowed, otherwise the time until the window is over. -/
def consume (l : RateLimiter κ τ) (now : τ) (key : κ) : Option τ × RateLimiter κ τ :=
  let w := l.windowAt key now
  let l := l.sweep now
  if l.points ≤ (w.count : τ) then (some (l.duration - (now - w.start)), l)
  else (none, { l with windows := Assoc.put l.windows key ⟨w.start, w.count + 1⟩ })

end RateLimiter

end FormIntake
