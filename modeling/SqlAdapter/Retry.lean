/-
Trying again with growing delays.

The first delay is the initial one as it is; every later one is the initial
delay times a power of the multiplier, computed in double precision and held
below the greatest delay. `RetryPolicy.run` tries until an attempt succeeds or no
retries are left, and answers with all that could be seen of it: the result, and
the attempts, log entries and delays in the order in which they came.
-/
import SqlAdapter.Event
import SqlAdapter.Json.Document

namespace SqlAdapter

structure RetryPolicy where
  /-- How many attempts may follow the first one. -/
  maxRetries : UInt32
  /-- The first delay in milliseconds. -/
  initialDelay : UInt64
  /-- The greatest later delay in milliseconds. -/
  maxDelay : UInt64
  multiplier : Binary64
  deriving DecidableEq

namespace RetryPolicy

/-- Three retries after a tenth of a second, then twice and four times as much. -/
def standard : RetryPolicy := ⟨3, 100, 5000, Binary.ofNat 2⟩

/-- A single attempt. -/
def once : RetryPolicy := ⟨0, 0, 0, Binary.ofNat 1⟩

/-- The powers that are computed have exponents below this one. -/
def maxExponent : Nat := 2 ^ 31 - 1

/-- The delay after an attempt, counted from zero, in milliseconds. -/
def delay (p : RetryPolicy) (attempt : Nat) : Nat :=
  if attempt = 0 then p.initialDelay.toNat
  else
    let factor := p.multiplier.pow (min attempt maxExponent)
    let scaled := (Binary.mul (Binary.ofNat p.initialDelay.toNat) factor).least (Binary.ofNat p.maxDelay.toNat)
    (scaled.greatest (Binary.zero false)).toNatWithin (2 ^ 64 - 1)

/-- A thing that a run does. -/
inductive Step where
  /-- An attempt, by its number. -/
  | attempted (number : Nat)
  | logged (event : Event)
  /-- A delay, in milliseconds. -/
  | slept (delay : Nat)

namespace Step

/-- The number of an attempt. -/
def attempt? : Step → Option Nat
  | .attempted number => some number
  | .logged _ | .slept _ => none

/-- The entry of a step that logs. -/
def event? : Step → Option Event
  | .logged event => some event
  | .attempted _ | .slept _ => none

/-- The length of a delay. -/
def delay? : Step → Option Nat
  | .slept delay => some delay
  | .attempted _ | .logged _ => none

end Step

/-- All that can be seen of a run: what came of it, and what it did in order. -/
structure Run (ε α : Type) where
  result : Except ε α
  steps : List Step

variable {ε α : Type}

namespace Run

/-- The run with something done before it. -/
def behind (steps : List Step) (run : Run ε α) : Run ε α := { run with steps := steps ++ run.steps }

/-- How many attempts were made. -/
def calls (run : Run ε α) : Nat := (run.steps.filterMap Step.attempt?).length

/-- The delays slept through, in milliseconds. -/
def delays (run : Run ε α) : List Nat := run.steps.filterMap Step.delay?

/-- What was logged. -/
def log (run : Run ε α) : List Event := run.steps.filterMap Step.event?

end Run

/-- What is logged when an attempt succeeds. -/
def succeeded (tries : Nat) : List Event :=
  if tries = 0 then []
  else [⟨.info, "Connection established after retry", [("attempt", .ofNat tries)]⟩]

/-- What is logged when another attempt will follow. -/
def failed (p : RetryPolicy) (tries : Nat) (error : String) : Event :=
  ⟨.warn, "Connection failed, retrying after delay",
    [("attempt", .ofNat tries), ("max_retries", .ofNat p.maxRetries.toNat),
      ("delay_ms", .ofNat (p.delay tries)), ("error", .string error)]⟩

/-- What an attempt does that another will follow. -/
def retried (p : RetryPolicy) (tries : Nat) (error : String) : List Step :=
  [.attempted tries, .logged (p.failed tries error), .slept (p.delay tries)]

/-- The run from an attempt on, with some retries left after it. -/
def runFrom (p : RetryPolicy) (describe : ε → String) (attempt : Nat → Except ε α) (tries left : Nat) : Run ε α :=
  match attempt tries, left with
  | .ok value, _ => ⟨.ok value, .attempted tries :: (succeeded tries).map .logged⟩
  | .error e, 0 => ⟨.error e, [.attempted tries]⟩
  | .error e, left + 1 => (runFrom p describe attempt (tries + 1) left).behind (p.retried tries (describe e))

/-- Tries until an attempt succeeds or no retries are left. Attempts are counted from zero. -/
def run (p : RetryPolicy) (describe : ε → String) (attempt : Nat → Except ε α) : Run ε α :=
  p.runFrom describe attempt 0 p.maxRetries.toNat

/-! ## Documents -/

def keys : List String := ["max_retries", "initial_delay_ms", "max_delay_ms", "backoff_multiplier"]

def toJson (p : RetryPolicy) : Json :=
  .object [("max_retries", .ofNat p.maxRetries.toNat), ("initial_delay_ms", .ofNat p.initialDelay.toNat),
    ("max_delay_ms", .ofNat p.maxDelay.toNat), ("backoff_multiplier", .ofBinary64 p.multiplier)]

def ofJson? (document : Json) : Option RetryPolicy := do
  let fields ← document.settings? keys
  let maxRetries ← Json.setting fields "max_retries" standard.maxRetries Json.uint32?
  let initialDelay ← Json.setting fields "initial_delay_ms" standard.initialDelay Json.uint64?
  let maxDelay ← Json.setting fields "max_delay_ms" standard.maxDelay Json.uint64?
  let multiplier ← Json.setting fields "backoff_multiplier" standard.multiplier Json.binary64?
  return ⟨maxRetries, initialDelay, maxDelay, multiplier⟩

end RetryPolicy

end SqlAdapter
