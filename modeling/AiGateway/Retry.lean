import AiGateway.Errors
import AiGateway.Foundations.Double
import AiGateway.Foundations.Traced
import AiGateway.LoadBalancer.Shared

/-!
# Retries with exponential backoff

`retry` calls a function with the number of the attempt, until it returns, fails
with an error that is not retryable, or fails in the last attempt. In between it
waits for a random part of a cap that doubles from one attempt to the next. Delays
are doubles, so the power of two is infinite from `2 ** 1024` on.
-/

namespace AiGateway
namespace Retry

open Foundations

section Failures

/-- `RETRYABLE_STATUS_CODES`. -/
def retryableStatusCodes : List ℚ := [429, 500, 502, 503, 504]

/-- `isRetryableStatusCode(status)`. -/
def isRetryableStatusCode (status : ℚ) : Bool :=
  retryableStatusCodes.contains status

/-- A field of something that was thrown. -/
inductive StatusField
  /-- `undefined` or `null`. -/
  | nullish
  /-- A finite number. -/
  | number (value : ℚ)
  | other
  deriving DecidableEq, Repr

/-- `left ?? right`. -/
def StatusField.orElse : StatusField → StatusField → StatusField
  | nullish, right => right
  | left, _ => left

/-- What `fn` can throw and a signal can give as its reason. -/
inductive Failure
  | gateway (error : GatewayError)
  /-- Any other `Error`, with its fields `statusCode` and `status`. -/
  | error (name message : String) (statusCode status : StatusField)
  /-- An object that is no `Error`. -/
  | object (statusCode status : StatusField)
  | primitive (text : String)
  deriving DecidableEq, Repr

/-- `isAbortError(error)`; no gateway error has that name. -/
def isAbortError : Failure → Bool
  | .error name _ _ _ => name == "AbortError"
  | _ => false

/-- `abortError(signal)`, given the reason of the signal. -/
def abortError : Failure → Failure
  | .gateway error => .gateway error
  | .error name message statusCode status => .error name message statusCode status
  | _ => .error "AbortError" "The operation was aborted." .nullish .nullish

/-- The number in a field, if there is one. -/
def StatusField.finiteNumber : StatusField → Option ℚ
  | number value => some value
  | _ => none

/-- `extractStatus(error)`. -/
def extractStatus : Failure → Option ℚ
  | .gateway error => some error.statusCode
  | .error _ _ statusCode status => (statusCode.orElse status).finiteNumber
  | .object statusCode status => (statusCode.orElse status).finiteNumber
  | .primitive _ => none

/-- `defaultIsRetryable(error)`. -/
def defaultIsRetryable (error : Failure) : Bool :=
  if isAbortError error then false
  else
    match error with
    | .gateway error => error.retryable
    | error => ((extractStatus error).map isRetryableStatusCode).getD true

/-- `RetryError`. -/
structure RetryError where
  attempts : Nat
  lastError : Option Failure
  deriving DecidableEq, Repr

def RetryError.message (error : RetryError) : String :=
  s!"Operation failed after {error.attempts} attempt(s)."

/-- What `retry` throws. -/
inductive Rejection
  | failure (error : Failure)
  | retryError (error : RetryError)
  deriving DecidableEq, Repr

end Failures

section Delays

/-- A value of the jitter source: a double in `[0, 1)`. -/
abbrev JitterFraction := { fraction : Double // fraction.value < 1 }

/-- A number of double precision below one as a value of the jitter source. -/
def JitterFraction.ofPrecise
    (fraction : ℚ)
    (precise : HasDoublePrecision fraction)
    (belowOne : fraction < 1) : JitterFraction :=
  have finite : fraction < 2 ^ 1024 :=
    belowOne.trans (one_lt_pow₀ one_lt_two (by norm_num))
  ⟨{ value := fraction, precise, finite }, belowOne⟩

/-- The largest double below one. -/
def largestFraction : JitterFraction :=
  .ofPrecise ((2 ^ 53 - 1 : Nat) * 2 ^ (-53 : Int))
    ⟨2 ^ 53 - 1, -53, by decide, by decide, rfl⟩ (by norm_num)

/-- `exponentialCap`: `Math.min(maxDelayMs, baseDelayMs * 2 ** (attempt - 1))`. -/
def exponentialCap (baseDelayMs maxDelayMs : Double) (attempt : Nat) : Number :=
  (Number.finite maxDelayMs.value).min
    ((Number.finite baseDelayMs.value).times (.powerOfTwo (attempt - 1)))

/-- `delayMs`: `Math.floor(jitterFraction() * exponentialCap)`. -/
def jitteredDelay
    (baseDelayMs maxDelayMs : Double)
    (fraction : JitterFraction)
    (attempt : Nat) : Number :=
  ((Number.finite fraction.1.value).times
    (exponentialCap baseDelayMs maxDelayMs attempt)).floor

/-- `cryptoJitterFraction()`, with the draw of the platform. -/
def cryptoJitterFraction (draw : Nat) : JitterFraction :=
  let quotient : ℚ := LoadBalancer.secureRandomInt draw 1000000 / 1000000
  have nonnegative : 0 ≤ quotient := by positivity
  .ofPrecise (nearest quotient) (Format.isPrecise_round nonnegative) (by
    have bucket : LoadBalancer.secureRandomInt draw 1000000 ≤ 999999 :=
      Nat.le_of_lt_succ (Nat.mod_lt draw (by norm_num))
    have largest : quotient ≤ 999999 / 1000000 := by
      apply div_le_div_of_nonneg_right _ (by norm_num)
      exact_mod_cast bucket
    have below : quotient ≤ largestFraction.1.value :=
      largest.trans (by norm_num [largestFraction, JitterFraction.ofPrecise])
    exact (nearest_le largestFraction.1.precise nonnegative below).trans_lt
      largestFraction.2)

end Delays

section Model

/-- When `retry` looks whether its signal is aborted. -/
inductive Moment
  | beforeAttempt (attempt : Nat)
  | beforeDelay (attempt : Nat)
  | duringDelay (attempt : Nat)
  deriving DecidableEq, Repr

/-- An `AbortSignal`: its reason at each moment at which it is aborted. -/
abbrev Signal := Moment → Option Failure

/-- `RetryOptions`; every call of the jitter source is given the attempt it is
made in. The hook `onRetry` is in the effects. -/
structure RetryOptions where
  maxAttempts : Option Nat := none
  baseDelayMs : Option Double := none
  maxDelayMs : Option Double := none
  signal : Option Signal := none
  isRetryable : Option (Failure → Bool) := none
  jitterFraction : Option (Nat → JitterFraction) := none

/-- The retry policy of the configuration, and the draws of the platform. -/
structure Defaults where
  retryMaxAttempts : Nat := 3
  retryBaseDelayMs : Double := .ofNat 200 (by norm_num)
  retryMaxDelayMs : Double := .ofNat 5000 (by norm_num)
  draws : Nat → Nat

/-- The options with their defaults. -/
structure Settings where
  maxAttempts : Nat
  baseDelayMs : Double
  maxDelayMs : Double
  isRetryable : Failure → Bool
  jitterFraction : Nat → JitterFraction
  signal : Option Signal

/-- What the options that are not given are. -/
def RetryOptions.resolve (options : RetryOptions) (defaults : Defaults) :
    Settings where
  maxAttempts := options.maxAttempts.getD defaults.retryMaxAttempts
  baseDelayMs := options.baseDelayMs.getD defaults.retryBaseDelayMs
  maxDelayMs := options.maxDelayMs.getD defaults.retryMaxDelayMs
  isRetryable := options.isRetryable.getD defaultIsRetryable
  jitterFraction := options.jitterFraction.getD fun attempt =>
    cryptoJitterFraction (defaults.draws attempt)
  signal := options.signal

/-- The delay after an attempt. -/
def Settings.delayMs (settings : Settings) (attempt : Nat) : Number :=
  jitteredDelay settings.baseDelayMs settings.maxDelayMs
    (settings.jitterFraction attempt) attempt

/-- The reason of the signal at a moment at which it is aborted. -/
def Settings.reasonAt (settings : Settings) (moment : Moment) : Option Failure :=
  settings.signal.bind fun signal => signal moment

inductive Effect
  /-- `fn(attempt)`. -/
  | call (attempt : Nat)
  /-- What the hook is told, if there is one. -/
  | onRetry (attempt : Nat) (delayMs : Number) (error : Failure)
  /-- The timer is set. -/
  | wait (delayMs : Number)
  deriving DecidableEq, Repr

/-- A program of this module. -/
abbrev Program (α : Type) := Traced Effect Rejection α

/-- `throw`. -/
def reject {α : Type} (rejection : Rejection) : Program α :=
  .ofExcept (.error rejection)

/-- `delay(ms, signal)`, after an attempt. -/
def delay (settings : Settings) (attempt : Nat) (ms : Number) : Program PUnit :=
  match settings.reasonAt (.beforeDelay attempt) with
  | some reason => reject (.failure (abortError reason))
  | none => do
      .emit (.wait ms)
      match settings.reasonAt (.duringDelay attempt) with
      | some reason => reject (.failure (abortError reason))
      | none => pure ⟨⟩

variable {α : Type} (settings : Settings) (fn : Nat → Except Failure α)

/-- The loop of `retry`, over the attempts that are left. -/
def attemptLoop : List Nat → Option Failure → Program α
  | [], lastError => reject (.retryError ⟨settings.maxAttempts, lastError⟩)
  | attempt :: later, _ =>
      match settings.reasonAt (.beforeAttempt attempt) with
      | some reason => reject (.failure (abortError reason))
      | none => do
          .emit (.call attempt)
          match fn attempt with
          | .ok value => pure value
          | .error error =>
              if isAbortError error then reject (.failure error)
              else if settings.isRetryable error &&
                  decide (attempt < settings.maxAttempts) then do
                let delayMs := settings.delayMs attempt
                .emit (.onRetry attempt delayMs error)
                delay settings attempt delayMs
                attemptLoop later (some error)
              else if settings.isRetryable error then
                reject (.retryError ⟨attempt, some error⟩)
              else reject (.failure error)

/-- `retry`, after its defaults are filled in. -/
def retryWith : Program α :=
  attemptLoop settings fn (List.range' 1 settings.maxAttempts) none

/-- `retry(fn, options)`. -/
def retry (defaults : Defaults) (options : RetryOptions) : Program α :=
  retryWith (options.resolve defaults) fn

end Model

end Retry
end AiGateway
