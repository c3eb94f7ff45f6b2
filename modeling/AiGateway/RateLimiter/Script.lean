import AiGateway.Foundations.Double
import AiGateway.Foundations.SortedSet

/-!
# The rate limit script

`RateLimiter.check` runs one Lua script on four keys of the store: the sorted
sets of the RPM, TPM and burst windows and the running sum of the estimates in
the TPM window. The script is translated in four parts, in its order: evict and
measure, decide, record, reply. It executes atomically at one reading of the
store's clock. The caller's `nowMs` is a separate time, from the replica.

Limits and sums are exact integers here; Lua computes them in doubles, which
are exact below `2 ^ 53`. The weight in a member is exact below `10 ^ 14`, since
Lua writes 14 digits of a number.
-/

namespace AiGateway
namespace RateLimiter

open Foundations

/-- `ONE_MINUTE_MS`. -/
def oneMinuteMs : Nat := 60000

/-- Which dimension caused a rejection. -/
inductive RateLimitReason
  | rpm
  | tpm
  | burst
  deriving DecidableEq, Repr

/-- Per-key limits passed in from the authenticated key row. -/
structure RateLimitConfig where
  /-- Requests per minute. -/
  rpmLimit : Int
  /-- Tokens per minute. -/
  tpmLimit : Int
  /-- Estimated tokens this request will consume. -/
  estimatedTokens : Rat
  deriving DecidableEq, Repr

/-- The settings the limiter reads, with their validated ranges. -/
structure Config where
  /-- `RATE_LIMIT_ENABLED`. -/
  rateLimitEnabled : Bool
  /-- `RATE_LIMIT_BURST_ENABLED`. -/
  rateLimitBurstEnabled : Bool
  /-- `RATE_LIMIT_BURST_MULTIPLIER`. -/
  rateLimitBurstMultiplier : Rat
  /-- `RATE_LIMIT_BURST_WINDOW_MS`. -/
  rateLimitBurstWindowMs : Nat
  /-- The multiplier is at least one. -/
  one_le_multiplier : 1 ≤ rateLimitBurstMultiplier
  /-- The burst window is not empty. -/
  burstWindow_pos : 1 ≤ rateLimitBurstWindowMs

/-- The settings of a deployment that sets none of them. -/
def Config.default : Config where
  rateLimitEnabled := true
  rateLimitBurstEnabled := true
  rateLimitBurstMultiplier := 2
  rateLimitBurstWindowMs := 10000
  one_le_multiplier := by decide
  burstWindow_pos := by decide

/-- The four keys of one API key. -/
@[ext] structure Windows where
  /-- `rl:rpm:{id}`. -/
  rpm : Key (SortedSet String) := none
  /-- `rl:tpm:{id}`. -/
  tpm : Key (SortedSet String) := none
  /-- `rl:burst:{id}`. -/
  burst : Key (SortedSet String) := none
  /-- `rl:tpmsum:{id}`. -/
  tpmSum : Key Int := none

/-- The keys whose time to live is over are gone when a script starts. -/
def Windows.elapse (clock : Nat) (windows : Windows) : Windows where
  rpm := windows.rpm.visible clock
  tpm := windows.tpm.visible clock
  burst := windows.burst.visible clock
  tpmSum := windows.tpmSum.visible clock

/-- ARGV, parsed. -/
structure Arguments where
  now : Nat
  rpmWindow : Nat
  rpmLimit : Int
  tpmWindow : Nat
  tpmLimit : Int
  reqTokens : Nat
  member : String
  burstEnabled : Nat
  burstWindow : Nat
  burstLimit : Int

/-- The member of the TPM set, `member .. ':' .. reqTokens`. -/
def tpmMember (member : String) (reqTokens : Nat) : String :=
  member ++ ":" ++ toString reqTokens

/-- `string.match(m, '([^:]+)$')`: the characters after the last colon; an
empty run is no match. -/
def lastField (m : String) : List Char :=
  (m.toList.reverse.takeWhile (· ≠ ':')).reverse

/-- `tonumber` on a run of decimal digits. -/
def tonumber (digits : List Char) : Option Nat :=
  if digits ≠ [] ∧ digits.all Char.isDigit then
    some (Nat.ofDigitChars 10 digits 0)
  else
    none

/-- The token weight written at the end of a TPM member. -/
def memberTokens (m : String) : Option Nat := tonumber (lastField m)

/-- Digits do not contain a colon. -/
theorem ne_colon_of_mem_toDigits
    {n : Nat}
    {c : Char}
    (digit : c ∈ Nat.toDigits 10 n) : c ≠ ':' := by
  rintro rfl
  exact absurd (Nat.isDigit_of_mem_toDigits (by decide) (by decide) digit)
    (by decide)

@[simp] theorem toList_tpmMember (member : String) (reqTokens : Nat) :
    (tpmMember member reqTokens).toList =
      member.toList ++ ':' :: Nat.toDigits 10 reqTokens := by
  simp [tpmMember, String.toList_append]

/-- The last field of a TPM member is the rendered weight, whatever the member
before it contains. -/
theorem lastField_tpmMember (member : String) (reqTokens : Nat) :
    lastField (tpmMember member reqTokens) = Nat.toDigits 10 reqTokens := by
  have noColon : ∀ c ∈ (Nat.toDigits 10 reqTokens).reverse,
      decide (c ≠ ':') = true := fun c digit =>
    decide_eq_true (ne_colon_of_mem_toDigits (List.mem_reverse.1 digit))
  rw [lastField, toList_tpmMember, List.reverse_append, List.reverse_cons,
    List.append_assoc, List.takeWhile_append_of_pos noColon]
  simp

/-- The script reads back the weight that it wrote. -/
@[simp] theorem memberTokens_tpmMember (member : String) (reqTokens : Nat) :
    memberTokens (tpmMember member reqTokens) = some reqTokens := by
  have allDigits : (Nat.toDigits 10 reqTokens).all Char.isDigit = true :=
    List.all_eq_true.2 fun _ digit =>
      Nat.isDigit_of_mem_toDigits (by decide) (by decide) digit
  rw [memberTokens, lastField_tpmMember, tonumber,
    if_pos ⟨Nat.toDigits_ne_nil, allDigits⟩, Nat.ofDigitChars_ten_toDigits]

/-- A TPM member determines the member of the RPM set it was made from. -/
theorem tpmMember_injective
    {left right : String}
    {leftTokens rightTokens : Nat}
    (same : tpmMember left leftTokens = tpmMember right rightTokens) :
    left = right := by
  have sameTokens : leftTokens = rightTokens := by
    have read := congrArg memberTokens same
    rw [memberTokens_tpmMember, memberTokens_tpmMember] at read
    exact Option.some.inj read
  have sameList := congrArg String.toList same
  rw [toList_tpmMember, toList_tpmMember, sameTokens] at sameList
  exact String.toList_inj.1 (List.append_cancel_right sameList)

/-- What the script knows when it decides: the sets after eviction and the
three measures. -/
@[ext] structure Measured where
  windows : Windows
  rpmCount : Nat
  tpmSum : Int
  burstCount : Nat

/-- The TPM members out of the window. -/
def expired (clock : Nat) (args : Arguments) (windows : Windows) :
    List String :=
  windows.tpm.zrangebyscore clock 0 ((args.now : Int) - args.tpmWindow)

/-- The loop subtracting the weights of the expired members. -/
def subtractExpired (tpmSum : Int) (members : List String) : Int :=
  members.foldl
    (fun tpmSum m =>
      match memberTokens m with
      | some t => tpmSum - t
      | none => tpmSum)
    tpmSum

/-- The TPM set after eviction; it is written only when a member expired. -/
def evictTpm (clock : Nat) (args : Arguments) (windows : Windows) :
    Key (SortedSet String) :=
  if expired clock args windows = [] then
    windows.tpm
  else
    windows.tpm.zremrangebyscore clock 0 ((args.now : Int) - args.tpmWindow)

/-- The local `tpmSum`: the stored sum less the weights of the expired members,
and zero for an empty window. The stored sum itself is not written here. -/
def localTpmSum (clock : Nat) (args : Arguments) (windows : Windows) : Int :=
  let tpmSum := subtractExpired ((windows.tpmSum.read clock).getD 0)
    (expired clock args windows)
  if tpmSum < 0 ∨ (evictTpm clock args windows).zcard clock = 0 then
    0
  else
    tpmSum

/-- Evict what is out of the windows and measure what remains. -/
def measure (clock : Nat) (args : Arguments) (windows : Windows) : Measured :=
  let rpm := windows.rpm.zremrangebyscore clock 0
    ((args.now : Int) - args.rpmWindow)
  let burst :=
    if args.burstEnabled = 1 then
      windows.burst.zremrangebyscore clock 0
        ((args.now : Int) - args.burstWindow)
    else
      windows.burst
  { windows :=
      { rpm := rpm
        tpm := evictTpm clock args windows
        burst := burst
        tpmSum := windows.tpmSum }
    rpmCount := rpm.zcard clock
    tpmSum := localTpmSum clock args windows
    burstCount := if args.burstEnabled = 1 then burst.zcard clock else 0 }

/-- The reason of a rejection; `none` admits the request. -/
def decision (args : Arguments) (measured : Measured) :
    Option RateLimitReason :=
  if args.rpmLimit ≤ measured.rpmCount then
    some .rpm
  else if args.burstEnabled = 1 ∧ args.burstLimit ≤ measured.burstCount then
    some .burst
  else if args.tpmLimit < measured.tpmSum + args.reqTokens then
    some .tpm
  else
    none

/-- The writes of an admitted request. -/
def record (clock : Nat) (args : Arguments) (measured : Measured) : Windows :=
  let windows := measured.windows
  { rpm := (windows.rpm.zadd clock args.now args.member).pexpire clock
      (args.rpmWindow + 1000)
    tpm := (windows.tpm.zadd clock args.now
      (tpmMember args.member args.reqTokens)).pexpire clock
        (args.tpmWindow + 1000)
    burst :=
      if args.burstEnabled = 1 then
        (windows.burst.zadd clock args.now args.member).pexpire clock
          (args.burstWindow + 1000)
      else
        windows.burst
    tpmSum := Key.setPx clock (args.tpmWindow + 1000)
      (measured.tpmSum + args.reqTokens) }

/-- `math.ceil(ms / 1000)`. -/
def ceilSeconds (ms : Int) : Int := -((-ms) / 1000)

/-- Outcome of a rate-limit check, including header-ready values. -/
structure RateLimitResult where
  allowed : Bool
  reason : Option RateLimitReason
  limit : Int
  remaining : Int
  resetUnixSec : Int
  retryAfterSec : Int
  deriving DecidableEq, Repr

/-- The oldest score of a window plus its width, if the window has a member. -/
def freeAt (clock : Nat) (width : Nat) (key : Key (SortedSet String)) :
    Option Int :=
  (key.zleast clock).map fun oldest => oldest + width

/-- The wait that a rejection reports, from the window that caused it. -/
def retryAfter
    (clock : Nat)
    (args : Arguments)
    (windows : Windows)
    (reason : RateLimitReason) : Int :=
  let free :=
    match reason with
    | .rpm => freeAt clock args.rpmWindow windows.rpm
    | .tpm => freeAt clock args.tpmWindow windows.tpm
    | .burst => freeAt clock args.burstWindow windows.burst
  max 1 ((free.map fun instant => ceilSeconds (instant - args.now)).getD 0)

/-- The reply, computed on the keys as the script leaves them. -/
def reply
    (clock : Nat)
    (args : Arguments)
    (rpmCount : Nat)
    (windows : Windows)
    (reason : Option RateLimitReason) : RateLimitResult where
  allowed := reason.isNone
  reason := reason
  limit := args.rpmLimit
  remaining := max 0 (args.rpmLimit - rpmCount)
  resetUnixSec := ceilSeconds
    ((freeAt clock args.rpmWindow windows.rpm).getD (args.now + args.rpmWindow))
  retryAfterSec := (reason.map (retryAfter clock args windows)).getD 0

/-- `RATE_LIMIT_LUA`. -/
def rateLimitScript (clock : Nat) (args : Arguments) (windows : Windows) :
    RateLimitResult × Windows :=
  let measured := measure clock args windows
  match decision args measured with
  | none =>
      let recorded := record clock args measured
      (reply clock args (measured.rpmCount + 1) recorded none, recorded)
  | some reason =>
      (reply clock args measured.rpmCount measured.windows (some reason),
        measured.windows)

/-- The member of the RPM and burst sets, made from the caller's time and a
fresh UUID. -/
def memberOf (nowMs : Nat) (uuid : String) : String :=
  toString nowMs ++ ":" ++ uuid

/-- Members made from different UUIDs differ. -/
theorem memberOf_injective
    {leftMs rightMs : Nat}
    {leftUuid rightUuid : String}
    (same : memberOf leftMs leftUuid = memberOf rightMs rightUuid) :
    leftUuid = rightUuid := by
  have noColon : ∀ n : Nat, ∀ c ∈ Nat.toDigits 10 n,
      decide (c ≠ ':') = true := fun n c digit =>
    decide_eq_true (ne_colon_of_mem_toDigits digit)
  have sameList := congrArg String.toList same
  simp only [memberOf, String.toList_append, Nat.toString_eq_repr,
    Nat.toList_repr, List.append_assoc] at sameList
  have sameDigits := congrArg (List.takeWhile fun c => decide (c ≠ ':')) sameList
  rw [List.takeWhile_append_of_pos (noColon leftMs),
    List.takeWhile_append_of_pos (noColon rightMs)] at sameDigits
  simp only [show (":" : String).toList = [':'] from rfl, List.cons_append,
    List.nil_append] at sameDigits sameList
  rw [List.takeWhile_cons_of_neg (by simp), List.takeWhile_cons_of_neg (by simp),
    List.append_nil, List.append_nil] at sameDigits
  rw [sameDigits, List.append_cancel_left_eq] at sameList
  exact String.toList_inj.1 (List.cons.inj sameList).2

/-- One call of `check`: the store's clock when the script runs, the caller's
time, the drawn UUID and the limits. -/
structure CheckCall where
  clock : Nat
  nowMs : Nat
  uuid : String
  limits : RateLimitConfig

namespace CheckCall

/-- The member this call would add. -/
def member (call : CheckCall) : String := memberOf call.nowMs call.uuid

/-- `Math.max(0, Math.trunc(limits.estimatedTokens))`. -/
def reqTokens (call : CheckCall) : Nat :=
  ⌊call.limits.estimatedTokens⌋.toNat

/-- `limits.rpmLimit * config.RATE_LIMIT_BURST_MULTIPLIER`. A limit is a column of
32 bits; for an integer that need not be a double the product is left exact. -/
def burstProduct (config : Config) (call : CheckCall) : Rat :=
  let product := call.limits.rpmLimit * config.rateLimitBurstMultiplier
  if call.limits.rpmLimit.natAbs < 2 ^ 53 then nearest product else product

/-- The arguments `check` passes to the script. -/
def arguments (config : Config) (call : CheckCall) : Arguments where
  now := call.nowMs
  rpmWindow := oneMinuteMs
  rpmLimit := call.limits.rpmLimit
  tpmWindow := oneMinuteMs
  tpmLimit := call.limits.tpmLimit
  reqTokens := call.reqTokens
  member := call.member
  burstEnabled := if config.rateLimitBurstEnabled then 1 else 0
  burstWindow := config.rateLimitBurstWindowMs
  burstLimit := ⌈call.burstProduct config⌉

end CheckCall

/-- `RateLimiter.check`. -/
def check (config : Config) (windows : Windows) (call : CheckCall) :
    RateLimitResult × Windows :=
  if config.rateLimitEnabled then
    rateLimitScript call.clock (call.arguments config)
      (windows.elapse call.clock)
  else
    ({ allowed := true
       reason := none
       limit := call.limits.rpmLimit
       remaining := call.limits.rpmLimit
       resetUnixSec := ceilSeconds (call.nowMs + oneMinuteMs)
       retryAfterSec := 0 }, windows)

end RateLimiter
end AiGateway
