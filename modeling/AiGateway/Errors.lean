/-!
# The error taxonomy

Every error that can reach a client is a `GatewayError`, which knows its status,
its OpenAI type and whether it may be retried. Anything else that is thrown is
turned into an internal error by `GatewayError.from`, which here is
`fromThrown`. Causes and log contexts are not kept.
-/

namespace AiGateway

/-- The OpenAI `error.type` discriminators. -/
inductive OpenAIErrorType
  | invalidRequestError
  | authenticationError
  | permissionError
  | notFoundError
  | rateLimitError
  | serverError
  | apiError
  deriving DecidableEq, Repr

/-- The subclasses of `GatewayError` that the gateway throws on its way to a
provider and back, with the fields of their own. -/
inductive ErrorKind
  | provider (providerId : Option String)
  | upstreamTimeout (providerId : Option String)
  | circuitOpen (providerId : String)
  | allProvidersFailed (attempts : Nat)
  | notFound
  | permission
  | insufficientQuota
  | validation
  | internal
  deriving DecidableEq, Repr

/-- An error that can be returned to a client. -/
structure GatewayError where
  kind : ErrorKind
  message : String
  statusCode : Nat
  openAIType : OpenAIErrorType
  code : Option String := none
  param : Option String := none
  /-- Whether the failover loop may try another provider. -/
  retryable : Bool := false
  deriving DecidableEq, Repr

/-- What a JavaScript `throw` can throw: a gateway error or anything else. -/
inductive Thrown
  | gateway (error : GatewayError)
  /-- An error of the platform, with its name and message. -/
  | raw (name message : String)
  deriving DecidableEq, Repr

namespace GatewayError

/-- `new ProviderError(message, statusCode, { providerId, retryable })`; without
an explicit flag a server error or a 429 is retryable. -/
def provider
    (message : String)
    (statusCode : Nat)
    (providerId : String)
    (retryable : Option Bool := none) : GatewayError where
  kind := .provider (some providerId)
  message := message
  statusCode := statusCode
  openAIType :=
    if 500 ≤ statusCode then .serverError else .invalidRequestError
  code := some "provider_error"
  retryable :=
    retryable.getD (decide (500 ≤ statusCode) || decide (statusCode = 429))

/-- `new UpstreamTimeoutError(providerId)`. -/
def upstreamTimeout (providerId : String) : GatewayError where
  kind := .upstreamTimeout (some providerId)
  message := "The upstream provider timed out."
  statusCode := 504
  openAIType := .serverError
  code := some "upstream_timeout"
  retryable := true

/-- `new CircuitOpenError(providerId)`. -/
def circuitOpen (providerId : String) : GatewayError where
  kind := .circuitOpen providerId
  message := "Provider " ++ providerId ++
    " is temporarily unavailable (circuit open)."
  statusCode := 503
  openAIType := .serverError
  code := some "circuit_open"
  retryable := true

/-- `new AllProvidersFailedError(attempts)`. -/
def allProvidersFailed (attempts : Nat) : GatewayError where
  kind := .allProvidersFailed attempts
  message :=
    "All upstream providers are currently unavailable. Please retry shortly."
  statusCode := 503
  openAIType := .serverError
  code := some "all_providers_failed"
  retryable := true

/-- `new NotFoundError(message, { param })`. -/
def notFound (message param : String) : GatewayError where
  kind := .notFound
  message := message
  statusCode := 404
  openAIType := .notFoundError
  code := some "not_found"
  param := some param

/-- `new PermissionError(message, { param })`. -/
def permission (message param : String) : GatewayError where
  kind := .permission
  message := message
  statusCode := 403
  openAIType := .permissionError
  code := some "permission_denied"
  param := some param

/-- `new InsufficientQuotaError()`. -/
def insufficientQuota : GatewayError where
  kind := .insufficientQuota
  message := "Monthly budget exceeded for this API key."
  statusCode := 429
  openAIType := .rateLimitError
  code := some "insufficient_quota"

/-- `new InternalError()`. -/
def internal : GatewayError where
  kind := .internal
  message := "An unexpected internal error occurred."
  statusCode := 500
  openAIType := .apiError
  code := some "internal_error"

/-- `GatewayError.from`. -/
def fromThrown : Thrown → GatewayError
  | .gateway error => error
  | .raw _ _ => internal

/-- An error outside the taxonomy stops the failover loop. -/
@[simp] theorem retryable_fromThrown_raw (name message : String) :
    (fromThrown (.raw name message)).retryable = false := rfl

end GatewayError

end AiGateway
