import Reattempt.Request

/-!
# Public names

The names under which the parts of the library are offered, and the constants with their values.
-/

namespace Reattempt

inductive Offering where
  | library
  | constants
  | backoff
  | tools
  | web
  deriving DecidableEq, Repr

namespace Offering

/-- What a part offers, in alphabetical order. A constant stands with its value. -/
def names : Offering → List Value
  | library => ["AsyncRetryTemplate", "CallableRetryable", "CompositeRetryListener",
      "ExceptionClassifier", "LoggingRetryListener", "RetryError", "RetryListener", "RetryPolicy",
      "RetryPolicyBuilder", "RetryTemplate", "Retryable", "__version__", "as_retryable",
      "retryable"].map .text
  | constants =>
    [("DEFAULT_DELAY", Value.float defaultDelay),
      ("DEFAULT_MAX_ATTEMPTS", .int defaultMaxAttempts),
      ("DEFAULT_MULTIPLIER", .float defaultMultiplier),
      ("RETRY_STATUS_CODES", defaultStatusesValue)].map fun (name, v) => .list [.text name, v]
  | backoff => ["BackoffExecution", "BaseBackoffStrategy", "ConstantBackoff",
      "ExponentialBackoff", "FibonacciBackoff", "FixedBackoff", "LinearBackoff"].map .text
  | tools => ["StructuredFormatter", "async_sleep", "clear_correlation_id", "correlation_scope",
      "get_correlation_id", "log_structured", "set_correlation_id", "sleep"].map .text
  | web => ["AsyncHttpRetryable", "HttpRetryable", "http_retry_policy",
      "is_retryable_http_error"].map .text

end Offering

end Reattempt
