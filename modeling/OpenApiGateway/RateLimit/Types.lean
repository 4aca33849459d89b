import OpenApiGateway.Config.Types

/-!
# Rate limit decisions

The result types of `RateLimiter::check` in `controlplane/src/ratelimit/`, and the key of a
bucket.
-/

namespace OpenApiGateway
namespace RateLimit

/-- Which backend served the rate-limit decision. -/
inductive RateLimitMode where
  | redis
  | degradedLocal
  | failOpen
deriving DecidableEq

def RateLimitMode.asHeaderValue : RateLimitMode → String
  | redis => "redis"
  | failOpen => "redis"
  | degradedLocal => "degraded-local"

/-- Decision returned by `RateLimiter::check`. -/
structure RateDecision where
  allowed : Bool
  limit : ℕ
  remaining : ℕ
  retryAfterMs : ℕ
  mode : RateLimitMode
deriving DecidableEq

inductive RateLimitError where
  | redisConnect (message : String)
  | redisCommand (message : String)
  | timeout
  | unavailable
  | luaResponseParse (message : String)
deriving DecidableEq

/-- A limiter with state `σ`: it checks, and deducts, one token of a bucket. -/
abbrev Limiter (σ : Type) := σ → String → ℕ → F64 → Except RateLimitError RateDecision × σ

/-- Build a Redis key from components. -/
def buildKey (keyPrefix route dimension value : String) : String :=
  s!"{keyPrefix}:{route}:{dimension}:{value}"

end RateLimit
end OpenApiGateway
