import LLMPool.Middlewares.ApiAuth
import LLMPool.Views.Accounts
import LLMPool.Windows.SortedSets

/-! The middleware in front of both providers' routes that limits the requests of an address
and of an `Authorization` header, over a sliding window in Redis. -/
namespace LLMPool.Middlewares
open Transactions Windows

structure RateLimitConfig where
  enabled : Bool := false
  ipRequests : Nat := 100
  ipWindowSecs : Nat := 60
  tokenRequests : Nat := 200
  tokenWindowSecs : Nat := 60

/-- A request as the middlewares see it; a header is its first value, where that is text. -/
structure Incoming where
  provider : Provider
  authorization : Option String
  xApiKey : Option String
  xForwardedFor : Option String
  xRealIp : Option String
  connectInfo : Option String

inductive RedisStep where
  | connect
  | zremrangebyscore
  | zadd
  | zcard
  | expire
  deriving DecidableEq

/-- The time of a request in milliseconds, what its checks of either kind draw at random,
and the steps that fail. -/
structure Moment where
  now : Nat
  randSuffix : String → Nat
  fails : String → RedisStep → Bool

def Moment.Healthy (moment : Moment) : Prop := ∀ kind step, moment.fails kind step = false

abbrev SortedSets := String → SortedSet

def rateLimitResponse (message : String) : Response α :=
  .error .tooManyRequests message "rate_limit_error" "rate_limit_exceeded"

/-- An unsigned number of any size as a signed one of 64 bits. -/
def asI64 (n : Nat) : Int := Int.bmod n (2 ^ 64)

def rateLimitKey (kind identifier : String) : String := "ratelimit:" ++ (kind ++ (":" ++ identifier))

namespace Moment
variable (moment : Moment) (kind : String)

/-- A command on a key, of which nothing is left once it has expired. -/
def command (key : String) (f : SortedSet → SortedSet) (sets : SortedSets) : SortedSets :=
  Function.update sets key (f ((sets key).live moment.now))

def member : String := toString moment.now ++ ("-" ++ toString (moment.randSuffix kind))

/-- A request is let through when Redis fails. -/
def checkRateLimit (identifier : String) (maxRequests windowSecs : Nat) (sets : SortedSets) :
    Option (Response α) × SortedSets :=
  let key := rateLimitKey kind identifier
  let windowStart := moment.now - asI64 (windowSecs * 1000)
  if moment.fails kind .connect then (none, sets)
  else if moment.fails kind .zremrangebyscore then (none, sets)
  else
    let sets := moment.command key (SortedSet.zremrangebyscore windowStart) sets
    if moment.fails kind .zadd then (none, sets)
    else
      let sets := moment.command key (SortedSet.zadd (moment.member kind) moment.now) sets
      if moment.fails kind .zcard then (none, sets)
      else
        let count := ((sets key).live moment.now).zcard
        let sets :=
          if moment.fails kind .expire then sets
          else moment.command key (SortedSet.expire moment.now (asI64 windowSecs)) sets
        if maxRequests < count then
          (some (rateLimitResponse ("Rate limit exceeded: more than " ++ toString maxRequests ++
            " requests per " ++ toString windowSecs ++ " seconds (" ++ kind ++ ")")), sets)
        else (none, sets)

end Moment

def extractClientIp (request : Incoming) : Option String :=
  let first := request.xForwardedFor.map (fun xff =>
    Auth.trim (String.ofList (xff.toList.takeWhile (fun c => c ≠ ','))))
  let real := request.xRealIp.map Auth.trim
  match first.filter (fun ip => ip ≠ "") with
  | some ip => some ip
  | none =>
      match real.filter (fun ip => ip ≠ "") with
      | some ip => some ip
      | none => request.connectInfo

/-- A check is made only where there is something to identify the request by. -/
def checkPresent (moment : Moment) (kind : String) (identifier : Option String)
    (maxRequests windowSecs : Nat) (sets : SortedSets) : Option (Response α) × SortedSets :=
  match identifier with
  | none => (none, sets)
  | some identifier => moment.checkRateLimit kind identifier maxRequests windowSecs sets

/-- The response to a request that is over a limit; the others pass. -/
def rateLimitMiddleware (sha256Hex : String → String) (cfg : RateLimitConfig) (moment : Moment)
    (request : Incoming) (sets : SortedSets) : Option (Response α) × SortedSets :=
  if cfg.enabled = false then (none, sets)
  else
    match checkPresent moment "ip" (extractClientIp request) cfg.ipRequests cfg.ipWindowSecs sets with
    | (some refused, sets) => (some refused, sets)
    | (none, sets) =>
        checkPresent moment "token" (request.authorization.map sha256Hex) cfg.tokenRequests
          cfg.tokenWindowSecs sets

namespace Incoming

/-- The middleware behind the limits, of the provider whose route it is. -/
def authenticate (hashToken : String → String) (next : Int → Int → Action α) (request : Incoming) :
    Action (Response α) :=
  match request.provider with
  | .openai => authOpenAIApi hashToken request.authorization next
  | .anthropic => authAnthropicApi hashToken request.xApiKey next

/-- The API key that a request presents. -/
def token (request : Incoming) : Option String :=
  match request.provider with
  | .openai => request.authorization.bind bearerToken
  | .anthropic => request.xApiKey.filter (fun token => token ≠ "")

end Incoming

end LLMPool.Middlewares
