import LLMPool.Printing.Dates
import LLMPool.Windows.Counters
import LLMPool.Database

/-! The hourly counters of a model's tokens in Redis, at the level of the commands. -/
namespace LLMPool.RedisUtils
open Windows Printing

abbrev Counters := String → Option Counter

inductive CounterStep where
  | connect
  | get
  | incr (key : String)
  | expire (key : String)
  deriving DecidableEq

/-- The time of a call, in milliseconds, and the steps that fail. -/
structure Tick where
  now : Nat
  fails : CounterStep → Bool

def Tick.Healthy (tick : Tick) : Prop := ∀ step, tick.fails step = false

/-- The current hour, `%Y%m%d%H` in UTC. -/
def hour (now : Nat) : String := String.ofList (hourDigits now)

def inputKey (modelId : Int) (hour : String) : String :=
  "tokenusage:input:" ++ (toString modelId ++ (":" ++ hour))

def outputKey (modelId : Int) (hour : String) : String :=
  "tokenusage:output:" ++ (toString modelId ++ (":" ++ hour))

namespace Tick
variable (tick : Tick)

/-- One of the two counters; its failures are only logged. -/
def bump (key : String) (tokens : Int) (counters : Counters) : Counters :=
  if 0 < tokens then
    if tick.fails (.incr key) then counters
    else
      match Counter.incrBy tick.now tokens (counters key) with
      | none => counters
      | some counter =>
          let counters := Function.update counters key (some counter)
          if tick.fails (.expire key) then counters
          else Function.update counters key (Counter.expire tick.now 3600 (counters key))
  else counters

def incrementTokenUsage (modelId inputTokens outputTokens : Int) (counters : Counters) : Counters :=
  if tick.fails .connect then counters
  else
    let counters := tick.bump (inputKey modelId (hour tick.now)) inputTokens counters
    tick.bump (outputKey modelId (hour tick.now)) outputTokens counters

/-- The value that a key has at a time. -/
def stored (now : Nat) (key : String) (counters : Counters) : Option Int :=
  (Counter.live now (counters key)).map Counter.value

def getOutputTokenUsageBatch (modelIds : List Int) (counters : Counters) : List Int :=
  if modelIds = [] then []
  else if tick.fails .connect then modelIds.map (fun _ => 0)
  else if tick.fails .get then modelIds.map (fun _ => 0)
  else
    (redisGet (fun modelId => stored tick.now (outputKey modelId (hour tick.now)) counters) modelIds).map
      (fun value => value.getD 0)

end Tick

end LLMPool.RedisUtils
