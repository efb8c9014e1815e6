import LLMPool.Views.Upstreams

/-! The cron task that checks the upstreams that are offline, and the checks it spawns. -/
namespace LLMPool.Upstreams
open Transactions

/-- An upstream is healthy where its list of models is answered with success. -/
def checkUpstreamHealth (upstream : LLMUpstream) : Action Bool := do
  match ← ProxyViews.callUpstream upstream .getModels with
  | .ok response => return response.isSuccess
  | .error _ => return false

/-- A failure to mark is only logged. -/
def healthCheck : Action Unit := do
  match ← Prog.remote (E := engine) .fetchHealthCheck with
  | .ok (some upstream) =>
      if ← checkUpstreamHealth upstream then
        let _ ← (markUpstreamOnline upstream.id).run
      else return ()
  | _ => return ()

def spawnHealthChecks : List LLMUpstream → Action Unit
  | [] => return ()
  | upstream :: rest => do
      let _ ← Prog.remote (E := engine) (.spawnHealthCheck upstream)
      spawnHealthChecks rest

def checkOfflineUpstreams : Action Unit := do
  match ← (Query.auto .listOfflineUpstreams).run with
  | .ok upstreams => spawnHealthChecks upstreams
  | .error _ => return ()

end LLMPool.Upstreams
