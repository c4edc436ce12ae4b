import Algorandscout.Service

namespace Algorandscout

open Library

/-!
# Health and stats

`AlgorandClient.health` reads both upstreams and reports what it saw; `/api/v2/stats` reads the
node once more before it.

* `healthReport` — what the two reads amount to;
* `health` — the reads, over any way of reading an upstream;
* `mapStats`, `stats` — the stats route.
-/

/-- What `health` returns. -/
structure HealthReport where
  network : String
  algodUrl : String
  indexerUrl : String
  nodeRound : Json
  indexerRound : Json
  indexerLagRounds : Option Int
  healthy : Bool
  /-- The failed upstreams with their errors; null when there are none. -/
  errors : List (String × String)
  note : Option String

/-- `negative lag: …`. -/
def negativeLagNote : String :=
  "negative lag: node and indexer were sampled at different instants, not atomically"

/-- `node_round - idx_round`, when both are integers. -/
def lagOf (nodeRound indexerRound : Json) : Option Int :=
  match nodeRound.asInt, indexerRound.asInt with
  | .ok node, .ok idx => some (node - idx)
  | _, _ => none

/-- `try: payload = await read() except AlgorandError as exc: errors[name] = str(exc)`: the
    payload, and the entry for `errors`. -/
def readOrNote (name : String) : Except AlgorandError Json → Json × List (String × String)
  | .ok payload => (payload, [])
  | .error exc => (.obj [], [(name, exc.message)])

/-- What the two reads of `health` amount to. -/
def healthReport (config : AlgorandConfig) (nodeRead idxRead : Except AlgorandError Json) :
    Except PyError HealthReport := do
  let (node, algodErrors) := readOrNote "algod" nodeRead
  let (idx, indexerErrors) := readOrNote "indexer" idxRead
  let errors := algodErrors ++ indexerErrors
  let nodeRound := (← node.asDict).get "last-round"
  let indexerRound := (← idx.asDict).get "round"
  let lag := lagOf nodeRound indexerRound
  return {
    network := config.network
    algodUrl := config.algodUrl
    indexerUrl := config.indexerUrl
    nodeRound
    indexerRound
    indexerLagRounds := lag
    healthy := errors.isEmpty
    errors
    -- The lag is reported raw, with a note when the archive appears ahead.
    note := if lag.any (· < 0) then some negativeLagNote else none }

/-- `AlgorandClient.health`; `read` is a read of the client whose `AlgorandError` is caught. -/
def health {Op : Type} {Answer : Op → Type} {ε : Type} (config : AlgorandConfig)
    (read : Call → Program Answer ε (Except AlgorandError Json)) (raised : PyError → ε) :
    Program Answer ε HealthReport := do
  let nodeRead ← read .status
  let idxRead ← read .indexerHealth
  Program.ofExcept ((healthReport config nodeRead idxRead).mapError raised)

/-! ### Stats -/

/-- The response of the stats route. -/
structure Stats where
  totalBlocks : String
  chainTip : Json
  indexerRound : Json
  indexerLagRounds : Option Int
  averageBlockTime : Json
  network : String
  isEvm : Bool
  nativeSymbol : String
  nativeDecimals : ℕ

/-- `map_stats`. -/
def mapStats (status : Json) (health : HealthReport) : Except PyError Stats := do
  let members ← status.asDict
  return {
    totalBlocks := (members.get "last-round" (.int 0)).pyStr
    chainTip := members.get "last-round"
    indexerRound := health.indexerRound
    indexerLagRounds := health.indexerLagRounds
    averageBlockTime := members.get "time-since-last-round"
    network := health.network
    isEvm := false
    nativeSymbol := "ALGO"
    nativeDecimals := algoDecimals }

/-- `stats`. -/
def stats (config : AlgorandConfig) : Route Stats := do
  let status ← upstream .status
  -- The node is asked again here.
  let healthPayload ← health config askUpstream .unhandled
  Program.ofExcept (mapping (mapStats status healthPayload))

end Algorandscout
