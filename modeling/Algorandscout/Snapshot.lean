import Algorandscout.Health
import Mathlib.Order.Defs.PartialOrder

namespace Algorandscout

open Library

/-!
# Stats from a chain that goes on

One stats request reads the node, then, for the health report, the node again and the indexer;
the chain may advance between any two of these reads.

* `Sampling` — two upstreams that only advance, and the times at which they are read;
* `statsAt` — the stats route in that world;
* `IsSnapshot`, `isSnapshot_iff` — when the numbers of one response belong together.
-/

/-- Two upstreams that only advance, and the reads of one request, counted from 0. -/
structure Sampling (Time : Type) [Preorder Time] where
  /-- The node's `last-round`. -/
  nodeRound : Time → Int
  nodeRound_mono : ∀ s t, s ≤ t → nodeRound s ≤ nodeRound t
  /-- The indexer's `round`. -/
  indexerRound : Time → Int
  indexerRound_mono : ∀ s t, s ≤ t → indexerRound s ≤ indexerRound t
  /-- The other members of the two payloads. -/
  statusRest : Time → Dict
  healthRest : Time → Dict
  /-- When each read is answered. -/
  readAt : ℕ → Time
  readAt_mono : ∀ m n, m ≤ n → readAt m ≤ readAt n
  /-- The reads that fail. -/
  raised : ℕ → Option AlgorandError

variable {Time : Type} [Preorder Time]

/-- The answer to read `n`. -/
def Sampling.read (sampling : Sampling Time) (call : Call) (n : ℕ) : Except AlgorandError Json :=
  match sampling.raised n with
  | some exc => .error exc
  | none =>
    let now := sampling.readAt n
    match call with
    | .status =>
      .ok (.obj (("last-round", .int (sampling.nodeRound now)) :: sampling.statusRest now))
    | .indexerHealth =>
      .ok (.obj (("round", .int (sampling.indexerRound now)) :: sampling.healthRest now))
    | _ => .ok .null

/-- The environment of a route: the upstreams, and no cache.  Its state counts the reads. -/
def sampled (sampling : Sampling Time) : (op : Op) → ℕ → op.Answer × ℕ
  | .upstream call, n => (sampling.read call n, n + 1)
  | .cacheGet _ _, n => ((none : Option Json), n)
  | .cacheSet _ _ _, n => ((), n)

@[simp] theorem run_askUpstream_bind_sampled {α : Type} (sampling : Sampling Time) (n : ℕ)
    (call : Call) (f : Except AlgorandError Json → Route α) :
    (askUpstream call >>= f).run (sampled sampling) n =
      (f (sampling.read call n)).run (sampled sampling) (n + 1) := rfl

theorem run_upstream_bind_sampled {α : Type} {sampling : Sampling Time} {n : ℕ} {call : Call}
    {payload : Json} (h : sampling.read call n = .ok payload) (f : Json → Route α) :
    (upstream call >>= f).run (sampled sampling) n =
      (f payload).run (sampled sampling) (n + 1) := by
  unfold upstream
  rw [Program.run_bind, run_askUpstream_bind_sampled, h]
  rfl

/-- The stats route in that world. -/
def statsAt (config : AlgorandConfig) (sampling : Sampling Time) : Except ServiceError Stats :=
  ((stats config).run (sampled sampling) 0).1

/-! ### One snapshot -/

/-- The reads of the request all succeed. -/
def Sampling.AllSucceed (sampling : Sampling Time) : Prop := ∀ n < 3, sampling.raised n = none

/-- The lag is the distance of the two rounds. -/
def Stats.Consistent (response : Stats) : Prop :=
  ∃ tip idx : Int, response.chainTip = .int tip ∧ response.indexerRound = .int idx ∧
    response.indexerLagRounds = some (tip - idx)

/-- The response is consistent whenever all reads succeed. -/
def IsSnapshot (config : AlgorandConfig) (sampling : Sampling Time) : Prop :=
  sampling.AllSucceed → ∃ response, statsAt config sampling = .ok response ∧ response.Consistent

/-- The response when all reads succeed: the tip is the one of the first read, the lag is taken
    from the second. -/
theorem statsAt_of_allSucceed (config : AlgorandConfig) {sampling : Sampling Time}
    (h : sampling.AllSucceed) :
    ∃ response, statsAt config sampling = .ok response ∧
      response.chainTip = .int (sampling.nodeRound (sampling.readAt 0)) ∧
      response.indexerRound = .int (sampling.indexerRound (sampling.readAt 2)) ∧
      response.indexerLagRounds =
        some (sampling.nodeRound (sampling.readAt 1) -
          sampling.indexerRound (sampling.readAt 2)) := by
  have hstatus : ∀ n < 3, sampling.read .status n =
      .ok (.obj (("last-round", .int (sampling.nodeRound (sampling.readAt n))) ::
        sampling.statusRest (sampling.readAt n))) := by
    intro n hn
    unfold Sampling.read
    rw [h n hn]
  have hhealth : sampling.read .indexerHealth 2 =
      .ok (.obj (("round", .int (sampling.indexerRound (sampling.readAt 2))) ::
        sampling.healthRest (sampling.readAt 2))) := by
    unfold Sampling.read
    rw [h 2 (by decide)]
  unfold statsAt stats health
  rw [run_upstream_bind_sampled (hstatus 0 (by decide)), Program.run_bind_fst,
    run_askUpstream_bind_sampled, hstatus 1 (by decide), run_askUpstream_bind_sampled, hhealth]
  exact ⟨_, rfl, rfl, rfl, rfl⟩

/-- **When the stats are one snapshot**: when the node's round is the same at its two reads. -/
theorem isSnapshot_iff (config : AlgorandConfig) (sampling : Sampling Time) :
    IsSnapshot config sampling ↔
      (sampling.AllSucceed →
        sampling.nodeRound (sampling.readAt 0) = sampling.nodeRound (sampling.readAt 1)) := by
  refine imp_congr_right ?_
  intro hall
  obtain ⟨response, hresponse, htip, hround, hlag⟩ := statsAt_of_allSucceed config hall
  constructor
  · rintro ⟨other, hother, tip, idx, htip', hround', hlag'⟩
    obtain rfl := Except.ok.inj (hresponse.symm.trans hother)
    have htip'' := Json.int.inj (htip.symm.trans htip')
    have hround'' := Json.int.inj (hround.symm.trans hround')
    have hlag'' := Option.some.inj (hlag.symm.trans hlag')
    omega
  · intro heq
    refine ⟨response, hresponse, _, _, htip, hround, ?_⟩
    rw [hlag, heq]

/-- A block comes between the two reads of the node. -/
def advancing : Sampling ℕ where
  nodeRound t := 100 + t
  nodeRound_mono _ _ h := by simpa using h
  indexerRound t := 98 + t
  indexerRound_mono _ _ h := by simpa using h
  statusRest _ := []
  healthRest _ := []
  readAt n := n
  readAt_mono _ _ h := h
  raised _ := none

/-- The tip is 100 and the indexer's round 100, and yet the lag is 1. -/
theorem stats_inconsistent : ¬ IsSnapshot mainnetConfig advancing := by
  intro h
  obtain ⟨response, hresponse, tip, idx, htip, hround, hlag⟩ := h (fun _ _ => rfl)
  obtain rfl := Except.ok.inj hresponse
  cases htip
  cases hround
  cases hlag

end Algorandscout
