import Algorandscout.Routes

namespace Algorandscout

open Library Library.Program

/-!
# The latest block

The block route that takes its round from the node and its block from the indexer.

* `LatestBlock` — the courses of the route;
* `Trailing` — a node, and an indexer that trails it;
* `AnswersHeldBlock`, `answersHeldBlock_iff` — when the route answers with a block that is there.
-/

variable {log : RouteLog}

/-- The courses of `get_latest_block`. -/
inductive LatestBlock : RouteLog → Except ServiceError (Page MappedBlock) → Prop
  | statusFailed (exc : AlgorandError) :
    LatestBlock [⟨.upstream .status, (.error exc : Outcome)⟩] (.error (.algorand exc))
  | statusBroken (status : Json) (e : PyError) (he : status.asDict = .error e) :
    LatestBlock [⟨.upstream .status, (.ok status : Outcome)⟩] (.error (.unhandled e))
  | noTip (members : Dict) (htip : (members.get "last-round").isNull = true) :
    LatestBlock [⟨.upstream .status, (.ok (.obj members) : Outcome)⟩]
      (.error (.http ⟨502, "node did not report a round"⟩))
  | blockFailed (members : Dict) (htip : (members.get "last-round").isNull = false)
    (exc : AlgorandError) :
    LatestBlock [⟨.upstream .status, (.ok (.obj members) : Outcome)⟩,
        ⟨.upstream (.block (members.get "last-round")), (.error exc : Outcome)⟩]
      (.error (.algorand exc))
  /-- The block of the tip, whatever the tip is. -/
  | answered (members : Dict) (htip : (members.get "last-round").isNull = false)
    (payload : Json) :
    LatestBlock [⟨.upstream .status, (.ok (.obj members) : Outcome)⟩,
        ⟨.upstream (.block (members.get "last-round")), (.ok payload : Outcome)⟩]
      ((mapping (mapBlock payload false)).map fun block => ⟨[block], none⟩)

theorem latestBlock_of_course {result : Except ServiceError (Page MappedBlock)}
    (h : Course getLatestBlock log result) : LatestBlock log result := by
  unfold getLatestBlock at h
  rcases course_upstream_bind_iff.mp h with ⟨exc, rfl, rfl⟩ | ⟨status, rest, rfl, hstatus⟩
  · exact .statusFailed exc
  · rcases course_mapping_bind_iff.mp hstatus with ⟨e, he, rfl, rfl⟩ | ⟨members, hmembers, htip⟩
    · exact .statusBroken status e he
    · obtain rfl := Json.asDict_eq_ok_iff.mp hmembers
      dsimp only at htip
      split_ifs at htip with hnull
      · obtain ⟨rfl, rfl⟩ := course_raise_iff.mp htip
        exact .noTip members hnull
      · have hnull' : (members.get "last-round").isNull = false := by simpa using hnull
        rcases course_upstream_bind_iff.mp htip with ⟨exc, rfl, rfl⟩ | ⟨payload, rest, rfl, hblock⟩
        · exact .blockFailed members hnull' exc
        · have hend : rest = [] ∧ result =
              (mapping (mapBlock payload false)).map fun block => ⟨[block], none⟩ := by
            rcases course_mapping_bind_iff.mp hblock with ⟨e, he, rfl, rfl⟩ | ⟨block, hb, hpure⟩
            · rw [he]
              exact ⟨rfl, rfl⟩
            · obtain ⟨rfl, rfl⟩ := course_pure_iff.mp hpure
              rw [hb]
              exact ⟨rfl, rfl⟩
          obtain ⟨rfl, rfl⟩ := hend
          exact .answered members hnull' payload

/-! ### An archive that trails the node -/

/-- A node at round `tip`, and an indexer that has the blocks up to round `held`. -/
structure Trailing where
  tip : ℕ
  held : ℕ
  held_le : held ≤ tip
  /-- The other members of the node's status. -/
  statusRest : Dict
  block : ℕ → Json
  /-- The payload of a block is one that the mapper takes, and names its round. -/
  mapped_block : ∀ n ≤ held, ∃ block', mapBlock (block n) false = .ok block' ∧
    block'.height = .int n

/-- The 404 for a round that the indexer does not have. -/
def missingBlock (roundNumber : Json) : AlgorandError :=
  let path := (Call.block roundNumber).request.path
  .notFound path (getUrl mainnetConfig.indexerUrl path [])

theorem missingBlock_responseStatus (roundNumber : Json) :
    (missingBlock roundNumber).responseStatus = 404 := rfl

/-- What the indexer says of a round: its block, or 404. -/
def Trailing.answerBlock (upstreams : Trailing) (roundNumber : Json) : Except AlgorandError Json :=
  match roundNumber with
  | .int n =>
    if 0 ≤ n ∧ n.toNat ≤ upstreams.held then .ok (upstreams.block n.toNat)
    else .error (missingBlock roundNumber)
  | _ => .error (missingBlock roundNumber)

/-- The two upstreams, as the route sees them. -/
def Trailing.answer (upstreams : Trailing) : Call → Except AlgorandError Json
  | .status => .ok (.obj (("last-round", .int upstreams.tip) :: upstreams.statusRest))
  | .block roundNumber => upstreams.answerBlock roundNumber
  | _ => .ok .null

/-- The route answers with exactly one item, a round that the indexer holds, and not with 404. -/
def AnswersHeldBlock (upstreams : Trailing)
    (response : Except ServiceError (Page MappedBlock)) : Prop :=
  (∃ block, ∃ n ≤ upstreams.held, response = .ok ⟨[block], none⟩ ∧ block.height = .int n) ∧
    statusOf response ≠ 404

variable {now : ℚ} {cache : TTLCache Json}

/-- The indexer has the tip when it has caught up, and answers with 404 otherwise. -/
theorem Trailing.answerBlock_tip (upstreams : Trailing) :
    (upstreams.held = upstreams.tip ∧
      upstreams.answerBlock (.int upstreams.tip) = .ok (upstreams.block upstreams.tip)) ∨
    (upstreams.held ≠ upstreams.tip ∧
      upstreams.answerBlock (.int upstreams.tip) =
        .error (missingBlock (.int upstreams.tip))) := by
  have hle := upstreams.held_le
  unfold Trailing.answerBlock
  by_cases heq : upstreams.held = upstreams.tip
  · refine .inl ⟨heq, ?_⟩
    simp [heq]
  · have hlt : ¬ upstreams.tip ≤ upstreams.held := by omega
    refine .inr ⟨heq, ?_⟩
    simp [hlt]

/-- The route in that world asks the indexer for the node's tip. -/
theorem run_getLatestBlock (upstreams : Trailing) :
    (getLatestBlock.run (atOnce now upstreams.answer) cache).1 =
      match upstreams.answerBlock (.int upstreams.tip) with
      | .error exc => .error (.algorand exc)
      | .ok payload => (mapping (mapBlock payload false)).map fun block => ⟨[block], none⟩ := by
  unfold getLatestBlock
  rw [run_upstream_bind]
  show (Program.run _ (upstream (.block (.int upstreams.tip)) >>= _) cache).1 = _
  rw [run_upstream_bind]
  have hblock : upstreams.answer (.block (.int upstreams.tip)) =
      upstreams.answerBlock (.int upstreams.tip) := rfl
  rw [hblock]
  cases upstreams.answerBlock (.int upstreams.tip) with
  | error exc => rfl
  | ok payload =>
    dsimp only
    rw [Program.run_bind_fst]
    rfl

/-- **When the latest-block route works**: when the archive has caught up with the node. -/
theorem answersHeldBlock_iff (upstreams : Trailing) (now : ℚ) (cache : TTLCache Json) :
    AnswersHeldBlock upstreams (getLatestBlock.run (atOnce now upstreams.answer) cache).1 ↔
      upstreams.held = upstreams.tip := by
  rw [run_getLatestBlock]
  rcases upstreams.answerBlock_tip with ⟨heq, htip⟩ | ⟨hne, htip⟩
  · refine iff_of_true ?_ heq
    obtain ⟨block, hblock, hheight⟩ := upstreams.mapped_block upstreams.tip heq.ge
    rw [htip]
    dsimp only
    rw [hblock]
    exact ⟨⟨block, upstreams.tip, heq.ge, rfl, hheight⟩, (by decide : 200 ≠ 404)⟩
  · refine iff_of_false ?_ hne
    rw [htip]
    rintro ⟨-, h404⟩
    exact h404 (missingBlock_responseStatus (.int upstreams.tip))

/-- A block with nothing in it but its round. -/
def emptyBlock (n : ℕ) : Json := .obj [("round", .int n), ("timestamp", .int 1700000000)]

/-- An indexer one round behind. -/
def oneBehind : Trailing where
  tip := 7
  held := 6
  held_le := by decide
  statusRest := []
  block := emptyBlock
  mapped_block n _ := ⟨_, rfl, rfl⟩

/-- The tip is not there yet. -/
theorem latestBlock_behind :
    ¬ AnswersHeldBlock oneBehind
      (getLatestBlock.run (atOnce 0 oneBehind.answer) TTLCache.new).1 := by
  rintro ⟨-, h404⟩
  exact h404 rfl

end Algorandscout
