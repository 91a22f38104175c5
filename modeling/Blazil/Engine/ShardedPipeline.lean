import Blazil.Engine.Runtime

/-! The sharded pipeline (`core/engine/src/sharded_pipeline.rs`): independent pipelines with
one worker and a map of results each, and the rule that picks the pipeline of an event. -/

set_option autoImplicit false

namespace Blazil.Engine

open Blazil.Common Foundation

def routeToShard (accountId : UInt64) (shardCount : Nat) : Nat :=
  accountId.toNat &&& (shardCount - 1)

abbrev Shard := Runtime Unit Unit 1

structure ShardedPipeline where
  shards : List Shard

namespace ShardedPipeline

/-- The pipelines are built one after the other; the first that fails ends the construction. -/
def buildShards (capacity : Nat) (blank : Nat → Job Unit) : Nat → BlazerResult (List Shard)
  | 0 => .ok []
  | count + 1 =>
    match buildShards capacity blank count with
    | .error cause => .error cause
    | .ok shards =>
      match Pipeline.build Unit 1 capacity blank with
      | .error cause => .error cause
      | .ok pipeline => .ok (shards ++ [.started pipeline])

def new (shardCount capacity : Nat) (blank : Nat → Job Unit) : BlazerResult ShardedPipeline :=
  (buildShards capacity blank shardCount).map ShardedPipeline.mk

def shardCount (pipeline : ShardedPipeline) : Nat := pipeline.shards.length

def shardResults (pipeline : ShardedPipeline) (shardId : Nat) : Option Results :=
  pipeline.shards[shardId]?.map fun shard => shard.results

def route (pipeline : ShardedPipeline) (event : TransactionEvent) : Nat :=
  routeToShard event.debitAccountId.value pipeline.shardCount

def setShard (pipeline : ShardedPipeline) (shardId : Nat) (shard : Shard) : ShardedPipeline :=
  ⟨pipeline.shards.set shardId shard⟩

@[simp] theorem shardCount_setShard (pipeline : ShardedPipeline) (shardId : Nat) (shard : Shard) :
    (pipeline.setShard shardId shard).shardCount = pipeline.shardCount := by
  simp [setShard, shardCount]

@[simp] theorem route_setShard (pipeline : ShardedPipeline) (shardId : Nat) (shard : Shard)
    (event : TransactionEvent) : (pipeline.setShard shardId shard).route event = pipeline.route event := by
  simp [route]

variable {capacity : Nat} {blank : Nat → Job Unit} {pipeline : ShardedPipeline}

theorem buildShards_ok {count shards} (built : buildShards capacity blank count = .ok shards) :
    shards.length = count ∧ ∀ shard ∈ shards, ∃ pipeline,
      Pipeline.build Unit 1 capacity blank = .ok pipeline ∧ shard = .started pipeline := by
  induction count generalizing shards with
  | zero =>
    cases built
    simp
  | succ _ ih =>
    rw [buildShards] at built
    split at built
    · cases built
    · next earlier earlierBuilt =>
      obtain ⟨length, all⟩ := ih earlierBuilt
      split at built
      · cases built
      · next pipeline pipelineBuilt =>
        cases built
        refine ⟨by simp [length], fun shard member => ?_⟩
        rcases List.mem_append.mp member with old | last
        · exact all shard old
        · exact ⟨pipeline, pipelineBuilt, List.mem_singleton.mp last⟩

theorem new_ok {shardCount : Nat} (built : new shardCount capacity blank = .ok pipeline) :
    pipeline.shardCount = shardCount ∧ ∀ shard ∈ pipeline.shards, ∃ first,
      Pipeline.build Unit 1 capacity blank = .ok first ∧ shard = .started first := by
  unfold new at built
  cases made : buildShards capacity blank shardCount with rw [made] at built
  | error =>
    cases built
  | ok =>
    cases built
    exact buildShards_ok made

def HasPublished (pipeline : ShardedPipeline) (shardId : Nat) (event : TransactionEvent) (sequence : Int) : Prop :=
  ∃ shard ∈ pipeline.shards[shardId]?, ∃ source ∈ shard.pipeline.published,
    source.sequence = sequence ∧ source.event.event = event

instance (pipeline : ShardedPipeline) (shardId : Nat) (event : TransactionEvent)
    (sequence : Int) : Decidable (pipeline.HasPublished shardId event sequence) :=
  inferInstanceAs (Decidable (∃ shard ∈ pipeline.shards[shardId]?, _))

def Homed (pipeline : ShardedPipeline) : Prop :=
  ∀ shardId event sequence, pipeline.HasPublished shardId event sequence → pipeline.route event = shardId

theorem homed_new {shardCount : Nat} (built : new shardCount capacity blank = .ok pipeline) : pipeline.Homed := by
  intro shardId event sequence held
  obtain ⟨shard, found, _, member, _⟩ := held
  obtain ⟨_, firstBuilt, rfl⟩ := (new_ok built).2 shard (List.mem_of_getElem? found)
  obtain ⟨_, rfl⟩ := Pipeline.build_eq firstBuilt
  cases member

theorem hasPublished_setShard {index shardId shard next added event sequence} (found : pipeline.shards[index]? = some shard)
    (grown : next.pipeline.published = shard.pipeline.published ++ added) :
    (pipeline.setShard index next).HasPublished shardId event sequence ↔
      pipeline.HasPublished shardId event sequence ∨ shardId = index ∧
        ∃ source ∈ added, source.sequence = sequence ∧ source.event.event = event := by
  have bound := entry_lt found
  unfold HasPublished setShard
  by_cases same : shardId = index
  · subst same
    simp [List.getElem?_set_self bound, found, grown, or_and_right, exists_or]
  · simp [List.getElem?_set_ne (Ne.symm same), same]

end ShardedPipeline

/-- Masking agrees with the remainder for every account exactly if the count of shards is a
power of two. -/
theorem routeToShard_eq_mod_iff {shardCount : Nat} (positive : 0 < shardCount) (small : shardCount < 2 ^ 64) :
    (∀ accountId : UInt64, routeToShard accountId shardCount = accountId.toNat % shardCount) ↔
      isPowerOfTwo shardCount = true := by
  constructor
  · intro agree
    -- The account whose number is the count has remainder zero.
    have own := agree (UInt64.ofNat shardCount)
    rw [routeToShard, UInt64.toNat_ofNat_of_lt' small, Nat.mod_self] at own
    simp [isPowerOfTwo, own, Nat.ne_of_gt positive]
  · intro power accountId
    obtain ⟨_, rfl⟩ := isPowerOfTwo_spec power
    exact Nat.and_two_pow_sub_one_eq_mod _ _

end Blazil.Engine
