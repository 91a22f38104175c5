import Blazil.Foundation.Entries
import Blazil.Foundation.Totals
import Blazil.Foundation.Transition
import Mathlib.Tactic.Linarith

/-! The token bucket (`core/transport/src/rate_limit.rs`). Calls of `try_consume` run at the same
time, and each load and each compare-and-exchange is a step of its own. The clock does not run
backwards. Arithmetic on `i64` wraps around.

What can be taken is not only what the bucket holds: a call that has claimed some time but has not
added its tokens yet holds some as well, and so does the time since the last refill. A refill that
adds no token leaves the time of the last one as it is; a refill that does add some forgets the part
of a token that was earned besides. -/

set_option autoImplicit false

namespace Blazil.Transport

open Foundation

def asI64 (number : Int) : Int := number.bmod (2 ^ 64)

structure TokenBucket where
  tokens : Int
  lastRefillNs : Nat
  rate : Nat
  capacity : Int
deriving DecidableEq

def TokenBucket.new (rate capacity : UInt64) (nowNs : Nat) : TokenBucket :=
  ⟨asI64 capacity.toNat, nowNs, rate.toNat, asI64 capacity.toNat⟩

inductive AcquirePhase where
  | readClock
  | loadLast (nowNs : Nat)
  | swapLast (nowNs lastNs : Nat)
  | loadForRefill (tokensToAdd : Nat)
  | swapForRefill (current : Int) (tokensToAdd : Nat)
  | loadForTake
  | swapForTake (current : Int)
  | returned (granted : Bool)
deriving DecidableEq

def tokensFor (rate elapsedNs : Nat) : Nat := rate * elapsedNs / 1000000000

namespace TokenBucket

/-- One step of a call: what becomes of the bucket and of the call. -/
def advance (bucket : TokenBucket) (clock : Nat) : AcquirePhase → Option (TokenBucket × AcquirePhase)
  | .readClock => some (bucket, .loadLast clock)
  | .loadLast nowNs =>
    -- The subtraction saturates, so that a stale reading refills nothing.
    if nowNs - bucket.lastRefillNs = 0 then some (bucket, .loadForTake)
    else if tokensFor bucket.rate (nowNs - bucket.lastRefillNs) = 0 then
      some (bucket, .loadForTake)
    else some (bucket, .swapLast nowNs bucket.lastRefillNs)
  | .swapLast nowNs lastNs =>
    if bucket.lastRefillNs = lastNs then
      some ({ bucket with lastRefillNs := nowNs },
        .loadForRefill (tokensFor bucket.rate (nowNs - lastNs)))
    else some (bucket, .loadForTake)
  | .loadForRefill tokensToAdd => some (bucket, .swapForRefill bucket.tokens tokensToAdd)
  | .swapForRefill current tokensToAdd =>
    if bucket.tokens = current then
      some ({ bucket with
        tokens := min (asI64 (current + asI64 tokensToAdd)) bucket.capacity }, .loadForTake)
    else some (bucket, .loadForRefill tokensToAdd)
  | .loadForTake =>
    if bucket.tokens ≤ 0 then some (bucket, .returned false)
    else some (bucket, .swapForTake bucket.tokens)
  | .swapForTake current =>
    if bucket.tokens = current then
      some ({ bucket with tokens := current - 1 }, .returned true)
    else some (bucket, .loadForTake)
  | .returned _ => none

/-- The whole of `refill`, if no other call comes in between. -/
def refill (bucket : TokenBucket) (nowNs : Nat) : TokenBucket :=
  if nowNs - bucket.lastRefillNs = 0 then bucket
  else if tokensFor bucket.rate (nowNs - bucket.lastRefillNs) = 0 then bucket
  else
    { bucket with
      lastRefillNs := nowNs
      tokens := min (asI64 (bucket.tokens + asI64 (tokensFor bucket.rate (nowNs - bucket.lastRefillNs)))) bucket.capacity }

end TokenBucket

/-- A bucket, the clock, the calls so far, and how many of them have got a token. -/
structure BucketRun where
  bucket : TokenBucket
  clock : Nat
  calls : List AcquirePhase
  granted : Nat
deriving DecidableEq

inductive BucketLabel where
  | start
  | advance (call : Nat)
  | tick (ns : Nat)
deriving DecidableEq

namespace BucketRun

def created (rate capacity : UInt64) (nowNs : Nat) : BucketRun :=
  ⟨.new rate capacity nowNs, nowNs, [], 0⟩

def takes (before after : AcquirePhase) : Bool :=
  match before, after with
  | .swapForTake _, .returned true => true
  | _, _ => false

def step (run : BucketRun) : BucketLabel → Option BucketRun
  | .start => some { run with calls := run.calls ++ [.readClock] }
  | .tick ns => some { run with clock := run.clock + ns }
  | .advance call =>
    match run.calls[call]? with
    | none => none
    | some phase =>
      match run.bucket.advance run.clock phase with
      | none => none
      | some (bucket, next) =>
        some { run with
          bucket := bucket
          calls := run.calls.set call next
          granted := run.granted + if takes phase next then 1 else 0 }

def system : System BucketRun BucketLabel := ⟨step⟩

end BucketRun

def nsPerSecond : Int := 1000000000

/-- The tokens that a refill under way still adds, for a bucket with this capacity. -/
def AcquirePhase.pending (capacity : Int) : AcquirePhase → Int
  | .loadForRefill tokensToAdd | .swapForRefill _ tokensToAdd => min tokensToAdd (max capacity 0)
  | _ => 0

theorem AcquirePhase.pending_nonneg (capacity : Int) (phase : AcquirePhase) : 0 ≤ phase.pending capacity := by
  cases phase <;> simp [pending]

/-- What holds of the values that a call has read, if it has read the clock since some time. -/
def AcquirePhase.Read (since clock : Nat) : AcquirePhase → Prop
  | .loadLast nowNs => since ≤ nowNs ∧ nowNs ≤ clock
  | .swapLast nowNs lastNs => lastNs ≤ nowNs ∧ since ≤ nowNs ∧ nowNs ≤ clock
  | .swapForTake current => 0 < current
  | _ => True

theorem AcquirePhase.Read.mono {since clock later : Nat} (forward : clock ≤ later)
    {phase : AcquirePhase} (read : phase.Read since clock) : phase.Read since later := by
  cases phase with
  | loadLast => exact ⟨read.1, Nat.le_trans read.2 forward⟩
  | swapLast => exact ⟨read.1, read.2.1, Nat.le_trans read.2.2 forward⟩
  | readClock | loadForRefill | swapForRefill | loadForTake | swapForTake | returned => exact read

theorem asI64_range (number : Int) : -2 ^ 63 ≤ asI64 number ∧ asI64 number < 2 ^ 63 := by
  unfold asI64
  constructor
  · have := @Int.le_bmod number (2 ^ 64) (by decide)
    omega
  · have := @Int.bmod_lt number (2 ^ 64) (by decide)
    omega

theorem asI64_of_range {number : Int} (low : -2 ^ 63 ≤ number) (high : number < 2 ^ 63) : asI64 number = number := by
  exact Int.bmod_eq_of_le (by omega) (by omega)

/-- However the sum wraps around, no more than the added tokens can come of it, nor more than the capacity. -/
theorem refilled_le {current capacity : Int} {tokensToAdd : Nat} (low : -2 ^ 63 ≤ current) :
    max (min (asI64 (current + asI64 tokensToAdd)) capacity) 0 ≤ max current 0 + min (tokensToAdd : Int) (max capacity 0) := by
  by_cases small : (tokensToAdd : Int) < 2 ^ 63
  · rw [asI64_of_range (by omega) small]
    by_cases fits : current + tokensToAdd < 2 ^ 63
    · rw [asI64_of_range (by omega) fits]
      omega
    · have := asI64_range (current + tokensToAdd)
      omega
  · have := asI64_range (current + asI64 tokensToAdd)
    omega

namespace TokenBucket

/-- What the time from the last refill to another is worth. No refill for it adds more than the capacity. -/
def idle (bucket : TokenBucket) (since : Nat) : Int :=
  min (bucket.rate * (since - bucket.lastRefillNs : Nat)) (nsPerSecond * max bucket.capacity 0)

/-- What the bucket holds and can be refilled up to some time, less what all time before is worth. -/
def worth (bucket : TokenBucket) (since : Nat) : Int :=
  nsPerSecond * max bucket.tokens 0 + bucket.idle since - bucket.rate * (max since bucket.lastRefillNs : Nat)

structure Sound (bucket : TokenBucket) (since clock : Nat) : Prop where
  low : -2 ^ 63 ≤ bucket.tokens
  capacity : -2 ^ 63 ≤ bucket.capacity
  past : bucket.lastRefillNs ≤ clock
  begun : since ≤ clock

theorem tokensFor_le {rate lastNs nowNs : Nat} (ordered : lastNs ≤ nowNs) :
    nsPerSecond * tokensFor rate (nowNs - lastNs) ≤ rate * nowNs - (rate * lastNs : Int) := by
  have whole : tokensFor rate (nowNs - lastNs) * 1000000000 ≤ rate * (nowNs - lastNs) :=
    Nat.div_mul_le_self _ _
  have split : rate * (nowNs - lastNs) + rate * lastNs = rate * nowNs := by
    rw [← Nat.mul_add, Nat.sub_add_cancel ordered]
  unfold nsPerSecond
  omega

/-- One step of a call: nothing is gained, and a taken token is paid for. -/
structure Pays (bucket after : TokenBucket) (since clock : Nat) (phase next : AcquirePhase) : Prop where
  rate : after.rate = bucket.rate
  capacity : after.capacity = bucket.capacity
  sound : after.Sound since clock
  read : next.Read since clock
  paid : after.worth since + nsPerSecond * next.pending bucket.capacity +
      nsPerSecond * (if BucketRun.takes phase next then 1 else 0) ≤
    bucket.worth since + nsPerSecond * phase.pending bucket.capacity

variable {bucket after : TokenBucket} {since clock : Nat} {phase next : AcquirePhase}

theorem Pays.look (sound : bucket.Sound since clock) (read : next.Read since clock)
    (pending : next.pending bucket.capacity = phase.pending bucket.capacity) (untaken : BucketRun.takes phase next = false) :
    bucket.Pays bucket since clock phase next where
  rate := rfl
  capacity := rfl
  sound := sound
  read := read
  paid := by simp [pending, untaken]

theorem idle_nonneg : 0 ≤ bucket.idle since :=
  le_min (mul_nonneg (Int.natCast_nonneg _) (Int.natCast_nonneg _)) (mul_nonneg (by decide) (le_max_right _ _))

theorem claimed_le {nowNs : Nat} (ordered : bucket.lastRefillNs ≤ nowNs) (fresh : since ≤ nowNs) :
    nsPerSecond * min (tokensFor bucket.rate (nowNs - bucket.lastRefillNs) : Int) (max bucket.capacity 0) ≤
      bucket.idle since + bucket.rate * nowNs - bucket.rate * (max since bucket.lastRefillNs : Nat) := by
  have whole := @tokensFor_le bucket.rate _ _ ordered
  have least := min_le_left (tokensFor bucket.rate (nowNs - bucket.lastRefillNs) : Int) (max bucket.capacity 0)
  have most := min_le_right (tokensFor bucket.rate (nowNs - bucket.lastRefillNs) : Int) (max bucket.capacity 0)
  have later : (bucket.rate : Int) * (max since bucket.lastRefillNs : Nat) ≤ bucket.rate * nowNs := by
    exact_mod_cast Nat.mul_le_mul_left _ (Nat.max_le.mpr ⟨fresh, ordered⟩)
  have split : (bucket.rate : Int) * (since - bucket.lastRefillNs : Nat) =
      bucket.rate * (max since bucket.lastRefillNs : Nat) - bucket.rate * bucket.lastRefillNs := by
    rw [← mul_sub]
    congr 1
    omega
  have parts : bucket.idle since = bucket.rate * (since - bucket.lastRefillNs : Nat) ∨
      bucket.idle since = nsPerSecond * max bucket.capacity 0 := min_choice _ _
  unfold nsPerSecond at *
  rcases parts with whole | capped <;> linarith

theorem advance_pays (sound : bucket.Sound since clock) (read : phase.Read since clock)
    (advanced : bucket.advance clock phase = some (after, next)) : bucket.Pays after since clock phase next := by
  cases phase with simp only [advance] at advanced
  | readClock =>
    cases advanced
    exact .look sound ⟨sound.begun, Nat.le_refl clock⟩ rfl rfl
  | loadLast =>
    split at advanced
    · cases advanced
      exact .look sound trivial rfl rfl
    · next elapsed =>
      split at advanced
      · cases advanced
        exact .look sound trivial rfl rfl
      · cases advanced
        exact .look sound ⟨by omega, read⟩ rfl rfl
  | swapLast nowNs lastNs =>
    split at advanced
    · next same =>
      cases advanced
      subst same
      have claimed := claimed_le read.1 read.2.1
      refine ⟨rfl, rfl, ⟨sound.low, sound.capacity, read.2.2, sound.begun⟩, trivial, ?_⟩
      have none : TokenBucket.idle { bucket with lastRefillNs := nowNs } since = 0 := by
        simp [idle, Nat.sub_eq_zero_of_le read.2.1, nsPerSecond]
      simp only [worth, none, Nat.max_eq_right read.2.1, AcquirePhase.pending, BucketRun.takes, Bool.false_eq_true, if_false]
      linarith
    · cases advanced
      exact .look sound trivial rfl rfl
  | loadForRefill =>
    cases advanced
    exact .look sound trivial rfl rfl
  | swapForRefill _ tokensToAdd =>
    split at advanced
    · next same =>
      cases advanced
      subst same
      have bound := @refilled_le bucket.tokens bucket.capacity tokensToAdd sound.low
      refine ⟨rfl, rfl, ⟨?_, sound.capacity, sound.past, sound.begun⟩, trivial, ?_⟩
      · exact le_min (asI64_range _).1 sound.capacity
      · simp only [worth, idle, AcquirePhase.pending, BucketRun.takes, Bool.false_eq_true, if_false, nsPerSecond]
        linarith
    · cases advanced
      exact .look sound trivial rfl rfl
  | loadForTake =>
    split at advanced
    · cases advanced
      exact .look sound trivial rfl rfl
    · next some =>
      cases advanced
      exact .look sound (Int.lt_of_not_ge some) rfl rfl
  | swapForTake =>
    split at advanced
    · next same =>
      cases advanced
      subst same
      have positive : 0 < bucket.tokens := read
      have low : -2 ^ 63 ≤ bucket.tokens - 1 := by omega
      refine ⟨rfl, rfl, ⟨low, sound.capacity, sound.past, sound.begun⟩, trivial, ?_⟩
      simp only [worth, idle, AcquirePhase.pending, BucketRun.takes, if_true, nsPerSecond]
      rw [max_eq_left positive.le, max_eq_left (by omega)]
      linarith
    · cases advanced
      exact .look sound trivial rfl rfl
  | returned => cases advanced

end TokenBucket

namespace BucketRun

def pending (run : BucketRun) : Int := total (AcquirePhase.pending run.bucket.capacity) run.calls

structure Sound (run : BucketRun) (since : Nat) : Prop where
  bucket : run.bucket.Sound since run.clock
  calls : ∀ phase ∈ run.calls, phase.Read since run.clock

/-- What has been taken and can still be taken, less what time has refilled. -/
def account (run : BucketRun) (since : Nat) : Int :=
  run.bucket.worth since + nsPerSecond * run.pending + nsPerSecond * run.granted

/-- No step raises the account, and only the clock moves in time. -/
structure Accounts (since : Nat) (run after : BucketRun) : Prop where
  rate : after.bucket.rate = run.bucket.rate
  clock : run.clock ≤ after.clock
  sound : after.Sound since
  account : after.account since ≤ run.account since

variable {run after : BucketRun} {since : Nat}

theorem step_accounts {label : BucketLabel} (sound : run.Sound since)
    (stepped : run.step label = some after) : Accounts since run after := by
  cases label with
  | start =>
    cases stepped
    refine ⟨rfl, Nat.le_refl _, ⟨sound.bucket, ?_⟩, ?_⟩
    · exact holds_after_concat sound.calls trivial
    · simp [account, pending, AcquirePhase.pending]
  | tick =>
    cases stepped
    refine ⟨rfl, Nat.le_add_right _ _, ⟨⟨sound.bucket.low, sound.bucket.capacity, ?_, ?_⟩, ?_⟩, Int.le_refl _⟩
    · exact Nat.le_trans sound.bucket.past (Nat.le_add_right _ _)
    · exact Nat.le_trans sound.bucket.begun (Nat.le_add_right _ _)
    · intro phase member
      exact (sound.calls phase member).mono (Nat.le_add_right _ _)
  | advance call =>
    unfold step at stepped
    cases found : run.calls[call]? with
    | none => simp [found] at stepped
    | some phase =>
      cases advanced : run.bucket.advance run.clock phase with
      | none => simp [found, advanced] at stepped
      | some =>
        simp only [found, advanced, Option.some.injEq] at stepped
        subst stepped
        have member : phase ∈ run.calls := List.mem_of_getElem? found
        have pays := TokenBucket.advance_pays sound.bucket (sound.calls phase member) advanced
        refine ⟨pays.rate, Nat.le_refl _, ⟨pays.sound, holds_after_set sound.calls pays.read⟩, ?_⟩
        have paid := pays.paid
        simp only [account, pending, pays.capacity, total_set found]
        push_cast
        linarith

theorem Accounts.trans {middle : BucketRun} (first : Accounts since run middle)
    (second : Accounts since middle after) : Accounts since run after :=
  ⟨second.rate.trans first.rate, Nat.le_trans first.clock second.clock, second.sound, Int.le_trans second.account first.account⟩

theorem accounts_of_reachable (sound : run.Sound since) (reached : system.Reachable run after) : Accounts since run after := by
  apply reached.invariant (fun after => Accounts since run after) ⟨rfl, Nat.le_refl _, sound, Int.le_refl _⟩
  intro before label next _ stepped accounts
  exact accounts.trans (step_accounts accounts.sound stepped)

theorem created_sound (rate capacity : UInt64) (nowNs : Nat) : (created rate capacity nowNs).Sound 0 := by
  have low := (asI64_range capacity.toNat).1
  refine ⟨⟨?_, ?_, Nat.le_refl nowNs, Nat.zero_le nowNs⟩, ?_⟩
  · simpa only [created, TokenBucket.new] using low
  · simpa only [created, TokenBucket.new] using low
  · simp [created]

/-- The reading of the clock that a call goes by. -/
def readingOf : AcquirePhase → Option Nat
  | .loadLast nowNs | .swapLast nowNs _ => some nowNs
  | _ => none

/-- The earliest time up to which a call may still claim what has not been refilled. -/
def earliest (run : BucketRun) : Nat := (run.calls.filterMap readingOf).foldr min run.clock

/-- All that calls can take at once, in billionths of a token: what the bucket holds, what has
been claimed for it, and what the time since the last refill is worth, of which the part that
can only be claimed at once is worth the capacity at most. -/
def stock (run : BucketRun) : Int :=
  nsPerSecond * max run.bucket.tokens 0 + nsPerSecond * run.pending + run.bucket.idle run.earliest +
    run.bucket.rate * (run.clock - (max run.earliest run.bucket.lastRefillNs : Nat))

theorem earliest_spec (run : BucketRun) :
    run.earliest ≤ run.clock ∧ ∀ phase ∈ run.calls, ∀ nowNs ∈ readingOf phase, run.earliest ≤ nowNs := by
  unfold earliest
  induction run.calls with
  | nil => simp
  | cons phase _ ih =>
    obtain ⟨past, least⟩ := ih
    cases reading : readingOf phase with
    | none => simpa [reading] using ⟨past, least⟩
    | some nowNs =>
      simp only [List.filterMap_cons, reading, List.foldr_cons, List.mem_cons, forall_eq_or_imp, Option.mem_some_iff, forall_eq']
      exact ⟨(min_le_right _ _).trans past, min_le_left _ _, fun other member time read =>
        (min_le_right _ _).trans (least other member time read)⟩

theorem Sound.recent (sound : run.Sound since) : run.Sound run.earliest := by
  obtain ⟨past, least⟩ := run.earliest_spec
  refine ⟨{ sound.bucket with begun := past }, fun phase member => ?_⟩
  have read := sound.calls phase member
  cases phase with
  | loadLast => exact ⟨least _ member _ rfl, read.2⟩
  | swapLast => exact ⟨read.1, least _ member _ rfl, read.2.2⟩
  | readClock | loadForRefill | swapForRefill | loadForTake | swapForTake | returned => exact read

theorem pending_nonneg (run : BucketRun) : 0 ≤ run.pending := by
  unfold pending
  induction run.calls with
  | nil => exact Int.le_refl 0
  | cons phase _ ih => exact add_nonneg (phase.pending_nonneg _) ih

theorem stock_created (rate capacity : UInt64) (nowNs : Nat) :
    (created rate capacity nowNs).stock ≤ nsPerSecond * capacity.toNat := by
  have bound : max (asI64 capacity.toNat) 0 ≤ capacity.toNat := by
    by_cases small : (capacity.toNat : Int) < 2 ^ 63
    · rw [asI64_of_range (by omega) small]
      omega
    · have := asI64_range capacity.toNat
      omega
  simp only [stock, created, TokenBucket.new, TokenBucket.idle, pending, earliest, List.filterMap_nil, List.foldr_nil, total_nil,
    Nat.sub_self, Nat.max_self, nsPerSecond]
  have none := min_le_left ((rate.toNat : Int) * (0 : Nat)) (1000000000 * max (asI64 capacity.toNat) 0)
  push_cast at none ⊢
  linarith

theorem granted_le_stock {first last : BucketRun} (accounts : Accounts first.earliest first last) :
    nsPerSecond * (last.granted - first.granted) ≤ first.stock + first.bucket.rate * (last.clock - first.clock) := by
  have total := accounts.account
  have held : 0 ≤ nsPerSecond * max last.bucket.tokens 0 :=
    mul_nonneg (by decide) (le_max_right _ _)
  have claimed : 0 ≤ nsPerSecond * last.pending := mul_nonneg (by decide) last.pending_nonneg
  have idle := @TokenBucket.idle_nonneg last.bucket first.earliest
  have past : (last.bucket.rate : Int) * (max first.earliest last.bucket.lastRefillNs : Nat) ≤ last.bucket.rate * last.clock := by
    exact_mod_cast Nat.mul_le_mul_left _ (Nat.max_le.mpr ⟨accounts.sound.bucket.begun, accounts.sound.bucket.past⟩)
  rw [accounts.rate] at past
  simp only [account, TokenBucket.worth, accounts.rate] at total
  unfold stock
  linarith

/-- Between two moments of any run, the calls get at most as many tokens as the capacity and
the rate allow, if no more than the capacity was in stock at the first moment. When the
bucket is made this is so; in general the stock takes the place of the capacity. -/
theorem granted_within_rate {rate capacity : UInt64} {nowNs : Nat} {first last : BucketRun}
    (reached : system.Reachable (created rate capacity nowNs) first) (continued : system.Reachable first last) :
    nsPerSecond * (last.granted - first.granted) ≤ first.stock + rate.toNat * (last.clock - first.clock) ∧
      (first.stock ≤ nsPerSecond * capacity.toNat → nsPerSecond * (last.granted - first.granted) ≤
          nsPerSecond * capacity.toNat + rate.toNat * (last.clock - first.clock)) ∧
      (created rate capacity nowNs).stock ≤ nsPerSecond * capacity.toNat := by
  have start := accounts_of_reachable (created_sound rate capacity nowNs) reached
  have within := granted_le_stock (accounts_of_reachable start.sound.recent continued)
  have same : first.bucket.rate = rate.toNat := start.rate
  rw [same] at within
  refine ⟨within, fun settled => ?_, stock_created rate capacity nowNs⟩
  linarith

def takeSteps (call : Nat) : List BucketLabel := List.replicate 4 (.advance call)

def rested : BucketRun := ⟨⟨0, 0, 1, 2⟩, 3600000000000, [.returned true, .returned true], 2⟩

/-- Two more calls get a token each after the hour, and a third one a second later. -/
theorem rested_within : ∃ last, system.Reachable (created 1 2 0) rested ∧ system.Reachable rested last ∧ last.granted = 5 ∧
    nsPerSecond * (last.granted - (2 : Int)) ≤ nsPerSecond * 2 + 1 * (last.clock - (3600000000000 : Int)) := by
  have reached : system.Reachable (created 1 2 0) rested :=
    System.reachable_of_run (show system.run (created 1 2 0) ([.start, .start] ++ takeSteps 0 ++ takeSteps 1 ++
      [.tick 3600000000000]) = some rested by decide +kernel)
  obtain ⟨last, continued, granted⟩ := System.exists_reachable_of_run system rested
    ([.start, .start, .start] ++ List.replicate 7 (.advance 2) ++ takeSteps 3 ++ [.tick 1000000000] ++
      List.replicate 7 (.advance 4))
    (fun last => last.granted = 5) (by decide +kernel)
  exact ⟨last, reached, continued, granted, (@granted_within_rate 1 2 0 _ _ reached continued).2.1 (by decide +kernel)⟩

def claimed : BucketRun :=
  ⟨⟨1, 1000000000, 1, 1⟩, 1000000000, [.loadForRefill 1], 0⟩

def untouched : BucketRun := ⟨⟨1, 0, 1, 1⟩, 900000000, [], 0⟩

/-- Buckets of one token that get one token each second. While the refill of the first call
is under way, the second call takes the token that was there, and the first one adds another
and takes it: two at the same instant. Without any overlap, a token that is taken late in a
second is replaced when that second is over: two within a tenth of a second. -/
theorem pendingRefill_exceeds : (∃ last, system.Reachable (created 1 1 0) claimed ∧ system.Reachable claimed last ∧
      last.clock = claimed.clock ∧ last.granted = claimed.granted + 2) ∧
    ∃ last, system.Reachable (created 1 1 0) untouched ∧ system.Reachable untouched last ∧
      last.clock = untouched.clock + 100000000 ∧ last.granted = untouched.granted + 2 := by
  constructor
  · have reached : system.Reachable (created 1 1 0) claimed :=
      System.reachable_of_run (show system.run (created 1 1 0)
        ([.tick 1000000000, .start] ++ List.replicate 3 (.advance 0)) = some claimed by
          decide)
    obtain ⟨last, continued, same, granted⟩ := System.exists_reachable_of_run system claimed
      (.start :: takeSteps 1 ++ List.replicate 4 (.advance 0))
      (fun last => last.clock = claimed.clock ∧ last.granted = claimed.granted + 2)
      (by decide +kernel)
    exact ⟨last, reached, continued, same, granted⟩
  · have reached : system.Reachable (created 1 1 0) untouched :=
      System.reachable_of_run (show system.run (created 1 1 0) [.tick 900000000] = some untouched by
        decide +kernel)
    obtain ⟨last, continued, later, granted⟩ := System.exists_reachable_of_run system untouched
      (.start :: takeSteps 0 ++ [.tick 100000000, .start] ++ List.replicate 7 (.advance 1))
      (fun last => last.clock = untouched.clock + 100000000 ∧ last.granted = untouched.granted + 2) (by decide +kernel)
    exact ⟨last, reached, continued, later, granted⟩

end BucketRun

theorem tokensFor_add (rate first second : Nat) : tokensFor rate (first + second) = tokensFor rate first + tokensFor rate second +
      if rate * first % 1000000000 + rate * second % 1000000000 < 1000000000 then 0 else 1 := by
  unfold tokensFor
  rw [Nat.mul_add]
  split <;> omega

theorem asI64_add_asI64 (left right : Int) : asI64 (left + asI64 right) = asI64 (left + right) :=
  Int.add_bmod_bmod

theorem asI64_asI64_add (left right : Int) : asI64 (asI64 left + right) = asI64 (left + right) :=
  Int.bmod_add_bmod

theorem asI64_succ_ne (number : Int) : asI64 (number + 1) ≠ asI64 number := by
  intro same
  have sum := asI64_asI64_add number 1
  have range := asI64_range number
  by_cases fits : asI64 number + 1 < 2 ^ 63
  · rw [asI64_of_range (by omega) fits] at sum
    omega
  · have last : asI64 number = 2 ^ 63 - 1 := by omega
    rw [← sum, last] at same
    revert same
    decide

namespace TokenBucket

/-- A call that runs alone has refilled the bucket when it comes to taking a token. -/
theorem refill_alone (bucket : TokenBucket) (clock granted : Nat) :
    BucketRun.system.Reachable ⟨bucket, clock, [.readClock], granted⟩ ⟨bucket.refill clock, clock, [.loadForTake], granted⟩ := by
  by_cases elapsed : clock - bucket.lastRefillNs = 0
  · apply System.reachable_of_run (show BucketRun.system.run _ (.replicate 2 (.advance 0)) = _ from ?_)
    simp [BucketRun.system, System.run, BucketRun.step, advance, refill, elapsed, BucketRun.takes]
  · by_cases added : tokensFor bucket.rate (clock - bucket.lastRefillNs) = 0
    · apply System.reachable_of_run (show BucketRun.system.run _ (.replicate 2 (.advance 0)) = _ from ?_)
      simp [BucketRun.system, System.run, BucketRun.step, advance, refill, elapsed, added, BucketRun.takes]
    · apply System.reachable_of_run (show BucketRun.system.run _ (.replicate 5 (.advance 0)) = _ from ?_)
      simp [BucketRun.system, System.run, BucketRun.step, advance, refill, elapsed, added, BucketRun.takes]

variable {bucket : TokenBucket} {nowNs first second : Nat}

theorem refill_of_none (none : tokensFor bucket.rate (nowNs - bucket.lastRefillNs) = 0) : bucket.refill nowNs = bucket := by
  unfold refill
  rw [if_pos none, ite_self]

theorem refill_of_some (some : tokensFor bucket.rate (nowNs - bucket.lastRefillNs) ≠ 0) : bucket.refill nowNs = { bucket with
      lastRefillNs := nowNs
      tokens := min (asI64 (bucket.tokens + tokensFor bucket.rate (nowNs - bucket.lastRefillNs))) bucket.capacity } := by
  have elapsed : nowNs - bucket.lastRefillNs ≠ 0 := by
    intro none
    rw [none] at some
    exact some (by simp [tokensFor])
  rw [refill, if_neg elapsed, if_neg some, asI64_add_asI64]

@[simp] theorem refill_rate : (bucket.refill nowNs).rate = bucket.rate := by
  unfold refill
  split_ifs <;> rfl

@[simp] theorem refill_capacity : (bucket.refill nowNs).capacity = bucket.capacity := by
  unfold refill
  split_ifs <;> rfl

theorem refill_tokens (low : -2 ^ 63 ≤ bucket.tokens) (high : bucket.tokens < 2 ^ 63)
    (below : (bucket.refill nowNs).tokens < bucket.capacity) :
    (bucket.refill nowNs).tokens = asI64 (bucket.tokens + tokensFor bucket.rate (nowNs - bucket.lastRefillNs)) := by
  by_cases none : tokensFor bucket.rate (nowNs - bucket.lastRefillNs) = 0
  · rw [refill_of_none none, none, Nat.cast_zero, add_zero, asI64_of_range low high]
  · rw [refill_of_some none] at below ⊢
    exact min_eq_left ((min_lt_iff.mp below).resolve_right (lt_irrefl _)).le

/-- While the capacity is not reached, two refills leave the same number of tokens as one
exactly if the first of them adds none, or if the parts of a token that the two stretches of
time earn do not make up a whole one together. -/
theorem refill_refill_tokens_iff (low : -2 ^ 63 ≤ bucket.tokens) (high : bucket.tokens < 2 ^ 63)
    (past : bucket.lastRefillNs ≤ first) (later : first ≤ second) (belowFirst : (bucket.refill first).tokens < bucket.capacity)
    (belowSecond : ((bucket.refill first).refill second).tokens < bucket.capacity)
    (belowOnce : (bucket.refill second).tokens < bucket.capacity) :
    ((bucket.refill first).refill second).tokens = (bucket.refill second).tokens ↔
      bucket.rate * (first - bucket.lastRefillNs) < 1000000000 ∨
      bucket.rate * (first - bucket.lastRefillNs) % 1000000000 + bucket.rate * (second - first) % 1000000000 < 1000000000 := by
  have none_iff : tokensFor bucket.rate (first - bucket.lastRefillNs) = 0 ↔
      bucket.rate * (first - bucket.lastRefillNs) < 1000000000 := by
    unfold tokensFor
    omega
  by_cases none : tokensFor bucket.rate (first - bucket.lastRefillNs) = 0
  · rw [refill_of_none none]
    exact iff_of_true rfl (.inl (none_iff.mp none))
  · have range : -2 ^ 63 ≤ (bucket.refill first).tokens ∧ (bucket.refill first).tokens < 2 ^ 63 := by
      rw [refill_tokens low high belowFirst]
      exact asI64_range _
    have once := refill_tokens low high belowOnce
    have moved : (bucket.refill first).lastRefillNs = first := by rw [refill_of_some none]
    have both := refill_tokens range.1 range.2 (by rwa [refill_capacity])
    have split : second - bucket.lastRefillNs = first - bucket.lastRefillNs + (second - first) := by
      omega
    rw [refill_tokens low high belowFirst, asI64_asI64_add, refill_rate, moved, add_assoc, ← Nat.cast_add] at both
    rw [both, once, split, tokensFor_add, ← none_iff]
    simp only [none, false_or]
    split
    · next whole => exact iff_of_true rfl whole
    · next carried =>
      refine iff_of_false (fun same => ?_) carried
      rw [Nat.cast_succ, ← add_assoc] at same
      exact asI64_succ_ne _ same.symm

def slow : TokenBucket := ⟨0, 0, 3, 10⟩

/-- After a third of a second and after another one, there are two tokens either way. -/
theorem refill_refill_slow : ((slow.refill 333333334).refill 666666668).tokens = (slow.refill 666666668).tokens :=
  (@refill_refill_tokens_iff slow 333333334 666666668 (by decide) (by decide) (by decide)
    (by decide) (by decide) (by decide) (by decide)).mpr (by decide)

/-- In one second three tokens are earned, but with a refill in the middle only two. -/
theorem refill_refill_loses : ((slow.refill 500000000).refill 1000000000).tokens = 2 ∧
    (slow.refill 1000000000).tokens = 3 ∧ (3 : Int) < slow.capacity := by
  decide

end TokenBucket

end Blazil.Transport
