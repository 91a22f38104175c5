import Blazil.Engine.GenericRingBuffer
import Blazil.Foundation.Entries
import Mathlib.Data.Fintype.Basic

/-! What the consumer of a generic ring buffer reads. In every interleaving a sequence has one
producer and is written once; that the consumer sees the value of that write needs more: that
no earlier sequence is still to be written when one is published, and that the capacity test
still holds when a sequence is claimed. -/

set_option autoImplicit false

namespace Blazil.Engine.Exchange

open Foundation Foundation.System

variable {Producer Value : Type} {exchange : Exchange Producer Value} {label : ExchangeLabel Producer Value} {producer : Producer}
  {next : Exchange Producer Value} {sequence : Int} {value : Value}

/-- The claims and writes are accounted for; this holds in every interleaving. -/
structure Accounted (exchange : Exchange Producer Value) : Prop where
  counted : exchange.ring.claim + 1 = exchange.claims.length
  held : ∀ producer sequence, (exchange.producers producer).sequence? = some sequence →
    0 ≤ sequence ∧ exchange.claims[sequence.toNat]? = some producer
  covered : ∀ sequence, 0 ≤ sequence → sequence ≤ exchange.ring.claim →
    (∃ producer value, exchange.producers producer = .claimed value sequence) ∨
      ∃ entry ∈ exchange.writes, entry.sequence = sequence
  recorded : ∀ entry ∈ exchange.writes, 0 ≤ entry.sequence ∧ exchange.claims[entry.sequence.toNat]? = some entry.producer
  once : ∀ entry ∈ exchange.writes, ∀ producer value, exchange.producers producer ≠ .claimed value entry.sequence
  distinct : (exchange.writes.map fun entry => entry.sequence).Nodup
  published : -1 ≤ exchange.ring.cursor ∧ exchange.ring.cursor ≤ exchange.ring.claim
  gated : -1 ≤ exchange.gate ∧ exchange.gate ≤ exchange.consumerSeq ∧ exchange.consumerSeq ≤ exchange.ring.cursor
  reading : ∀ limit, exchange.phase = .reading limit → limit ≤ exchange.ring.cursor

/-- A sequence is claimed only while the capacity test holds, and published only when no
earlier sequence is still to be written. -/
def Disciplined (exchange : Exchange Producer Value) : ExchangeLabel Producer Value → Prop
  | .claim _ => exchange.ring.hasAvailableCapacity = true
  | .publish producer => ∀ sequence ∈ (exchange.producers producer).sequence?, ∀ other,
      ∀ earlier ∈ (exchange.producers other).unwritten?, sequence < earlier
  | _ => True

instance [Fintype Producer] (exchange : Exchange Producer Value)
    (label : ExchangeLabel Producer Value) : Decidable (exchange.Disciplined label) :=
  match label with
  | .claim _ => inferInstanceAs (Decidable (_ = true))
  | .publish producer => inferInstanceAs (Decidable (∀ sequence ∈ (exchange.producers producer).sequence?, ∀ other,
        ∀ earlier ∈ (exchange.producers other).unwritten?, sequence < earlier))
  | .load _ _ | .test _ | .write _ | .poll | .read | .gate => .isTrue trivial

/-- No slot is overwritten before it is read, and none is read before it is written. -/
structure Intact (exchange : Exchange Producer Value) : Prop where
  settled : ∀ producer value sequence, exchange.producers producer = .claimed value sequence → exchange.ring.cursor < sequence
  room : exchange.ring.claim < exchange.gate + exchange.ring.capacity
  kept : ∀ entry ∈ exchange.writes, exchange.ring.claim < entry.sequence + exchange.ring.capacity →
      exchange.ring.get entry.sequence = entry.value
  faithful : ∀ read ∈ exchange.reads, ∃ entry ∈ exchange.writes, entry.sequence = read.sequence ∧ entry.value = read.value

variable {capacity : Nat} {ring : GenericRingBuffer Value 1}

theorem Accounted.le_claim (accounted : exchange.Accounted) {sequence : Int} (nonneg : 0 ≤ sequence)
    (listed : exchange.claims[sequence.toNat]? = some producer) : sequence ≤ exchange.ring.claim := by
  have bound := entry_lt listed
  have count := accounted.counted
  omega

theorem Intact.next_written (intact : exchange.Intact) (accounted : exchange.Accounted)
    (within : exchange.consumerSeq + 1 ≤ exchange.ring.cursor) :
    ∃ entry ∈ exchange.writes, entry.sequence = exchange.consumerSeq + 1 ∧
      entry.value = exchange.ring.get (exchange.consumerSeq + 1) := by
  have order := accounted.gated
  have published := accounted.published
  rcases accounted.covered (exchange.consumerSeq + 1) (by omega) (by omega) with
    ⟨other, pending, claimed⟩ | ⟨entry, member, same⟩
  · have ahead := intact.settled other pending _ claimed
    omega
  · have room := intact.room
    refine ⟨entry, member, same, ?_⟩
    rw [← intact.kept entry member (by omega), same]

variable {power : isPowerOfTwo capacity = true} {blank : Nat → Value}

theorem accounted_started : (started Producer (RingBuffer.fresh 1 power blank)).Accounted where
  counted := rfl
  held _ _ holding := by cases holding
  covered sequence nonneg within := by
    have within : sequence ≤ -1 := within
    omega
  recorded _ member := by cases member
  once _ member := by cases member
  distinct := List.nodup_nil
  published := ⟨le_refl _, le_refl _⟩
  gated := ⟨le_refl _, le_refl _, le_refl _⟩
  reading _ phase := by cases phase

theorem intact_started : (started Producer (RingBuffer.fresh 1 power blank)).Intact where
  settled _ _ _ claimed := by cases claimed
  room := by
    have := isPowerOfTwo_pos power
    simp only [started, RingBuffer.fresh, gate]
    omega
  kept _ member := by cases member
  faithful _ member := by cases member

variable [DecidableEq Producer]

section Frame

variable {producing : Producing Value}

theorem setProducer_apply (other : Producer) : (exchange.setProducer producer producing).producers other =
      if other = producer then producing else exchange.producers other := rfl

variable {other : Producer}

theorem claimed_of_setProducer (free : producing.sequence? = none)
    (claimed : (exchange.setProducer producer producing).producers other = .claimed value sequence) :
    exchange.producers other = .claimed value sequence := by
  rw [setProducer_apply] at claimed
  split at claimed
  · rw [claimed] at free
    cases free
  · exact claimed

theorem claimed_setProducer
    (idle : (exchange.producers producer).sequence? = none) (claimed : exchange.producers other = .claimed value sequence) :
    (exchange.setProducer producer producing).producers other = .claimed value sequence := by
  rw [setProducer_apply, if_neg, claimed]
  rintro rfl
  rw [claimed] at idle
  cases idle

theorem Accounted.setProducer_free (accounted : exchange.Accounted) (before : (exchange.producers producer).sequence? = none)
    (after : producing.sequence? = none) : (exchange.setProducer producer producing).Accounted := by
  refine { accounted with held := ?_, covered := ?_, once := ?_ }
  · intro other sequence holding
    rw [setProducer_apply] at holding
    split at holding
    · rw [after] at holding
      cases holding
    · exact accounted.held other sequence holding
  · intro sequence nonneg within
    refine (accounted.covered sequence nonneg within).imp_left ?_
    rintro ⟨other, value, claimed⟩
    exact ⟨other, value, claimed_setProducer before claimed⟩
  · intro entry member other value claimed
    exact accounted.once entry member other value (claimed_of_setProducer after claimed)

theorem Intact.setProducer_free (intact : exchange.Intact) (after : producing.sequence? = none) :
    (exchange.setProducer producer producing).Intact :=
  { intact with settled := fun other value sequence claimed =>
      intact.settled other value sequence (claimed_of_setProducer after claimed) }

end Frame

section

variable (accounted : exchange.Accounted)
include accounted

theorem Accounted.claim (checked : exchange.producers producer = .checked value) : (setProducer { exchange with
      ring := exchange.ring.nextSequence
      claims := exchange.claims ++ [producer] } producer (.claimed value (exchange.ring.claim + 1))).Accounted := by
  have count := accounted.counted
  have extend : ∀ (sequence : Int) (owner : Producer), exchange.claims[sequence.toNat]? = some owner →
        (exchange.claims ++ [producer])[sequence.toNat]? = some owner := by
    intro sequence owner listed
    have bound := entry_lt listed
    rw [List.getElem?_append_left bound, listed]
  refine { accounted with counted := ?_, held := ?_, covered := ?_, once := ?_, published := ⟨accounted.published.1, ?_⟩
                          recorded := fun entry member => (accounted.recorded entry member).imp_right (extend _ _) }
  · simp only [setProducer_ring, setProducer_claims, RingBuffer.nextSequence, List.length_append, List.length_singleton]
    omega
  · intro other sequence holding
    rw [setProducer_apply] at holding
    split at holding
    · next same =>
      cases holding
      have position : (exchange.ring.claim + 1).toNat = exchange.claims.length := by omega
      refine ⟨by omega, ?_⟩
      simp [position, same]
    · exact (accounted.held other sequence holding).imp_right (extend _ _)
  · intro sequence nonneg within
    have within : sequence ≤ exchange.ring.claim + 1 := within
    rcases within.lt_or_eq with _ | rfl
    · refine (accounted.covered sequence nonneg (by omega)).imp_left ?_
      rintro ⟨other, pending, claimed⟩
      exact ⟨other, pending, claimed_setProducer (by simp only [checked]; rfl) claimed⟩
    · exact .inl ⟨producer, value, if_pos rfl⟩
  · intro entry member other pending claimed
    rw [setProducer_apply] at claimed
    split at claimed
    · injection claimed with _ same
      obtain ⟨nonneg, listed⟩ := accounted.recorded entry member
      have := accounted.le_claim nonneg listed
      omega
    · exact accounted.once entry member other pending claimed
  · have := accounted.published.2
    simp only [setProducer_ring, RingBuffer.nextSequence]
    omega

theorem Accounted.write (claimed : exchange.producers producer = .claimed value sequence) :
    (setProducer { exchange with
      ring := exchange.ring.write sequence value
      writes := exchange.writes ++ [⟨producer, sequence, value⟩] } producer (.written value sequence)).Accounted := by
  have own := accounted.held producer sequence (by rw [claimed]; rfl)
  refine { accounted with held := ?_, covered := ?_, recorded := ?_, once := ?_, distinct := ?_ }
  · intro other position holding
    rw [setProducer_apply] at holding
    split at holding
    · next same =>
      cases holding
      rw [same]
      exact own
    · exact accounted.held other position holding
  · intro position nonneg within
    rcases accounted.covered position nonneg within with
      ⟨other, pending, held⟩ | ⟨entry, member, same⟩
    · by_cases mine : other = producer
      · subst mine
        rw [claimed] at held
        cases held
        exact .inr ⟨_, List.mem_append_right _ (List.mem_singleton_self _), rfl⟩
      · exact .inl ⟨other, pending, by rw [setProducer_apply, if_neg mine]; exact held⟩
    · exact .inr ⟨entry, List.mem_append_left _ member, same⟩
  · exact holds_after_concat accounted.recorded own
  · intro entry member other pending held
    rw [setProducer_apply] at held
    split at held
    · cases held
    · next different =>
      rcases mem_concat.mp member with earlier | rfl
      · exact accounted.once entry earlier other pending held
      · have theirs := accounted.held other sequence (by rw [show exchange.producers other = _ from held]; rfl)
        exact different (entry_unique theirs.2 own.2)
  · simp only [setProducer_writes, List.map_append, List.map_cons, List.map_nil]
    refine accounted.distinct.append (List.nodup_singleton _) ?_
    intro position earlier last
    cases List.mem_singleton.mp last
    obtain ⟨entry, member, same⟩ := List.mem_map.mp earlier
    exact accounted.once entry member producer value (same ▸ claimed)

theorem Accounted.publish (written : exchange.producers producer = .written value sequence) :
    (setProducer { exchange with
      ring := GenericRingBuffer.publish exchange.ring sequence } producer .idle).Accounted := by
  obtain ⟨nonneg, listed⟩ := accounted.held producer sequence (by rw [written]; rfl)
  have within := accounted.le_claim nonneg listed
  have bounds := accounted.published
  have advanced : exchange.ring.cursor ≤ max exchange.ring.cursor sequence := le_max_left _ _
  refine
    { accounted with
      held := ?_
      covered := ?_
      once := fun entry member other pending claimed =>
        accounted.once entry member other pending (claimed_of_setProducer rfl claimed)
      published := ⟨bounds.1.trans advanced, max_le bounds.2 within⟩
      gated := accounted.gated.imp_right fun order => order.imp_right fun read => read.trans advanced
      reading := fun limit phase => (accounted.reading limit phase).trans advanced }
  · intro other position holding
    rw [setProducer_apply] at holding
    split at holding
    · cases holding
    · exact accounted.held other position holding
  · intro position positionNonneg inside
    refine (accounted.covered position positionNonneg inside).imp_left ?_
    rintro ⟨other, pending, claimed⟩
    refine ⟨other, pending, ?_⟩
    rw [setProducer_apply, if_neg]
    · exact claimed
    · rintro rfl
      rw [written] at claimed
      cases claimed

theorem Accounted.step (stepped : exchange.step label = some next) : next.Accounted := by
  cases step_moves stepped with
  | load idle => exact accounted.setProducer_free (by rw [idle]; rfl) rfl
  | test loaded =>
    refine accounted.setProducer_free (by rw [loaded]; rfl) ?_
    split <;> rfl
  | claim checked => exact accounted.claim checked
  | write claimed => exact accounted.write claimed
  | publish written => exact accounted.publish written
  | poll =>
    refine { accounted with reading := ?_ }
    intro limit phase
    cases phase
    exact le_refl _
  | @read limit reading within =>
    have seen := accounted.reading limit reading
    obtain ⟨lower, order, _⟩ := accounted.gated
    have order : exchange.gate ≤ exchange.consumerSeq + 1 := by omega
    have upper : exchange.consumerSeq + 1 ≤ exchange.ring.cursor := within.trans seen
    refine { accounted with gated := ⟨lower, order, upper⟩, reading := ?_ }
    intro other phase
    cases phase
    exact seen
  | done => exact { accounted with reading := nofun }
  | gate =>
    obtain ⟨lower, order, upper⟩ := accounted.gated
    have stored : -1 ≤ exchange.consumerSeq := lower.trans order
    exact { accounted with gated := ⟨stored, le_refl _, upper⟩, reading := nofun }

end

theorem Intact.write (intact : exchange.Intact) (accounted : exchange.Accounted)
    (claimed : exchange.producers producer = .claimed value sequence) : (setProducer { exchange with
      ring := exchange.ring.write sequence value
      writes := exchange.writes ++ [⟨producer, sequence, value⟩] } producer (.written value sequence)).Intact := by
  obtain ⟨nonneg, listed⟩ := accounted.held producer sequence (by rw [claimed]; rfl)
  have within := accounted.le_claim nonneg listed
  have ahead := intact.settled producer value sequence claimed
  refine { intact with settled := ?_, kept := ?_, faithful := ?_ }
  · intro other pending earlier held
    rw [setProducer_apply] at held
    split at held
    · cases held
    · exact intact.settled other pending earlier held
  · intro entry member lap
    rcases mem_concat.mp member with earlier | rfl
    · obtain ⟨entryNonneg, entryListed⟩ := accounted.recorded entry earlier
      have entryWithin := accounted.le_claim entryNonneg entryListed
      have different : entry.sequence ≠ sequence := by
        intro same
        exact accounted.once entry earlier producer value (same ▸ claimed)
      have lap : exchange.ring.claim < entry.sequence + exchange.ring.capacity := lap
      have room := intact.room
      have order := accounted.gated
      rw [← intact.kept entry earlier lap]
      exact RingBuffer.get_write_other different (by omega) (by omega)
    · exact RingBuffer.get_write_same _ _ _
  · intro read member
    obtain ⟨entry, earlier, same⟩ := intact.faithful read member
    exact ⟨entry, List.mem_append_left _ earlier, same⟩

theorem Intact.step (intact : exchange.Intact) (accounted : exchange.Accounted)
    (disciplined : exchange.Disciplined label) (stepped : exchange.step label = some next) : next.Intact := by
  cases step_moves stepped with
  | load => exact intact.setProducer_free rfl
  | test =>
    refine intact.setProducer_free ?_
    split <;> rfl
  | claim =>
    have published := accounted.published
    have room := RingBuffer.hasAvailableCapacity_iff.mp disciplined 0
    refine { intact with settled := ?_, room := room, kept := fun entry member lap => intact.kept entry member ?_ }
    · intro other pending sequence claimed
      rw [setProducer_apply] at claimed
      split at claimed
      · cases claimed
        change exchange.ring.cursor < exchange.ring.claim + 1
        omega
      · exact intact.settled other pending sequence claimed
    · have lap : exchange.ring.claim + 1 < entry.sequence + exchange.ring.capacity := lap
      omega
  | write claimed => exact intact.write accounted claimed
  | @publish _ _ sequence written =>
    refine { intact with settled := fun other pending earlier claimed => ?_ }
    have before := claimed_of_setProducer rfl claimed
    refine max_lt (intact.settled other pending earlier before) ?_
    exact disciplined sequence (by rw [written]; rfl) other earlier (by rw [before]; rfl)
  | poll | done => exact { intact with }
  | @read limit reading within =>
    refine { intact with faithful := holds_after_concat intact.faithful ?_ }
    exact intact.next_written accounted (within.trans (accounted.reading limit reading))
  | gate =>
    refine { intact with room := ?_ }
    have room := intact.room
    have order := accounted.gated
    change exchange.ring.claim < exchange.consumerSeq + exchange.ring.capacity
    omega

variable {state : Exchange Producer Value}

theorem intact_of_reaches [Inhabited Value] (created : GenericRingBuffer.new 1 capacity = .ok ring)
    (reached : system.Reaches Disciplined (started Producer ring) state) : state.Accounted ∧ state.Intact := by
  obtain ⟨_, rfl⟩ := GenericRingBuffer.new_eq created
  refine reached.invariant (fun state => state.Accounted ∧ state.Intact) ⟨accounted_started, intact_started⟩ ?_
  intro before label after disciplined stepped invariant
  obtain ⟨accounted, intact⟩ := invariant
  exact ⟨accounted.step stepped, intact.step accounted disciplined stepped⟩

/-- With any number of producers, if every claim is made while the capacity test holds and
every sequence is published after all earlier ones are written, then the consumer reads at
each sequence what the producer that claimed it has written there. -/
theorem reads_claimed_value [Inhabited Value] {capacity : Nat} {ring : GenericRingBuffer Value 1}
    {state : Exchange Producer Value} (created : GenericRingBuffer.new 1 capacity = .ok ring)
    (reached : system.Reaches Disciplined (started Producer ring) state) :
    ∀ read ∈ state.reads, ∃ producer, state.claims[read.sequence.toNat]? = some producer ∧
      ⟨producer, read.sequence, read.value⟩ ∈ state.writes ∧
      ∀ entry ∈ state.writes, entry.sequence = read.sequence → entry.value = read.value := by
  obtain ⟨accounted, intact⟩ := intact_of_reaches created reached
  intro read member
  obtain ⟨entry, written, sequence, value⟩ := intact.faithful read member
  refine ⟨entry.producer, ?_, ?_, ?_⟩
  · rw [← sequence]
    exact (accounted.recorded entry written).2
  · rw [← sequence, ← value]
    exact written
  · intro other otherWritten same
    rw [List.inj_on_of_nodup_map accounted.distinct otherWritten written (same.trans sequence.symm), value]

theorem twoProducers_reads_claimed_value : ∃ ring state, GenericRingBuffer.new 1 4 = .ok ring ∧
      system.Reaches Disciplined (started Bool ring) state ∧ state.reads = [⟨0, 10⟩, ⟨1, 11⟩] ∧
      ∀ read ∈ state.reads, ∃ producer, state.claims[read.sequence.toNat]? = some producer ∧
        ⟨producer, read.sequence, read.value⟩ ∈ state.writes ∧
        ∀ entry ∈ state.writes, entry.sequence = read.sequence → entry.value = read.value := by
  obtain ⟨state, reached, read⟩ := exists_reaches_of_run system Disciplined
    (started Bool (RingBuffer.fresh 1 isPowerOfTwo_four fun _ => (default : Nat)))
    [.load false 10, .load true 11, .test true, .test false, .claim false, .claim true,
      .write true, .write false, .publish true, .publish false, .poll, .read, .read]
    (fun state => state.reads = [⟨0, 10⟩, ⟨1, 11⟩]) (by decide) (by decide)
  have created : GenericRingBuffer.new 1 4 = .ok (RingBuffer.fresh 1 isPowerOfTwo_four fun _ => (default : Nat)) := rfl
  exact ⟨_, state, created, reached, read, reads_claimed_value created reached⟩

theorem reads_numbered (reached : system.Reachable (started Producer ring) state) : state.consumerSeq + 1 = state.reads.length ∧
    state.reads.map SlotRead.sequence = (List.range state.reads.length).map Int.ofNat := by
  refine reached.invariant (fun state => state.consumerSeq + 1 = state.reads.length ∧
    state.reads.map SlotRead.sequence = (List.range state.reads.length).map Int.ofNat) ⟨rfl, rfl⟩ ?_
  rintro before label after _ stepped ⟨next, inOrder⟩
  cases step_moves stepped with
  | read =>
    simp only [List.map_append, inOrder, List.length_append, List.length_singleton, List.range_succ, List.map_singleton]
    refine ⟨by omega, ?_⟩
    rw [next]
    rfl
  | _ => exact ⟨next, inOrder⟩

/-- In any interleaving, also where a slot is overwritten before it is read: a sequence is
written at most once, by the producer that claimed it, and the consumer reads the claimed
sequences in order, each once. -/
theorem sequences_once [Inhabited Value] (created : GenericRingBuffer.new 1 capacity = .ok ring)
    (reached : system.Reachable (started Producer ring) state) : (state.writes.map SlotWrite.sequence).Nodup ∧
      (∀ entry ∈ state.writes, state.claims[entry.sequence.toNat]? = some entry.producer) ∧
      state.reads.map SlotRead.sequence = (List.range state.reads.length).map Int.ofNat ∧
      state.reads.length ≤ state.claims.length := by
  obtain ⟨next, inOrder⟩ := reads_numbered reached
  obtain ⟨_, rfl⟩ := GenericRingBuffer.new_eq created
  have accounted : state.Accounted := reached.invariant Accounted accounted_started
    fun _ _ _ _ stepped accounted => accounted.step stepped
  refine ⟨accounted.distinct, fun entry member => (accounted.recorded entry member).2, inOrder, ?_⟩
  have counted := accounted.counted
  have published := accounted.published
  have gated := accounted.gated
  omega

theorem twoProducers_once : ∃ ring state, GenericRingBuffer.new 1 4 = .ok ring ∧
    system.Reachable (started Bool ring) state ∧ state.writes = [⟨true, 1, 11⟩, ⟨false, 0, 10⟩] ∧
    (state.writes.map SlotWrite.sequence).Nodup ∧
    (∀ entry ∈ state.writes, state.claims[entry.sequence.toNat]? = some entry.producer) ∧
    state.reads.map SlotRead.sequence = [0, 1] := by
  obtain ⟨state, reached, writes, count⟩ := exists_reachable_of_run system
    (started Bool (RingBuffer.fresh 1 isPowerOfTwo_four fun _ => (default : Nat)))
    [.load false 10, .test false, .claim false, .load true 11, .test true, .claim true, .write true, .publish true,
      .poll, .read, .read, .write false]
    (fun state => state.writes = [⟨true, 1, 11⟩, ⟨false, 0, 10⟩] ∧ state.reads.length = 2) (by decide)
  obtain ⟨distinct, claimed, inOrder, _⟩ := @sequences_once Bool Nat 4 _ _ state _ rfl reached
  rw [count] at inOrder
  exact ⟨_, state, rfl, reached, writes, distinct, claimed, inOrder⟩

/-- The second of two producers publishes before the first has written, and the consumer
reads the default value at the first one's sequence. And three producers that all passed the
capacity test lap the consumer, which then reads the third value at the first sequence. -/
theorem reads_of_other_values : (∃ ring state, GenericRingBuffer.new 1 4 = .ok ring ∧
      system.Reachable (started Bool ring) state ∧ state.claims = [false, true] ∧
      state.reads = [⟨0, 0⟩, ⟨1, 11⟩] ∧ ⟨false, 0, 10⟩ ∈ state.writes) ∧
    ∃ ring state, GenericRingBuffer.new 1 2 = .ok ring ∧
      system.Reachable (started (Fin 3) ring) state ∧ state.claims = [0, 1, 2] ∧
      state.writes = [⟨0, 0, 10⟩, ⟨1, 1, 11⟩, ⟨2, 2, 12⟩] ∧ state.reads = [⟨0, 12⟩] := by
  constructor
  · obtain ⟨state, reached, claims, reads, written⟩ := exists_reachable_of_run system
      (started Bool (RingBuffer.fresh 1 isPowerOfTwo_four fun _ => (default : Nat)))
      [.load false 10, .test false, .claim false, .load true 11, .test true, .claim true,
        .write true, .publish true, .poll, .read, .read, .write false]
      (fun state => state.claims = [false, true] ∧ state.reads = [⟨0, 0⟩, ⟨1, 11⟩] ∧ ⟨false, 0, 10⟩ ∈ state.writes) (by decide)
    exact ⟨_, state, rfl, reached, claims, reads, written⟩
  · obtain ⟨state, reached, claims, writes, reads⟩ := exists_reachable_of_run system
      (started (Fin 3) (RingBuffer.fresh 1 isPowerOfTwo_two fun _ => (default : Nat)))
      [.load 0 10, .test 0, .load 1 11, .test 1, .load 2 12, .test 2,
        .claim 0, .claim 1, .claim 2, .write 0, .publish 0, .write 1, .publish 1,
        .write 2, .publish 2, .poll, .read]
      (fun state => state.claims = [0, 1, 2] ∧ state.writes = [⟨0, 0, 10⟩, ⟨1, 1, 11⟩, ⟨2, 2, 12⟩] ∧ state.reads = [⟨0, 12⟩])
      (by decide)
    exact ⟨_, state, rfl, reached, claims, writes, reads⟩

end Blazil.Engine.Exchange
