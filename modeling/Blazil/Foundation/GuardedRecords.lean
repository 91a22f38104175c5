import Blazil.Foundation.Attempts
import Blazil.Foundation.ObjectStore
import Blazil.Foundation.Entries

/-! Calls that load a record from a store, check that it is open, have an effect outside
the store and save the record closed. The check reads what is stored and the save comes
later, so the invariant is about all calls for one key together. -/

set_option autoImplicit false

namespace Foundation

variable {ref : Nat}

/-- How far a call has come, with the object it works on. A spent call has closed its
object, but has not saved it yet. -/
inductive RecordStage where
  | outside
  | armed (ref : Nat)
  | spent (ref : Nat)
deriving DecidableEq

namespace RecordStage

def toAttempt : RecordStage → AttemptStage
  | .outside => .outside
  | .armed _ => .armed
  | .spent _ => .spent

def ref? : RecordStage → Option Nat
  | .outside => none
  | .armed ref => some ref
  | .spent ref => some ref

end RecordStage

structure RecordCall (Key : Type) where
  key : Key
  stage : RecordStage

section Guarded

variable {Key Record Call : Type}

/-- New calls for the key are turned away: there is no record, or it is not open. -/
def closedFor (isOpen : Record → Bool) (key : Key) (store : ObjectStore Key Record) : Bool :=
  (store.current key).all fun record => !isOpen record

variable [DecidableEq Key] (schema : Schema Key Record) (isOpen : Record → Bool) (view : Call → RecordCall Key) (key : Key)

def stageFor (call : Call) : AttemptStage :=
  if (view call).key = key then (view call).stage.toAttempt else .outside

structure Guarded (store : ObjectStore Key Record) (calls : List Call) (effects : Nat) : Prop where
  keyed : store.Keyed schema
  owned : ∀ call ∈ calls, ∀ ref ∈ (view call).stage.ref?, ∃ record,
    store.objects[ref]? = some record ∧ schema.key record = (view call).key
  settled : ∀ call ∈ calls, (view call).key = key → ∀ ref, (view call).stage = .spent ref →
    ∀ record ∈ store.objects[ref]?, isOpen record = false
  once : (Attempts.census (stageFor view key) calls (closedFor isOpen key store) effects).AtMostOnce

variable {schema isOpen view key} {store next : ObjectStore Key Record} {calls : List Call} {effects later index : Nat}
  {call : Call} {change : Call → Call}

theorem guarded_empty : Guarded schema isOpen view key .empty [] 0 where
  keyed := ObjectStore.keyed_empty
  owned := by simp
  settled := by simp
  once := Attempts.atMostOnce_initial _

theorem stageFor_own {stage} (own : (view call).key = key)
    (reached : (view call).stage = stage) : stageFor view key call = stage.toAttempt :=
  reached ▸ if_pos own

theorem stageFor_outside (out : (view call).stage = .outside) : stageFor view key call = .outside := by
  rw [stageFor, out]
  exact ite_self _

theorem stageFor_other (other : (view call).key ≠ key) : stageFor view key call = .outside :=
  if_neg other

section

variable (guarded : Guarded schema isOpen view key store calls effects) (found : calls[index]? = some call)
include guarded found

theorem Guarded.object {ref : Nat} (works : (view call).stage.ref? = some ref) :
    ∃ record, store.objects[ref]? = some record ∧ schema.key record = (view call).key :=
  guarded.owned call (List.mem_of_getElem? found) ref works

theorem Guarded.key_of_object {ref : Nat} {record : Record} (works : (view call).stage.ref? = some ref)
    (object : store.objects[ref]? = some record) : schema.key record = (view call).key := by
  obtain ⟨_, present, own⟩ := guarded.object found works
  cases object.symm.trans present
  exact own

/-- What has to be shown when one call moves and the store changes with it. -/
theorem Guarded.advance (same : (view (change call)).key = (view call).key)
    (keyed : next.Keyed schema) (kept : store.Extends schema next)
    (owned : ∀ ref ∈ (view (change call)).stage.ref?, ∃ record,
      next.objects[ref]? = some record ∧ schema.key record = (view call).key)
    (frame : ∀ (other : Nat) (second : Call) (ref : Nat), other ≠ index → calls[other]? = some second → (view second).key = key →
      (view second).stage = .spent ref → next.objects[ref]? = store.objects[ref]?)
    (settled : (view call).key = key → ∀ ref, (view (change call)).stage = .spent ref →
      ∀ record ∈ next.objects[ref]?, isOpen record = false)
    (follows : (Attempts.census (stageFor view key) calls (closedFor isOpen key store)
      effects).Follows (Attempts.census (stageFor view key) (calls.modify index change) (closedFor isOpen key next) later)) :
    Guarded schema isOpen view key next (calls.modify index change) later := by
  have split : ∀ second ∈ calls.modify index change,
      second = change call ∨ ∃ other, other ≠ index ∧ calls[other]? = some second := by
    intro second member
    obtain ⟨other, present⟩ := List.mem_iff_getElem?.mp member
    rcases entry_of_modify present with ⟨_, _, foundBefore, rfl⟩ | ⟨different, kept⟩
    · cases found.symm.trans foundBefore
      exact .inl rfl
    · exact .inr ⟨other, different, kept⟩
  refine ⟨keyed, ?_, ?_, guarded.once.follows follows⟩
  · intro second member ref works
    rcases split second member with rfl | ⟨_, _, present⟩
    · rw [same]
      exact owned ref works
    · obtain ⟨record, object, own⟩ := guarded.object present works
      obtain ⟨changed, objectNow, sameKey⟩ := kept ref record object
      exact ⟨changed, objectNow, sameKey.trans own⟩
  · intro second member own ref spent
    rcases split second member with rfl | ⟨other, different, present⟩
    · exact settled (same ▸ own) ref spent
    · rw [frame other second ref different present own spent]
      exact guarded.settled second (List.mem_of_getElem? present) own ref spent

end

section

variable (guarded : Guarded schema isOpen view key store calls effects)
include guarded

/-- A step that leaves every existing object as it is and does not settle one. -/
theorem Guarded.keeping (found : calls[index]? = some call)
    (same : (view (change call)).key = (view call).key) (keyed : next.Keyed schema)
    (kept : ∀ (ref : Nat) (record : Record), store.objects[ref]? = some record → next.objects[ref]? = some record)
    (owned : ∀ ref ∈ (view (change call)).stage.ref?, ∃ record,
      next.objects[ref]? = some record ∧ schema.key record = (view call).key)
    (unsettled : ∀ ref, (view (change call)).stage ≠ .spent ref)
    (follows : (Attempts.census (stageFor view key) calls (closedFor isOpen key store)
      effects).Follows (Attempts.census (stageFor view key) (calls.modify index change) (closedFor isOpen key next) later)) :
    Guarded schema isOpen view key next (calls.modify index change) later := by
  refine guarded.advance found same keyed (fun ref record object => ⟨record, kept ref record object,
    rfl⟩) owned ?_ (fun _ ref spent => absurd spent (unsettled ref)) follows
  intro other second ref _ present _ spent
  obtain ⟨record, object, _⟩ := guarded.object present (by rw [spent]; rfl)
  rw [kept ref record object, object]

theorem Guarded.append (out : (view call).stage = .outside) : Guarded schema isOpen view key store (calls ++ [call]) effects := by
  refine ⟨guarded.keyed, ?_, ?_, ?_⟩
  · exact holds_after_concat guarded.owned (by simp [out, RecordStage.ref?])
  · exact holds_after_concat guarded.settled (by simp [out])
  · rw [Attempts.census_append _ (stageFor_outside out)]
    exact guarded.once

section

variable (found : calls[index]? = some call)
include found

theorem Guarded.stay (same : view (change call) = view call) (unsettled : ∀ ref, (view call).stage ≠ .spent ref) :
    Guarded schema isOpen view key store (calls.modify index change) effects := by
  refine guarded.keeping found (by rw [same]) guarded.keyed (fun _ _ object => object) ?_
    (by rw [same]; exact unsettled) (.inl (Attempts.census_modify found ?_ _ _))
  · intro ref works
    rw [same] at works
    exact guarded.object found works
  · rw [stageFor, stageFor, same]

theorem Guarded.leave {ref : Nat} (was : (view call).stage = .armed ref) (same : (view (change call)).key = (view call).key)
    (out : (view (change call)).stage = .outside) : Guarded schema isOpen view key store (calls.modify index change) effects := by
  refine guarded.keeping found same guarded.keyed (fun _ _ object => object) (by simp [out,
    RecordStage.ref?]) (by simp [out]) ?_
  by_cases own : (view call).key = key
  · exact Attempts.follows_abandon found (stageFor_own own was) (stageFor_own (same.trans own) out) _ _ _
  · refine .inl (Attempts.census_modify found ?_ _ _)
    rw [stageFor_other own, stageFor_other (same ▸ own)]

/-- A new record is made and, if the save takes effect, stored. Under the key this must
come before the effect. -/
theorem Guarded.create (out : (view call).stage = .outside) (same : view (change call) = view call) (backing : Backing)
    (record : Record) (saved : Bool) (early : schema.key record = key → effects = 0) :
    Guarded schema isOpen view key (if saved then (store.alloc record).save schema backing store.objects.length
        else store.alloc record) (calls.modify index change) effects := by
  have keyed := ObjectStore.keyed_alloc guarded.keyed record
  have stage : stageFor view key (change call) = stageFor view key call := by
    rw [stageFor, stageFor, same]
  have unchanged := Attempts.census_modify found stage
  have old := fun (ref : Nat) (object : Record) (present : store.objects[ref]? = some object) =>
    ObjectStore.objects_alloc_old record present
  cases saved with
  | false =>
    refine guarded.keeping found (by rw [same]) keyed old ?_ ?_ ?_
    · simp [same, out, RecordStage.ref?]
    · simp [same, out]
    · refine .inl ((unchanged _ _).trans ?_)
      simp only [closedFor, Bool.false_eq_true, if_false, ObjectStore.current_alloc guarded.keyed]
  | true =>
    refine guarded.keeping found (by rw [same]) (ObjectStore.keyed_save keyed) ?_ ?_ ?_ ?_
    · intro ref object present
      simp only [if_true, ObjectStore.save_objects]
      exact old ref object present
    · simp [same, out, RecordStage.ref?]
    · simp [same, out]
    · rw [unchanged]
      by_cases own : schema.key record = key
      · exact Attempts.follows_record _ _ (.inr (early own))
      · refine .inl ?_
        simp only [closedFor, if_true]
        rw [ObjectStore.current_save_other (ObjectStore.objects_alloc_new record) (Ne.symm own),
          ObjectStore.current_alloc guarded.keyed]

/-- A call loads its record; it goes on if the record is open. Under the key no other call
may be on its way then. -/
theorem Guarded.load {loaded} (out : (view call).stage = .outside)
    (loads : ObjectStore.Loads schema store (view call).key loaded) (same : (view (change call)).key = (view call).key)
    (now : (view (change call)).stage = .outside ∨ (view (change call)).stage = .armed loaded.ref ∧ isOpen loaded.record = true)
    (alone : (view call).key = key → ∀ other ∈ calls, (view other).key = key → (view other).stage = .outside) :
    Guarded schema isOpen view key loaded.store (calls.modify index change) effects := by
  have closed : closedFor isOpen key loaded.store = closedFor isOpen key store := by
    rw [closedFor, closedFor, loads.same]
  refine guarded.keeping found same loads.keyed loads.kept ?_ ?_ ?_
  · intro worksOn works
    rcases now with gone | ⟨armed, _⟩
    · rw [gone] at works
      cases works
    · rw [armed] at works
      cases works
      exact ⟨loaded.record, loads.object, loads.own⟩
  · intro worksOn spent
    rcases now with gone | ⟨armed, _⟩
    · rw [gone] at spent
      cases spent
    · rw [armed] at spent
      cases spent
  · rw [closed]
    by_cases own : (view call).key = key
    · rcases now with gone | ⟨armed, stillOpen⟩
      · refine .inl (Attempts.census_modify found ?_ _ _)
        rw [stageFor_outside out, stageFor_outside gone]
      · have free : closedFor isOpen key store = false := by
          rw [closedFor, ← own, loads.current]
          simp [stillOpen]
        rw [free]
        apply Attempts.follows_enter found
        · intro other member
          by_cases ownOther : (view other).key = key
          · exact stageFor_own ownOther (alone own other member ownOther)
          · exact stageFor_other ownOther
        · exact stageFor_own (same.trans own) armed
    · refine .inl (Attempts.census_modify found ?_ _ _)
      rw [stageFor_other own, stageFor_other (same ▸ own)]

end

end

section

variable (guarded : Guarded schema isOpen view key store calls effects)
include guarded

/-- A call ends with a save, which takes effect or does not. -/
theorem Guarded.saving (found : calls[index]? = some call)
    (works : (view call).stage.ref? = some ref) (same : (view (change call)).key = (view call).key)
    (out : (view (change call)).stage = .outside) (backing : Backing) (saved : Bool)
    (follows : (view call).key = key → (Attempts.census (stageFor view key) calls (closedFor isOpen key store) effects).Follows
        (Attempts.census (stageFor view key) (calls.modify index change)
          (closedFor isOpen key (if saved then store.save schema backing ref else store)) effects)) :
    Guarded schema isOpen view key (if saved then store.save schema backing ref else store)
      (calls.modify index change) effects := by
  obtain ⟨_, object, ownKey⟩ := guarded.object found works
  refine guarded.keeping found same ?_ ?_ (by simp [out, RecordStage.ref?]) (by simp [out]) ?_
  · split
    · exact ObjectStore.keyed_save guarded.keyed
    · exact guarded.keyed
  · intro other present objectThere
    split
    · rw [ObjectStore.save_objects]
      exact objectThere
    · exact objectThere
  · by_cases own : (view call).key = key
    · exact follows own
    · have unseen : closedFor isOpen key (if saved then store.save schema backing ref else store) =
          closedFor isOpen key store := by
        split
        · rw [closedFor, closedFor, ObjectStore.current_save_other object]
          rw [ownKey]
          exact Ne.symm own
        · rfl
      rw [unseen]
      refine .inl (Attempts.census_modify found ?_ _ _)
      rw [stageFor_other own, stageFor_other (same ▸ own)]

/-- A spent call saves its record. Under the key the save must take effect. -/
theorem Guarded.save (merged : ∀ row record, isOpen (schema.merge row record) = isOpen record)
    (found : calls[index]? = some call) (was : (view call).stage = .spent ref)
    (same : (view (change call)).key = (view call).key) (out : (view (change call)).stage = .outside)
    (backing : Backing) (saved : Bool) (takes : (view call).key = key → saved = true) :
    Guarded schema isOpen view key (if saved then store.save schema backing ref else store)
      (calls.modify index change) effects := by
  refine guarded.saving found (by rw [was]; rfl) same out backing saved fun own => ?_
  obtain ⟨record, object, ownKey⟩ := guarded.object found (by rw [was]; rfl)
  have closed := guarded.settled call (List.mem_of_getElem? found) own ref was record object
  have shut : closedFor isOpen key (if saved then store.save schema backing ref else store) =
      true := by
    rw [takes own, if_pos rfl, closedFor, ← own, ← ownKey, ObjectStore.current_save object, Option.all_some]
    unfold Schema.written
    split
    · rw [merged, closed]
      rfl
    · rw [closed]
      rfl
  exact Attempts.follows_finish found (stageFor_own own was) (stageFor_own (same.trans own) out) _ (.inl shut)

/-- An armed call saves its record and gives up; it has had no effect. -/
theorem Guarded.giveUp (found : calls[index]? = some call)
    (was : (view call).stage = .armed ref) (same : (view (change call)).key = (view call).key)
    (out : (view (change call)).stage = .outside) (backing : Backing) (saved : Bool) :
    Guarded schema isOpen view key (if saved then store.save schema backing ref else store)
      (calls.modify index change) effects := by
  refine guarded.saving found (by rw [was]; rfl) same out backing saved fun own => ?_
  exact Attempts.follows_abandon found (stageFor_own own was) (stageFor_own (same.trans own) out) _ _ _

end

section Assigning

variable {assigned : Record → Record}

/-- A call changes the object it works on. No other call for the key works on it. -/
theorem Guarded.assigning (guarded : Guarded schema isOpen view key store calls effects) (found : calls[index]? = some call)
    (works : (view call).stage.ref? = some ref) (keeps : ∀ record, schema.key (assigned record) = schema.key record)
    (same : (view (change call)).key = (view call).key) (still : (view (change call)).stage.ref? = some ref)
    (settled : (view call).key = key → ∀ other, (view (change call)).stage = .spent other →
      ∀ record, isOpen (assigned record) = false)
    (follows : (view call).key = key → (Attempts.census (stageFor view key) calls (closedFor isOpen key store) effects).Follows
        (Attempts.census (stageFor view key) (calls.modify index change)
          (closedFor isOpen key (store.assign ref assigned)) later))
    (unrelated : (view call).key ≠ key → later = effects) :
    Guarded schema isOpen view key (store.assign ref assigned) (calls.modify index change) later := by
  obtain ⟨record, object, ownKey⟩ := guarded.object found works
  have objectNow : (store.assign ref assigned).objects[ref]? = some (assigned record) :=
    ObjectStore.objects_assign object
  refine guarded.advance found same (ObjectStore.keyed_assign guarded.keyed keeps) (ObjectStore.extends_assign keeps) ?_ ?_ ?_ ?_
  · intro other worksOn
    cases still.symm.trans worksOn
    exact ⟨assigned record, objectNow, (keeps record).trans ownKey⟩
  · intro other second otherRef different present own spent
    apply ObjectStore.objects_assign_other
    intro sameRef
    subst sameRef
    -- both calls work on this object, so it has the key of both
    obtain ⟨_, sharedObject, sharedKey⟩ := guarded.object present (by rw [spent]; rfl)
    cases object.symm.trans sharedObject
    have both : (view call).key = key := ownKey.symm.trans (sharedKey.trans own)
    have active : stageFor view key call ≠ .outside := by
      rw [stageFor_own both rfl]
      intro outside
      cases stage : (view call).stage <;> rw [stage] at works outside
      · cases works
      · cases outside
      · cases outside
    exact different (guarded.once.same_call present found (by simp [stageFor_own own spent,
      RecordStage.toAttempt]) active)
  · intro own other spent there
    have sameRef : other = ref := by
      rw [spent] at still
      exact Option.some.inj still
    subst sameRef
    intro present
    cases objectNow.symm.trans present
    exact settled own other spent record
  · by_cases own : (view call).key = key
    · exact follows own
    · rw [unrelated own]
      have unseen : closedFor isOpen key (store.assign ref assigned) = closedFor isOpen key store := by
        rw [closedFor, closedFor, ObjectStore.current_assign_other guarded.keyed object]
        rw [ownKey]
        exact own
      rw [unseen]
      refine .inl (Attempts.census_modify found ?_ _ _)
      rw [stageFor_other own, stageFor_other (same ▸ own)]

section

variable (guarded : Guarded schema isOpen view key store calls effects) (found : calls[index]? = some call)
  (was : (view call).stage = .armed ref) (keeps : ∀ record, schema.key (assigned record) = schema.key record)
include guarded found was keeps

theorem Guarded.update (same : view (change call) = view call) :
    Guarded schema isOpen view key (store.assign ref assigned) (calls.modify index change) effects := by
  refine guarded.assigning found (by rw [was]; rfl) keeps (by rw [same]) (by rw [same, was]; rfl)
    (by simp [same, was]) (fun own => ?_) (fun _ => rfl)
  have stage : stageFor view key (change call) = stageFor view key call := by
    rw [stageFor, stageFor, same]
  rw [Attempts.census_modify found stage]
  exact Attempts.follows_record _ _ (.inr (guarded.once.unspent found (stageFor_own own was)))

/-- An armed call has its effect and closes its object. -/
theorem Guarded.act (same : (view (change call)).key = (view call).key) (now : (view (change call)).stage = .spent ref)
    (closes : ∀ record, isOpen (assigned record) = false) :
    Guarded schema isOpen view key (store.assign ref assigned) (calls.modify index change)
      (effects + if (view call).key = key then 1 else 0) := by
  refine guarded.assigning found (by rw [was]; rfl) keeps same (by rw [now]; rfl)
    (fun _ _ _ => closes) (fun own => ?_) (fun other => by simp [other])
  rw [if_pos own]
  exact Attempts.follows_act found (stageFor_own own was) (stageFor_own (same.trans own) now) true _ _ _

end

end Assigning

end Guarded

end Foundation
