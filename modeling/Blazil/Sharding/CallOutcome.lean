/-! How a call of a remote component can end. A call that fails may have taken effect all
the same: the reply was lost. -/

set_option autoImplicit false

namespace Blazil.Sharding

inductive CallOutcome where
  | accepted
  | rejected (reason : String)
  | failed (reason : String) (applied : Bool)
deriving DecidableEq

namespace CallOutcome

def reply : CallOutcome → Except String Unit
  | .accepted => .ok ()
  | .rejected reason | .failed reason _ => .error reason

def prefixed (text : String) : CallOutcome → CallOutcome
  | .accepted => .accepted
  | .rejected reason => .rejected (text ++ reason)
  | .failed reason applied => .failed (text ++ reason) applied

def isAccepted : CallOutcome → Bool
  | .accepted => true
  | .rejected _ | .failed _ _ => false

def takesEffect : CallOutcome → Bool
  | .accepted => true
  | .rejected _ => false
  | .failed _ applied => applied

def applied {Effect : Type} (outcome : CallOutcome) (effect : Effect) : List Effect :=
  if outcome.takesEffect then [effect] else []

@[simp] theorem reply_accepted : accepted.reply = .ok () := rfl

@[simp] theorem reply_rejected (reason : String) : (rejected reason).reply = .error reason := rfl

variable {outcome : CallOutcome} {Effect : Type}

theorem accepted_of_reply {value : Unit} (replied : outcome.reply = .ok value) : outcome = .accepted := by
  cases outcome with
  | accepted => rfl
  | rejected | failed => cases replied

theorem isAccepted_of_reply {reason : String} (replied : outcome.reply = .error reason) : outcome.isAccepted = false := by
  cases outcome with
  | accepted => cases replied
  | rejected | failed => rfl

@[simp] theorem takesEffect_accepted : accepted.takesEffect = true := rfl

@[simp] theorem takesEffect_rejected (reason : String) : (rejected reason).takesEffect = false := rfl

@[simp] theorem isAccepted_accepted : accepted.isAccepted = true := rfl

theorem append_applied_eq (outcome : CallOutcome) (effects : List Effect) (effect : Effect) :
    effects ++ outcome.applied effect = effects ↔ outcome.takesEffect = false := by
  unfold applied
  cases outcome.takesEffect <;> simp

theorem mem_applied {effect other : Effect} (member : other ∈ outcome.applied effect) : other = effect := by
  unfold applied at member
  split at member
  · exact List.mem_singleton.mp member
  · cases member

theorem countP_append_applied (outcome : CallOutcome) (effects : List Effect) (effect : Effect) (counts : Effect → Bool) :
    (effects ++ outcome.applied effect).countP counts = effects.countP counts +
        if counts effect = true ∧ outcome.takesEffect = true then 1 else 0 := by
  rw [List.countP_append, applied]
  cases outcome.takesEffect with
  | false => simp
  | true => simp [List.countP_cons]

theorem uncounted {own : Prop} [Decidable own] {before after : Nat}
    (count : after = before + if own ∧ outcome.takesEffect = true then 1 else 0)
    (honest : own → outcome.takesEffect = false) : after = before := by
  rw [count, if_neg, Nat.add_zero]
  intro both
  obtain ⟨here, applied⟩ := both
  rw [honest here] at applied
  cases applied

@[simp] theorem prefixed_accepted (text : String) : accepted.prefixed text = accepted := rfl

@[simp] theorem takesEffect_prefixed (outcome : CallOutcome) (text : String) :
    (outcome.prefixed text).takesEffect = outcome.takesEffect := by
  cases outcome <;> rfl

end CallOutcome

end Blazil.Sharding
