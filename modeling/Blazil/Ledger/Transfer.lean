import Blazil.Common.Amount

/-! The transfer model of `core/ledger/src/transfer.rs`. Transfer ids are generated
by the caller's environment, so constructors take them as arguments; the creation
timestamp is read by no other part of the model and is left out. -/

set_option autoImplicit false

namespace Blazil.Ledger

open Blazil.Common

structure TransferFlags where
  linked : Bool := false
  pending : Bool := false
  postPendingTransfer : Bool := false
  voidPendingTransfer : Bool := false
deriving DecidableEq

structure Transfer where
  id : TransferId
  debitAccountId : AccountId
  creditAccountId : AccountId
  amount : Amount
  ledgerId : LedgerId
  code : UInt16
  flags : TransferFlags
  pendingId : Option TransferId
deriving DecidableEq

namespace Transfer

def validate (transfer : Transfer) : BlazerResult Unit :=
  if transfer.id = .nil then
    .error (.validationError "transfer id must not be the nil UUID")
  else if transfer.debitAccountId = transfer.creditAccountId then
    .error (.validationError "debit and credit accounts must be different (no self-transfers)")
  else if transfer.amount.value.isZero then
    .error (.validationError "transfer amount must be greater than zero")
  else if transfer.amount.value.scale > 8 then
    .error (.invalidAmountScale transfer.amount.value.scale)
  else .ok ()

def newWithFlags (id : TransferId) (debitAccountId creditAccountId : AccountId) (amount : Amount) (ledgerId : LedgerId)
    (code : UInt16) (flags : TransferFlags) (pendingId : Option TransferId) : BlazerResult Transfer :=
  let transfer : Transfer :=
    ⟨id, debitAccountId, creditAccountId, amount, ledgerId, code, flags, pendingId⟩
  transfer.validate.map fun _ => transfer

def new (id : TransferId) (debitAccountId creditAccountId : AccountId) (amount : Amount)
    (ledgerId : LedgerId) (code : UInt16) : BlazerResult Transfer :=
  newWithFlags id debitAccountId creditAccountId amount ledgerId code {} none

variable {transfer : Transfer} {id : TransferId} {amount : Amount}

theorem validate_ok_iff : transfer.validate = .ok () ↔ transfer.id ≠ .nil ∧
      transfer.debitAccountId ≠ transfer.creditAccountId ∧
      transfer.amount.value.isZero = false ∧ transfer.amount.value.scale ≤ 8 := by
  unfold validate
  split_ifs <;> simp_all

variable {debitAccountId creditAccountId : AccountId}

theorem newWithFlags_spec {ledgerId code flags pendingId}
    (created : newWithFlags id debitAccountId creditAccountId amount ledgerId code flags pendingId = .ok transfer) :
    transfer = ⟨id, debitAccountId, creditAccountId, amount, ledgerId, code, flags, pendingId⟩ ∧ transfer.validate = .ok () := by
  unfold newWithFlags at created
  dsimp only at created
  cases checked : (Transfer.mk id debitAccountId creditAccountId amount ledgerId code flags pendingId).validate with
    rw [checked] at created
  | error =>
    cases created
  | ok =>
    cases created
    exact ⟨rfl, checked⟩

theorem newWithFlags_ok (ledgerId : LedgerId) (code : UInt16) (flags : TransferFlags)
    (pendingId : Option TransferId) (identified : id ≠ .nil) (different : debitAccountId ≠ creditAccountId)
    (nonzero : amount.value.isZero = false) (short : amount.value.scale ≤ 8) :
    newWithFlags id debitAccountId creditAccountId amount ledgerId code flags pendingId =
      .ok ⟨id, debitAccountId, creditAccountId, amount, ledgerId, code, flags, pendingId⟩ := by
  have valid : (Transfer.mk id debitAccountId creditAccountId amount ledgerId code flags
      pendingId).validate = .ok () := validate_ok_iff.mpr ⟨identified, different, nonzero, short⟩
  simp [newWithFlags, valid, Except.map]

end Transfer

end Blazil.Ledger
