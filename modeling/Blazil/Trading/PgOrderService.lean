import Blazil.Foundation.KeyedTable
import Blazil.Trading.OrderService
import Blazil.Trading.SharedBook

/-! Orders that are kept in a database (`services/trading/internal/orders/pg_order_service.go`
and the tables of `services/trading/db/migrations`). Every SQL statement, every reading of
fields for a statement and every critical section in memory is one step. What a transaction
writes is seen by others when it has been committed; until then the rows that it has updated
are locked. Any statement may fail. -/

set_option autoImplicit false

namespace Blazil.Trading

open Foundation

structure OrderRow where
  instrumentId : InstrumentId
  ownerId : String
  side : Side
  limitPriceMinorUnits : Int
  quantityUnits : Int
  filledUnits : Int
  status : OrderStatus
  placedAt : Nat
deriving DecidableEq

def OrderRow.isOpen (row : OrderRow) : Bool := row.status = .opened || row.status = .partlyFilled

def Order.row (order : Order) (placedAt : Nat) : OrderRow where
  instrumentId := order.instrumentId
  ownerId := order.ownerId
  side := order.side
  limitPriceMinorUnits := order.limitPriceMinorUnits
  quantityUnits := order.quantityUnits
  filledUnits := order.filledUnits
  status := order.status
  placedAt := placedAt

def OrderRow.order (row : OrderRow) (id : OrderId) : Order where
  id := id
  instrumentId := row.instrumentId
  ownerId := row.ownerId
  side := row.side
  limitPriceMinorUnits := row.limitPriceMinorUnits
  quantityUnits := row.quantityUnits
  filledUnits := row.filledUnits
  status := row.status

structure RowUpdate where
  id : OrderId
  filledUnits : Int
  status : OrderStatus
deriving DecidableEq

/-- What has been committed; of a trade only the key matters. -/
structure Database where
  orders : KeyedTable OrderId OrderRow
  trades : List String

/-- A transaction that has inserted its order. -/
structure Transaction where
  id : OrderId
  row : OrderRow
  updates : List RowUpdate
  trades : List String
deriving DecidableEq

namespace Database

def update (orders : KeyedTable OrderId OrderRow) (change : RowUpdate) : KeyedTable OrderId OrderRow :=
  match orders.get change.id with
  | none => orders
  | some row =>
    orders.upsert change.id fun _ =>
      { row with filledUnits := change.filledUnits, status := change.status }

/-- The key of a transaction's own row is free until then. -/
def commit (database : Database) (transaction : Transaction) : Database where
  orders := transaction.updates.foldl update (database.orders.upsert transaction.id fun row => row.getD transaction.row)
  trades := database.trades ++ transaction.trades

def setCancelled (database : Database) (id : OrderId) (row : OrderRow) : Database :=
  { database with orders := database.orders.upsert id fun _ => { row with status := .cancelled } }

def openRows (database : Database) : List (OrderId × OrderRow) :=
  (database.orders.entries.filter fun entry => entry.2.isOpen).insertionSort
    fun first second => first.2.placedAt ≤ second.2.placedAt

end Database

/-- The rows in their order, each as a new object in the map and in its book. -/
def restoreRows (memory : Memory) : List (OrderId × OrderRow) → Memory
  | [] => memory
  | entry :: rest =>
    let order := entry.2.order entry.1
    restoreRows ((memory.allocate order).rest memory.objects.length order) rest

def rebuildFromDB (database : Database) : Memory := restoreRows .new database.openRows

inductive PgError where
  | domain (error : TradingError)
  | statement (context text : String)
deriving DecidableEq

inductive PlacePhase where
  | begun
  | opened (side : Side) (placedAt : Nat)
  | inserted (side : Side) (transaction : Transaction)
  | insertingTrades (ref : Ref) (trades left : List Trade) (makers : List Ref) (transaction : Transaction)
  /-- The fields of the next maker may have been read. -/
  | updatingMakers (ref : Ref) (trades : List Trade) (left : List Ref) (prepared : Option RowUpdate) (transaction : Transaction)
  | updatingTaker (ref : Ref) (trades : List Trade) (prepared : RowUpdate) (transaction : Transaction)
  | committing (ref : Ref) (trades : List Trade) (transaction : Transaction)
  | returned (result : Except PgError (Order × List Trade))
deriving DecidableEq

inductive CancelPhase where
  | begun
  /-- The row has been updated. -/
  | marked
  | returned (result : Except PgError Unit)
deriving DecidableEq

inductive Call where
  | place (request : PlaceOrderRequest) (phase : PlacePhase)
  | cancel (id : OrderId) (phase : CancelPhase)
deriving DecidableEq

def PlacePhase.transaction : PlacePhase → Option Transaction
  | .inserted _ transaction => some transaction
  | .insertingTrades _ _ _ _ transaction => some transaction
  | .updatingMakers _ _ _ _ transaction => some transaction
  | .updatingTaker _ _ _ transaction => some transaction
  | .committing _ _ transaction => some transaction
  | _ => none

def Call.transaction : Call → Option Transaction
  | .place _ phase => phase.transaction
  | .cancel _ _ => none

def Call.locks (id : OrderId) (call : Call) : Bool :=
  call.transaction.any fun transaction => transaction.updates.any fun update => update.id = id

def Call.inserts (id : OrderId) (call : Call) : Bool :=
  call.transaction.any fun transaction => transaction.id = id

/-- What decides a step: whether the statement fails and with which text, whether a statement
that commits has an effect all the same, the time, and how long a match is followed. -/
structure PgAccess where
  fault : Option String
  applied : Bool
  now : Nat
  turns : Nat
deriving DecidableEq

structure PgOrderService where
  memory : Memory
  tradeId : Nat
  database : Database
  calls : List Call

namespace PgOrderService

def started (database : Database) : PgOrderService := ⟨rebuildFromDB database, 0, database, []⟩

/-- `strings.Contains`. -/
def containsText (part : List Char) : List Char → Bool
  | [] => part.isEmpty
  | char :: rest => part.isPrefixOf (char :: rest) || containsText part rest

def insertError (text : String) : PgError :=
  if containsText "23505".toList text.toList then .domain .orderAlreadyExists
  else .statement "insert order" text

def Visible (database : Database) (transaction : Transaction) (id : OrderId) : Bool :=
  (database.orders.get id).isSome || id = transaction.id

/-- What the constraints of the table of trades say about a row. -/
def tradeRefused (database : Database) (transaction : Transaction) (trade : Trade) : Option String :=
  if trade.id ∈ database.trades ++ transaction.trades then some "duplicate key (SQLSTATE 23505)"
  else if Visible database transaction trade.makerOrderId &&
      Visible database transaction trade.takerOrderId then none
  else some "violates foreign key constraint (SQLSTATE 23503)"

/-- An `UPDATE` in a transaction, unless it waits for another transaction. Without a row that
can be seen it does nothing. -/
def executeUpdate (service : PgOrderService) (others : List Call) (transaction : Transaction)
    (update : RowUpdate) : Option Transaction :=
  if Visible service.database transaction update.id then
    if others.any (Call.locks update.id) then none
    else some { transaction with updates := transaction.updates ++ [update] }
  else some transaction

def fieldsOf (service : PgOrderService) (ref : Ref) : Option RowUpdate :=
  (service.memory.objects[ref]?).map fun order => ⟨order.id, order.filledUnits, order.status⟩

abbrev PlaceResult := PgOrderService × PlacePhase

def placeBegun (service : PgOrderService) (request : PlaceOrderRequest) (access : PgAccess) : PlaceResult :=
  if request.quantityUnits ≤ 0 then (service, .returned (.error (.domain .invalidQuantity)))
  else if request.limitPriceMinorUnits ≤ 0 then
    (service, .returned (.error (.domain .invalidPrice)))
  else
    match Side.ofCode request.side with
    | none => (service, .returned (.error (.domain .unknownSide)))
    | some side =>
      match access.fault with
      | some text => (service, .returned (.error (.statement "begin tx" text)))
      | none => (service, .opened side access.now)

/-- The `INSERT` waits for a transaction that has inserted the same key. -/
def placeOpened (service : PgOrderService) (others : List Call) (request : PlaceOrderRequest)
    (access : PgAccess) (side : Side) (placedAt : Nat) : Option PlaceResult :=
  match access.fault with
  | some text => some (service, .returned (.error (insertError text)))
  | none =>
    if (service.database.orders.get request.id).isSome then
      some (service, .returned (.error (.domain .orderAlreadyExists)))
    else if others.any (Call.inserts request.id) then none
    else
      some (service, .inserted side ⟨request.id, (request.order side).row placedAt, [], []⟩)

def placeInserted (service : PgOrderService) (request : PlaceOrderRequest) (access : PgAccess)
    (side : Side) (transaction : Transaction) : Option PlaceResult :=
  (service.memory.place access.turns service.tradeId (request.order side)).map fun result =>
    ({ service with memory := result.memory, tradeId := result.tradeId },
      .insertingTrades service.memory.objects.length result.trades result.trades result.filledMakers transaction)

def placeTrade (service : PgOrderService) (access : PgAccess) (ref : Ref) (trades : List Trade) (trade : Trade)
    (rest : List Trade) (makers : List Ref) (transaction : Transaction) : PlaceResult :=
  match access.fault.or (tradeRefused service.database transaction trade) with
  | some text => (service, .returned (.error (.statement "insert trade" text)))
  | none =>
    (service, .insertingTrades ref trades rest makers
      { transaction with trades := transaction.trades ++ [trade.id] })

/-- `WHERE id = $4` with arguments that have been read. -/
def placeUpdate (service : PgOrderService) (others : List Call) (access : PgAccess) (context : String)
    (transaction : Transaction) (update : RowUpdate) (next : Transaction → PlacePhase) : Option PlaceResult :=
  match access.fault with
  | some text => some (service, .returned (.error (.statement context text)))
  | none =>
    (executeUpdate service others transaction update).map fun written => (service, next written)

/-- After the makers the taker is updated if it has been filled. -/
def placeMakersDone (service : PgOrderService) (ref : Ref) (trades : List Trade)
    (transaction : Transaction) : Option PlaceResult :=
  (service.fieldsOf ref).map fun fields =>
    (service, if fields.filledUnits > 0 then .updatingTaker ref trades fields transaction
      else .committing ref trades transaction)

def placeCommit (service : PgOrderService) (access : PgAccess) (ref : Ref) (trades : List Trade)
    (transaction : Transaction) : Option PlaceResult :=
  let committed := { service with database := service.database.commit transaction }
  match access.fault with
  | some text =>
    some (if access.applied then committed else service,
      .returned (.error (.statement "commit" text)))
  | none =>
    (service.memory.objects[ref]?).map fun order => (committed, .returned (.ok (order, trades)))

def placeStep (service : PgOrderService) (others : List Call) (request : PlaceOrderRequest)
    (access : PgAccess) : PlacePhase → Option PlaceResult
  | .begun => some (placeBegun service request access)
  | .opened side placedAt => placeOpened service others request access side placedAt
  | .inserted side transaction => placeInserted service request access side transaction
  | .insertingTrades ref trades (trade :: rest) makers transaction =>
    some (placeTrade service access ref trades trade rest makers transaction)
  | .insertingTrades ref trades [] makers transaction =>
    some (service, .updatingMakers ref trades makers none transaction)
  | .updatingMakers ref trades (maker :: rest) none transaction =>
    (service.fieldsOf maker).map fun fields =>
      (service, .updatingMakers ref trades (maker :: rest) (some fields) transaction)
  | .updatingMakers ref trades left (some update) transaction =>
    placeUpdate service others access "update maker order" transaction update fun written =>
      .updatingMakers ref trades left.tail none written
  | .updatingMakers ref trades [] none transaction =>
    placeMakersDone service ref trades transaction
  | .updatingTaker ref trades update transaction =>
    placeUpdate service others access "update taker order" transaction update fun written =>
      .committing ref trades written
  | .committing ref trades transaction => placeCommit service access ref trades transaction
  | .returned _ => none

/-- The `UPDATE` of `CancelOrder` with an open row. It waits for a transaction that has the row
locked; when it fails, it may have been carried out. -/
def cancelRow (service : PgOrderService) (others : List Call) (access : PgAccess) (id : OrderId)
    (row : OrderRow) : Option (PgOrderService × CancelPhase) :=
  let marked := { service with database := service.database.setCancelled id row }
  match access.fault with
  | some text =>
    if access.applied then
      if others.any (Call.locks id) then none
      else some (marked, .returned (.error (.statement "cancel order" text)))
    else some (service, .returned (.error (.statement "cancel order" text)))
  | none => if others.any (Call.locks id) then none else some (marked, .marked)

def cancelBegun (service : PgOrderService) (others : List Call) (access : PgAccess)
    (id : OrderId) : Option (PgOrderService × CancelPhase) :=
  match (service.database.orders.get id).filter OrderRow.isOpen with
  | some row => cancelRow service others access id row
  | none =>
    match access.fault with
    | some text => some (service, .returned (.error (.statement "cancel order" text)))
    | none => some (service, .returned (.error (.domain .orderNotFound)))

def cancelStep (service : PgOrderService) (others : List Call) (access : PgAccess)
    (id : OrderId) : CancelPhase → Option (PgOrderService × CancelPhase)
  | .begun => cancelBegun service others access id
  | .marked =>
    let cancelled := service.memory.cancelOrder id
    some ({ service with memory := cancelled.1 }, .returned (cancelled.2.mapError .domain))
  | .returned _ => none

def callStep (service : PgOrderService) (others : List Call) (access : PgAccess) : Call → Option (PgOrderService × Call)
  | .place request phase =>
    (placeStep service others request access phase).map fun result =>
      (result.1, .place request result.2)
  | .cancel id phase =>
    (cancelStep service others access id phase).map fun result => (result.1, .cancel id result.2)

end PgOrderService

inductive PgLabel where
  | placeOrder (request : PlaceOrderRequest)
  | cancelOrder (id : OrderId)
  | access (index : Nat) (access : PgAccess)
deriving DecidableEq

namespace PgOrderService

def step (service : PgOrderService) : PgLabel → Option PgOrderService
  | .placeOrder request =>
    some { service with calls := service.calls ++ [.place request .begun] }
  | .cancelOrder id => some { service with calls := service.calls ++ [.cancel id .begun] }
  | .access index access =>
    (service.calls[index]?).bind fun call =>
      (service.callStep (service.calls.eraseIdx index) access call).map fun result =>
        { result.1 with calls := service.calls.set index result.2 }

def system : System PgOrderService PgLabel := ⟨step⟩

end PgOrderService

end Blazil.Trading
