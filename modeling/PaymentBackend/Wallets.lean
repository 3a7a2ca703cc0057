import PaymentBackend.Service

namespace PaymentBackend

open Library Library.Action

namespace WalletRepository

-- A wallet_id that spells no UUID is none.
def get_by_id (d : Db) (wallet_id : Option Uuid) : Except Exc (Option Wallet) :=
  match wallet_id with
  | none => .error .malformed_uuid
  | some id => .ok (d.wallets.get id)

-- SELECT .. FOR UPDATE: the lock, then the row.
def get_wallet_with_lock (wallet_id : Option Uuid) : Svc (Option Wallet) := do
  performAll (wallet_id.toList.map .lockWallet)
  query fun d => get_by_id d wallet_id

def find_wallet (d : Db) (customer : CustomerProfile) (merchant : MerchantProfile)
    (currency : String) : Option Wallet :=
  d.wallets.rows.find? fun w =>
    w.customer = customer.id ∧ w.merchant = merchant.id ∧ w.currency = upper currency

def new_wallet (env : Env) (customer : CustomerProfile) (merchant : MerchantProfile)
    (currency : String) : Wallet := {
  id := env.new_id
  customer := customer.id
  merchant := merchant.id
  balance := 0
  currency := upper currency
  status := .ACTIVE }

-- Wallet.objects.get_or_create: an INSERT that is refused may have lost against another
-- process's.
def get_or_create_wallet (customer : CustomerProfile) (merchant : MerchantProfile)
    (currency : String) : Svc Wallet := do
  match ← read fun d => find_wallet d customer merchant currency with
  | some wallet => return wallet
  | none =>
      let wallet ← ask fun env => new_wallet env customer merchant currency
      match ← attempt (atomically (execute (.insertWallet wallet))) with
      | .ok _ => return wallet
      | .error e =>
          match ← read fun d => find_wallet d customer merchant currency with
          | some wallet => return wallet
          | none => raise e

def update_wallet_status (wallet : Wallet) (status : WalletStatus) : Wallet × List Write :=
  ({ wallet with status }, [.saveWalletStatus wallet.id status])

end WalletRepository

namespace WalletService

def get_or_create_wallet (merchant_user : User) (customer_id : Uuid) (currency : String) :
    Svc Wallet := do
  let merchant ← MerchantService.get_or_create_profile merchant_user
  match ← read fun d => CustomerRepository.get_by_id d customer_id merchant with
  | none => raise .customer_not_found
  | some customer => WalletRepository.get_or_create_wallet customer merchant currency

-- The text columns of a ledger entry and who asked for it.
structure Entry where
  reference : String
  description : String
  txn_type : WalletTransactionType
  source : TxnSource
  deriving DecidableEq, Repr

def transaction_of (env : Env) (wallet : Wallet) (amount change : Int) (entry : Entry) :
    WalletTransaction := {
  transaction_number := generate_unique_id env.random "txn" 24
  wallet := wallet.id
  amount
  type := entry.txn_type
  balance_before := wallet.balance
  balance_after := wallet.balance + change
  reference := entry.reference
  description := entry.description
  source := entry.source }

def posting (wallet : Wallet) (txn : WalletTransaction) : List Write :=
  [.saveWalletBalance wallet.id txn.balance_after, .insertWalletTransaction txn]

-- The statements of the block: the lock, the balance and the ledger entry.
def locked_posting (wallet : Wallet) (txn : WalletTransaction) : List Write :=
  .lockWallet wallet.id :: posting wallet txn

-- credit_wallet and debit_wallet differ in the change of the balance and in the
-- check on the locked wallet. This is the transaction.atomic() block of both.
def post_locked (check : Wallet → Except Exc Unit) (wallet_id : Option Uuid)
    (amount change : Int) (entry : Entry) : Svc (Wallet × WalletTransaction) := do
  match ← WalletRepository.get_wallet_with_lock wallet_id with
  | none => raise .wallet_not_found
  | some wallet =>
      raise_if (wallet.status ≠ .ACTIVE) (.wallet_not_active wallet.status)
      ofExcept (check wallet)
      let txn ← ask fun env => transaction_of env wallet amount change entry
      performAll (posting wallet txn)
      return ({ wallet with balance := txn.balance_after }, txn)

def post (check : Wallet → Except Exc Unit) (wallet_id : Option Uuid) (amount change : Int)
    (entry : Entry) : Svc (Wallet × WalletTransaction) := do
  raise_if (amount ≤ 0) .invalid_amount
  atomically (post_locked check wallet_id amount change entry)

def credit_wallet (wallet_id : Option Uuid) (amount : Int) (entry : Entry) :
    Svc (Wallet × WalletTransaction) :=
  post (fun _ => .ok ()) wallet_id amount amount entry

def check_funds (amount : Int) (wallet : Wallet) : Except Exc Unit :=
  if wallet.balance < amount then
    .error (.insufficient_wallet_balance wallet.balance amount wallet.currency)
  else .ok ()

def debit_wallet (wallet_id : Option Uuid) (amount : Int) (entry : Entry) :
    Svc (Wallet × WalletTransaction) :=
  post (check_funds amount) wallet_id amount (-amount) entry

def set_status (status : WalletStatus) (wallet_id : Option Uuid) : Svc Wallet := do
  match ← query fun d => WalletRepository.get_by_id d wallet_id with
  | none => raise .wallet_not_found
  | some wallet =>
      let (wallet, writes) := WalletRepository.update_wallet_status wallet status
      performAll writes
      return wallet

def freeze_wallet (wallet_id : Option Uuid) : Svc Wallet := set_status .FROZEN wallet_id

def unfreeze_wallet (wallet_id : Option Uuid) : Svc Wallet := set_status .ACTIVE wallet_id

end WalletService

end PaymentBackend
