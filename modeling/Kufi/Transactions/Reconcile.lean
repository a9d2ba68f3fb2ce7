import Kufi.Transactions.Service

set_option autoImplicit false

/-!
# Wallet reconciliation

`reconcileWallets` reads the wallets once and then, wallet by wallet, the first
ledger entry and the sum of the entries. With `autoFix` it saves the wallet it
read at the start with the balance expected from the ledger.
-/

namespace Kufi.Transactions

open Shared

structure ReconcileItem where
  walletId : Nat
  userId : Uuid
  currency : String
  currentBalance : Int
  expectedBalance : Int
  openingBalance : Int
  ledgerDelta : Int
  deriving DecidableEq

structure ReconcileResult where
  scanned : Nat
  mismatches : Nat
  fixed : Nat
  items : List ReconcileItem
  deriving DecidableEq

namespace Tables

def walletsToReconcile (limit : Int) (s : Tables) : List Wallet :=
  (s.wallets.rows.insertionSort fun left right => left.createdAt ≤ right.createdAt).take
    (max 1 (min limit 5000)).toNat

def firstEntry (walletId : Nat) (s : Tables) : Option LedgerEntry :=
  s.ledger.find? fun entry => entry.walletId == some walletId

-- `SUM(CASE WHEN direction = 'CREDIT' THEN amount ELSE -amount END)`, read as a number.
def ledgerDelta (walletId : Nat) (s : Tables) : Int :=
  Number.round (((s.ledger.rows.filter fun entry => entry.walletId == some walletId).map
    fun entry => if entry.direction = .credit then entry.amount else -entry.amount).sum)

end Tables

def corrected (expectedBalance : Int) (wallet : Wallet) : Wallet :=
  { wallet with balance := expectedBalance }

-- `found` holds `items` and `fixed` as far as the loop has come.
def reconcileWallet (autoFix : Bool) (found : List ReconcileItem × Nat) (wallet : Wallet) :
    Service (List ReconcileItem × Nat) := do
  match ← Service.read fun s => .ok (s.firstEntry wallet.id) with
  | none => pure found
  | some firstEntry =>
    let ledgerDelta ← Service.read fun s => .ok (s.ledgerDelta wallet.id)
    let openingBalance := firstEntry.balanceBefore
    let expectedBalance := Number.add openingBalance ledgerDelta
    let currentBalance := wallet.balance
    if expectedBalance = currentBalance then pure found
    else
      let items := found.1 ++
        [{ walletId := wallet.id
           userId := wallet.userId
           currency := wallet.currency
           currentBalance, expectedBalance, openingBalance, ledgerDelta }]
      if autoFix then
        Service.write (·.saveWallet (corrected expectedBalance wallet))
        pure (items, found.2 + 1)
      else pure (items, found.2)

def reconcileWallets (limit : Int) (autoFix : Bool) : Service ReconcileResult := do
  let wallets ← Service.read fun s => .ok (s.walletsToReconcile limit)
  let (items, fixed) ← wallets.foldlM (reconcileWallet autoFix) ([], 0)
  pure { scanned := wallets.length, mismatches := items.length, fixed, items }

end Kufi.Transactions
