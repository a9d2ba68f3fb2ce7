import Kufi.Chaincode.Governance

set_option autoImplicit false

/-!
# The hours of an expiry

The hours become nanoseconds in a signed 64-bit integer, which holds 2562047
hours. The policy accepts any number of at least one.
-/

namespace Kufi.Chaincode.Governance

open Shared

def hourNanos : Int := 3600000000000

/-- The most hours whose nanoseconds fit. -/
def longestExpiry : Int := 2562047

/-- A stored time that is read back: its year has four digits. -/
def FourDigitYear (stored : Stamp) : Prop := -62167219200 ≤ stored ∧ stored < 253402300800

instance (stored : Stamp) : Decidable (FourDigitYear stored) :=
  inferInstanceAs (Decidable (_ ∧ _))

/-- The request expires when its hours, as integers, are over. -/
def ExpiresExactly (created : TransactionContext) (expiryHours : Int) : Prop :=
  ∀ later : TransactionContext, created.txTime ≤ later.txTime →
    (isExpired created.txTimestamp expiryHours later.txTime = true ↔
      created.txTimestamp * 1000000000 + expiryHours * hourNanos < later.txTime)

/-- With fewer hours the request would be expired as well. -/
def NeverEarlier (created : TransactionContext) (expiryHours : Int) : Prop :=
  ∀ shorter : Int, 1 ≤ shorter → shorter ≤ expiryHours →
    ∀ later : TransactionContext, created.txTime ≤ later.txTime →
      isExpired created.txTimestamp expiryHours later.txTime = true →
        isExpired created.txTimestamp shorter later.txTime = true

/-! ## Nanoseconds in 64 bits -/

theorem nanos_exact {expiryHours : Int} (least : 1 ≤ expiryHours)
    (most : expiryHours ≤ longestExpiry) :
    (expiryHours * hourNanos).bmod (2 ^ 64) = expiryHours * hourNanos := by
  unfold longestExpiry at most
  unfold hourNanos
  exact Int.bmod_eq_of_le_mul_two (by omega) (by omega)

/-- Too many hours end at an earlier time. -/
theorem nanos_short {expiryHours : Int} (more : longestExpiry < expiryHours) :
    (expiryHours * hourNanos).bmod (2 ^ 64) < expiryHours * hourNanos := by
  have below : (expiryHours * hourNanos).bmod (2 ^ 64) < (2 ^ 64 + 1) / 2 :=
    Int.bmod_lt (by decide)
  unfold longestExpiry at more
  unfold hourNanos at below ⊢
  omega

theorem isExpired_fourDigitYear {stored : Stamp} (year : FourDigitYear stored)
    (expiryHours : Int) (now : Time) :
    isExpired stored expiryHours now = true ↔
      stored * 1000000000 + (expiryHours * hourNanos).bmod (2 ^ 64) < now := by
  have inside : ¬ (stored < -62167219200 ∨ 253402300800 ≤ stored) := by
    unfold FourDigitYear Stamp at *
    omega
  rw [isExpired, if_neg inside, decide_eq_true_eq]
  rfl

theorem isExpired_otherYear {stored : Stamp} (year : ¬ FourDigitYear stored) (expiryHours : Int)
    (now : Time) : isExpired stored expiryHours now = false := by
  have outside : stored < -62167219200 ∨ 253402300800 ≤ stored := by
    unfold FourDigitYear Stamp at *
    omega
  rw [isExpired, if_pos outside]

/-! ## When the hours are exact -/

theorem stored_bounds (created : TransactionContext) :
    created.txTimestamp * 1000000000 ≤ created.txTime ∧
      created.txTime < created.txTimestamp * 1000000000 + 1000000000 := by
  unfold TransactionContext.txTimestamp Stamp Time
  omega

/-- A transaction at a given time. -/
def transactionAt (now : Time) : TransactionContext where
  txID := ""
  creatorMSP := .ok ""
  seconds := now / 1000000000
  nanos := now % 1000000000

@[simp] theorem txTime_transactionAt (now : Time) : (transactionAt now).txTime = now := by
  unfold TransactionContext.txTime transactionAt
  exact Int.mul_comm _ _ ▸ Int.mul_ediv_add_emod now 1000000000

theorem accepted_hours {ctx : TransactionContext} {policyType : String}
    {thresholdPct expiryHours : Int}
    (accepted : (updatePolicy ctx policyType thresholdPct expiryHours).result = .ok ()) :
    1 ≤ expiryHours := by
  unfold updatePolicy Execution.refused at accepted
  split at accepted
  next => cases accepted
  next =>
    split_ifs at accepted with range hours
    exact Int.not_lt.mp hours

theorem expiresExactly {created : TransactionContext} {expiryHours : Int}
    (year : FourDigitYear created.txTimestamp) (least : 1 ≤ expiryHours)
    (most : expiryHours ≤ longestExpiry) : ExpiresExactly created expiryHours := by
  intro later _
  rw [isExpired_fourDigitYear year, nanos_exact least most]

theorem neverEarlier {created : TransactionContext} {expiryHours : Int}
    (year : FourDigitYear created.txTimestamp) (most : expiryHours ≤ longestExpiry) :
    NeverEarlier created expiryHours := by
  intro shorter least fewer later after expired
  have exactly := expiresExactly year (Int.le_trans least fewer) most later after
  refine (expiresExactly year least (Int.le_trans fewer most) later after).mpr ?_
  have ends := exactly.mp expired
  unfold hourNanos Stamp Time at *
  omega

/-- A time that cannot be read back never expires. -/
theorem expiresExactly_year {created : TransactionContext} {expiryHours : Int}
    (least : 1 ≤ expiryHours) (exactly : ExpiresExactly created expiryHours) :
    FourDigitYear created.txTimestamp := by
  by_contra year
  obtain ⟨_, before⟩ := stored_bounds created
  let past := created.txTimestamp * 1000000000 + expiryHours * hourNanos + 1
  have later : created.txTime ≤ (transactionAt past).txTime := by
    rw [txTime_transactionAt]
    unfold past hourNanos Stamp Time at *
    omega
  have expired := (exactly (transactionAt past) later).mpr (by
    rw [txTime_transactionAt]
    exact Int.lt_succ _)
  rw [isExpired_otherYear year] at expired
  cases expired

/-- The first instant at which a request with too many hours is taken for expired. -/
theorem expiresExactly_most {created : TransactionContext} {expiryHours : Int}
    (year : FourDigitYear created.txTimestamp) (exactly : ExpiresExactly created expiryHours) :
    expiryHours ≤ longestExpiry := by
  by_contra more
  have short := nanos_short (Int.not_le.mp more)
  obtain ⟨_, before⟩ := stored_bounds created
  let early := max (created.txTimestamp * 1000000000 + (expiryHours * hourNanos).bmod (2 ^ 64))
    created.txTime + 1
  have later : created.txTime ≤ (transactionAt early).txTime := by
    rw [txTime_transactionAt]
    unfold early Stamp Time at *
    omega
  have ended := (exactly (transactionAt early) later).mp (by
    rw [isExpired_fourDigitYear year, txTime_transactionAt]
    unfold early Stamp Time at *
    omega)
  rw [txTime_transactionAt] at ended
  unfold early longestExpiry hourNanos Stamp Time at *
  omega

/-- The hours are exact just when their nanoseconds fit and the time of creation is read back. -/
theorem expiry_exact_iff {ctx : TransactionContext} {policyType : String}
    {thresholdPct expiryHours : Int}
    (accepted : (updatePolicy ctx policyType thresholdPct expiryHours).result = .ok ())
    (created : TransactionContext) :
    ExpiresExactly created expiryHours ∧ NeverEarlier created expiryHours ↔
      FourDigitYear created.txTimestamp ∧ expiryHours ≤ longestExpiry := by
  have least := accepted_hours accepted
  constructor
  · rintro ⟨exactly, -⟩
    have year := expiresExactly_year least exactly
    exact ⟨year, expiresExactly_most year exactly⟩
  · rintro ⟨year, most⟩
    exact ⟨expiresExactly year least most, neverEarlier year most⟩

theorem expiry_exact_iff_week :
    ExpiresExactly (invoked "t1" "BankMSP" 1700000000) 168 ∧
        NeverEarlier (invoked "t1" "BankMSP" 1700000000) 168 ↔
      FourDigitYear (invoked "t1" "BankMSP" 1700000000).txTimestamp ∧ 168 ≤ longestExpiry :=
  expiry_exact_iff (show (updatePolicy (invoked "t0" "BankMSP" 1700000000) "MAJORITY" 51
    168).result = .ok () from rfl) _

-- The request of one second ago is expired, though its hours end in the year 2316.
theorem expired_at_once :
    ¬ ∀ (ctx : TransactionContext) (policyType : String) (thresholdPct expiryHours : Int),
      (updatePolicy ctx policyType thresholdPct expiryHours).result = .ok () →
      expiryHours < 2 ^ 63 → ∀ created : TransactionContext,
        ExpiresExactly created expiryHours ∧ NeverEarlier created expiryHours := by
  intro always
  have holds := (always (invoked "t0" "BankMSP" 1700000000) "MAJORITY" 51 2562048 rfl (by decide)
    (invoked "t1" "BankMSP" 1700000000)).1 (invoked "t2" "BankMSP" 1700000001) (by decide)
  revert holds
  decide

end Kufi.Chaincode.Governance
