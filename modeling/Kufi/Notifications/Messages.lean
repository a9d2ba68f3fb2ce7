import Kufi.Transactions.Events

set_option autoImplicit false

/-!
# What a transaction event is told to users as

The consumer of the notification service maps the type of an event to
notifications of its own wording. A completed transfer between two users is
emailed to both as well.
-/

namespace Kufi.Notifications

open Shared Transactions

inductive NotificationChannel where
  | app
  | email
  deriving DecidableEq

-- The value whose JSON text the column keeps.
inductive PayloadJson where
  | event (payload : EventPayload)
  | balanceChange (transactionId : Nat) (currency : String) (amount : Int)
      (balanceAfter : Option Int) (email : String)
  deriving DecidableEq

structure NotificationEntity where
  userId : Uuid
  channel : NotificationChannel
  title : String
  content : String
  payloadJson : PayloadJson
  deriving DecidableEq

-- Groups of three from the end of a number, whose digits come in reverse.
def groupDigits : List Char → List (List Char)
  | first :: second :: third :: fourth :: rest =>
    [third, second, first] :: groupDigits (fourth :: rest)
  | digits => [digits.reverse]

/-- `toLocaleString('vi-VN')` of an integer. -/
def toLocaleString (n : Int) : String :=
  (if n < 0 then "-" else "") ++
    String.ofList (List.intercalate ['.'] (groupDigits (Nat.toDigits 10 n.natAbs).reverse).reverse)

/-! ## Notifications in the app -/

section

variable (payload : EventPayload)

def receiptReady (userId : Uuid) : NotificationEntity where
  userId := userId
  channel := .app
  title := "Hóa đơn điện tử đã sẵn sàng cho giao dịch " ++ toString payload.transactionId
  content := "Giao dịch " ++ toString payload.transactionId ++ " đã được xác nhận on-chain"
  payloadJson := .event payload

-- The receiver, unless it is the sender.
def otherUser : Option Uuid :=
  payload.toUserId.filter (· ≠ payload.fromUserId)

def senderTitle : String :=
  if payload.eventType = "transaction.failed" then "Giao dịch thất bại" else "Giao dịch thành công"

def senderContent : String :=
  if payload.eventType = "transaction.failed" then
    "Giao dịch " ++ toString payload.transactionId ++ " thất bại"
  else "Bạn đã chuyển " ++ toLocaleString payload.amount ++ " " ++ payload.currency

def senderNotification : NotificationEntity where
  userId := payload.fromUserId
  channel := .app
  title := senderTitle payload
  content := senderContent payload
  payloadJson := .event payload

def receiverNotification (userId : Uuid) : NotificationEntity where
  userId := userId
  channel := .app
  title := "Nhận tiền thành công"
  content := "Bạn vừa nhận " ++ toLocaleString payload.amount ++ " " ++ payload.currency
  payloadJson := .event payload

-- What the first save of `handleTransactionEvent` creates.
def notifications : List NotificationEntity :=
  if payload.eventType = "transaction.chain.completed" then
    receiptReady payload payload.fromUserId :: (otherUser payload).toList.map (receiptReady payload)
  else
    senderNotification payload ::
      if payload.eventType = "transaction.completed" then
        (otherUser payload).toList.map (receiverNotification payload)
      else []

end

/-! ## Emails about a balance -/

structure EnrichedPayload where
  eventType : String
  transactionId : Nat
  type : Option TransactionType
  isExternal : Option Bool
  fromUserId : Uuid
  toUserId : Option Uuid
  amount : Int
  currency : String
  senderBalance : Option Int
  receiverBalance : Option Int
  deriving DecidableEq

def unenriched (payload : EventPayload) : EnrichedPayload where
  eventType := payload.eventType
  transactionId := payload.transactionId
  type := payload.details.map EventDetails.type
  isExternal := payload.details.map EventDetails.isExternal
  fromUserId := payload.fromUserId
  toUserId := payload.toUserId
  amount := payload.amount
  currency := payload.currency
  senderBalance := payload.details.bind EventDetails.senderBalance
  receiverBalance := payload.details.bind EventDetails.receiverBalance

-- No event carries a `chainTxId`, so the row is always asked for; `readable` is false when a
-- query throws.
def enrichPayloadForEmail (env : Env) (s : Tables) (readable : Bool) (payload : EventPayload) :
    EnrichedPayload :=
  let plain := unenriched payload
  match readable, s.transactions.get? payload.transactionId with
  | true, some tx =>
    let merged :=
      { plain with
        type := plain.type.or (some tx.type)
        isExternal := plain.isExternal.or (some tx.isExternal)
        toUserId := plain.toUserId.or tx.toUserId }
    if merged.currency ≠ "" then
      let balance (userId : Uuid) : Option Int :=
        (s.findWallet userId (env.toUpperCase (Text.trim merged.currency))).map Wallet.balance
      { merged with
        senderBalance := merged.senderBalance.or (balance merged.fromUserId)
        receiverBalance := merged.receiverBalance.or (merged.toUserId.bind balance) }
    else merged
  | _, _ => plain

def isInternalTransferCompleted (payload : EnrichedPayload) : Bool :=
  payload.eventType = "transaction.completed" && payload.type = some .transfer &&
    payload.isExternal ≠ some true && payload.toUserId.any (· ≠ payload.fromUserId)

inductive EmailTarget where
  | sender
  | receiver
  deriving DecidableEq

-- What the calls of `sendBalanceChangeEmailIfEnabled` come to.
structure EmailAnswers where
  emailEnabled : Except String Bool
  -- the email of the profile that `fetchUserProfile` gets
  profile : Option String
  sendMail : Except String Unit
  save : Except String Unit

def EmailTarget.userId? (payload : EnrichedPayload) : EmailTarget → Option Uuid
  | .sender => some payload.fromUserId
  | .receiver => payload.toUserId.filter (payload.fromUserId ≠ ·)

def emailTitle : EmailTarget → String
  | .sender => "Kufi | Chuyển tiền thành công"
  | .receiver => "Kufi | Nhận tiền thành công"

def balanceChange (env : Env) (payload : EnrichedPayload) (target : EmailTarget) (userId : Uuid)
    (recipientEmail : String) : NotificationEntity :=
  let currency := Text.orElse (env.toUpperCase (Text.trim payload.currency)) "VND"
  let amountText := toLocaleString payload.amount.natAbs
  let signedAmountText := (if target = .sender then "-" else "+") ++ amountText
  let balanceAfter := if target = .sender then payload.senderBalance else payload.receiverBalance
  let balanceAfterText := (balanceAfter.map fun balance => toLocaleString balance ++ " " ++ currency).getD ""
  let actionLabel := if target = .sender then "chuyển tiền" else "nhận tiền"
  { userId
    channel := .email
    title := emailTitle target
    content := "Bạn vừa " ++ actionLabel ++ " thành công " ++ signedAmountText ++ " " ++ currency ++ "." ++
      if balanceAfterText = "" then "" else " Số dư hiện tại: " ++ balanceAfterText ++ "."
    payloadJson := .balanceChange payload.transactionId currency payload.amount balanceAfter recipientEmail }

-- The notification is saved last; an error before it is caught.
def sendBalanceChangeEmailIfEnabled (env : Env) (toLowerCase : String → String)
    (payload : EnrichedPayload) (target : EmailTarget) (answers : EmailAnswers) :
    Option NotificationEntity :=
  (target.userId? payload).bind fun userId =>
    match answers.emailEnabled with
    | .ok true =>
      let recipientEmail := toLowerCase (Text.trim (answers.profile.getD ""))
      if recipientEmail = "" then none
      else
        match answers.sendMail, answers.save with
        | .ok (), .ok () => some (balanceChange env payload target userId recipientEmail)
        | _, _ => none
    | _ => none

/-! ## Messages of success -/

/-- The notification says that money was sent or received. -/
def NotificationEntity.IsSuccess (notification : NotificationEntity) : Prop :=
  notification.title ∈ ["Giao dịch thành công", "Nhận tiền thành công",
    "Kufi | Chuyển tiền thành công", "Kufi | Nhận tiền thành công"]

instance (notification : NotificationEntity) : Decidable notification.IsSuccess :=
  inferInstanceAs (Decidable (_ ∈ _))

section

variable {payload : EventPayload} {notification : NotificationEntity}

theorem receiptReady_not_success (userId : Uuid) : ¬(receiptReady payload userId).IsSuccess := by
  -- it begins with a letter that no message of success begins with
  have first : (receiptReady payload userId).title.toList.head? = some 'H' := by
    unfold receiptReady
    rw [String.toList_append]
    rfl
  intro success
  unfold NotificationEntity.IsSuccess at success
  generalize (receiptReady payload userId).title = title at first success
  simp only [List.mem_cons, List.not_mem_nil, or_false] at success
  rcases success with rfl | rfl | rfl | rfl <;> cases first

theorem notifications_success (member : notification ∈ notifications payload)
    (success : notification.IsSuccess) :
    payload.eventType ≠ "transaction.failed" ∧ payload.eventType ≠ "transaction.chain.completed" := by
  unfold notifications at member
  split at member
  next =>
    have ready : ∃ userId, notification = receiptReady payload userId := by
      rcases List.mem_cons.mp member with rfl | other
      · exact ⟨_, rfl⟩
      · obtain ⟨userId, _, rfl⟩ := List.mem_map.mp other
        exact ⟨userId, rfl⟩
    obtain ⟨userId, rfl⟩ := ready
    exact absurd success (receiptReady_not_success userId)
  next unconfirmed =>
    refine ⟨fun failed => ?_, unconfirmed⟩
    rw [failed, if_neg (by decide), List.mem_singleton] at member
    subst member
    unfold NotificationEntity.IsSuccess senderNotification senderTitle at success
    rw [if_pos failed] at success
    exact absurd (show "Giao dịch thất bại" ∈ _ from success) (by decide)

theorem enrichPayloadForEmail_eventType {env : Env} {s : Tables} {readable : Bool} :
    (enrichPayloadForEmail env s readable payload).eventType = payload.eventType := by
  unfold enrichPayloadForEmail
  split
  · dsimp only
    split <;> rfl
  · rfl

end

example : toLocaleString 1234567 = "1.234.567" := by decide

end Kufi.Notifications
