import Mathlib.Data.List.AList
import CodeServer.Go.Strings

/-!
# Cash Transactions messages for an intent

`SendCashTransactionsExchangeMessage` decides from an intent record who hears about the
intent and with which verb (`verbByMessageReceiver`, built by the `switch` in `plan`), then
sends each receiver a message under one message id in its Cash Transactions chat. An issuer
voiding a gift card instead deletes the message of the intent that issued the card.

The chat store, `SendChatMessage`, `DeleteChatMessage`, `chat.GetChatId`,
`getExchangeDataFromIntent`, `newProtoChatMessage` and account decoding are not among the
sources. The lookups are parameters (`Collaborators`); the chat operations are modelled as
the intent's callers use them. What a run cannot decide itself is an `Attempt`: the order
the `range` loop visits the map in, and the first external call that fails.
-/

namespace CodeServer.Chat

open Go

/-- The `chatpb.ExchangeDataContent_Verb` values this function sends. -/
inductive Verb where
  | gave | received | withdrew | deposited | sent | returned
  deriving DecidableEq, Repr

/-- The verbs of money leaving the receiver. -/
def Verb.outgoing : Verb → Bool
  | .gave | .withdrew | .sent => true
  | _ => false

/-- The verbs of money reaching the receiver. -/
def Verb.incoming : Verb → Bool
  | .received | .deposited => true
  | _ => false

/-- The fields of `intent.SendPrivatePaymentMetadata` read here. -/
structure SendPrivatePaymentMetadata where
  destinationOwnerAccount : String
  isWithdrawal : Bool
  isRemoteSend : Bool
  isMicroPayment : Bool
  deriving DecidableEq, Repr

/-- The fields of `intent.SendPublicPaymentMetadata` read here. -/
structure SendPublicPaymentMetadata where
  destinationOwnerAccount : String
  isWithdrawal : Bool
  deriving DecidableEq, Repr

/-- The fields of `intent.ReceivePaymentsPubliclyMetadata` read here. -/
structure ReceivePaymentsPubliclyMetadata where
  source : String
  isRemoteSend : Bool
  isReturned : Bool
  isIssuerVoidingGiftCard : Bool
  deriving DecidableEq, Repr

/-- An intent's type with the metadata the record holds for that type. -/
inductive IntentType where
  | sendPrivatePayment (metadata : SendPrivatePaymentMetadata)
  | sendPublicPayment (metadata : SendPublicPaymentMetadata)
  | receivePaymentsPublicly (metadata : ReceivePaymentsPubliclyMetadata)
  /-- `MigrateToPrivacy2022`, with its metadata's `Quantity`. -/
  | migrateToPrivacy2022 (quantity : Nat)
  /-- `ExternalDeposit`, with its metadata's `DestinationOwnerAccount`. -/
  | externalDeposit (destinationOwnerAccount : String)
  /-- Every other intent type; none of their metadata is read. -/
  | other
  deriving DecidableEq, Repr

/-- The fields of an `intent.Record` read here. -/
structure IntentRecord where
  intentId : String
  intentType : IntentType
  initiatorOwnerAccount : String
  createdAt : Nat
  deriving DecidableEq, Repr

/-- `chat.GetChatId(title, owner, isVerified)` hashes its inputs; the model keeps them, so
distinct inputs name distinct chats, as the hash does barring collisions. -/
structure ChatId where
  title : String
  owner : String
  isVerified : Bool
  deriving DecidableEq, Repr

/-- `chat.GetChatId(title, owner, isVerified)`. -/
def getChatId (title owner : String) (isVerified : Bool) : ChatId := ⟨title, owner, isVerified⟩

/-- A message as `newProtoChatMessage(messageId, content, intentRecord.CreatedAt)` builds it
from one exchange-data content: its id, the content's verb and exact exchange data, and its
timestamp. -/
structure Message (ExchangeData : Type) where
  messageId : String
  verb : Verb
  exchangeData : ExchangeData
  ts : Nat
  deriving DecidableEq, Repr

/-- The chat store: the message kept in each chat under each message id. -/
def Store (ExchangeData : Type) := ChatId → String → Option (Message ExchangeData)

/-- The only error the modelled chat store returns; other failures are an `Attempt`'s. -/
inductive ChatError where
  | messageAlreadyExists
  deriving DecidableEq, Repr

variable {Key ExchangeData : Type}

/-- `SendChatMessage`, which is not among the sources, under the contract assumed here: the
chat store is keyed by chat and message id; a send stores `message` in the chat `chatId`
under its message id, or, when that pair exists, returns `chat.ErrMessageAlreadyExists` and
changes nothing. Its other failures are an `Attempt`'s. -/
def sendChatMessage (store : Store ExchangeData) (chatId : ChatId)
    (message : Message ExchangeData) : Except ChatError (Store ExchangeData) :=
  match store chatId message.messageId with
  | some _ => .error .messageAlreadyExists
  | none => .ok fun chat id =>
    if chat = chatId ∧ id = message.messageId then some message else store chat id

/-- The store after a `SendChatMessage` whose `chat.ErrMessageAlreadyExists` the caller
ignores. -/
def storeAfterSend (store : Store ExchangeData) (chatId : ChatId) (message : Message ExchangeData) :
    Store ExchangeData :=
  match sendChatMessage store chatId message with
  | .ok stored => stored
  | .error .messageAlreadyExists => store

/-- `DeleteChatMessage`, which is not among the sources, under the contract assumed here: it
removes the message kept in `chatId` under `messageId`, changes nothing when there is none,
and returns no error. -/
def deleteChatMessage (store : Store ExchangeData) (chatId : ChatId) (messageId : String) :
    Store ExchangeData :=
  fun chat id => if chat = chatId ∧ id = messageId then none else store chat id

/-- What the function calls that is not among the sources. -/
structure Collaborators (Key ExchangeData : Type) where
  /-- `getExchangeDataFromIntent`. -/
  getExchangeDataFromIntent : IntentRecord → Option ExchangeData
  /-- `common.NewAccountFromPublicKeyString`: the base58 decoding of a public key. -/
  newAccountFromPublicKeyString : String → Option Key
  /-- `PublicKey().ToBase58()`. -/
  toBase58 : Key → String
  /-- Encoding a decoded key gives back the text it was decoded from. -/
  toBase58_decoded : ∀ text key, newAccountFromPublicKeyString text = some key →
    toBase58 key = text
  /-- `data.GetOriginalGiftCardIssuedIntent(giftCardVault)`. -/
  getOriginalGiftCardIssuedIntent : String → Option IntentRecord
  /-- `CashTransactionsName`. -/
  cashTransactionsName : String

/-- `verbByMessageReceiver`: a Go map from owner account to verb. -/
abbrev Receivers := AList fun _ : String => Verb

/-- `if len(account) > 0 { verbByMessageReceiver[account] = verb }`, the assignment every
destination account gets. -/
def assignDestination (receivers : Receivers) (account : String) (verb : Verb) : Receivers :=
  if 0 < account.length then receivers.insert account verb else receivers

/-- What the `switch` leaves the function to do. -/
inductive Plan where
  /-- Return `nil` without sending. -/
  | done
  /-- Delete the message of the intent that issued the gift card with vault `source`. -/
  | voidGiftCard (source : String)
  /-- Send each receiver a message with its verb under `messageId`. -/
  | send (messageId : String) (verbByMessageReceiver : Receivers)
  deriving DecidableEq

/-- The `switch intentRecord.IntentType` of `SendCashTransactionsExchangeMessage`. -/
def plan (record : IntentRecord) : Plan :=
  let initiator := record.initiatorOwnerAccount
  match record.intentType with
  | .sendPrivatePayment metadata =>
    if metadata.isMicroPayment then .done
    else if metadata.isWithdrawal then
      if initiator = metadata.destinationOwnerAccount then .done
      else .send record.intentId (assignDestination (.singleton initiator .withdrew)
        metadata.destinationOwnerAccount .deposited)
    else if metadata.isRemoteSend then .send record.intentId (.singleton initiator .sent)
    else .send record.intentId (assignDestination (.singleton initiator .gave)
      metadata.destinationOwnerAccount .received)
  | .sendPublicPayment metadata =>
    .send record.intentId (if metadata.isWithdrawal then assignDestination
      (.singleton initiator .withdrew) metadata.destinationOwnerAccount .deposited else ∅)
  | .receivePaymentsPublicly metadata =>
    if metadata.isRemoteSend then
      if metadata.isReturned then .send record.intentId (.singleton initiator .returned)
      else if metadata.isIssuerVoidingGiftCard then .voidGiftCard metadata.source
      else .send record.intentId (.singleton initiator .received)
    else .send record.intentId ∅
  | .migrateToPrivacy2022 quantity =>
    .send record.intentId (if 0 < quantity then AList.singleton initiator .deposited else ∅)
  | .externalDeposit destinationOwnerAccount =>
    .send ((split record.intentId '-').head (split_ne_nil _ _))
      (.singleton destinationOwnerAccount .deposited)
  | .other => .done

/-- How a run goes where the code does not decide: the order the `range` loop visits a map's
entries in, a permutation, and the first external call that fails, if any, counted from 0. -/
structure Attempt where
  order : List (Σ _ : String, Verb) → List (Σ _ : String, Verb)
  perm : ∀ entries, List.Perm (order entries) entries
  failAt : Option Nat

/-- What a run returns, `failed` for an error, and the chat store it leaves. -/
structure Outcome (ExchangeData : Type) where
  failed : Bool
  store : Store ExchangeData

variable (c : Collaborators Key ExchangeData)

/-- The `range` loop over the receivers in the order visited; `failAt` counts down to the
call that fails, `NewAccountFromPublicKeyString`'s own failures apart. -/
def sendLoop (exchangeData : ExchangeData) (messageId : String) (createdAt : Nat) :
    List (Σ _ : String, Verb) → Option Nat → Store ExchangeData → Outcome ExchangeData
  | [], _, store => ⟨false, store⟩
  | ⟨account, verb⟩ :: rest, failAt, store =>
    match c.newAccountFromPublicKeyString account with
    | none => ⟨true, store⟩
    | some receiver =>
      if failAt = some 0 then ⟨true, store⟩
      else
        let chatId := getChatId c.cashTransactionsName (c.toBase58 receiver) true
        sendLoop exchangeData messageId createdAt rest (failAt.map Nat.pred)
          (storeAfterSend store chatId ⟨messageId, verb, exchangeData, createdAt⟩)

/-- `SendCashTransactionsExchangeMessage(ctx, data, intentRecord)` on the chat store. -/
def sendCashTransactionsExchangeMessage (record : IntentRecord) (attempt : Attempt)
    (store : Store ExchangeData) : Outcome ExchangeData :=
  match c.getExchangeDataFromIntent record with
  | none => ⟨false, store⟩
  | some exchangeData =>
    match plan record with
    | .done => ⟨false, store⟩
    | .voidGiftCard source =>
      match c.getOriginalGiftCardIssuedIntent source with
      | none => ⟨true, store⟩
      | some issued =>
        if attempt.failAt = some 0 then ⟨true, store⟩
        else ⟨false, deleteChatMessage store
          (getChatId c.cashTransactionsName issued.initiatorOwnerAccount true) issued.intentId⟩
    | .send messageId receivers =>
      sendLoop c exchangeData messageId record.createdAt (attempt.order receivers.entries)
        attempt.failAt store

/-- Runs of the function on one record, one after another, from `store`. -/
def runs (record : IntentRecord) (attempts : List Attempt) (store : Store ExchangeData) :
    Store ExchangeData :=
  attempts.foldl (fun store attempt => (sendCashTransactionsExchangeMessage c record attempt store).store)
    store

end CodeServer.Chat
