import CodeServer.Chat.Model

/-!
# What runs of `SendCashTransactionsExchangeMessage` leave in the chat store

A successful run leaves `settle`: every receiver's Cash Transactions chat holds a message
under the intent's message id, the one already there or the new one; a voiding intent
removes the issuing intent's message. Any run, failed or not, leaves a store that settles
to the same thing, since a send never overwrites and a deletion repeats harmlessly. So any
sequence of runs on one record that ends with a success leaves what one success leaves,
whatever order each run visits its receivers in and wherever earlier runs stopped
(`repeated_runs_settle`). The voiding path deletes exactly the pair the issuing path wrote
(`voiding_deletes_issued_message`).
-/

namespace CodeServer.Chat

variable {Key ExchangeData : Type}

/-- `store` with its gaps filled from `added`: a message already kept stays. -/
def Store.fill (store added : Store ExchangeData) : Store ExchangeData :=
  fun chat id => (store chat id).or (added chat id)

@[simp] theorem Store.fill_apply (store added : Store ExchangeData) (chat : ChatId) (id : String) :
    store.fill added chat id = (store chat id).or (added chat id) := rfl

/-- A store that, at each key, kept its message or took the filled one, fills as it did. -/
theorem Store.fill_of_between {store after added : Store ExchangeData}
    (between : ∀ chat id, after chat id = store chat id ∨ after chat id = store.fill added chat id) :
    after.fill added = store.fill added := by
  funext chat id
  rcases between chat id with same | filled
  · simp [same]
  · simp [filled, Option.or_assoc, Option.or_self]

/-- A store holding only `message`, in `chatId` under its message id. -/
def Store.single (chatId : ChatId) (message : Message ExchangeData) : Store ExchangeData :=
  fun chat id => if chat = chatId ∧ id = message.messageId then some message else none

@[simp] theorem Store.single_apply (chatId chat : ChatId) (message : Message ExchangeData)
    (id : String) : Store.single chatId message chat id =
      if chat = chatId ∧ id = message.messageId then some message else none := rfl

@[simp] theorem deleteChatMessage_apply (store : Store ExchangeData) (chatId chat : ChatId)
    (messageId id : String) :
    deleteChatMessage store chatId messageId chat id =
      if chat = chatId ∧ id = messageId then none else store chat id := rfl

theorem deleteChatMessage_twice (store : Store ExchangeData) (chatId : ChatId) (messageId : String) :
    deleteChatMessage (deleteChatMessage store chatId messageId) chatId messageId =
      deleteChatMessage store chatId messageId := by
  funext chat id
  by_cases here : chat = chatId ∧ id = messageId <;> simp [here]

variable (c : Collaborators Key ExchangeData)

/-- The messages `sendLoop` leaves for the receivers `visits`: each receiver's first verb, in
its Cash Transactions chat under `messageId`. -/
def deliveries (exchangeData : ExchangeData) (messageId : String) (createdAt : Nat)
    (visits : List (Σ _ : String, Verb)) : Store ExchangeData :=
  fun chat id =>
    if chat.title = c.cashTransactionsName ∧ chat.isVerified = true ∧ id = messageId then
      (visits.dlookup chat.owner).map fun verb => ⟨messageId, verb, exchangeData, createdAt⟩
    else none

variable {c}

theorem deliveries_nil (exchangeData : ExchangeData) (messageId : String) (createdAt : Nat) :
    deliveries c exchangeData messageId createdAt [] = fun _ _ => none := by
  funext chat id
  simp [deliveries]

/-- The first receiver's message, then the rest's. -/
theorem deliveries_cons (exchangeData : ExchangeData) (messageId : String) (createdAt : Nat)
    (account : String) (verb : Verb) (rest : List (Σ _ : String, Verb)) :
    deliveries c exchangeData messageId createdAt (⟨account, verb⟩ :: rest) =
      (Store.single (getChatId c.cashTransactionsName account true)
        ⟨messageId, verb, exchangeData, createdAt⟩).fill
      (deliveries c exchangeData messageId createdAt rest) := by
  funext ⟨title, owner, isVerified⟩ id
  by_cases same : owner = account
  · subst same
    simp only [deliveries, getChatId, Store.fill_apply, Store.single_apply, ChatId.mk.injEq]
    split_ifs <;> simp_all
  · simp [deliveries, getChatId, List.dlookup_cons_ne rest ⟨account, verb⟩ same, same]

/-- The order a run visits a map's entries in does not change what it delivers. -/
theorem deliveries_order (exchangeData : ExchangeData) (messageId : String) (createdAt : Nat)
    (attempt : Attempt) (receivers : Receivers) :
    deliveries c exchangeData messageId createdAt (attempt.order receivers.entries) =
      deliveries c exchangeData messageId createdAt receivers.entries := by
  have ordered := (List.perm_nodupKeys (attempt.perm receivers.entries)).mpr receivers.nodupKeys
  funext chat id
  simp only [deliveries, List.perm_dlookup chat.owner ordered receivers.nodupKeys
    (attempt.perm receivers.entries)]

/-- One send, `ErrMessageAlreadyExists` ignored, fills the message's one key. -/
theorem storeAfterSend_eq_fill (store : Store ExchangeData) (chatId : ChatId)
    (message : Message ExchangeData) :
    storeAfterSend store chatId message = store.fill (Store.single chatId message) := by
  funext chat id
  unfold storeAfterSend sendChatMessage
  by_cases here : chat = chatId ∧ id = message.messageId
  · obtain ⟨rfl, rfl⟩ := here
    cases kept : store chat message.messageId <;> simp [kept]
  · cases store chatId message.messageId <;> simp [here]

/-- A loop that returns no error filled every receiver's message. -/
theorem sendLoop_ok {exchangeData : ExchangeData} {messageId : String} {createdAt : Nat} :
    ∀ {visits : List (Σ _ : String, Verb)} {failAt : Option Nat} {store : Store ExchangeData},
      (sendLoop c exchangeData messageId createdAt visits failAt store).failed = false →
      (sendLoop c exchangeData messageId createdAt visits failAt store).store =
        store.fill (deliveries c exchangeData messageId createdAt visits)
  | [], _, store, _ => by
    funext chat id
    simp [sendLoop, deliveries_nil]
  | ⟨account, verb⟩ :: rest, failAt, store, succeeded => by
    simp only [sendLoop] at succeeded ⊢
    cases decoded : c.newAccountFromPublicKeyString account with
    | none => simp [decoded] at succeeded
    | some receiver =>
      simp only [decoded] at succeeded ⊢
      split at succeeded
      · cases succeeded
      · rw [if_neg ‹_›, sendLoop_ok succeeded, storeAfterSend_eq_fill, deliveries_cons,
          c.toBase58_decoded account receiver decoded]
        funext chat id
        simp [Option.or_assoc]

/-- Whether or not a loop fails, each key keeps its message or takes the filled one. -/
theorem sendLoop_between {exchangeData : ExchangeData} {messageId : String} {createdAt : Nat} :
    ∀ (visits : List (Σ _ : String, Verb)) (failAt : Option Nat) (store : Store ExchangeData)
      (chat : ChatId) (id : String),
      (sendLoop c exchangeData messageId createdAt visits failAt store).store chat id =
          store chat id ∨
        (sendLoop c exchangeData messageId createdAt visits failAt store).store chat id =
          store.fill (deliveries c exchangeData messageId createdAt visits) chat id
  | [], _, store, chat, id => .inl rfl
  | ⟨account, verb⟩ :: rest, failAt, store, chat, id => by
    simp only [sendLoop]
    cases decoded : c.newAccountFromPublicKeyString account with
    | none => exact .inl rfl
    | some receiver =>
      simp only
      split
      · exact .inl rfl
      · rw [storeAfterSend_eq_fill, deliveries_cons, c.toBase58_decoded account receiver decoded]
        rcases sendLoop_between rest (failAt.map Nat.pred) _ chat id with kept | filled
        · rw [kept]
          by_cases here : chat = getChatId c.cashTransactionsName account true ∧ id = messageId
          · exact .inr (by simp [here])
          · exact .inl (by simp [here])
        · exact .inr (by simp [filled, Option.or_assoc])

variable (c)

/-- The chat store one successful run of the function leaves. -/
def settle (record : IntentRecord) (store : Store ExchangeData) : Store ExchangeData :=
  match c.getExchangeDataFromIntent record with
  | none => store
  | some exchangeData =>
    match plan record with
    | .done => store
    | .voidGiftCard source =>
      match c.getOriginalGiftCardIssuedIntent source with
      | none => store
      | some issued => deleteChatMessage store
        (getChatId c.cashTransactionsName issued.initiatorOwnerAccount true) issued.intentId
    | .send messageId receivers =>
      store.fill (deliveries c exchangeData messageId record.createdAt receivers.entries)

variable {c}

/-- A run that returns no error leaves `settle`, and every run leaves a store that settles
as the store it started from. -/
theorem run_settles (record : IntentRecord) (attempt : Attempt) (store : Store ExchangeData) :
    ((sendCashTransactionsExchangeMessage c record attempt store).failed = false →
      (sendCashTransactionsExchangeMessage c record attempt store).store = settle c record store) ∧
    settle c record (sendCashTransactionsExchangeMessage c record attempt store).store =
      settle c record store := by
  unfold sendCashTransactionsExchangeMessage settle
  cases c.getExchangeDataFromIntent record with
  | none => exact ⟨fun _ => rfl, rfl⟩
  | some exchangeData =>
    dsimp only
    cases plan record with
    | done => exact ⟨fun _ => rfl, rfl⟩
    | voidGiftCard source =>
      dsimp only
      cases c.getOriginalGiftCardIssuedIntent source with
      | none => exact ⟨fun _ => rfl, rfl⟩
      | some issued =>
        dsimp only
        by_cases failing : attempt.failAt = some 0
        · simp [failing]
        · simp [failing, deleteChatMessage_twice]
    | send messageId receivers =>
      dsimp only
      simp only [← deliveries_order exchangeData messageId record.createdAt attempt receivers]
      exact ⟨sendLoop_ok, Store.fill_of_between (sendLoop_between _ _ _)⟩

/-- A run that returns no error with `after` leaves `settle`. -/
theorem settle_of_ok {record : IntentRecord} {attempt : Attempt} {store after : Store ExchangeData}
    (ok : sendCashTransactionsExchangeMessage c record attempt store = ⟨false, after⟩) :
    after = settle c record store := by
  have settled := (@run_settles _ _ c record attempt store).1
  rw [ok] at settled
  exact settled rfl

theorem settle_send {record : IntentRecord} {exchangeData : ExchangeData} {messageId : String}
    {receivers : Receivers} (data : c.getExchangeDataFromIntent record = some exchangeData)
    (planned : plan record = .send messageId receivers) (store : Store ExchangeData) :
    settle c record store =
      store.fill (deliveries c exchangeData messageId record.createdAt receivers.entries) := by
  simp [settle, data, planned]

theorem settle_voidGiftCard {record issued : IntentRecord} {exchangeData : ExchangeData}
    {source : String} (data : c.getExchangeDataFromIntent record = some exchangeData)
    (planned : plan record = .voidGiftCard source)
    (original : c.getOriginalGiftCardIssuedIntent source = some issued) (store : Store ExchangeData) :
    settle c record store = deleteChatMessage store
      (getChatId c.cashTransactionsName issued.initiatorOwnerAccount true) issued.intentId := by
  simp [settle, data, planned, original]

/-- Runs one after another leave a store that settles as the one they started from. -/
theorem settle_runs (record : IntentRecord) :
    ∀ (attempts : List Attempt) (store : Store ExchangeData),
      settle c record (runs c record attempts store) = settle c record store
  | [], _ => rfl
  | attempt :: attempts, store =>
    (settle_runs record attempts _).trans (run_settles record attempt store).2

/-- Any sequence of runs of `SendCashTransactionsExchangeMessage` on one intent record that
ends with a successful run leaves the chat store one successful run leaves from the start,
whatever order each run visits its receivers in and wherever earlier runs failed. Messages
are kept by chat and message id, so no receiver holds two for the intent. -/
theorem repeated_runs_settle (record : IntentRecord) (store : Store ExchangeData)
    (attempts : List Attempt) (last single : Attempt)
    (lastSucceeds :
      (sendCashTransactionsExchangeMessage c record last (runs c record attempts store)).failed =
        false)
    (singleSucceeds : (sendCashTransactionsExchangeMessage c record single store).failed = false) :
    (sendCashTransactionsExchangeMessage c record last (runs c record attempts store)).store =
      (sendCashTransactionsExchangeMessage c record single store).store := by
  rw [(run_settles record last _).1 lastSucceeds, (run_settles record single store).1 singleSucceeds,
    settle_runs]

/-- A gift card sent remotely, and its issuer voiding it: the voiding run deletes, in the
issuer's Cash Transactions chat, exactly the message the issuing run left under the issuing
intent's id, and changes nothing else. -/
theorem voiding_deletes_issued_message {issued voiding : IntentRecord}
    {payment : SendPrivatePaymentMetadata} {claim : ReceivePaymentsPubliclyMetadata}
    {issuedData voidingData : ExchangeData}
    (issuedType : issued.intentType = .sendPrivatePayment payment)
    (remoteSend : payment.isRemoteSend = true) (notMicroPayment : payment.isMicroPayment = false)
    (notWithdrawal : payment.isWithdrawal = false)
    (voidingType : voiding.intentType = .receivePaymentsPublicly claim)
    (remoteClaim : claim.isRemoteSend = true) (notReturned : claim.isReturned = false)
    (voids : claim.isIssuerVoidingGiftCard = true)
    (original : c.getOriginalGiftCardIssuedIntent claim.source = some issued)
    (issuedExchange : c.getExchangeDataFromIntent issued = some issuedData)
    (voidingExchange : c.getExchangeDataFromIntent voiding = some voidingData)
    {store issuedStore voidedStore : Store ExchangeData} {issuing voidingAttempt : Attempt}
    (issuedOk : sendCashTransactionsExchangeMessage c issued issuing store = ⟨false, issuedStore⟩)
    (voidedOk :
      sendCashTransactionsExchangeMessage c voiding voidingAttempt issuedStore = ⟨false, voidedStore⟩) :
    issuedStore (getChatId c.cashTransactionsName issued.initiatorOwnerAccount true)
        issued.intentId =
      (store (getChatId c.cashTransactionsName issued.initiatorOwnerAccount true)
        issued.intentId).or (some ⟨issued.intentId, .sent, issuedData, issued.createdAt⟩) ∧
    voidedStore (getChatId c.cashTransactionsName issued.initiatorOwnerAccount true)
      issued.intentId = none ∧
    ∀ chat id, ¬(chat = getChatId c.cashTransactionsName issued.initiatorOwnerAccount true ∧
      id = issued.intentId) → voidedStore chat id = issuedStore chat id := by
  have issuedPlan : plan issued = .send issued.intentId (.singleton issued.initiatorOwnerAccount .sent) := by
    simp [plan, issuedType, remoteSend, notMicroPayment, notWithdrawal]
  have voidingPlan : plan voiding = .voidGiftCard claim.source := by
    simp [plan, voidingType, remoteClaim, notReturned, voids]
  rw [settle_of_ok voidedOk, settle_voidGiftCard voidingExchange voidingPlan original,
    settle_of_ok issuedOk, settle_send issuedExchange issuedPlan]
  refine ⟨?_, by simp, fun chat id elsewhere => by simp [elsewhere]⟩
  simp [AList.singleton_entries, deliveries_cons, deliveries_nil]

/-- Alice sends the gift card with vault `"card"` remotely. -/
def giftCardIssue : IntentRecord :=
  ⟨"issue", .sendPrivatePayment ⟨"", false, true, false⟩, "alice", 0⟩

/-- Alice voids the gift card with vault `"card"`. -/
def giftCardVoid : IntentRecord :=
  ⟨"void", .receivePaymentsPublicly ⟨"card", true, false, true⟩, "alice", 1⟩

/-- Collaborators over text keys: every text decodes to itself, an intent's exchange data is
its id, and the gift card with vault `"card"` was issued by `giftCardIssue`. -/
def plainCollaborators : Collaborators String String where
  getExchangeDataFromIntent record := some record.intentId
  newAccountFromPublicKeyString := some
  toBase58 key := key
  toBase58_decoded _ _ decoded := (Option.some.inj decoded).symm
  getOriginalGiftCardIssuedIntent vault := if vault = "card" then some giftCardIssue else none
  cashTransactionsName := "Cash Transactions"

/-- The empty chat store. -/
def emptyStore : Store String := fun _ _ => none

/-- A run that visits the receivers in map order and does not fail. -/
def inOrder : Attempt := ⟨id, List.Perm.refl, none⟩

/-- A run that visits the receivers in reverse and does not fail. -/
def reversed : Attempt := ⟨List.reverse, List.reverse_perm, none⟩

/-- A run whose second send fails. -/
def secondSendFails : Attempt := ⟨id, List.Perm.refl, some 1⟩

/-- Alice issues a gift card and voids it: her chat no longer holds the issuing message. -/
theorem voided_gift_card_message_gone :
    (sendCashTransactionsExchangeMessage plainCollaborators giftCardVoid inOrder
        (sendCashTransactionsExchangeMessage plainCollaborators giftCardIssue inOrder
          emptyStore).store).store (getChatId "Cash Transactions" "alice" true) "issue" = none :=
  (@voiding_deletes_issued_message String String plainCollaborators giftCardIssue giftCardVoid
    ⟨"", false, true, false⟩ ⟨"card", true, false, true⟩ "issue" "void" rfl rfl rfl rfl rfl rfl rfl
    rfl rfl rfl rfl emptyStore
    (sendCashTransactionsExchangeMessage plainCollaborators giftCardIssue inOrder emptyStore).store
    (sendCashTransactionsExchangeMessage plainCollaborators giftCardVoid inOrder
      (sendCashTransactionsExchangeMessage plainCollaborators giftCardIssue inOrder
        emptyStore).store).store inOrder inOrder rfl rfl).2.1

/-- Alice pays Bob. -/
def alicePaysBob : IntentRecord := ⟨"pay", .sendPrivatePayment ⟨"bob", false, false, false⟩, "alice", 0⟩

/-- Alice's payment to Bob fails at its second send, after Bob's message and before Alice's,
and is retried in the other order; the chat store ends as after one clean run, with both
messages. -/
theorem payment_retry_settles :
    (sendCashTransactionsExchangeMessage plainCollaborators alicePaysBob secondSendFails
        emptyStore).failed = true ∧
    (runs plainCollaborators alicePaysBob [secondSendFails] emptyStore)
        (getChatId "Cash Transactions" "alice" true) "pay" = none ∧
    (sendCashTransactionsExchangeMessage plainCollaborators alicePaysBob reversed
        (runs plainCollaborators alicePaysBob [secondSendFails] emptyStore)).failed = false ∧
    (sendCashTransactionsExchangeMessage plainCollaborators alicePaysBob inOrder emptyStore).failed =
      false ∧
    (sendCashTransactionsExchangeMessage plainCollaborators alicePaysBob reversed
        (runs plainCollaborators alicePaysBob [secondSendFails] emptyStore)).store =
      (sendCashTransactionsExchangeMessage plainCollaborators alicePaysBob inOrder emptyStore).store ∧
    (sendCashTransactionsExchangeMessage plainCollaborators alicePaysBob inOrder emptyStore).store
        (getChatId "Cash Transactions" "alice" true) "pay" = some ⟨"pay", .gave, "pay", 0⟩ ∧
    (sendCashTransactionsExchangeMessage plainCollaborators alicePaysBob inOrder emptyStore).store
        (getChatId "Cash Transactions" "bob" true) "pay" = some ⟨"pay", .received, "pay", 0⟩ :=
  have lastSucceeds : (sendCashTransactionsExchangeMessage plainCollaborators alicePaysBob reversed
      (runs plainCollaborators alicePaysBob [secondSendFails] emptyStore)).failed = false := rfl
  have singleSucceeds :
      (sendCashTransactionsExchangeMessage plainCollaborators alicePaysBob inOrder emptyStore).failed =
        false := rfl
  ⟨rfl, rfl, lastSucceeds, singleSucceeds, repeated_runs_settle alicePaysBob emptyStore
    [secondSendFails] reversed inOrder lastSucceeds singleSucceeds, rfl, rfl⟩

end CodeServer.Chat
