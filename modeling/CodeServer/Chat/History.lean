import CodeServer.Chat.Receivers

/-!
# The chat store over a history of intents

Intents reach `SendCashTransactionsExchangeMessage` one after another, each run with its own
`Attempt`, retries included (`process`). What one run can do to a key of the chat store is
said once (`run_between`, `settle_cases`): keep it, fill it with the run's delivery, or, for a
voiding intent, empty the issuing intent's key. Over any history this keeps the Cash
Transactions chats honest. Every message in them was there at the start or was delivered
by an intent of the history, with the receiver's verb and the intent's exchange data and
creation time, in that receiver's chat and under the message id it is kept by
(`stored_messages_delivered`). A message, once there, stays until an intent voids the gift
card whose issuing intent left it (`messages_kept_unless_voided`).

Whether a run fails does not depend on the store (`failed_independent_of_store`), and a run
that does not fail leaves `settle`, which changes only the keys it touches (`touchedKeys`,
`settle_frame`). So successful runs of intents that touch no key in common leave the same
store in every order (`intents_commute`). Intents that send to one receiver under one message
id do not commute: the first send is kept (`split_deposit_ids_collide`).
-/

namespace CodeServer.Chat

variable {Key ExchangeData : Type} (c : Collaborators Key ExchangeData)

/-- Runs of the function on intent records one after another, each with its own attempt. -/
def process (history : List (IntentRecord × Attempt)) (store : Store ExchangeData) :
    Store ExchangeData :=
  history.foldl (fun store run => (sendCashTransactionsExchangeMessage c run.1 run.2 store).store)
    store

/-- A run of `record` may leave `message` in `chat` under `id`: `chat` is a receiver's Cash
Transactions chat, `id` the run's message id, and `message` carries that receiver's verb and
the intent's exchange data and creation time. -/
def Delivers (record : IntentRecord) (chat : ChatId) (id : String)
    (message : Message ExchangeData) : Prop :=
  ∃ exchangeData receivers account verb, c.getExchangeDataFromIntent record = some exchangeData ∧
    plan record = .send id receivers ∧ receivers.lookup account = some verb ∧
    chat = getChatId c.cashTransactionsName account true ∧
    message = ⟨id, verb, exchangeData, record.createdAt⟩

/-- A run of `record` may delete the message in `chat` under `id`: `record` voids a gift card,
and `chat` and `id` are the Cash Transactions chat and the id of the intent that issued it. -/
def Voids (record : IntentRecord) (chat : ChatId) (id : String) : Prop :=
  ∃ exchangeData source issued, c.getExchangeDataFromIntent record = some exchangeData ∧
    plan record = .voidGiftCard source ∧ c.getOriginalGiftCardIssuedIntent source = some issued ∧
    chat = getChatId c.cashTransactionsName issued.initiatorOwnerAccount true ∧
    id = issued.intentId

/-- The keys, a chat and a message id, under which a successful run of `record` may write or
delete a message. -/
def touchedKeys (record : IntentRecord) : List (ChatId × String) :=
  match c.getExchangeDataFromIntent record with
  | none => []
  | some _ =>
    match plan record with
    | .done => []
    | .voidGiftCard source =>
      match c.getOriginalGiftCardIssuedIntent source with
      | none => []
      | some issued =>
        [(getChatId c.cashTransactionsName issued.initiatorOwnerAccount true, issued.intentId)]
    | .send messageId receivers =>
      receivers.keys.map fun account => (getChatId c.cashTransactionsName account true, messageId)

variable {c}

@[simp] theorem process_nil (store : Store ExchangeData) : process c [] store = store := rfl

@[simp] theorem process_cons (record : IntentRecord) (attempt : Attempt)
    (history : List (IntentRecord × Attempt)) (store : Store ExchangeData) :
    process c ((record, attempt) :: history) store =
      process c history (sendCashTransactionsExchangeMessage c record attempt store).store := rfl

/-! ## What one run does to one key -/

/-- Whether or not a run fails, each key keeps its message or takes the one `settle` leaves. -/
theorem run_between (record : IntentRecord) (attempt : Attempt) (store : Store ExchangeData)
    (chat : ChatId) (id : String) :
    (sendCashTransactionsExchangeMessage c record attempt store).store chat id = store chat id ∨
      (sendCashTransactionsExchangeMessage c record attempt store).store chat id =
        settle c record store chat id := by
  unfold sendCashTransactionsExchangeMessage settle
  cases c.getExchangeDataFromIntent record with
  | none => exact .inl rfl
  | some exchangeData =>
    dsimp only
    cases plan record with
    | done => exact .inl rfl
    | voidGiftCard source =>
      dsimp only
      cases c.getOriginalGiftCardIssuedIntent source with
      | none => exact .inl rfl
      | some issued =>
        dsimp only
        split
        · exact .inl rfl
        · exact .inr rfl
    | send messageId receivers =>
      dsimp only
      rw [← deliveries_order exchangeData messageId record.createdAt attempt receivers]
      exact sendLoop_between _ _ _ chat id

/-- What a successful run does to any store: nothing, fill a send's deliveries, or delete the
message of the intent that issued a voided gift card. -/
theorem settle_cases (record : IntentRecord) :
    (∀ store : Store ExchangeData, settle c record store = store) ∨
    (∃ exchangeData messageId receivers, c.getExchangeDataFromIntent record = some exchangeData ∧
      plan record = .send messageId receivers ∧ ∀ store : Store ExchangeData,
        settle c record store =
          store.fill (deliveries c exchangeData messageId record.createdAt receivers.entries)) ∨
    (∃ exchangeData source issued, c.getExchangeDataFromIntent record = some exchangeData ∧
      plan record = .voidGiftCard source ∧ c.getOriginalGiftCardIssuedIntent source = some issued ∧
      ∀ store : Store ExchangeData, settle c record store = deleteChatMessage store
        (getChatId c.cashTransactionsName issued.initiatorOwnerAccount true) issued.intentId) := by
  cases data : c.getExchangeDataFromIntent record with
  | none => exact .inl fun _ => by simp [settle, data]
  | some exchangeData =>
    cases planned : plan record with
    | done => exact .inl fun _ => by simp [settle, data, planned]
    | send messageId receivers => exact .inr (.inl ⟨_, _, _, rfl, rfl, settle_send data planned⟩)
    | voidGiftCard source =>
      cases original : c.getOriginalGiftCardIssuedIntent source with
      | none => exact .inl fun _ => by simp [settle, data, planned, original]
      | some issued =>
        exact .inr (.inr ⟨_, _, _, rfl, rfl, original, settle_voidGiftCard data planned original⟩)

/-- A message `settle` leaves was there before, or the run delivers it. -/
theorem settle_found {record : IntentRecord} {store : Store ExchangeData} {chat : ChatId}
    {id : String} {message : Message ExchangeData}
    (found : settle c record store chat id = some message) :
    store chat id = some message ∨ Delivers c record chat id message := by
  rcases settle_cases record with same | ⟨exchangeData, messageId, receivers, data, planned,
    filled⟩ | ⟨_, _, issued, -, -, -, deleted⟩
  · rw [same] at found
    exact .inl found
  · rw [filled, Store.fill_apply] at found
    cases kept : store chat id with
    | some old => exact .inl (by simpa [kept] using found)
    | none =>
      rw [kept, Option.none_or] at found
      obtain ⟨title, owner, isVerified⟩ := chat
      simp only [deliveries] at found
      split_ifs at found with here
      obtain ⟨rfl, rfl, rfl⟩ := here
      obtain ⟨verb, lookup, rfl⟩ := Option.map_eq_some'.mp found
      exact .inr ⟨exchangeData, receivers, owner, verb, data, planned, lookup, rfl, rfl⟩
  · rw [deleted, deleteChatMessage_apply] at found
    split_ifs at found
    exact .inl found

/-- A message survives `settle` unless the run voids the gift card its intent issued. -/
theorem settle_kept {record : IntentRecord} {store : Store ExchangeData} {chat : ChatId}
    {id : String} {message : Message ExchangeData} (kept : store chat id = some message) :
    settle c record store chat id = some message ∨ Voids c record chat id := by
  rcases settle_cases record with same | ⟨_, _, _, -, -, filled⟩ |
    ⟨exchangeData, source, issued, data, planned, original, deleted⟩
  · exact .inl (by rw [same, kept])
  · exact .inl (by simp [filled, kept])
  · rw [deleted, deleteChatMessage_apply]
    split_ifs with here
    · exact .inr ⟨exchangeData, source, issued, data, planned, original, here⟩
    · exact .inl kept

/-- `settle` at a key reads the store at that key only. -/
theorem settle_local (record : IntentRecord) {store store' : Store ExchangeData} {chat : ChatId}
    {id : String} (same : store chat id = store' chat id) :
    settle c record store chat id = settle c record store' chat id := by
  rcases settle_cases record with unchanged | ⟨_, _, _, -, -, filled⟩ |
    ⟨_, _, _, -, -, -, deleted⟩
  · rw [unchanged, unchanged, same]
  · simp [filled, same]
  · simp [deleted, same]

theorem Delivers.touched {record : IntentRecord} {chat : ChatId} {id : String}
    {message : Message ExchangeData} (delivers : Delivers c record chat id message) :
    (chat, id) ∈ touchedKeys c record := by
  obtain ⟨_, receivers, account, verb, data, planned, found, rfl, -⟩ := delivers
  simp only [touchedKeys, data, planned]
  exact List.mem_map.mpr ⟨account, AList.mem_keys.mpr (AList.lookup_isSome.mp (by simp [found])),
    rfl⟩

theorem Voids.touched {record : IntentRecord} {chat : ChatId} {id : String}
    (voids : Voids c record chat id) : (chat, id) ∈ touchedKeys c record := by
  obtain ⟨_, source, issued, data, planned, original, rfl, rfl⟩ := voids
  simp [touchedKeys, data, planned, original]

/-- `settle` leaves every key the run does not touch as it was. -/
theorem settle_frame (record : IntentRecord) (store : Store ExchangeData) {chat : ChatId}
    {id : String} (untouched : (chat, id) ∉ touchedKeys c record) :
    settle c record store chat id = store chat id := by
  cases settled : settle c record store chat id with
  | some message =>
    rcases settle_found settled with kept | delivers
    · exact kept.symm
    · exact absurd delivers.touched untouched
  | none =>
    cases kept : store chat id with
    | none => rfl
    | some message =>
      rcases settle_kept kept with stays | voids
      · exact absurd (settled.symm.trans stays) Option.noConfusion
      · exact absurd voids.touched untouched

/-- Successful runs of intents that touch no key in common settle in either order. -/
theorem settle_comm {first second : IntentRecord}
    (apart : first = second ∨ ∀ key ∈ touchedKeys c first, key ∉ touchedKeys c second)
    (store : Store ExchangeData) :
    settle c second (settle c first store) = settle c first (settle c second store) := by
  rcases apart with rfl | apart
  · rfl
  funext chat id
  by_cases firstHere : (chat, id) ∈ touchedKeys c first
  · have secondElsewhere := apart _ firstHere
    rw [settle_frame second _ secondElsewhere]
    exact settle_local first (settle_frame second store secondElsewhere).symm
  · rw [settle_local second (settle_frame first store firstHere), settle_frame first _ firstHere]

/-! ## Whole histories -/

theorem run_found {record : IntentRecord} {attempt : Attempt} {store : Store ExchangeData}
    {chat : ChatId} {id : String} {message : Message ExchangeData}
    (found : (sendCashTransactionsExchangeMessage c record attempt store).store chat id =
      some message) :
    store chat id = some message ∨ Delivers c record chat id message := by
  rcases run_between record attempt store chat id with same | settled
  · exact .inl (same ▸ found)
  · exact settle_found (settled ▸ found)

theorem run_kept {record : IntentRecord} {attempt : Attempt} {store : Store ExchangeData}
    {chat : ChatId} {id : String} {message : Message ExchangeData}
    (kept : store chat id = some message) :
    (sendCashTransactionsExchangeMessage c record attempt store).store chat id = some message ∨
      Voids c record chat id := by
  rcases run_between record attempt store chat id with same | settled
  · exact .inl (same ▸ kept)
  · exact settled ▸ settle_kept kept

/-- Every message in the chat store after any history of runs, failed or not and whatever
order each visits its receivers in, was there at the start or was delivered by an intent of the history: it sits in a
receiver's Cash Transactions chat under the intent's message id, with that receiver's verb
and the intent's exchange data and creation time. -/
theorem stored_messages_delivered (history : List (IntentRecord × Attempt)) :
    ∀ {store : Store ExchangeData} {chat : ChatId} {id : String} {message : Message ExchangeData},
      process c history store chat id = some message →
      store chat id = some message ∨ ∃ run ∈ history, Delivers c run.1 chat id message := by
  induction history with
  | nil => exact .inl
  | cons run history inductionHypothesis =>
    intro store chat id message found
    rcases inductionHypothesis found with before | ⟨later, member, delivers⟩
    · rcases run_found before with kept | delivers
      · exact .inl kept
      · exact .inr ⟨run, .head _, delivers⟩
    · exact .inr ⟨later, .tail _ member, delivers⟩

/-- A message in the chat store stays there, unchanged, through any history of runs, unless
an intent of the history voids the gift card whose issuing intent's message it is. -/
theorem messages_kept_unless_voided (history : List (IntentRecord × Attempt)) :
    ∀ {store : Store ExchangeData} {chat : ChatId} {id : String} {message : Message ExchangeData},
      store chat id = some message →
      process c history store chat id = some message ∨
        ∃ run ∈ history, Voids c run.1 chat id := by
  induction history with
  | nil => exact .inl
  | cons run history inductionHypothesis =>
    intro store chat id message kept
    rcases run_kept kept with stays | voids
    · rcases inductionHypothesis stays with stays | ⟨later, member, voids⟩
      · exact .inl stays
      · exact .inr ⟨later, .tail _ member, voids⟩
    · exact .inr ⟨run, .head _, voids⟩

/-! ## Order independence -/

/-- The loop fails or not whatever the store holds: `ErrMessageAlreadyExists` is ignored. -/
theorem sendLoop_failed {exchangeData : ExchangeData} {messageId : String} {createdAt : Nat} :
    ∀ (visits : List (Σ _ : String, Verb)) (failAt : Option Nat) (store store' : Store ExchangeData),
      (sendLoop c exchangeData messageId createdAt visits failAt store).failed =
        (sendLoop c exchangeData messageId createdAt visits failAt store').failed
  | [], _, _, _ => rfl
  | ⟨account, verb⟩ :: rest, failAt, store, store' => by
    simp only [sendLoop]
    cases c.newAccountFromPublicKeyString account with
    | none => rfl
    | some receiver =>
      simp only
      split
      · rfl
      · exact sendLoop_failed rest _ _ _

/-- Whether a run fails does not depend on the chat store. -/
theorem failed_independent_of_store (record : IntentRecord) (attempt : Attempt)
    (store store' : Store ExchangeData) :
    (sendCashTransactionsExchangeMessage c record attempt store).failed =
      (sendCashTransactionsExchangeMessage c record attempt store').failed := by
  unfold sendCashTransactionsExchangeMessage
  cases c.getExchangeDataFromIntent record with
  | none => rfl
  | some exchangeData =>
    dsimp only
    cases plan record with
    | done => rfl
    | voidGiftCard source =>
      dsimp only
      cases c.getOriginalGiftCardIssuedIntent source with
      | none => rfl
      | some issued =>
        dsimp only
        split <;> rfl
    | send messageId receivers => exact sendLoop_failed _ _ _ _

/-- A history of runs that do not fail leaves what their records settle to, in turn. -/
theorem process_of_succeeds {history : List (IntentRecord × Attempt)}
    (succeeds : ∀ run ∈ history, ∀ store : Store ExchangeData,
      (sendCashTransactionsExchangeMessage c run.1 run.2 store).failed = false)
    (store : Store ExchangeData) :
    process c history store = history.foldl (fun store run => settle c run.1 store) store := by
  induction history generalizing store with
  | nil => rfl
  | cons run history inductionHypothesis =>
    rw [List.foldl_cons, ← (run_settles run.1 run.2 store).1 (succeeds run (.head _) store)]
    exact inductionHypothesis (fun other member => succeeds other (.tail _ member)) _

/-- Runs that do not fail leave the same chat store in every order, as long as any two
intents of the history are the same, or touch no key (chat and message id) in common: in
particular when one sends to no receiver and deletes nothing, or their message ids differ.
Whether a run fails is read at the starting store, since it does not depend on it. -/
theorem intents_commute {history reordered : List (IntentRecord × Attempt)}
    (permuted : history.Perm reordered) {store : Store ExchangeData}
    (succeeds : ∀ run ∈ history,
      (sendCashTransactionsExchangeMessage c run.1 run.2 store).failed = false)
    (apart : ∀ run ∈ history, ∀ other ∈ history, run.1 = other.1 ∨
      ∀ key ∈ touchedKeys c run.1, key ∉ touchedKeys c other.1) :
    process c history store = process c reordered store := by
  have everywhere : ∀ run ∈ history, ∀ store' : Store ExchangeData,
      (sendCashTransactionsExchangeMessage c run.1 run.2 store').failed = false :=
    fun run member store' => (failed_independent_of_store run.1 run.2 store' store).trans
      (succeeds run member)
  rw [process_of_succeeds everywhere,
    process_of_succeeds fun run member => everywhere run (permuted.mem_iff.mpr member)]
  exact permuted.foldl_eq' (fun run member other otherMember _ =>
    settle_comm (apart run member other otherMember) _) store

/-- Alice pays Bob, and Bob's chat then holds the message the payment delivers. -/
theorem bob_hears_of_payment :
    process plainCollaborators [(alicePaysBob, inOrder)] emptyStore
        (getChatId "Cash Transactions" "bob" true) "pay" = some ⟨"pay", .received, "pay", 0⟩ ∧
      (emptyStore (getChatId "Cash Transactions" "bob" true) "pay" =
          some ⟨"pay", .received, "pay", 0⟩ ∨
        ∃ run ∈ [(alicePaysBob, inOrder)], Delivers plainCollaborators run.1
          (getChatId "Cash Transactions" "bob" true) "pay" ⟨"pay", .received, "pay", 0⟩) :=
  have found : process plainCollaborators [(alicePaysBob, inOrder)] emptyStore
      (getChatId "Cash Transactions" "bob" true) "pay" = some ⟨"pay", .received, "pay", 0⟩ := rfl
  ⟨found, stored_messages_delivered [(alicePaysBob, inOrder)] found⟩

/-- Alice's gift-card message stays through a payment to Bob. -/
theorem gift_card_message_kept_through_payment :
    let issuedStore :=
      (sendCashTransactionsExchangeMessage plainCollaborators giftCardIssue inOrder emptyStore).store
    issuedStore (getChatId "Cash Transactions" "alice" true) "issue" =
        some ⟨"issue", .sent, "issue", 0⟩ ∧
      (process plainCollaborators [(alicePaysBob, inOrder)] issuedStore
          (getChatId "Cash Transactions" "alice" true) "issue" =
            some ⟨"issue", .sent, "issue", 0⟩ ∨
        ∃ run ∈ [(alicePaysBob, inOrder)], Voids plainCollaborators run.1
          (getChatId "Cash Transactions" "alice" true) "issue") :=
  have kept : (sendCashTransactionsExchangeMessage plainCollaborators giftCardIssue inOrder
      emptyStore).store (getChatId "Cash Transactions" "alice" true) "issue" =
        some ⟨"issue", .sent, "issue", 0⟩ := rfl
  ⟨kept, messages_kept_unless_voided [(alicePaysBob, inOrder)] kept⟩

/-- Alice's public payment `"pay"`, no withdrawal: it tells no one. -/
def quietPublicPayment : IntentRecord := ⟨"pay", .sendPublicPayment ⟨"bob", false⟩, "alice", 2⟩

/-- Alice pays Bob, voids her gift card, and makes a public payment under the id of the first
payment that tells no one. -/
def paymentsAndVoiding : List (IntentRecord × Attempt) :=
  [(alicePaysBob, inOrder), (giftCardVoid, inOrder), (quietPublicPayment, inOrder)]

/-- The three intents touch no key in common, the two sharing the id `"pay"` included, so both
orders leave the same store. -/
theorem payment_and_voiding_commute :
    paymentsAndVoiding.Perm paymentsAndVoiding.reverse ∧
      (∀ run ∈ paymentsAndVoiding,
        (sendCashTransactionsExchangeMessage plainCollaborators run.1 run.2 emptyStore).failed =
          false) ∧
      (∀ run ∈ paymentsAndVoiding, ∀ other ∈ paymentsAndVoiding, run.1 = other.1 ∨
        ∀ key ∈ touchedKeys plainCollaborators run.1, key ∉ touchedKeys plainCollaborators other.1) ∧
      process plainCollaborators paymentsAndVoiding emptyStore =
        process plainCollaborators paymentsAndVoiding.reverse emptyStore :=
  have permuted : paymentsAndVoiding.Perm paymentsAndVoiding.reverse := (List.reverse_perm _).symm
  have succeeds : ∀ run ∈ paymentsAndVoiding,
      (sendCashTransactionsExchangeMessage plainCollaborators run.1 run.2 emptyStore).failed =
        false := by decide
  have apart : ∀ run ∈ paymentsAndVoiding, ∀ other ∈ paymentsAndVoiding, run.1 = other.1 ∨
      ∀ key ∈ touchedKeys plainCollaborators run.1, key ∉ touchedKeys plainCollaborators other.1 := by
    decide
  ⟨permuted, succeeds, apart, intents_commute permuted succeeds apart⟩

end CodeServer.Chat
