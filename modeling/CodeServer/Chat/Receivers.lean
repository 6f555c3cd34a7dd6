import CodeServer.Chat.Settle

/-!
# Who hears about an intent, under which message id

`plan` gives a message id and a map from receiver to verb. The message id is the intent id,
except for an external deposit, whose id is cut at its first `-` (`plan_messageId`). Two
intents that reach one receiver keep a message each in its chat exactly when their message
ids differ; when they are equal the later one is dropped as `ErrMessageAlreadyExists`
(`distinct_intents_keep_both_messages`), as for two deposits whose ids agree up to their
first `-` (`split_deposit_ids_collide`).

For a payment the initiator is told with an outgoing verb and every incoming verb goes to
someone else, as long as the destination is not the initiator
(`payment_initiator_outgoing`). When it is, the destination's assignment overwrites the
initiator's in the map (`self_payment_tells_initiator_received`).
-/

namespace CodeServer.Chat

open Go

@[simp] theorem lookup_singleton (account other : String) (verb : Verb) :
    (AList.singleton account verb : Receivers).lookup other =
      if other = account then some verb else none := by
  by_cases same : other = account
  · subst same
    simp [AList.lookup, AList.singleton_entries]
  · have skipped := List.dlookup_cons_ne [] (⟨account, verb⟩ : Σ _ : String, Verb) same
    simp [AList.lookup, AList.singleton_entries, skipped, same]

@[simp] theorem lookup_assignDestination (receivers : Receivers) (account other : String)
    (verb : Verb) : (assignDestination receivers account verb).lookup other =
      if 0 < account.length ∧ other = account then some verb else receivers.lookup other := by
  unfold assignDestination
  by_cases assigned : 0 < account.length
  · by_cases same : other = account
    · subst same
      simp [assigned, AList.lookup_insert]
    · simp [assigned, same, AList.lookup_insert_ne same]
  · simp [assigned]

/-- The message id an intent's messages are kept under, in the words of the spec: the intent
id, or, for an external deposit, the part of it before the first `-`. -/
def messageIdOf (record : IntentRecord) : String :=
  match record.intentType with
  | .externalDeposit _ => ⟨record.intentId.data.takeWhile (· != '-')⟩
  | _ => record.intentId

/-- `plan` sends under `messageIdOf`. -/
theorem plan_messageId {record : IntentRecord} {messageId : String} {receivers : Receivers}
    (planned : plan record = .send messageId receivers) : messageId = messageIdOf record := by
  obtain ⟨intentId, intentType, initiator, createdAt⟩ := record
  cases intentType with
  | externalDeposit destination =>
    simp only [plan, Plan.send.injEq] at planned
    rw [← planned.1, head_split]
    rfl
  | other => simp [plan] at planned
  | sendPrivatePayment | sendPublicPayment | receivePaymentsPublicly | migrateToPrivacy2022 =>
    simp only [plan] at planned
    split_ifs at planned <;> simp_all [messageIdOf]

variable {Key ExchangeData : Type} {c : Collaborators Key ExchangeData}

/-- Where `deliveries` puts a receiver's message: its Cash Transactions chat, under the
message id, and nowhere under another id. -/
theorem deliveries_apply (exchangeData : ExchangeData) (messageId : String) (createdAt : Nat)
    (receivers : Receivers) (account id : String) :
    deliveries c exchangeData messageId createdAt receivers.entries
        (getChatId c.cashTransactionsName account true) id =
      if id = messageId then (receivers.lookup account).map
        fun verb => ⟨messageId, verb, exchangeData, createdAt⟩ else none := by
  by_cases same : id = messageId <;> simp [deliveries, getChatId, AList.lookup, same]

/-- Two intents that both send to one receiver send under `messageIdOf` each. From a store
holding nothing under either id in the receiver's Cash Transactions chat, successful runs of
the first and then the second leave the first's message there; the second's is there too
when the message ids differ, and is dropped as `ErrMessageAlreadyExists` when they are equal. -/
theorem distinct_intents_keep_both_messages {first second : IntentRecord}
    {firstId secondId account : String} {firstReceivers secondReceivers : Receivers}
    {firstVerb secondVerb : Verb} {firstData secondData : ExchangeData}
    {store afterFirst afterSecond : Store ExchangeData} {firstAttempt secondAttempt : Attempt}
    (firstPlan : plan first = .send firstId firstReceivers)
    (secondPlan : plan second = .send secondId secondReceivers)
    (firstVerbAt : firstReceivers.lookup account = some firstVerb)
    (secondVerbAt : secondReceivers.lookup account = some secondVerb)
    (firstExchange : c.getExchangeDataFromIntent first = some firstData)
    (secondExchange : c.getExchangeDataFromIntent second = some secondData)
    (firstFree : store (getChatId c.cashTransactionsName account true) firstId = none)
    (secondFree : store (getChatId c.cashTransactionsName account true) secondId = none)
    (firstOk : sendCashTransactionsExchangeMessage c first firstAttempt store = ⟨false, afterFirst⟩)
    (secondOk :
      sendCashTransactionsExchangeMessage c second secondAttempt afterFirst = ⟨false, afterSecond⟩) :
    firstId = messageIdOf first ∧ secondId = messageIdOf second ∧
    afterSecond (getChatId c.cashTransactionsName account true) firstId =
      some ⟨firstId, firstVerb, firstData, first.createdAt⟩ ∧
    afterSecond (getChatId c.cashTransactionsName account true) secondId =
      if firstId = secondId then some ⟨firstId, firstVerb, firstData, first.createdAt⟩
      else some ⟨secondId, secondVerb, secondData, second.createdAt⟩ := by
  refine ⟨plan_messageId firstPlan, plan_messageId secondPlan, ?_⟩
  rw [settle_of_ok secondOk, settle_send secondExchange secondPlan, settle_of_ok firstOk,
    settle_send firstExchange firstPlan]
  by_cases same : firstId = secondId
  · subst same
    simp [deliveries_apply, firstVerbAt, firstFree]
  · simp [deliveries_apply, same, Ne.symm same, firstVerbAt, secondVerbAt, firstFree, secondFree]

/-- An external deposit to Bob. -/
def depositToBob (intentId : String) : IntentRecord := ⟨intentId, .externalDeposit "bob", "alice", 0⟩

/-- Deposits `"a-0"` and `"b-0"` to Bob send under `"a"` and `"b"`, and Bob's chat keeps both. -/
theorem deposits_cut_apart_both_kept :
    let afterFirst := (sendCashTransactionsExchangeMessage plainCollaborators (depositToBob "a-0")
      inOrder emptyStore).store
    let afterSecond := (sendCashTransactionsExchangeMessage plainCollaborators (depositToBob "b-0")
      inOrder afterFirst).store
    messageIdOf (depositToBob "a-0") = "a" ∧ messageIdOf (depositToBob "b-0") = "b" ∧
      afterSecond (getChatId "Cash Transactions" "bob" true) "a" =
        some ⟨"a", .deposited, "a-0", 0⟩ ∧
      afterSecond (getChatId "Cash Transactions" "bob" true) "b" =
        some ⟨"b", .deposited, "b-0", 0⟩ := by
  intro afterFirst afterSecond
  have kept := @distinct_intents_keep_both_messages String String plainCollaborators
    (depositToBob "a-0") (depositToBob "b-0") "a" "b" "bob" (.singleton "bob" .deposited)
    (.singleton "bob" .deposited) .deposited .deposited "a-0" "b-0" emptyStore afterFirst
    afterSecond inOrder inOrder rfl rfl (by simp) (by simp) rfl rfl rfl rfl rfl rfl
  exact ⟨kept.1.symm, kept.2.1.symm, kept.2.2.1, kept.2.2.2.trans (if_neg (by decide))⟩

/-- Deposits `"sig-0"` and `"sig-1"` to Bob both send under `"sig"`: after both, Bob's chat
holds the first deposit's exchange data under `"sig"`, and the second's was dropped. -/
theorem split_deposit_ids_collide :
    plan (depositToBob "sig-0") = .send "sig" (.singleton "bob" .deposited) ∧
    plan (depositToBob "sig-1") = .send "sig" (.singleton "bob" .deposited) ∧
    (sendCashTransactionsExchangeMessage plainCollaborators (depositToBob "sig-1") inOrder
        (sendCashTransactionsExchangeMessage plainCollaborators (depositToBob "sig-0") inOrder
          emptyStore).store).store (getChatId "Cash Transactions" "bob" true) "sig" =
      some ⟨"sig", .deposited, "sig-0", 0⟩ :=
  ⟨rfl, rfl, rfl⟩

/-- The account a payment intent is sent to. -/
def paymentDestination : IntentType → Option String
  | .sendPrivatePayment metadata => some metadata.destinationOwnerAccount
  | .sendPublicPayment metadata => some metadata.destinationOwnerAccount
  | _ => none

/-- A payment whose destination is not its initiator, and on which messages are sent, tells
the initiator once with an outgoing verb, and sends every incoming verb to someone else. -/
theorem payment_initiator_outgoing {record : IntentRecord} {messageId : String}
    {receivers : Receivers} {destination : String}
    (planned : plan record = .send messageId receivers)
    (payment : paymentDestination record.intentType = some destination)
    (elsewhere : destination ≠ record.initiatorOwnerAccount) (sends : receivers.entries ≠ []) :
    (∃ verb, receivers.lookup record.initiatorOwnerAccount = some verb ∧ verb.outgoing = true) ∧
    ∀ account verb, receivers.lookup account = some verb → verb.incoming = true →
      account ≠ record.initiatorOwnerAccount := by
  suffices told : ∃ verb, receivers.lookup record.initiatorOwnerAccount = some verb ∧
      verb.outgoing = true by
    obtain ⟨verb, found, outgoing⟩ := told
    refine ⟨⟨verb, found, outgoing⟩, fun account other foundOther incoming same => ?_⟩
    subst same
    obtain rfl : other = verb := Option.some.inj (foundOther.symm.trans found)
    cases other <;> simp_all [Verb.outgoing, Verb.incoming]
  obtain ⟨intentId, intentType, initiator, createdAt⟩ := record
  have other : initiator ≠ destination := Ne.symm elsewhere
  cases intentType with
  | sendPrivatePayment metadata =>
    simp only [paymentDestination, Option.some.injEq] at payment
    subst payment
    simp only [plan] at planned
    split_ifs at planned <;> cases planned
    · exact ⟨.withdrew, by simp [other], rfl⟩
    · exact ⟨.sent, by simp, rfl⟩
    · exact ⟨.gave, by simp [other], rfl⟩
  | sendPublicPayment metadata =>
    simp only [paymentDestination, Option.some.injEq] at payment
    subst payment
    simp only [plan, Plan.send.injEq] at planned
    obtain ⟨-, rfl⟩ := planned
    split_ifs at sends ⊢
    · exact ⟨.withdrew, by simp [other], rfl⟩
    · exact absurd rfl sends
  | receivePaymentsPublicly | migrateToPrivacy2022 | externalDeposit | other =>
    simp [paymentDestination] at payment

/-- Alice paying Bob tells Alice with an outgoing verb. -/
theorem alice_paying_bob_outgoing :
    ∃ verb, (assignDestination (.singleton "alice" .gave) "bob" .received).lookup "alice" =
      some verb ∧ verb.outgoing = true :=
  (@payment_initiator_outgoing alicePaysBob "pay"
    (assignDestination (.singleton "alice" .gave) "bob" .received) "bob" rfl rfl (by decide)
    (by decide)).1

/-- An owner pays itself privately, under a base58 intent id as real intents have. -/
def selfPayment : IntentRecord :=
  ⟨"5Q544fKrFoe6tsEbD7S8EmxGTJYAKtTVhAW5Q5pge4j1",
    .sendPrivatePayment ⟨"11111111111111111111111111111111", false, false, false⟩,
    "11111111111111111111111111111111", 0⟩

/-- Paying oneself: the destination's `RECEIVED` overwrites the initiator's `GAVE`, and the
initiator's one message carries the incoming verb. -/
theorem self_payment_tells_initiator_received :
    plan selfPayment = .send "5Q544fKrFoe6tsEbD7S8EmxGTJYAKtTVhAW5Q5pge4j1"
      (.singleton "11111111111111111111111111111111" .received) ∧
    (sendCashTransactionsExchangeMessage plainCollaborators selfPayment inOrder
        emptyStore).store (getChatId "Cash Transactions" "11111111111111111111111111111111" true)
        "5Q544fKrFoe6tsEbD7S8EmxGTJYAKtTVhAW5Q5pge4j1" =
      some ⟨"5Q544fKrFoe6tsEbD7S8EmxGTJYAKtTVhAW5Q5pge4j1", .received,
        "5Q544fKrFoe6tsEbD7S8EmxGTJYAKtTVhAW5Q5pge4j1", 0⟩ :=
  ⟨rfl, rfl⟩

end CodeServer.Chat
