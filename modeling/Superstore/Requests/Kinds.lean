import Superstore.Requests.Wallets

/-!
# The kinds of operations that a request comes to

Operations fall into a few kinds. Of each request it is shown once which kinds it can come to,
whatever its operations answer; that it never comes to an operation of some other sort is then
read off the list.
-/

namespace Superstore

open Interleaving

/-- What an operation is for. -/
inductive OpKind
  | query | charge | topupCharge | repaymentCharge | placement | claim | startUpdate | topupUpdate
  | topupFailure | outcome | release
  | repayment | walletRepayment | topup | paymentEntry | funding | fundingAccount | event
  | refund | refundStatus | klump | cancellation | status | progress | scan | credential | withdrawal
  | riderWithdrawal | storeWithdrawal | reward
  deriving DecidableEq

/-- What Paystack is asked to start a payment for. -/
def Charge.kind (asked : Charge) : OpKind :=
  if asked.metadata.paymentGroupId.isSome then .charge
  else if asked.metadata.installmentId.isSome then .repaymentCharge else .topupCharge

/-- What a statement on a payment is for. -/
def Payments.PaymentUpdate.kind : PaymentUpdate → OpKind
  | .transferInstructions _ _ | .paymentUrl _ _ | .clearMetadata => .startUpdate
  | .topupUrl _ _ _ | .topupInstructions _ _ _ => .topupUpdate
  | .failTopup _ => .topupFailure

/-- The kind of an operation. -/
def Op.kind : {α : Type} → Op α → OpKind
  | _, .read _ => .query
  | _, .now => .query
  | _, .token => .query
  | _, .notify => .query
  | _, .createCheckout _ _ => .placement
  | _, .confirmFinancing _ _ => .placement
  | _, .claimInitialization _ _ => .claim
  | _, .initializeTransaction asked => asked.kind
  | _, .createBankTransferCharge asked => asked.kind
  | _, .updatePayment _ u => u.kind
  | _, .verify _ => .query
  | _, .finalizePayment _ _ _ => .outcome
  | _, .completeIncomplete _ => .outcome
  | _, .cancelGroup _ _ => .release
  | _, .settleRepayment _ _ _ => .repayment
  | _, .repayFromWallet _ _ _ _ => .walletRepayment
  | _, .creditTopup _ _ _ => .topup
  | _, .createPayment _ => .paymentEntry
  | _, .createRepayment _ => .paymentEntry
  | _, .upsertFundingPayment _ _ _ _ => .funding
  | _, .creditFunding _ _ _ _ => .funding
  | _, .findCustomer _ => .query
  | _, .createCustomer _ => .query
  | _, .assignDedicatedAccount _ => .query
  | _, .requestFundingAccount _ _ _ => .fundingAccount
  | _, .updateFundingAccount _ _ => .fundingAccount
  | _, .upsertWebhookEvent _ _ _ _ => .event
  | _, .claimRefund _ => .refund
  | _, .reopenRefund _ => .refund
  | _, .createRefund _ _ _ => .refund
  | _, .fetchRefund _ => .query
  | _, .retryRefundWithCustomerDetails _ => .query
  | _, .updateRefund _ _ => .refund
  | _, .completeManual _ _ _ => .refund
  | _, .writeRefundStatus _ _ => .refundStatus
  | _, .startKlump _ _ => .klump
  | _, .verifyKlump _ => .query
  | _, .updateKlump _ _ _ => .klump
  | _, .completeKlump _ _ _ => .klump
  | _, .cancelOrder _ _ _ => .cancellation
  | _, .writeStatus _ _ _ _ _ => .status
  | _, .writePacked _ _ _ => .status
  | _, .writePickup _ _ _ _ => .status
  | _, .writeDelivery _ _ _ _ _ => .status
  | _, .writeProgress _ _ _ _ _ _ _ => .status
  | _, .claimDelivery _ _ _ => .progress
  | _, .intervene _ _ _ => .progress
  | _, .createScan _ => .scan
  | _, .revokeCredentials _ _ _ => .credential
  | _, .createCredential _ _ _ _ => .credential
  | _, .requestWalletWithdrawal _ _ => .withdrawal
  | _, .withdrawRider _ _ _ _ => .riderWithdrawal
  | _, .withdrawStore _ _ _ _ => .storeWithdrawal
  | _, .claimReferrals _ => .reward
  | _, .redeemCashback _ _ => .reward

/-- The kinds of reading and asking. -/
def queryKinds : List OpKind := [.query]

/-- The kinds of the requests about refunds. -/
def refundKinds : List OpKind := [.query, .refund, .refundStatus]

/-- The kinds of starting a payment. -/
def startKinds : List OpKind := [.query, .claim, .charge, .startUpdate]

/-- The kinds of verifying a payment. -/
def verificationKinds : List OpKind := [.outcome, .topupFailure, .repayment, .topup] ++ refundKinds

/-- The kinds of cancelling a checkout. -/
def releaseKinds : List OpKind := .release :: verificationKinds

/-- The kinds of topping up a wallet. -/
def topupKinds : List OpKind := [.query, .topupCharge, .paymentEntry, .topupUpdate, .topupFailure]

/-- The kinds of crediting a transfer. -/
def fundingKinds : List OpKind := [.query, .funding]

/-- The kinds of asking for a transfer account. -/
def accountKinds : List OpKind := [.query, .fundingAccount]

/-- The kinds of repaying an installment. -/
def repaymentKinds : List OpKind := [.query, .repaymentCharge, .paymentEntry, .walletRepayment]

/-- The kinds of handling a webhook of Paystack. -/
def webhookKinds : List OpKind := [.funding, .fundingAccount, .event] ++ verificationKinds

/-- The kinds of the requests about Klump. -/
def klumpKinds : List OpKind := [.query, .klump, .event]

/-- The kinds of creating a checkout. -/
def placementKinds : List OpKind := [.query, .placement]

/-- The kinds of cancelling an order. -/
def cancellationKinds : List OpKind := .cancellation :: refundKinds

/-- The kinds of the requests about payments that start none. -/
def passiveKinds : List OpKind := [.release, .cancellation, .klump] ++ placementKinds ++ webhookKinds

/-- The kinds of the requests that start a payment. -/
def startingKinds : List OpKind := placementKinds ++ startKinds ++ topupKinds ++ repaymentKinds

/-- The kinds of moving an order on. -/
def statusKinds : List OpKind := [.query, .status, .progress]

/-- The kinds of the requests about wallets. -/
def walletKinds : List OpKind := [.query, .withdrawal, .riderWithdrawal, .storeWithdrawal, .reward]

/-- A program that comes to operations of some kinds only. -/
abbrev Uses {α : Type} (ks : List OpKind) (p : Request α) : Prop := p.All fun _ op => op.kind ∈ ks

section Uses

variable {α : Type} {ks : List OpKind}

/-- More kinds of operations may be allowed for. -/
theorem Uses.mono {ls : List OpKind} {p : Request α} (h : Uses ks p) (hsub : ks ⊆ ls) : Uses ls p :=
  Prog.All.imp h fun _ _ hop => hsub hop

/-- A call uses its own kind. -/
theorem uses_call {op : Op α} (h : ks.contains op.kind = true) : Uses ks (call op) :=
  (Prog.all_call op).mpr (List.contains_iff_mem.mp h)

/-- Reading the tables is a query. -/
theorem uses_select (f : Database → α) (h : ks.contains OpKind.query = true) : Uses ks (select f) := uses_call h

/-- Reading what has to be there is a query. -/
theorem uses_selectOrThrow (f : Database → Option α) (err : Error) (h : ks.contains OpKind.query = true) :
    Uses ks (selectOrThrow f err) := uses_call h

/-- A decision uses no operation. -/
theorem uses_decided (x : Except Error α) : Uses ks (decided x) := Prog.all_done x

/-- A check uses no operation. -/
theorem uses_check (c : Prop) [Decidable c] (err : Error) : Uses ks (check c err) := Prog.all_done _

/-- What is done under a condition uses what it uses without. -/
theorem uses_onlyIf {c : Prop} [Decidable c] {p : Request Unit} (h : Uses ks p) : Uses ks (onlyIf c p) := by
  unfold onlyIf
  split
  · exact h
  · exact Prog.all_done _

/-- Dropping an answer uses no operation. -/
theorem uses_discard {p : Request α} (h : Uses ks p) : Uses ks (discard p) := .bind h fun _ => Prog.all_done _

end Uses

namespace Payments

/-- The status of a payment follows its refunds in one transaction of refunds. -/
theorem syncPaymentRefundStatus_uses (paymentId : ℕ) :
    Uses refundKinds (syncPaymentRefundStatus paymentId) :=
  .bind (uses_selectOrThrow _ _ rfl) fun _ => .bind (uses_select _ rfl) fun _ => uses_call rfl

/-- A customer is told of a refund by what refunds use. -/
theorem notifyRefund_uses (id : ℕ) : Uses refundKinds (notifyRefund id) :=
  .bind (uses_selectOrThrow _ _ rfl) fun _ => uses_call rfl

/-- Asking Paystack how a refund stands uses what refunds use. -/
theorem pollRefund_uses (id : ℕ) (providerRefundId : String) :
    Uses refundKinds (pollRefund id providerRefundId) :=
  .bind (uses_call rfl) fun _ => .bind (uses_call rfl) fun _ =>
    .bind (uses_onlyIf (syncPaymentRefundStatus_uses _)) fun _ =>
    .bind (uses_onlyIf (notifyRefund_uses _)) fun _ => Prog.all_done _

/-- Asking Paystack for a refund uses what refunds use. -/
theorem submitRefund_uses (id : ℕ) (refund : Refund) (transaction : String) :
    Uses refundKinds (submitRefund id refund transaction) := by
  refine .attempt ?_ fun err => ?_
  · exact .bind (uses_call rfl) fun _ => .bind (uses_call rfl) fun _ =>
      .bind (uses_onlyIf (syncPaymentRefundStatus_uses _)) fun _ =>
      .bind (notifyRefund_uses _) fun _ => Prog.all_done _
  · exact .bind (uses_call rfl) fun _ => .bind (notifyRefund_uses _) fun _ => Prog.all_fail _

/-- Working on a refund uses what refunds use. -/
theorem processRefund_uses (id : ℕ) : Uses refundKinds (processRefund id) := by
  refine .bind (uses_selectOrThrow _ _ rfl) fun r => ?_
  dsimp only
  split
  · exact Prog.all_done _
  · split
    · split
      · exact Prog.all_done _
      · exact .bind (uses_call rfl) fun _ => .bind (notifyRefund_uses _) fun _ =>
          Prog.all_done _
    · split
      · split
        · exact Prog.all_done _
        · exact pollRefund_uses _ _
      · refine .bind (uses_decided _) fun _ => .bind (uses_call rfl) fun _ => ?_
        split
        · exact Prog.all_done _
        · exact submitRefund_uses _ _ _

/-- Taking in a notice of a refund uses what refunds use. -/
theorem applyRefundWebhook_uses (event : WebhookEvent) : Uses refundKinds (applyRefundWebhook event) :=
  .bind (uses_selectOrThrow _ _ rfl) fun _ => .bind (uses_call rfl) fun _ =>
    .bind (uses_onlyIf (syncPaymentRefundStatus_uses _)) fun _ =>
    .bind (notifyRefund_uses _) fun _ => Prog.all_done _

/-- What Paystack answers to the start of a payment is recorded as its method asks. -/
inductive Starts (payment : Payment) : PaymentUpdate → Prop
  | transfer (h : payment.paymentMethod = .bankTransfer) (reference : String) (t : TransferInstructions) :
      Starts payment (.transferInstructions reference t)
  | url (h : payment.paymentMethod ≠ .bankTransfer) (reference url : String) :
      Starts payment (.paymentUrl reference url)

/-- What starting a payment answers has an address to pay at, or instructions. -/
theorem startPayment_yields (userId groupId : ℕ) (payment : Payment) (reference : String) :
    (startPayment userId groupId payment reference).Yields fun r => ∀ u, r = .ok u → Starts payment u := by
  unfold startPayment
  split
  · next h =>
    refine .bind_ok _ fun charge => .bind_ok _ fun _ => .bind_ok _ fun _ => ?_
    rintro _ ⟨⟩
    exact .transfer h _ _
  · next h =>
    refine .bind_ok _ fun initialized => .bind_ok _ fun _ => ?_
    rintro _ ⟨⟩
    exact .url h _ _

/-- Starting a payment uses what starts payments. -/
theorem startPayment_uses (userId groupId : ℕ) (payment : Payment) (reference : String) :
    Uses startKinds (startPayment userId groupId payment reference) := by
  unfold startPayment
  split
  · exact .bind (uses_call rfl) fun _ => .bind (uses_check _ _) fun _ =>
      .bind (uses_check _ _) fun _ => Prog.all_done _
  · exact .bind (uses_call rfl) fun _ => .bind (uses_check _ _) fun _ => Prog.all_done _

/-- A customer who asks to pay uses what starts payments. -/
theorem initializePayment_uses (userId groupId : ℕ) :
    Uses startKinds (initializePayment userId groupId) := by
  refine .bind (uses_call rfl) fun claim => uses_onlyIf ?_
  refine .bind (uses_selectOrThrow _ _ rfl) fun _ => ?_
  refine .bind_yields (P := fun r => ∀ u, r = .ok u → Starts claim.payment u)
    (.attempt (startPayment_uses _ _ _ _) fun _ => .bind (uses_call rfl) fun _ => Prog.all_fail _)
    (.attempt (startPayment_yields _ _ _ _) fun _ => .bind_ok _ fun _ u hu => ?_) fun u hu => ?_
  · cases hu
  cases hu u rfl <;> exact uses_call rfl

/-- Sending the confirmations of groups only reads them. -/
theorem dispatchGroupConfirmations_uses (groupIds : List ℕ) :
    Uses queryKinds (dispatchGroupConfirmations groupIds) :=
  uses_onlyIf (.bind (uses_select _ rfl) fun _ => uses_call rfl)

/-- A checkout that is taken up again uses what starts payments. -/
theorem resumeCheckout_uses (userId id : ℕ) : Uses startKinds (resumeCheckout userId id) :=
  .bind (uses_selectOrThrow _ _ rfl) fun _ => .bind (uses_check _ _) fun _ =>
    .bind (uses_onlyIf (initializePayment_uses _ _)) fun _ => uses_selectOrThrow _ _ rfl

/-- A payment that is paid already is verified by what verifications use. -/
theorem verifyPaid_uses (k : KnownPayment) : Uses verificationKinds (verifyPaid k) :=
  .bind (uses_onlyIf (uses_call rfl)) fun _ =>
    .bind ((dispatchGroupConfirmations_uses _).mono (by decide)) fun _ => Prog.all_done _

/-- A repayment is verified by what verifications use. -/
theorem verifyRepayment_uses (k : KnownPayment) (reference : String) :
    Uses verificationKinds (verifyRepayment k reference) := by
  refine .bind (uses_selectOrThrow _ _ rfl) fun _ => .bind (uses_call rfl) fun v => ?_
  refine .bind (uses_decided _) fun _ => ?_
  split
  · exact Prog.all_done _
  · exact .bind (uses_call rfl) fun _ => Prog.all_done _
  · exact .bind (uses_call rfl) fun _ => Prog.all_done _

/-- A top-up is verified by what verifications use. -/
theorem verifyTopup_uses (k : KnownPayment) (reference : String) :
    Uses verificationKinds (verifyTopup k reference) := by
  refine .bind (uses_call rfl) fun v => .bind (uses_decided _) fun _ => ?_
  split
  · refine .bind (uses_call rfl) fun _ => ?_
    split
    · exact .bind (uses_call rfl) fun _ => .bind (uses_call rfl) fun _ => Prog.all_done _
    · exact Prog.all_done _
  · exact .bind (uses_call rfl) fun _ => .bind (uses_onlyIf (uses_call rfl)) fun _ =>
      Prog.all_done _
  · exact .bind (uses_call rfl) fun _ => .bind (uses_call rfl) fun _ => Prog.all_done _

/-- What Paystack reports on a checkout is applied by what verifications use. -/
theorem applyOutcome_uses (k : KnownPayment) (success : Bool) :
    Uses verificationKinds (applyOutcome k success) := by
  refine .bind (uses_call rfl) fun _ => ?_
  split
  · refine .bind (.forkEach fun id _ => ?_) fun _ => Prog.all_done _
    exact .bind ((processRefund_uses id).mono (by decide)) fun _ => Prog.all_done _
  · split
    · exact .bind ((dispatchGroupConfirmations_uses _).mono (by decide)) fun _ => Prog.all_done _
    · exact .bind (uses_onlyIf (.forkEach fun _ _ => uses_call rfl)) fun _ => Prog.all_done _

/-- The payment of a checkout is verified by what verifications use. -/
theorem verifyCheckout_uses (k : KnownPayment) (reference : String) :
    Uses verificationKinds (verifyCheckout k reference) := by
  refine .bind (uses_call rfl) fun v => .bind (uses_decided _) fun _ => ?_
  split
  · exact applyOutcome_uses _ _
  · exact applyOutcome_uses _ _
  · refine .bind (uses_call rfl) fun _ => ?_
    split
    · exact applyOutcome_uses _ _
    · exact Prog.all_done _

/-- A reference is verified by what verifications use. -/
theorem verifyReference_uses (reference : String) : Uses verificationKinds (verifyReference reference) := by
  refine .bind (uses_select _ rfl) fun known => .bind (uses_decided _) fun k => ?_
  split
  · exact Prog.all_done _
  · split
    · exact verifyPaid_uses _
    · split
      · exact verifyRepayment_uses _ _
      · exact verifyTopup_uses _ _
      · exact verifyTopup_uses _ _
      · exact verifyCheckout_uses _ _

/-- Asking for the status of a checkout uses what verifications use. -/
theorem status_uses (userId groupId : ℕ) (verify : Bool) :
    Uses verificationKinds (status userId groupId verify) := by
  refine .bind (uses_selectOrThrow _ _ rfl) fun s => ?_
  split
  · exact .bind (verifyReference_uses _) fun _ => uses_selectOrThrow _ _ rfl
  · exact uses_selectOrThrow _ _ rfl

/-- Releasing a checkout that is not paid uses what releases checkouts. -/
theorem cancelUnpaid_uses (userId id : ℕ) : Uses releaseKinds (cancelUnpaid userId id) :=
  .bind (uses_call rfl) fun _ => uses_selectOrThrow _ _ rfl

/-- Cancelling a checkout uses what releases checkouts. -/
theorem cancelCheckout_uses (userId id : ℕ) : Uses releaseKinds (cancelCheckout userId id) := by
  refine .bind (uses_selectOrThrow _ _ rfl) fun existing => .bind (uses_check _ _) fun _ => ?_
  split
  · exact uses_selectOrThrow _ _ rfl
  · split
    · exact cancelUnpaid_uses _ _
    · refine .bind ((verifyReference_uses _).mono (by decide)) fun _ => .bind (uses_check _ _) fun _ => ?_
      split
      · exact uses_selectOrThrow _ _ rfl
      · exact cancelUnpaid_uses _ _

/-- Paying into a wallet uses what top-ups use. -/
theorem topupWallet_uses (userId : ℕ) (amount : ℚ) : Uses topupKinds (topupWallet userId amount) := by
  refine .bind (uses_selectOrThrow _ _ rfl) fun _ => .bind (uses_call rfl) fun _ => ?_
  refine .bind (uses_call rfl) fun _ => .bind (uses_call rfl) fun _ => ?_
  refine .bind (.attempt (uses_call rfl) fun _ => ?_) fun _ => uses_call rfl
  exact .bind (uses_call rfl) fun _ => .bind (uses_call rfl) fun _ => Prog.all_fail _

/-- Paying into a wallet by transfer uses what top-ups use. -/
theorem topupWalletByTransfer_uses (userId : ℕ) (amount : ℚ) :
    Uses topupKinds (topupWalletByTransfer userId amount) := by
  refine .bind (uses_selectOrThrow _ _ rfl) fun _ => .bind (uses_call rfl) fun _ => ?_
  refine .bind (uses_call rfl) fun _ => .attempt ?_ fun _ => ?_
  · exact .bind (uses_call rfl) fun _ => .bind (uses_check _ _) fun _ => uses_call rfl
  · exact .bind (uses_call rfl) fun _ => .bind (uses_call rfl) fun _ => Prog.all_fail _

/-- A transfer to the account of a customer is credited by what funds wallets. -/
theorem completeDedicatedAccountFunding_uses (reference : String) :
    Uses fundingKinds (completeDedicatedAccountFunding reference) :=
  .bind (uses_call rfl) fun _ => .bind (uses_decided _) fun _ =>
    .bind (uses_check _ _) fun _ => .bind (uses_selectOrThrow _ _ rfl) fun _ =>
    .bind (uses_call rfl) fun _ => .bind (uses_call rfl) fun _ =>
    .bind (uses_onlyIf (uses_call rfl)) fun _ => Prog.all_done _

/-- Paying an installment uses what repayments use. -/
theorem payRepayment_uses (userId installmentId : ℕ) (byWallet : Bool) :
    Uses repaymentKinds (payRepayment userId installmentId byWallet) := by
  refine .bind (uses_selectOrThrow _ _ rfl) fun _ => .bind (uses_check _ _) fun _ => ?_
  refine .bind (uses_selectOrThrow _ _ rfl) fun _ => .bind (uses_call rfl) fun _ => ?_
  split
  · exact .bind (uses_call rfl) fun _ => Prog.all_done _
  · exact .bind (uses_call rfl) fun _ => .bind (uses_call rfl) fun _ =>
      .bind (uses_call rfl) fun _ => Prog.all_done _

/-- An assignment that fails is noted by what accounts use. -/
theorem failAssignment_uses {α : Type} (account : Option (ℕ × WalletFundingAccount)) (err : Error) :
    Uses accountKinds (failAssignment account err : Request α) := by
  unfold failAssignment
  split
  · exact .bind (uses_call rfl) fun _ => Prog.all_fail _
  · exact Prog.all_fail _

/-- A customer is entered at Paystack by what accounts use. -/
theorem paystackCustomer_uses (email : String) (account : Option (ℕ × WalletFundingAccount)) :
    Uses accountKinds (paystackCustomer email account) := by
  unfold paystackCustomer
  split
  · exact Prog.all_done _
  · refine .bind (uses_call rfl) fun found => ?_
    split
    · exact Prog.all_done _
    · exact .bind (uses_call rfl) fun _ => Prog.all_done _

/-- An account for transfers is made by what accounts use. -/
theorem createWalletTransferAccount_uses (userId : ℕ) :
    Uses accountKinds (createWalletTransferAccount userId) := by
  refine .bind (uses_selectOrThrow _ _ rfl) fun _ => .bind (uses_check _ _) fun _ => ?_
  refine .bind (uses_select _ rfl) fun known => ?_
  split
  · exact Prog.all_done _
  · refine .bind (.attempt (paystackCustomer_uses _ _) fun _ => failAssignment_uses _ _) fun _ => ?_
    refine .bind (.attempt (uses_call rfl) fun _ => failAssignment_uses _ _) fun _ => ?_
    refine .attempt (.bind (uses_call rfl) fun _ => ?_) fun _ => failAssignment_uses _ _
    split
    · exact uses_call rfl
    · exact Prog.all_done _

/-- An assignment that succeeds is noted by what accounts use. -/
theorem completeDedicatedAccountAssignment_uses (event : WebhookEvent) :
    Uses accountKinds (completeDedicatedAccountAssignment event) :=
  .bind (uses_selectOrThrow _ _ rfl) fun _ => .bind (uses_call rfl) fun _ => Prog.all_done _

/-- An assignment that Paystack gives up is noted by what accounts use. -/
theorem failDedicatedAccountAssignment_uses (event : WebhookEvent) :
    Uses accountKinds (failDedicatedAccountAssignment event) :=
  .bind (uses_selectOrThrow _ _ rfl) fun _ => .bind (uses_call rfl) fun _ => Prog.all_done _

/-- A notice of Paystack is worked on by what webhooks use. -/
theorem dispatchEvent_uses (event : WebhookEvent) : Uses webhookKinds (dispatchEvent event) := by
  unfold dispatchEvent
  split
  · refine .bind (uses_select _ rfl) fun known => ?_
    split
    · exact .bind ((verifyReference_uses _).mono (by decide)) fun _ => .bind (uses_check _ _) fun _ =>
        Prog.all_done _
    · exact .bind ((completeDedicatedAccountFunding_uses _).mono (by decide)) fun _ => Prog.all_done _
  · split
    · exact .bind ((applyRefundWebhook_uses _).mono (by decide)) fun _ => Prog.all_done _
    · split
      · exact .bind ((completeDedicatedAccountAssignment_uses _).mono (by decide)) fun _ => Prog.all_done _
      · split
        · exact .bind ((failDedicatedAccountAssignment_uses _).mono (by decide)) fun _ => Prog.all_done _
        · exact Prog.all_done _

/-- A notice of Paystack is taken in by what webhooks use. -/
theorem handleWebhook_uses (event : WebhookEvent) : Uses webhookKinds (handleWebhook event) := by
  refine .bind (uses_select _ rfl) fun _ => uses_onlyIf (.attempt ?_ fun _ => ?_)
  · refine .bind (dispatchEvent_uses _) fun outcome => ?_
    split
    · exact uses_call rfl
    · exact Prog.all_done _
  · exact .bind (uses_call rfl) fun _ => Prog.all_fail _

/-- Failures that are ignored use no operation more. -/
theorem tolerate_uses {α : Type} {ks : List OpKind} {p : Request α} (h : Uses ks p) : Uses ks (tolerate p) :=
  .attempt (.bind h fun _ => Prog.all_done _) fun _ => Prog.all_done _

/-- The scheduled check of payments uses what verifications use. -/
theorem reconcilePending_uses : Uses verificationKinds reconcilePending :=
  .bind (uses_call rfl) fun _ => .bind (uses_select _ rfl) fun _ =>
    .bind (.forEach fun _ _ => tolerate_uses (verifyReference_uses _)) fun _ =>
    .bind (uses_select _ rfl) fun _ =>
    .forEach fun _ _ => tolerate_uses ((processRefund_uses _).mono (by decide))

end Payments

namespace Klump

open Payments (dispatchGroupConfirmations_uses)

/-- Asking Klump for a transaction uses what Klump's transactions use. -/
theorem verifyProviderTransaction_uses (reference : String) (expectedUserId : Option ℕ) :
    Uses klumpKinds (verifyProviderTransaction reference expectedUserId) := by
  refine .bind (uses_call rfl) fun _ => .bind (uses_selectOrThrow _ _ rfl) fun _ => ?_
  refine .bind (uses_decided _) fun _ => ?_
  split
  · exact .bind (uses_call rfl) fun _ => Prog.all_done _
  · exact .bind (uses_call rfl) fun _ => .bind ((dispatchGroupConfirmations_uses _).mono (by decide)) fun _ =>
      Prog.all_done _

/-- A notice of Klump is worked on by what Klump's transactions use. -/
theorem dispatchEvent_uses (event : WebhookEvent) : Uses klumpKinds (dispatchEvent event) := by
  unfold dispatchEvent
  split
  · exact .bind (uses_decided _) fun _ => .bind (verifyProviderTransaction_uses _ _) fun _ =>
      Prog.all_done _
  · split
    · refine .bind (uses_select _ rfl) fun transaction => ?_
      split
      · exact .bind (uses_call rfl) fun _ => Prog.all_done _
      · exact Prog.all_done _
    · exact Prog.all_done _

/-- A notice of Klump is taken in by what Klump's transactions use. -/
theorem handleWebhook_uses (event : WebhookEvent) : Uses klumpKinds (handleWebhook event) := by
  refine .bind (uses_select _ rfl) fun _ => uses_onlyIf (.bind (uses_call rfl) fun _ => ?_)
  refine .attempt (.bind (dispatchEvent_uses _) fun _ => uses_call rfl) fun _ => ?_
  exact .bind (uses_call rfl) fun _ => Prog.all_fail _

end Klump

namespace Checkout

open Payments (dispatchGroupConfirmations_uses initializePayment_uses)

/-- Placing a checkout uses what places orders. -/
theorem create_uses (userId : ℕ) (input : CreateCheckoutDto) : Uses placementKinds (create userId input) :=
  .bind (uses_call rfl) fun _ =>
    .bind (uses_onlyIf ((dispatchGroupConfirmations_uses _).mono (by decide))) fun _ => uses_selectOrThrow _ _ rfl

/-- Placing a checkout and starting its payment uses what each of the two uses. -/
theorem place_uses (userId : ℕ) (input : CreateCheckoutDto) :
    Uses (placementKinds ++ startKinds) (place userId input) :=
  .bind (uses_call rfl) fun _ =>
    .bind (uses_onlyIf ((initializePayment_uses _ _).mono (by decide))) fun _ =>
    .bind (uses_onlyIf ((dispatchGroupConfirmations_uses _).mono (by decide))) fun _ => uses_selectOrThrow _ _ rfl

end Checkout

/-- A customer's cancellation comes to the operations of its refund besides its own. -/
theorem Orders.cancelOrder_uses (userId id : ℕ) (reason : String) :
    Uses cancellationKinds (Orders.cancelOrder userId id reason) := by
  refine .bind (uses_call rfl) fun _ => ?_
  split
  · exact Payments.tolerate_uses ((Payments.processRefund_uses _).mono (by decide))
  · exact uses_call rfl

/-- The requests that may ask Paystack to start a payment. -/
inductive StartingRequest : Request Unit → Prop
  | place (userId : ℕ) (input : CreateCheckoutDto) : StartingRequest (discard (Checkout.place userId input))
  | initializePayment (userId groupId : ℕ) : StartingRequest (Payments.initializePayment userId groupId)
  | resumeCheckout (userId id : ℕ) : StartingRequest (discard (Payments.resumeCheckout userId id))
  | topupWallet (userId : ℕ) (amount : ℚ) : StartingRequest (Payments.topupWallet userId amount)
  | topupWalletByTransfer (userId : ℕ) (amount : ℚ) :
      StartingRequest (Payments.topupWalletByTransfer userId amount)
  | payRepayment (userId installmentId : ℕ) (byWallet : Bool) :
      StartingRequest (Payments.payRepayment userId installmentId byWallet)

/-- The requests that start payments use what such requests may use. -/
theorem StartingRequest.uses {p : Request Unit} (h : StartingRequest p) : Uses startingKinds p := by
  cases h with
  | place userId input => exact uses_discard ((Checkout.place_uses _ _).mono (by decide))
  | initializePayment userId groupId => exact (Payments.initializePayment_uses _ _).mono (by decide)
  | resumeCheckout userId id => exact uses_discard ((Payments.resumeCheckout_uses _ _).mono (by decide))
  | topupWallet userId amount => exact (Payments.topupWallet_uses _ _).mono (by decide)
  | topupWalletByTransfer userId amount => exact (Payments.topupWalletByTransfer_uses _ _).mono (by decide)
  | payRepayment userId installmentId byWallet => exact (Payments.payRepayment_uses _ _ _).mono (by decide)

/-- A request about payments starts one, or comes to no operation that does. -/
theorem PaymentRequest.passive {p : Request Unit} (h : PaymentRequest p) :
    Uses passiveKinds p ∨ StartingRequest p := by
  cases h with
  | create userId input => exact .inl (uses_discard ((Checkout.create_uses _ _).mono (by decide)))
  | place userId input => exact .inr (.place _ _)
  | confirmBnpl userId id =>
    exact .inl (uses_discard (.bind (uses_call rfl) fun _ => .bind (uses_selectOrThrow _ _ rfl)
      fun _ => uses_selectOrThrow _ _ rfl))
  | initializeKlump userId input =>
    exact .inl (uses_discard (.bind (uses_call rfl) fun _ => .bind ((Checkout.create_uses _ _).mono (by decide))
      fun _ => uses_call rfl))
  | verifyKlump userId reference =>
    exact .inl (.bind ((Klump.verifyProviderTransaction_uses _ _).mono (by decide)) fun _ => uses_call rfl)
  | klumpWebhook event => exact .inl ((Klump.handleWebhook_uses _).mono (by decide))
  | initializePayment userId groupId => exact .inr (.initializePayment _ _)
  | resumeCheckout userId id => exact .inr (.resumeCheckout _ _)
  | status userId groupId verify => exact .inl (uses_discard ((Payments.status_uses _ _ _).mono (by decide)))
  | cancelCheckout userId id => exact .inl (uses_discard ((Payments.cancelCheckout_uses _ _).mono (by decide)))
  | verifyReference reference => exact .inl (uses_discard ((Payments.verifyReference_uses _).mono (by decide)))
  | handleWebhook event => exact .inl ((Payments.handleWebhook_uses _).mono (by decide))
  | reconcilePending => exact .inl (Payments.reconcilePending_uses.mono (by decide))
  | topupWallet userId amount => exact .inr (.topupWallet _ _)
  | topupWalletByTransfer userId amount => exact .inr (.topupWalletByTransfer _ _)
  | payRepayment userId installmentId byWallet => exact .inr (.payRepayment _ _ _)
  | transferAccount userId =>
    exact .inl (uses_discard ((Payments.createWalletTransferAccount_uses _).mono (by decide)))
  | cancelOrder userId id reason => exact .inl ((Orders.cancelOrder_uses _ _ _).mono (by decide))

/-- The requests about payments. -/
theorem PaymentRequest.uses {p : Request Unit} (h : PaymentRequest p) :
    Uses (passiveKinds ++ startingKinds) p := by
  rcases h.passive with hpassive | hstarting
  · exact hpassive.mono (List.subset_append_left _ _)
  · exact hstarting.uses.mono (List.subset_append_right _ _)

/-- The requests about refunds. -/
theorem RefundRequest.Staff.uses {p : Request Unit} (h : RefundRequest.Staff p) : Uses refundKinds p := by
  cases h with
  | processRefund id => exact uses_discard (Payments.processRefund_uses id)
  | retryRefund id =>
    exact uses_discard (.bind (uses_select _ rfl) fun _ => .bind (uses_check _ _) fun _ =>
      .bind (uses_call rfl) fun _ => .bind (uses_check _ _) fun _ =>
      Payments.processRefund_uses id)
  | completeManualRefund id providerReference =>
    refine uses_discard (.bind (uses_selectOrThrow _ _ rfl) fun _ =>
      .bind (uses_check _ _) fun _ => ?_)
    split
    · exact Prog.all_done _
    · exact .bind (uses_check _ _) fun _ => .bind (uses_call rfl) fun _ =>
        .bind (Payments.syncPaymentRefundStatus_uses _) fun _ =>
        .bind (Payments.notifyRefund_uses _) fun _ => Prog.all_done _
  | resolveRefundAttention id =>
    exact uses_discard (.bind (uses_select _ rfl) fun _ => .bind (uses_decided _) fun _ =>
      .bind (uses_call rfl) fun _ => .bind (uses_call rfl) fun _ =>
      .bind (Payments.notifyRefund_uses _) fun _ => Prog.all_done _)

/-- The requests of stores, riders and staff that move an order on. -/
theorem StatusRequest.uses {p : Request Unit} (h : StatusRequest p) : Uses statusKinds p := by
  have hclaim (riderId deliveryId : ℕ) (offerId : Option ℕ) :
      Uses statusKinds (Orders.claim riderId deliveryId offerId) :=
    .bind (uses_call rfl) fun _ => uses_call rfl
  cases h with
  | setStatus actorId id status reason =>
    refine .bind (uses_selectOrThrow _ _ rfl) fun _ => .bind (uses_check _ _) fun _ => ?_
    refine .bind (uses_check _ _) fun _ => .bind (uses_check _ _) fun _ => .bind (uses_check _ _) fun _ => ?_
    exact .bind (uses_call rfl) fun _ => .bind (uses_call rfl) fun _ => uses_onlyIf (uses_call rfl)
  | completePacking actorId storeId id =>
    refine .bind (uses_selectOrThrow _ _ rfl) fun _ => .bind (uses_select _ rfl) fun _ => ?_
    refine .bind (uses_check _ _) fun _ => .bind (uses_select _ rfl) fun _ => .bind (uses_check _ _) fun _ => ?_
    refine .bind (uses_selectOrThrow _ _ rfl) fun _ => .bind (uses_check _ _) fun _ => ?_
    exact .bind (uses_call rfl) fun _ => .bind (uses_call rfl) fun _ => uses_call rfl
  | confirmPickup riderId id token =>
    refine .bind (uses_selectOrThrow _ _ rfl) fun _ => .bind (uses_call rfl) fun _ => ?_
    refine .bind (uses_call rfl) fun _ => .bind (uses_selectOrThrow _ _ rfl) fun _ => ?_
    exact .bind (uses_select _ rfl) fun _ => .bind (uses_check _ _) fun _ => .bind (uses_check _ _) fun _ =>
      uses_call rfl
  | confirmDelivery riderId id token =>
    refine .bind (uses_selectOrThrow _ _ rfl) fun _ => .bind (uses_call rfl) fun _ => ?_
    refine .bind (uses_call rfl) fun _ => .bind (uses_check _ _) fun _ => ?_
    exact .bind (uses_call rfl) fun _ => .bind (uses_call rfl) fun _ => uses_onlyIf (uses_call rfl)
  | updateStatus riderId deliveryId status location note =>
    refine .bind (uses_selectOrThrow _ _ rfl) fun _ => .bind (uses_check _ _) fun _ =>
      .bind (uses_check _ _) fun _ => ?_
    exact .bind (uses_check _ _) fun _ => .bind (uses_check _ _) fun _ => .bind (uses_check _ _) fun _ =>
      uses_call rfl
  | claim riderId deliveryId => exact hclaim _ _ _
  | accept riderId offerId => exact .bind (uses_selectOrThrow _ _ rfl) fun _ => hclaim _ _ _
  | updateOrderStatus id status reason =>
    exact .bind (uses_call rfl) fun _ => .bind (uses_call rfl) fun _ => uses_onlyIf (uses_call rfl)

namespace Wallets

/-- A customer's withdrawal reads the tables and withdraws once. -/
theorem requestCustomerWithdrawal_uses (userId : ℕ) (input : ℚ) :
    Uses [.query, .withdrawal] (requestCustomerWithdrawal userId input) :=
  .bind (uses_decided _) fun _ => .bind (uses_call rfl) fun _ => Prog.all_done _

/-- A rider's withdrawal reads the tables and withdraws once. -/
theorem requestRiderWithdrawal_uses (userId : ℕ) (amount : ℚ) (bankAccountId : Option ℕ) :
    Uses [.query, .riderWithdrawal] (requestRiderWithdrawal userId amount bankAccountId) := by
  refine .bind (uses_select _ rfl) fun _ => .bind (uses_decided _) fun _ => ?_
  refine .bind (uses_selectOrThrow _ _ rfl) fun _ => .bind (uses_decided _) fun _ => ?_
  refine .bind (uses_check _ _) fun _ => .bind (uses_call rfl) fun _ => ?_
  exact .bind (uses_call rfl) fun _ => Prog.all_done _

/-- A store's withdrawal reads the tables and withdraws once. -/
theorem requestStoreWithdrawal_uses (userId storeId : ℕ) (amount : ℚ) :
    Uses [.query, .storeWithdrawal] (requestStoreWithdrawal userId storeId amount) := by
  refine .bind (uses_selectOrThrow _ _ rfl) fun _ => .bind (uses_selectOrThrow _ _ rfl) fun _ => ?_
  refine .bind (uses_decided _) fun _ => .bind (uses_call rfl) fun _ => ?_
  exact .bind (uses_call rfl) fun _ => Prog.all_done _

/-- Claiming a reward reads the tables and books rewards. -/
theorem claim_uses (userId : ℕ) : Uses [.query, .reward] (claim userId) :=
  .bind (uses_call rfl) fun _ => Prog.all_done _

/-- Redeeming cashback reads the tables and books rewards. -/
theorem redeem_uses (userId : ℕ) (input : ℚ) : Uses [.query, .reward] (redeem userId input) :=
  .bind (uses_decided _) fun _ => .bind (uses_check _ _) fun _ => .bind (uses_call rfl) fun _ =>
    uses_call rfl

end Wallets

/-- The requests about wallets. -/
theorem WalletRequest.uses {p : Request Unit} (h : WalletRequest p) : Uses walletKinds p := by
  cases h with
  | customerWithdrawal userId input =>
    exact (Wallets.requestCustomerWithdrawal_uses _ _).mono (by decide)
  | riderWithdrawal userId amount bankAccountId =>
    exact (Wallets.requestRiderWithdrawal_uses _ _ _).mono (by decide)
  | storeWithdrawal userId storeId amount =>
    exact (Wallets.requestStoreWithdrawal_uses _ _ _).mono (by decide)
  | claim userId => exact (Wallets.claim_uses _).mono (by decide)
  | redeem userId input => exact (Wallets.redeem_uses _ _).mono (by decide)

end Superstore
