import Mathlib.Data.List.Forall2
import Mathlib.Data.Rat.Defs
import Superstore.Relational.Transaction

/-!
# The tables of the store

The rows follow `schema.prisma`. The items of an order and the allocations of a payment
group are written once, together with their owner, and never change afterwards, so they
are kept inside their owner's row. A payload that is only stored or only displayed has no
field here.
-/

namespace Superstore

/-! ## Errors -/

/-- A cart line that cannot be sold any more. -/
structure UnavailableItem where
  productId : ℕ
  storeProductId : ℕ
  productName : String
  requestedQuantity : ℕ
  availableStock : ℤ
  deriving DecidableEq

/-- What a conflict carries besides its message. -/
inductive ConflictData
  | unavailableItems (items : List UnavailableItem)
  | paymentGroupId (id : ℕ)
  | storeProductId (id : ℕ)
  deriving DecidableEq

/-- The failures of a request; `unavailable` is a database or network call that did not answer. -/
inductive Error
  | badRequest (message : String)
  | notFound (message : String)
  | conflict (message : String)
  | conflictWith (message : String) (data : ConflictData)
  | unauthorized (message : String)
  | forbidden (message : String)
  | unprocessable (message : String)
  | tooManyRequests (message : String)
  | badGateway (message : String)
  | provider (message : String)
  | recordNotFound
  | uniqueViolation
  | unavailable
  deriving DecidableEq

/-- The text of an error. -/
def Error.message : Error → String
  | .badRequest m | .notFound m | .conflict m | .conflictWith m _ | .unauthorized m | .forbidden m
  | .unprocessable m | .tooManyRequests m | .badGateway m | .provider m => m
  | .recordNotFound => "Record not found."
  | .uniqueViolation => "Unique constraint failed."
  | .unavailable => "The call did not complete."

/-- Statements that fail do so with the errors of the store. -/
instance : Relational.StatementError Error where
  recordNotFound := .recordNotFound
  uniqueViolation := .uniqueViolation

/-- Fail unless a condition holds. -/
def ensure (c : Prop) [Decidable c] (e : Error) : Except Error Unit :=
  if c then .ok () else .error e

/-- The value of an option, or a failure. -/
def fromOption {α : Type} (o : Option α) (e : Error) : Except Error α :=
  match o with
  | some a => .ok a
  | none => .error e

/-- A condition is ensured exactly if it holds. -/
@[simp] theorem ensure_eq_ok {c : Prop} [Decidable c] {e : Error} {u : Unit} :
    ensure c e = .ok u ↔ c := by
  by_cases h : c <;> simp [ensure, h]

/-- An option gives its value exactly if it has one. -/
@[simp] theorem fromOption_eq_ok {α : Type} {o : Option α} {e : Error} {a : α} :
    fromOption o e = .ok a ↔ o = some a := by
  cases o <;> simp [fromOption]

/-- A sequence returns exactly when both of its parts do. -/
theorem bind_eq_ok {α β : Type} {x : Except Error α} {f : α → Except Error β} {b : β} :
    (x >>= f) = .ok b ↔ ∃ a, x = .ok a ∧ f a = .ok b := by
  cases x <;> simp [bind, Except.bind]

/-- A loop over a list returns exactly when each of its rounds does. -/
theorem mapM_eq_ok {α β : Type} {f : α → Except Error β} {xs : List α} {ys : List β} :
    xs.mapM f = .ok ys ↔ List.Forall₂ (fun x y => f x = .ok y) xs ys := by
  induction xs generalizing ys with
  | nil => simp [pure, Except.pure, eq_comm]
  | cons x xs ih =>
    simp only [List.mapM_cons, bind_eq_ok, ih, List.forall₂_cons_left_iff]
    constructor
    · rintro ⟨y, hy, zs, hzs, h⟩
      cases h
      exact ⟨y, zs, hy, hzs, rfl⟩
    · rintro ⟨y, zs, hy, hzs, rfl⟩
      exact ⟨y, hy, zs, hzs, rfl⟩

/-! ## Text -/

/-- The characters that are trimmed from the ends of a text. -/
def isSpace (c : Char) : Bool :=
  c.toNat ∈ [0x09, 0x0A, 0x0B, 0x0C, 0x0D, 0x20, 0xA0, 0x1680, 0x2028, 0x2029, 0x202F, 0x205F, 0x3000, 0xFEFF] ||
    (decide (0x2000 ≤ c.toNat) && decide (c.toNat ≤ 0x200A))

/-- A text without the spaces at its ends. -/
def trim (s : String) : String :=
  .ofList ((s.toList.dropWhile isSpace).reverse.dropWhile isSpace).reverse

/-! ## Enumerations -/

/-- The status of an order. -/
inductive OrderStatus
  | orderReceived | confirmed | preparing | readyForPickup | riderAssigned
  | outForDelivery | pickedUp | delivered | completed | cancelled
  deriving DecidableEq

/-- The status of a payment, and of the group it pays for. -/
inductive PaymentStatus
  | pending | processing | paid | failed | refunded | partiallyRefunded
  deriving DecidableEq

/-- How a customer pays. -/
inductive PaymentMethod
  | card | bankTransfer | opay | wallet | nextgenPurse | easybuy | makopa | walletBnpl | klumpBnpl
  deriving DecidableEq

/-- Who takes a payment. -/
inductive PaymentProvider
  | paystack | manual | klump
  deriving DecidableEq

/-- The status of a refund. -/
inductive RefundStatus
  | pending | processing | succeeded | failed | needsAttention | manualReview
  deriving DecidableEq

/-- How an order gets to its customer. -/
inductive FulfillmentType
  | pickup | delivery
  deriving DecidableEq

/-- The status of a delivery. -/
inductive DeliveryStatus
  | pending | offered | assigned | pickedUp | inTransit | outForDelivery | arrivedAtCustomer
  | delivered | failed | cancelled
  deriving DecidableEq

/-- What an entry of a wallet does to its balance. -/
inductive WalletTransactionType
  | credit | debit | hold | release | adjustment
  deriving DecidableEq

/-- The status of a transaction at Klump. -/
inductive KlumpTransactionStatus
  | pending | initiated | abandoned | successful | failed
  deriving DecidableEq

/-! ## Customers and catalogue -/

/-- An account of a customer. -/
structure User where
  email : String
  firstName : Option String := none
  lastName : Option String := none
  phoneNumber : Option String := none

/-- An address that a customer has saved. -/
structure Address where
  userId : ℕ
  label : Option String := none
  state : Option String := none
  city : Option String := none
  address : String
  firstName : Option String := none
  lastName : Option String := none
  phone : Option String := none
  email : Option String := none
  additionalPhone : Option String := none
  additionalInfo : Option String := none

/-- A place where orders are picked up. -/
structure PickupStation where
  name : String
  address : String
  state : String
  city : String
  phone : String
  isActive : Bool := true
  deriving DecidableEq

/-- A store of the marketplace. -/
structure StoreRecord where
  ownerUserId : ℕ
  isActive : Bool := false

/-- A member of the staff of a store. -/
structure StoreUser where
  storeId : ℕ
  userId : ℕ

/-- A product of the catalogue. -/
structure Product where
  name : String
  barcode : Option String := none
  status : Bool := true

/-- The offer of a product by a store. -/
structure StoreProduct where
  storeId : ℕ
  productId : ℕ
  sku : Option String := none
  barcode : Option String := none
  price : ℚ
  discountPrice : Option ℚ := none
  stockQuantity : ℤ := 0
  availability : Bool := true
  isActive : Bool := true

/-! ## Carts and discounts -/

/-- The cart of a customer, with its totals. -/
structure Cart where
  userId : ℕ
  currency : String := "NGN"
  subtotal : ℚ := 0
  totalItems : ℕ := 0

/-- A line of a cart. -/
structure CartItem where
  cartId : ℕ
  storeProductId : ℕ
  quantity : ℕ
  unitPrice : ℚ

/-- A voucher that customers can claim. -/
structure RewardVoucher where
  type : String
  minimumOrderAmount : ℚ := 0
  discountPercent : Option ℚ := none
  discountAmount : Option ℚ := none
  storeId : Option ℕ := none
  isActive : Bool := true
  startsAt : ℕ
  expiresAt : Option ℕ := none

/-- A voucher that a customer has claimed. -/
structure UserVoucher where
  userId : ℕ
  voucherId : ℕ
  status : String := "CLAIMED"
  redeemedAt : Option ℕ := none

/-- The voucher that is used for a cart. -/
structure CartVoucher where
  cartId : ℕ
  voucherId : ℕ

/-- A coupon. -/
structure Coupon where
  type : String
  discountPercent : Option ℚ := none
  discountAmount : Option ℚ := none
  minimumOrderAmount : ℚ := 0
  maximumDiscount : Option ℚ := none
  usageLimit : Option ℕ := none
  usedCount : ℕ := 0
  isActive : Bool := true
  startsAt : ℕ
  expiresAt : Option ℕ := none

/-- The coupon that is used for a cart. -/
structure CartCoupon where
  cartId : ℕ
  couponId : ℕ

/-- A configuration value, decoded from its stored text. -/
inductive ConfigValue
  | decimal (value : ℚ)
  | checkoutSettings (deliveryFeePerStore : ℚ) (deliveryEnabled : Bool)
  deriving DecidableEq

/-- A setting of the platform. -/
structure PlatformConfig where
  key : String
  value : ConfigValue

/-! ## Checkout requests -/

/-- The address that a request for a checkout names. -/
structure CheckoutAddressDto where
  label : Option String := none
  state : Option String := none
  city : Option String := none
  address : String
  deriving DecidableEq

/-- What a request for a checkout calls the ways to get an order. -/
inductive DeliveryMethod
  | homeDelivery | storePickup
  deriving DecidableEq

/-- The payment methods a checkout request may name. -/
inductive CheckoutMethod
  | card | bankTransfer | wallet | klumpBnpl
  deriving DecidableEq

/-- A request for a checkout. -/
structure CreateCheckoutDto where
  cartId : Option ℕ := none
  fulfillmentType : Option FulfillmentType := none
  deliveryMethod : Option DeliveryMethod := none
  addressId : Option ℕ := none
  pickupStationId : Option ℕ := none
  address : Option CheckoutAddressDto := none
  paymentMethod : Option CheckoutMethod := none
  deriving DecidableEq

/-! ## Quotes -/

/-- The address an order is delivered to. -/
structure DeliveryAddress where
  label : Option String := none
  state : Option String := none
  city : Option String := none
  address : String
  firstName : Option String := none
  lastName : Option String := none
  phone : Option String := none
  email : String
  additionalPhone : Option String := none
  additionalInfo : Option String := none
  deriving DecidableEq

/-- A line of a cart with its prices, as it is quoted. -/
structure QuoteItem where
  cartItemId : ℕ
  storeProductId : ℕ
  productId : ℕ
  storeId : ℕ
  productName : String
  productCode : Option String := none
  quantity : ℕ
  unitPrice : ℚ
  totalPrice : ℚ
  deriving DecidableEq

/-- The part of a quote that one store delivers. -/
structure QuoteOrder where
  storeId : ℕ
  items : List QuoteItem
  subtotal : ℚ
  shippingFee : ℚ
  discountAmount : ℚ := 0
  shippingDiscount : ℚ := 0
  total : ℚ
  deriving DecidableEq

/-- What a checkout would cost, and what it would buy. -/
structure Quote where
  cartId : ℕ
  currency : String
  fulfillmentType : FulfillmentType
  deliveryAddress : Option DeliveryAddress := none
  pickupStation : Option (ℕ × PickupStation) := none
  subtotal : ℚ
  shippingFee : ℚ
  discountAmount : ℚ
  total : ℚ
  orders : List QuoteOrder
  paymentMethod : CheckoutMethod
  deriving DecidableEq

/-! ## Orders -/

/-- A line of an order; its `id` is unique within the order. -/
structure OrderItem where
  id : ℕ
  storeProductId : ℕ
  productId : ℕ
  productCode : Option String := none
  quantity : ℕ
  unitPrice : ℚ
  totalPrice : ℚ

/-- An order at one store. -/
structure Order where
  orderNumber : String
  userId : ℕ
  storeId : ℕ
  fulfillmentType : FulfillmentType
  currentStatus : OrderStatus := .orderReceived
  currency : String := "NGN"
  subtotal : ℚ
  shippingFee : ℚ := 0
  discountAmount : ℚ := 0
  shippingDiscount : ℚ := 0
  total : ℚ
  items : List OrderItem

/-- A change of the status of an order. -/
structure OrderStatusHistory where
  orderId : ℕ
  fromStatus : Option OrderStatus := none
  toStatus : OrderStatus
  changedById : Option ℕ := none
  reason : Option String := none

/-- The delivery of an order. -/
structure Delivery where
  orderId : ℕ
  riderId : Option ℕ := none
  status : DeliveryStatus := .pending
  assignedAt : Option ℕ := none
  pickedUpAt : Option ℕ := none
  arrivedAt : Option ℕ := none
  deliveredAt : Option ℕ := none

/-- An offer of a delivery to a rider. -/
structure DeliveryOffer where
  deliveryId : ℕ
  riderId : ℕ
  status : String := "PENDING"

/-- An entry of the history of a delivery. -/
structure DeliveryStatusUpdate where
  deliveryId : ℕ
  status : DeliveryStatus
  location : Option String := none
  note : Option String := none

/-- The pickup of an order. -/
structure Pickup where
  orderId : ℕ
  stationId : Option ℕ := none
  status : String := "pending"

/-- A code that is scanned when an order changes hands. -/
structure OrderQrCredential where
  orderId : ℕ
  purpose : String
  token : String
  status : String := "ACTIVE"
  expiresAt : ℕ
  consumedAt : Option ℕ := none
  consumedById : Option ℕ := none
  revokedAt : Option ℕ := none

/-- The scan of an item of an order. -/
structure OrderItemScan where
  orderId : ℕ
  orderItemId : ℕ
  phase : String
  quantity : ℕ := 1
  status : String := "VERIFIED"

/-- An order confirmation that is still to be sent. -/
structure OrderConfirmationOutbox where
  orderId : ℕ
  userId : ℕ

/-! ## Payments -/

/-- What a payment is for, as its metadata says. -/
inductive PaymentPurpose
  | walletTopup | walletTransferTopup | walletDvaTopup | bnplRepayment | klumpCheckout
  deriving DecidableEq

/-- The account a customer has to transfer to. -/
structure TransferInstructions where
  accountNumber : String
  amount : ℚ
  currency : String
  expiresAt : ℕ
  deriving DecidableEq

/-- What is kept of how a payment has been started. -/
structure PaymentMetadata where
  purpose : Option PaymentPurpose := none
  userId : Option ℕ := none
  initializingUntil : Option ℕ := none
  transferInstructions : Option TransferInstructions := none
  deriving DecidableEq

/-- A payment. -/
structure Payment where
  amount : ℚ
  currency : String := "NGN"
  status : PaymentStatus := .pending
  paymentMethod : PaymentMethod
  provider : PaymentProvider
  transactionRef : Option String := none
  providerRef : Option String := none
  paymentUrl : Option String := none
  metadata : PaymentMetadata := {}
  paidAt : Option ℕ := none
  failureReason : Option String := none
  createdAt : ℕ := 0
  deriving DecidableEq

/-- The part of a group's amount that one of its orders carries. -/
structure Allocation where
  orderId : ℕ
  amount : ℚ
  deriving DecidableEq

/-- A line of the cart as it was checked out. -/
structure CartSnapshotLine where
  cartItemId : ℕ
  quantity : ℕ

/-- A checkout waiting for one payment; no order has two allocations in it. -/
structure CheckoutPaymentGroup where
  activeCartId : Option ℕ := none
  cartSnapshot : List CartSnapshotLine := []
  checkoutInput : CreateCheckoutDto := {}
  paymentMethod : PaymentMethod := .card
  userId : ℕ
  paymentId : Option ℕ := none
  totalAmount : ℚ
  discountAmount : ℚ := 0
  currency : String := "NGN"
  status : PaymentStatus := .pending
  allocations : List Allocation
  orders_nodup : (allocations.map Allocation.orderId).Nodup

/-- A refund of an order. -/
structure Refund where
  orderId : ℕ
  userId : ℕ
  paymentId : ℕ
  amount : ℚ
  currency : String := "NGN"
  provider : PaymentProvider
  status : RefundStatus := .pending
  idempotencyKey : String
  providerRefundId : Option String := none
  reason : String
  failureReason : Option String := none
  processingAt : Option ℕ := none
  completedAt : Option ℕ := none
  deriving DecidableEq

/-- A notice of a provider that has been taken in. -/
structure PaymentWebhookEvent where
  provider : String
  eventId : String
  eventType : String
  processed : Bool := false
  processedAt : Option ℕ := none
  errorMessage : Option Error := none
  paymentId : Option ℕ := none

/-- A transaction at Klump. -/
structure KlumpTransaction where
  userId : ℕ
  paymentGroupId : ℕ
  paymentId : ℕ
  merchantReference : String
  providerReference : Option String := none
  status : KlumpTransactionStatus := .pending
  isLive : Bool
  verifiedAt : Option ℕ := none

/-- The account that a customer transfers money to. -/
structure WalletFundingAccount where
  userId : ℕ
  paystackCustomerCode : Option String := none
  paystackCustomerId : Option ℕ := none
  providerAccountId : Option ℕ := none
  bankName : Option String := none
  bankSlug : Option String := none
  accountName : Option String := none
  accountNumber : Option String := none
  currency : String := "NGN"
  status : String := "PENDING"
  consentedAt : ℕ := 0
  assignedAt : Option ℕ := none
  failureReason : Option String := none

/-! ## Wallets, settlement and rewards -/

/-- The wallet of a customer. -/
structure Wallet where
  userId : ℕ
  balance : ℚ := 0

/-- An entry of the wallet of a customer. -/
structure WalletTransaction where
  walletId : ℕ
  amount : ℚ
  type : WalletTransactionType
  reference : Option String := none

/-- The wallet of a store. -/
structure StoreWallet where
  storeId : ℕ
  balance : ℚ := 0

/-- An entry of the wallet of a store. -/
structure StoreWalletTransaction where
  walletId : ℕ
  amount : ℚ
  type : WalletTransactionType
  reference : Option String := none
  orderId : Option ℕ := none

/-- The profile of a rider. -/
structure RiderProfile where
  userId : ℕ

/-- What a rider earns with a delivery. -/
structure RiderEarning where
  riderId : ℕ
  deliveryId : ℕ
  amount : ℚ
  status : String := "HELD"
  releasedAt : Option ℕ := none

/-- A bank account of a rider. -/
structure RiderBankAccount where
  riderId : ℕ
  verificationStatus : String := "PENDING"
  isPrimary : Bool := false

/-- A payout that a customer or a rider has asked for. -/
structure Withdrawal where
  userId : ℕ
  amount : ℚ
  status : String := "PENDING"

/-- A payout that the owner of a store has asked for. -/
structure StoreWithdrawal where
  storeId : ℕ
  walletId : ℕ
  amount : ℚ
  status : String := "PENDING"

/-- The cashback that an order has earned. -/
structure CashbackReward where
  userId : ℕ
  orderId : ℕ
  percentage : ℚ
  amount : ℚ
  redeemedAmount : ℚ := 0
  redeemedAt : Option ℕ := none
  status : String := "AVAILABLE"
  createdAt : ℕ := 0

/-- The points of a customer. -/
structure RewardAccount where
  userId : ℕ
  availablePoints : ℤ := 0

/-- A customer who has been referred by another one. -/
structure Referral where
  referrerId : ℕ
  referredUserId : ℕ
  status : String := "PENDING"
  rewardAmount : ℚ := 0
  qualifiedAt : Option ℕ := none
  claimedAt : Option ℕ := none

/-! ## Financing -/

/-- A plan for paying in installments. -/
structure BnplPlan where
  provider : String
  label : String
  months : ℕ
  interestRate : ℚ
  isActive : Bool := false

/-- What is paid back of a principal, in one installment a month. -/
structure InstallmentTerms where
  principal : ℚ
  months : ℕ
  interestRate : ℚ
  totalPayable : ℚ
  monthlyAmount : ℚ
  finalInstallment : ℚ

/-- The terms an application was made under. -/
structure PlanSnapshot extends InstallmentTerms where
  provider : String
  label : String

/-- An application for paying in installments. -/
structure BnplApplication where
  userId : ℕ
  activeCartId : Option ℕ := none
  planId : ℕ
  status : String := "PENDING_REVIEW"
  checkoutInput : CreateCheckoutDto
  quoteSnapshot : Quote
  planSnapshot : PlanSnapshot
  paymentGroupId : Option ℕ := none
  confirmedAt : Option ℕ := none

/-- An installment of an application. -/
structure BnplInstallment where
  applicationId : ℕ
  sequence : ℕ
  amount : ℚ
  amountPaid : ℚ := 0
  status : String := "PENDING"
  paidAt : Option ℕ := none

/-- A payment for an installment. -/
structure BnplRepayment where
  installmentId : ℕ
  userId : ℕ
  amount : ℚ
  method : PaymentMethod
  status : PaymentStatus := .pending
  reference : String
  paymentUrl : Option String := none
  paidAt : Option ℕ := none

/-! ## The database -/

/-- The tables of the store. -/
inductive TableName
  | user | address | pickupStation | store | storeUser | product | storeProduct | cart
  | cartItem | rewardVoucher | userVoucher | cartVoucher | coupon | cartCoupon | platformConfig
  | order | orderStatusHistory | delivery | deliveryOffer | deliveryStatusUpdate | pickup
  | orderQrCredential | orderItemScan | orderConfirmationOutbox | payment | checkoutPaymentGroup
  | refund | paymentWebhookEvent | klumpTransaction | walletFundingAccount | wallet
  | walletTransaction | storeWallet | storeWalletTransaction | riderProfile | riderEarning
  | cashbackReward | rewardAccount | referral | bnplPlan | bnplApplication | bnplInstallment
  | bnplRepayment | riderBankAccount | withdrawal | storeWithdrawal
  deriving DecidableEq

/-- The rows of each table. -/
@[reducible] def Row : TableName → Type
  | .user => User
  | .address => Address
  | .pickupStation => PickupStation
  | .store => StoreRecord
  | .storeUser => StoreUser
  | .product => Product
  | .storeProduct => StoreProduct
  | .cart => Cart
  | .cartItem => CartItem
  | .rewardVoucher => RewardVoucher
  | .userVoucher => UserVoucher
  | .cartVoucher => CartVoucher
  | .coupon => Coupon
  | .cartCoupon => CartCoupon
  | .platformConfig => PlatformConfig
  | .order => Order
  | .orderStatusHistory => OrderStatusHistory
  | .delivery => Delivery
  | .deliveryOffer => DeliveryOffer
  | .deliveryStatusUpdate => DeliveryStatusUpdate
  | .pickup => Pickup
  | .orderQrCredential => OrderQrCredential
  | .orderItemScan => OrderItemScan
  | .orderConfirmationOutbox => OrderConfirmationOutbox
  | .payment => Payment
  | .checkoutPaymentGroup => CheckoutPaymentGroup
  | .refund => Refund
  | .paymentWebhookEvent => PaymentWebhookEvent
  | .klumpTransaction => KlumpTransaction
  | .walletFundingAccount => WalletFundingAccount
  | .wallet => Wallet
  | .walletTransaction => WalletTransaction
  | .storeWallet => StoreWallet
  | .storeWalletTransaction => StoreWalletTransaction
  | .riderProfile => RiderProfile
  | .riderEarning => RiderEarning
  | .cashbackReward => CashbackReward
  | .rewardAccount => RewardAccount
  | .referral => Referral
  | .bnplPlan => BnplPlan
  | .bnplApplication => BnplApplication
  | .bnplInstallment => BnplInstallment
  | .bnplRepayment => BnplRepayment
  | .riderBankAccount => RiderBankAccount
  | .withdrawal => Withdrawal
  | .storeWithdrawal => StoreWithdrawal

/-- One table under every name. -/
abbrev Database := Relational.Database Row

/-- The database in which every table is empty. -/
def Database.empty : Database := fun _ => .empty

/-- A transaction on the database of the store. -/
abbrev Tx := Relational.Tx Row Error

/-! The statements of a transaction, under the names of the tables. -/

/-- The row under a key, if there is one. -/
abbrev find (n : TableName) (i : ℕ) : Tx (Option (Row n)) := Relational.Tx.find n i

/-- The first row of a kind, with its key. -/
abbrev first (n : TableName) (p : ℕ → Row n → Bool) : Tx (Option (ℕ × Row n)) :=
  Relational.Tx.first n p

/-- The rows of a kind, with their keys. -/
abbrev many (n : TableName) (p : ℕ → Row n → Bool) : Tx (List (ℕ × Row n)) :=
  Relational.Tx.many n p

/-- The row under a key, without which the transaction fails. -/
abbrev findOrThrow (n : TableName) (i : ℕ) : Tx (Row n) := Relational.Tx.findOrThrow n i

/-- A new row, whose key is returned. -/
abbrev create (n : TableName) (r : Row n) : Tx ℕ := Relational.Tx.create n r

/-- A new row, unless a stored one clashes with it. -/
abbrev createUnique (n : TableName) (clash : ℕ → Row n → Bool) (r : Row n) : Tx ℕ :=
  Relational.Tx.createUnique n clash r

/-- The first row of a kind, which is created if there is none. -/
abbrev firstOrCreate (n : TableName) (p : ℕ → Row n → Bool) (r : Row n) : Tx (ℕ × Row n) :=
  Relational.Tx.firstOrCreate n p r

/-- A change of the row under a key. -/
abbrev update (n : TableName) (i : ℕ) (f : Row n → Row n) : Tx Unit := Relational.Tx.update n i f

/-- A change of the row under a key, unless the changed row clashes with another one. -/
abbrev updateUnique (n : TableName) (i : ℕ) (clash : Row n → Row n → Bool) (f : Row n → Row n) : Tx Unit :=
  Relational.Tx.updateUnique n i clash f

/-- A change of all rows of a kind, whose number is returned. -/
abbrev updateMany (n : TableName) (p : ℕ → Row n → Bool) (f : Row n → Row n) : Tx ℕ :=
  Relational.Tx.updateMany n p f

/-- The rows of a kind go. -/
abbrev deleteMany (n : TableName) (p : ℕ → Row n → Bool) : Tx Unit := Relational.Tx.deleteMany n p

/-- A condition without which the transaction fails. -/
abbrev require (c : Prop) [Decidable c] (e : Error) : Tx Unit := Relational.Tx.require c e

/-- The value of an option, without which the transaction fails. -/
abbrev orThrow {α : Type} (o : Option α) (e : Error) : Tx α := Relational.Tx.orThrow o e

/-- The value of a result, whose error the transaction fails with. -/
abbrev ofExcept {α : Type} (x : Except Error α) : Tx α := Relational.Tx.ofExcept x

/-- A part of a transaction that is run only under a condition. -/
abbrev when (c : Prop) [Decidable c] (m : Tx Unit) : Tx Unit := Relational.Tx.when c m

end Superstore
