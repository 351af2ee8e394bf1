import Superstore.Checkout.Fingerprint
import Superstore.Store.Schema

/-!
# The JSON of a checkout request

A waiting checkout is compared with a repeated request by their fingerprints. A request has no keys
but those of its fields, which the locale tells apart, so that its fingerprint does not depend on the
order in which they were sent.
-/

namespace Superstore.Checkout

open Json (JsString Token)
open Json.Value (Reorder)

/-- The JSON values of a request, which hold whole numbers only. -/
abbrev RequestValue := Json.Value JsString ℕ

/-- The code units of a text. -/
def jsString (s : String) : JsString := (s.toList.map Token.ofChar).flatMap Token.units

/-- The JSON string of a text. -/
def jsonString (s : String) : RequestValue := .str (jsString s)

/-- The object of some fields; a field that is undefined has no entry. -/
def jsonObject (fields : List (String × Option RequestValue)) : RequestValue :=
  .obj (fields.filterMap fun f => f.2.map fun v => (jsString f.1, v))

/-- How a request names a type of fulfilment. -/
def fulfillmentText : FulfillmentType → String
  | .pickup => "PICKUP"
  | .delivery => "DELIVERY"

/-- How a request names a way of delivery. -/
def deliveryText : DeliveryMethod → String
  | .homeDelivery => "home_delivery"
  | .storePickup => "store_pickup"

/-- How a request names a payment method. -/
def methodText : CheckoutMethod → String
  | .card => "card"
  | .bankTransfer => "bank_transfer"
  | .wallet => "wallet"
  | .klumpBnpl => "klump_bnpl"

/-- The fields of an address in a request. -/
def addressFields (a : CheckoutAddressDto) : List (String × Option RequestValue) :=
  [("label", a.label.map jsonString), ("state", a.state.map jsonString), ("city", a.city.map jsonString),
    ("address", some (jsonString a.address))]

/-- The fields of a request. -/
def requestFields (input : CreateCheckoutDto) : List (String × Option RequestValue) :=
  [("cartId", input.cartId.map .num),
    ("fulfillmentType", input.fulfillmentType.map fun t => jsonString (fulfillmentText t)),
    ("deliveryMethod", input.deliveryMethod.map fun m => jsonString (deliveryText m)),
    ("addressId", input.addressId.map .num), ("pickupStationId", input.pickupStationId.map .num),
    ("address", input.address.map fun a => jsonObject (addressFields a)),
    ("paymentMethod", input.paymentMethod.map fun m => jsonString (methodText m))]

/-- The JSON of a request. -/
def requestJson (input : CreateCheckoutDto) : RequestValue := jsonObject (requestFields input)

/-- The names of the fields of a request. -/
def fieldNames : List String :=
  ["cartId", "fulfillmentType", "deliveryMethod", "addressId", "pickupStationId", "address",
    "paymentMethod", "label",
    "state", "city"]

/-! ## Keys -/

/-- The keys of an object are among the names of its fields. -/
theorem keys_sublist (fields : List (String × Option RequestValue)) :
    ((fields.filterMap fun f => f.2.map fun v => (jsString f.1, v)).map Prod.fst).Sublist
      (fields.map fun f => jsString f.1) := by
  induction fields with
  | nil => exact .slnil
  | cons f fields ih =>
    obtain ⟨name, v⟩ := f
    cases v with
    | none => exact ih.cons _
    | some v => exact ih.cons_cons _

/-- An object of fields with different names has no key twice. -/
theorem jsonObject_distinct {fields : List (String × Option RequestValue)}
    (hnames : (fields.map fun f => jsString f.1).Nodup) (hvalues : ∀ f ∈ fields, ∀ v ∈ f.2, v.Distinct) :
    (jsonObject fields).Distinct := by
  refine .obj ((keys_sublist fields).nodup hnames) fun e he => ?_
  obtain ⟨f, hf, hentry⟩ := List.mem_filterMap.mp he
  obtain ⟨v, hv, rfl⟩ := Option.map_eq_some_iff.mp hentry
  exact hvalues f hf v hv

/-- A request has no key twice. -/
theorem requestJson_distinct (input : CreateCheckoutDto) : (requestJson input).Distinct := by
  have haddress (a : CheckoutAddressDto) : (jsonObject (addressFields a)).Distinct := by
    refine jsonObject_distinct ?_ ?_
    · change ([jsString "label", jsString "state", jsString "city", jsString "address"] : List JsString).Nodup
      decide +kernel
    · simp [addressFields, jsonString, Json.Value.Distinct.str]
  refine jsonObject_distinct ?_ ?_
  · change ([jsString "cartId", jsString "fulfillmentType", jsString "deliveryMethod", jsString "addressId",
      jsString "pickupStationId", jsString "address", jsString "paymentMethod"] : List JsString).Nodup
    decide +kernel
  · simp [requestFields, jsonString, haddress, Json.Value.Distinct.str, Json.Value.Distinct.num]

variable {Digest : Type} {p : Platform ℕ Digest}

/-- The locale tells the names of fields apart. -/
def TellsFieldsApart (p : Platform ℕ Digest) : Prop :=
  ∀ a ∈ fieldNames, ∀ b ∈ fieldNames, a ≠ b → p.localeCompare (jsString a) (jsString b) ≠ .eq

/-- An object of the fields of a request is not tied if none of their values is. -/
theorem jsonObject_untied (hp : TellsFieldsApart p) {fields : List (String × Option RequestValue)}
    (hnames : ∀ f ∈ fields, f.1 ∈ fieldNames) (hvalues : ∀ f ∈ fields, ∀ v ∈ f.2, ¬Tied p v) :
    ¬Tied p (jsonObject fields) := by
  intro htied
  cases htied with
  | here hk hk' hne _ _ heq =>
    obtain ⟨f, hf, rfl⟩ := List.mem_map.mp ((keys_sublist fields).subset hk)
    obtain ⟨f', hf', rfl⟩ := List.mem_map.mp ((keys_sublist fields).subset hk')
    exact hp f.1 (hnames f hf) f'.1 (hnames f' hf') (fun h => hne (congrArg jsString h)) heq
  | entry he htied =>
    obtain ⟨f, hf, hentry⟩ := List.mem_filterMap.mp he
    obtain ⟨v, hv, rfl⟩ := Option.map_eq_some_iff.mp hentry
    exact hvalues f hf v hv htied

/-- The locale ties no keys of a request. -/
theorem requestJson_untied (hp : TellsFieldsApart p) (input : CreateCheckoutDto) : ¬Tied p (requestJson input) := by
  have hstring (s : String) : ¬Tied p (jsonString s) := fun h => by cases h
  have hnum (n : ℕ) : ¬Tied p (.num n) := fun h => by cases h
  have haddress (a : CheckoutAddressDto) : ¬Tied p (jsonObject (addressFields a)) := by
    refine jsonObject_untied hp ?_ ?_
    · simp [addressFields, fieldNames]
    · simp [addressFields, hstring]
  refine jsonObject_untied hp ?_ ?_
  · simp [requestFields, fieldNames]
  · simp [requestFields, haddress, hstring, hnum]

/-- A request has one fingerprint, in whatever order its keys come. -/
theorem requestJson_fingerprint (hp : TellsFieldsApart p) (input : CreateCheckoutDto) {v : RequestValue}
    (h : Reorder (requestJson input) v) : quoteFingerprint p v = quoteFingerprint p (requestJson input) := by
  have hdistinct := requestJson_distinct input
  exact (((fingerprint_identifies_iff p ⟨_, hdistinct⟩).mpr (requestJson_untied hp input)
    ⟨v, hdistinct.reorder h⟩).mpr h).symm

end Superstore.Checkout
