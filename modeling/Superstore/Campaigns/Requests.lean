import Superstore.Campaigns.Model

/-!
# The requests of the campaign service

Vendors and staff make, edit, review, schedule, send and cancel campaigns, and the scheduler delivers
them. The messages of one batch are sent at the same time. That the loop waits for them is left out: it
may go on before they are sent, so that there are more runs here than the service has. A loop that runs as
long as there is something to send is given a number of rounds, which may be any.
-/

namespace Superstore.Campaigns

open Interleaving Relational

/-- A program over the calls of campaigns. -/
abbrev Request := Prog Op Error

/-- Run a program only if a condition holds. -/
def onlyWhen (c : Bool) (p : Request Unit) : Request Unit := if c then p else pure ()

/-- The campaign under a key, which has to be there. -/
def requireCampaign (id : ℕ) : Request PushCampaign := do
  let campaign ← Prog.call (.findCampaign id)
  Prog.orFail campaign (.notFound "Push campaign not found.")

/-- A status as it is shown. -/
def PushCampaignStatus.name : PushCampaignStatus → String
  | .draft => "DRAFT"
  | .scheduled => "SCHEDULED"
  | .sending => "SENDING"
  | .sent => "SENT"
  | .cancelled => "CANCELLED"
  | .failed => "FAILED"

/-- The campaign under a key, which has to be one that may be edited. -/
def requireEditable (id : ℕ) : Request PushCampaign := do
  let campaign ← requireCampaign id
  Prog.require (campaign.status ∈ [.draft, .scheduled])
    (.conflict ("Campaign cannot be edited while it is " ++ campaign.status.name ++ "."))
  pure campaign

/-- The store of a vendor, which has to be active where that is required. -/
def requireOwnedStore (userId storeId : ℕ) (requireActive : Bool) : Request Unit := do
  let store ← Prog.call (.findOwnedStore userId storeId)
  let store ← Prog.orFail store (.notFound "Store not found.")
  Prog.require (requireActive = true → store.isActive = true)
    (.conflict "Store approval is required before campaigns can be managed.")

/-- The campaign of a store, which has to be there. -/
def requireStoreCampaign (storeId campaignId : ℕ) : Request PushCampaign := do
  let campaign ← Prog.call (.findStoreCampaign storeId campaignId)
  Prog.orFail campaign (.notFound "Store push campaign not found.")

/-- A campaign of a store has to be approved before it is delivered. -/
def ensureDeliveryApproved (campaign : PushCampaign) : Request Unit :=
  Prog.require (campaign.storeId.isSome → campaign.approvalStatus = .approved)
    (.conflict "Vendor campaign must be approved before it can be sent.")

/-- Whether a campaign may be sent now or later, as far as its status goes. -/
def ensureSendable (campaign : PushCampaign) : Request Unit :=
  Prog.require (campaign.status ∈ [.draft, .scheduled, .failed])
    (.conflict ("Campaign cannot be sent while it is " ++ campaign.status.name ++ "."))

/-- A campaign of a store has to be approved, and in a status in which it may be sent. -/
def ensureVendorSendable (campaign : PushCampaign) : Request Unit := do
  Prog.require (campaign.approvalStatus = .approved) (.conflict "Campaign is awaiting admin approval.")
  ensureSendable campaign

/-- A campaign has to be in a status in which it may be cancelled. -/
def ensureCancellable (campaign : PushCampaign) : Request Unit :=
  Prog.require (campaign.status ∈ [.draft, .scheduled, .sending])
    (.conflict ("Campaign cannot be cancelled while it is " ++ campaign.status.name ++ "."))

/-- How many campaigns a store may send on one day. -/
def vendorDailySendLimit : ℕ := 3

/-- A store may send only so many campaigns on one day. -/
def assertVendorDailyLimit (storeId campaignId target : ℕ) : Request Unit := do
  let count ← Prog.call (.countDay storeId campaignId target)
  Prog.require (count < vendorDailySendLimit) (.tooManyRequests "A store can send at most 3 campaigns per day.")

/-- The limit of a store holds for its campaigns only. -/
def assertLimitOf (storeId : Option ℕ) (campaignId target : ℕ) : Request Unit :=
  match storeId with
  | some storeId => assertVendorDailyLimit storeId campaignId target
  | none => pure ()

/-! ## Delivery -/

/-- Send a push message, if that is wanted. -/
def pushIf (wanted : Bool) (id userId : ℕ) (campaign : PushCampaign) : Request PushResult :=
  if wanted then Prog.call (.push id userId campaign) else pure {}

/-- Send a campaign to one recipient, in the application and by push, as far as it is wanted. -/
def notifyMarketingUser (id userId : ℕ) (campaign : PushCampaign) : Request (Bool × PushResult) := do
  let exists_ ← Prog.call (.findRecipient userId)
  Prog.require (exists_ = true) (.notFound "Notification recipient not found.")
  let preference ← Prog.call (.findPreference userId)
  let inAppEnabled := campaign.includeInApp && (preference.map (·.1)).getD true
  onlyWhen inAppEnabled (Prog.call (.upsertNotification id userId campaign))
  let push ← pushIf ((preference.map (·.2)).getD true) id userId campaign
  pure (inAppEnabled, push)

/-- Send a campaign to one recipient, and note what has become of it. -/
def deliver (id : ℕ) (campaign : PushCampaign) (delivery : ℕ × PushCampaignDelivery) : Request Unit :=
  Prog.attempt (do
    let (inAppDelivered, push) ← notifyMarketingUser id delivery.2.userId campaign
    let delivered := inAppDelivered || decide (0 < push.successful)
    let failed := !delivered && decide (0 < push.failed)
    let now ← Prog.call .now
    Prog.call (.settleDelivery delivery.1 now
      (if delivered then .delivered else if failed then .failed else .skipped)
      (if failed then some "Firebase did not accept the notification." else none)))
  fun err => do
    let now ← Prog.call .now
    Prog.call (.settleDelivery delivery.1 now .failed (some err.message))

/-- Send a campaign as long as it is being sent and has recipients left; whether none was left. -/
def deliverAll (id : ℕ) (campaign : PushCampaign) : ℕ → Request Bool
  | 0 => pure false
  | rounds + 1 => do
    let current ← Prog.call (.findCampaign id)
    if current.any (·.status = .sending) then do
      let deliveries ← Prog.call (.findPending id)
      if deliveries.isEmpty then pure true
      else do
        Prog.forkEach deliveries (deliver id campaign)
        deliverAll id campaign rounds
    else pure false

/-- The store of a campaign, if it has one, is active. -/
def ensureStoreActive : Option ℕ → Request Unit
  | some storeId => do
    let store ← Prog.call (.findStore storeId)
    Prog.require (store.any (·.isActive)) (.conflict "Store approval is required before campaign delivery.")
  | none => pure ()

/-- Deliver a campaign that has been taken up. -/
def processCampaign (rounds id : ℕ) : Request Unit :=
  Prog.attempt (do
    let campaign ← requireCampaign id
    ensureDeliveryApproved campaign
    ensureStoreActive campaign.storeId
    let userIds ← Prog.call (.resolveAudience campaign)
    onlyWhen (!userIds.isEmpty) (Prog.call (.createDeliveries id userIds))
    Prog.call (.setRecipients id userIds.length)
    let all ← deliverAll id campaign rounds
    if all then do
      let deliveredCount ← Prog.call (.countDeliveries id .delivered)
      let failedCount ← Prog.call (.countDeliveries id .failed)
      let skippedCount ← Prog.call (.countDeliveries id .skipped)
      let now ← Prog.call .now
      Prog.call (.finish id now ⟨deliveredCount, failedCount, skippedCount⟩)
    else pure ())
  fun err => Prog.call (.fail id err.message)

/-- Take up a campaign that is due, unless something has happened to it. -/
def processDue (rounds now id : ℕ) : Request Unit := do
  let startedAt ← Prog.call .now
  let claimed ← Prog.call (.claim id now startedAt)
  if claimed = 1 then processCampaign rounds id else pure ()

/-- Take up what is due, unless the scheduler is running on the server already. -/
def processDueCampaigns (server rounds : ℕ) : Request Unit := do
  let processing ← Prog.call (.beginProcessing server)
  if processing then pure ()
  else do
    Prog.attempt (do
      let now ← Prog.call .now
      Prog.call (.recover now)
      let due ← Prog.call (.findDue now)
      Prog.forEach due (processDue rounds now)) fun _ => pure ()
    Prog.call (.endProcessing server)

/-! ## Requests of staff -/

/-- Users who are selected have to be named, and only these. -/
def validateAudience : Option Audience → Request Unit
  | some audience => do
    Prog.require (audience.type = .selectedUsers → audience.userIds.any (· ≠ []))
      (.badRequest "audience.userIds is required for SELECTED_USERS.")
    Prog.require (audience.type ≠ .selectedUsers → ¬audience.userIds.any (· ≠ []))
      (.badRequest "audience.userIds can only be used with SELECTED_USERS.")
  | none => pure ()

/-- Write a campaign that needs no review. -/
def create (staffUserId : ℕ) (dto : CreatePushCampaignDto) : Request Unit := do
  validateAudience (some dto.audience)
  let _ ← Prog.call (.create staffUserId dto)
  Prog.call .createAuditLog

/-- Edit a campaign; the review of one of a store starts anew. -/
def update (id : ℕ) (dto : UpdatePushCampaignDto) : Request Unit := do
  let campaign ← requireEditable id
  Prog.require (campaign.storeId.isNone ∨ dto.audience.isNone)
    (.badRequest "The audience of a vendor campaign is fixed to that store’s eligible customers.")
  validateAudience dto.audience
  Prog.call (.edit id dto campaign.storeId.isSome)
  Prog.call .createAuditLog

/-- Plan when a campaign is sent. -/
def schedule (id scheduledAt : ℕ) : Request Unit := do
  let existing ← requireEditable id
  ensureDeliveryApproved existing
  let now ← Prog.call .now
  Prog.require (now < scheduledAt) (.badRequest "scheduledAt must be in the future.")
  assertLimitOf existing.storeId id scheduledAt
  Prog.call (.schedule id scheduledAt)
  Prog.call .createAuditLog

/-- Deliveries that have failed are tried again when their campaign is. -/
def retryFailed (id : ℕ) (campaign : PushCampaign) : Request Unit :=
  onlyWhen (campaign.status == .failed) (Prog.call (.retryDeliveries id))

/-- Send a campaign at once. -/
def sendNow (server rounds id : ℕ) : Request Unit := do
  let campaign ← requireCampaign id
  ensureDeliveryApproved campaign
  ensureSendable campaign
  let target ← Prog.call .now
  assertLimitOf campaign.storeId id target
  retryFailed id campaign
  let now ← Prog.call .now
  Prog.call (.schedule id now)
  Prog.call .createAuditLog
  Prog.fork (processDueCampaigns server rounds) (pure ())

/-- Cancel a campaign. -/
def cancel (id : ℕ) : Request Unit := do
  let campaign ← requireCampaign id
  ensureCancellable campaign
  let now ← Prog.call .now
  Prog.call (.cancel id now)
  Prog.call .createAuditLog

/-- Approve or reject what a vendor has written. -/
def reviewVendorCampaign (id staffUserId : ℕ) (dto : ReviewPushCampaignDto) : Request Unit := do
  let campaign ← requireCampaign id
  Prog.require (campaign.storeId.isSome ∧ campaign.createdByUserId.isSome)
    (.badRequest "Only vendor-created campaigns require review.")
  Prog.require (campaign.status = .draft) (.conflict "Only a draft vendor campaign can be reviewed.")
  Prog.require (dto.decision = .reject → dto.reason.any (trim · ≠ ""))
    (.badRequest "A rejection reason is required.")
  let now ← Prog.call .now
  Prog.call (.review id staffUserId now dto campaign)
  Prog.call .createAuditLog
  Prog.call (.notifyVendor (campaign.createdByUserId.getD 0))

/-! ## Requests of vendors -/

/-- Make a campaign of a store. -/
def createForStore (userId storeId : ℕ) (dto : CreateStorePushCampaignDto) : Request Unit := do
  requireOwnedStore userId storeId true
  let _ ← Prog.call (.createForStore userId storeId dto)
  Prog.call .createAuditLog

/-- Edit a draft; its review starts anew. -/
def updateForStore (userId storeId campaignId : ℕ) (dto : UpdatePushCampaignDto) : Request Unit := do
  requireOwnedStore userId storeId true
  let campaign ← requireStoreCampaign storeId campaignId
  Prog.require (campaign.status = .draft) (.conflict "Only a draft vendor campaign can be edited.")
  Prog.require (dto ≠ {}) (.badRequest "At least one campaign field must be supplied.")
  Prog.call (.editForStore campaignId dto)
  Prog.call .createAuditLog

/-- Plan when a campaign of a store is sent. -/
def scheduleForStore (userId storeId campaignId scheduledAt : ℕ) : Request Unit := do
  requireOwnedStore userId storeId true
  let campaign ← requireStoreCampaign storeId campaignId
  ensureVendorSendable campaign
  let now ← Prog.call .now
  Prog.require (now < scheduledAt) (.badRequest "scheduledAt must be in the future.")
  assertVendorDailyLimit storeId campaignId scheduledAt
  Prog.call (.schedule campaignId scheduledAt)
  Prog.call .createAuditLog

/-- Send a campaign of a store at once. -/
def sendForStore (server rounds userId storeId campaignId : ℕ) : Request Unit := do
  requireOwnedStore userId storeId true
  let campaign ← requireStoreCampaign storeId campaignId
  ensureVendorSendable campaign
  let target ← Prog.call .now
  assertVendorDailyLimit storeId campaignId target
  retryFailed campaignId campaign
  let now ← Prog.call .now
  Prog.call (.schedule campaignId now)
  Prog.call .createAuditLog
  Prog.fork (processDueCampaigns server rounds) (pure ())

/-- Cancel a campaign of a store. -/
def cancelForStore (userId storeId campaignId : ℕ) : Request Unit := do
  requireOwnedStore userId storeId false
  let campaign ← requireStoreCampaign storeId campaignId
  ensureCancellable campaign
  let now ← Prog.call .now
  Prog.call (.cancel campaignId now)
  Prog.call .createAuditLog

/-! ## The system -/

/-- What vendors, staff and the clock start, on any server. -/
inductive CampaignRequest : Request Unit → Prop
  | create (staffUserId : ℕ) (dto : CreatePushCampaignDto) : CampaignRequest (create staffUserId dto)
  | update (id : ℕ) (dto : UpdatePushCampaignDto) : CampaignRequest (update id dto)
  | schedule (id scheduledAt : ℕ) : CampaignRequest (schedule id scheduledAt)
  | sendNow (server rounds id : ℕ) : CampaignRequest (sendNow server rounds id)
  | cancel (id : ℕ) : CampaignRequest (cancel id)
  | review (id staffUserId : ℕ) (dto : ReviewPushCampaignDto) :
      CampaignRequest (reviewVendorCampaign id staffUserId dto)
  | createForStore (userId storeId : ℕ) (dto : CreateStorePushCampaignDto) :
      CampaignRequest (createForStore userId storeId dto)
  | updateForStore (userId storeId campaignId : ℕ) (dto : UpdatePushCampaignDto) :
      CampaignRequest (updateForStore userId storeId campaignId dto)
  | scheduleForStore (userId storeId campaignId scheduledAt : ℕ) :
      CampaignRequest (scheduleForStore userId storeId campaignId scheduledAt)
  | sendForStore (server rounds userId storeId campaignId : ℕ) :
      CampaignRequest (sendForStore server rounds userId storeId campaignId)
  | cancelForStore (userId storeId campaignId : ℕ) : CampaignRequest (cancelForStore userId storeId campaignId)
  | processDueCampaigns (server rounds : ℕ) : CampaignRequest (processDueCampaigns server rounds)

/-- Stores change in any way, servers are started anew, and deliveries are left as they are. -/
structure Outside (s s' : State) : Prop where
  pushCampaign : s'.pushCampaign = s.pushCampaign
  pushCampaignDelivery : s'.pushCampaignDelivery = s.pushCampaignDelivery
  notification : s'.notification = s.notification
  approvals : s'.approvals = s.approvals
  messages : s'.messages = s.messages

/-- Any number of interleaved requests. -/
def campaigns : System Op Error State Env :=
  { machine with
    starts := CampaignRequest
    background := Outside }

end Superstore.Campaigns
