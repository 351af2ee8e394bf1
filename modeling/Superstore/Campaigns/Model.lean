import Mathlib.Data.List.Sort
import Superstore.Interleaving.Runs
import Superstore.Store.Schema

/-!
# Push campaigns

A campaign of a store is reviewed by staff before it may be scheduled, and is edited as long as it is a
draft. A scheduler takes up what is due and sends it to one recipient after another. Each of these looks
at the campaign first and writes to it later, and every call of the database and of the notification
services is a step of its own.

Beside the tables are kept the approvals, with what was read for each of them and what it was written on, and
the messages that have been sent.
-/

namespace Superstore.Campaigns

open Interleaving Relational

/-! ## Rows -/

/-- How far a campaign is. -/
inductive PushCampaignStatus
  | draft | scheduled | sending | sent | cancelled | failed
  deriving DecidableEq

/-- Whether a campaign has been approved. -/
inductive PushCampaignApprovalStatus
  | notRequired | pending | approved | rejected
  deriving DecidableEq

/-- Whom a campaign is for. -/
inductive PushCampaignAudienceType
  | allUsers | customers | riders | vendors | selectedUsers | storeCustomers
  deriving DecidableEq

/-- What has become of the delivery of a campaign to a user. -/
inductive PushCampaignDeliveryStatus
  | pending | delivered | failed | skipped
  deriving DecidableEq

/-- What a campaign says. -/
structure Content where
  title : String
  message : String
  imageUrl : Option String := none
  deepLink : Option String := none
  deriving DecidableEq

/-- Whom a campaign is for. -/
structure Audience where
  type : PushCampaignAudienceType
  userIds : Option (List ℕ) := none
  state : Option String := none
  city : Option String := none
  deriving DecidableEq

/-- A campaign. -/
structure PushCampaign where
  content : Content
  includeInApp : Bool := true
  audience : Audience
  status : PushCampaignStatus := .draft
  approvalStatus : PushCampaignApprovalStatus := .notRequired
  rejectionReason : Option String := none
  reviewedAt : Option ℕ := none
  scheduledAt : Option ℕ := none
  startedAt : Option ℕ := none
  sentAt : Option ℕ := none
  cancelledAt : Option ℕ := none
  totalRecipients : ℕ := 0
  deliveredCount : ℕ := 0
  failedCount : ℕ := 0
  skippedCount : ℕ := 0
  lastError : Option String := none
  createdById : Option ℕ := none
  createdByUserId : Option ℕ := none
  storeId : Option ℕ := none
  reviewedById : Option ℕ := none
  deriving DecidableEq

/-- The delivery of a campaign to a user. -/
structure PushCampaignDelivery where
  campaignId : ℕ
  userId : ℕ
  status : PushCampaignDeliveryStatus := .pending
  attemptedAt : Option ℕ := none
  deliveredAt : Option ℕ := none
  errorMessage : Option String := none

/-- How a message reaches its recipient. -/
inductive Channel
  | inApp | push
  deriving DecidableEq

/-- What is shown of a content on a channel: no empty link, and no image in the application. -/
def Channel.show : Channel → Content → Content
  | .inApp, c => { c with imageUrl := none, deepLink := c.deepLink.filter (· ≠ "") }
  | .push, c => { c with deepLink := c.deepLink.filter (· ≠ "") }

/-- The notification of a campaign in the application; there is one for each recipient. -/
structure Notification where
  campaignId : ℕ
  recipientId : ℕ
  content : Content

/-- A message that has been sent. -/
structure Message where
  campaignId : ℕ
  channel : Channel
  content : Content
  deriving DecidableEq

/-- The approval of a campaign: what the reviewer had read, and what the campaign said when it was written. -/
structure Approval where
  campaignId : ℕ
  read : Content
  written : Content
  deriving DecidableEq

/-- The tables of campaigns, the servers on which the scheduler is running, and what has happened. -/
structure State where
  store : Table StoreRecord := Table.empty
  pushCampaign : Table PushCampaign := Table.empty
  pushCampaignDelivery : Table PushCampaignDelivery := Table.empty
  notification : Table Notification := Table.empty
  processing : List ℕ := []
  approvals : List Approval := []
  messages : List Message := []

/-! ## Requests of clients -/

/-- What a request of the staff to make a campaign says. -/
structure CreatePushCampaignDto where
  title : String
  message : String
  imageUrl : Option String := none
  deepLink : Option String := none
  includeInApp : Option Bool := none
  audience : Audience

/-- What a request of a vendor to make a campaign says. -/
structure CreateStorePushCampaignDto where
  title : String
  message : String
  imageUrl : Option String := none
  deepLink : Option String := none
  includeInApp : Option Bool := none

/-- The fields that are not to be changed are missing. -/
structure UpdatePushCampaignDto where
  title : Option String := none
  message : Option String := none
  imageUrl : Option (Option String) := none
  deepLink : Option (Option String) := none
  includeInApp : Option Bool := none
  audience : Option Audience := none
  deriving DecidableEq

/-- What a reviewer decides. -/
inductive Decision
  | approve | reject
  deriving DecidableEq

/-- What a request to review a campaign says. -/
structure ReviewPushCampaignDto where
  decision : Decision
  reason : Option String := none

/-- What the push service has reported. -/
structure PushResult where
  attempted : ℕ := 0
  successful : ℕ := 0
  failed : ℕ := 0

/-- What a call is told from outside. -/
structure Env where
  now : ℕ := 0
  audience : List ℕ := []
  recipientExists : Bool := true
  preference : Option (Bool × Bool) := none
  pushFails : Bool := false
  push : PushResult := {}

/-! ## Changes of a campaign -/

/-- The places of an audience without spaces around them. -/
def Audience.trimmed (a : Audience) : Audience := { a with state := a.state.map trim, city := a.city.map trim }

/-- A campaign as a member of the staff has written it. -/
def writtenByStaff (staffUserId : ℕ) (dto : CreatePushCampaignDto) : PushCampaign where
  content :=
    { title := trim dto.title, message := trim dto.message, imageUrl := dto.imageUrl, deepLink := dto.deepLink }
  includeInApp := dto.includeInApp.getD true
  audience := dto.audience.trimmed
  createdById := some staffUserId

/-- A campaign as a vendor has written it. -/
def written (userId storeId : ℕ) (dto : CreateStorePushCampaignDto) : PushCampaign where
  content :=
    { title := trim dto.title, message := trim dto.message, imageUrl := dto.imageUrl, deepLink := dto.deepLink }
  includeInApp := dto.includeInApp.getD true
  audience := { type := .storeCustomers }
  approvalStatus := .pending
  createdByUserId := some userId
  storeId := some storeId

/-- The fields that an edit supplies. -/
def PushCampaign.edited (dto : UpdatePushCampaignDto) (c : PushCampaign) : PushCampaign :=
  { c with
    content :=
      { title := (dto.title.map trim).getD c.content.title
        message := (dto.message.map trim).getD c.content.message
        imageUrl := dto.imageUrl.getD c.content.imageUrl
        deepLink := dto.deepLink.getD c.content.deepLink }
    includeInApp := dto.includeInApp.getD c.includeInApp
    audience := (dto.audience.map Audience.trimmed).getD c.audience }

/-- The review of a campaign starts anew. -/
def PushCampaign.unreviewed (c : PushCampaign) : PushCampaign :=
  { c with approvalStatus := .pending, reviewedById := none, reviewedAt := none, rejectionReason := none }

/-- A campaign that is to be sent at a time. -/
def PushCampaign.scheduledFor (scheduledAt : ℕ) (c : PushCampaign) : PushCampaign :=
  { c with status := .scheduled, scheduledAt := some scheduledAt, cancelledAt := none, lastError := none }

/-- A campaign that is called off. -/
def PushCampaign.cancelled (now : ℕ) (c : PushCampaign) : PushCampaign :=
  { c with status := .cancelled, cancelledAt := some now }

/-- A campaign after its review. -/
def PushCampaign.reviewed (staffUserId now : ℕ) (dto : ReviewPushCampaignDto) (c : PushCampaign) : PushCampaign :=
  { c with
    approvalStatus := if dto.decision = .approve then .approved else .rejected
    rejectionReason := if dto.decision = .approve then none else dto.reason.map trim
    reviewedById := some staffUserId
    reviewedAt := some now }

/-- Ten minutes. -/
def staleMs : ℕ := 600000

/-- The campaigns whose delivery has been stuck for ten minutes. -/
def stuck (now : ℕ) (_ : ℕ) (c : PushCampaign) : Bool :=
  c.status == .sending && c.startedAt.any fun t => decide (t + staleMs < now)

/-- A campaign that has been sending for too long is scheduled again. -/
def PushCampaign.recovered (now : ℕ) (c : PushCampaign) : PushCampaign :=
  { c with status := .scheduled, scheduledAt := some now, startedAt := none }

/-- The campaigns that the scheduler may take up. -/
def due (now : ℕ) (_ : ℕ) (c : PushCampaign) : Bool :=
  c.status == .scheduled && c.scheduledAt.any (fun t => decide (t ≤ now)) &&
    (c.approvalStatus == .notRequired || c.approvalStatus == .approved)

/-- The campaign that the scheduler takes up, unless something has happened to it. -/
def claimable (id now : ℕ) (i : ℕ) (c : PushCampaign) : Bool :=
  i == id && c.status == .scheduled && c.scheduledAt.any fun t => decide (t ≤ now)

/-- A campaign whose sending starts. -/
def PushCampaign.started (now : ℕ) (c : PushCampaign) : PushCampaign :=
  { c with status := .sending, startedAt := some now, lastError := none }

/-- What has become of the deliveries of a campaign. -/
structure Outcome where
  deliveredCount : ℕ
  failedCount : ℕ
  skippedCount : ℕ

/-- A campaign whose sending is over. -/
def PushCampaign.finished (now : ℕ) (o : Outcome) (c : PushCampaign) : PushCampaign :=
  { c with
    status := .sent
    sentAt := some now
    deliveredCount := o.deliveredCount
    failedCount := o.failedCount
    skippedCount := o.skippedCount
    lastError :=
      if o.failedCount = 0 then none else some (toString o.failedCount ++ " recipient delivery attempts failed.") }

/-- A campaign whose sending has failed. -/
def PushCampaign.failedWith (message : String) (c : PushCampaign) : PushCampaign :=
  { c with status := .failed, lastError := some message }

/-- A campaign whose delivery goes on. -/
def delivering (id : ℕ) (i : ℕ) (c : PushCampaign) : Bool := i == id && c.status == .sending

/-- A delivery that has been tried. -/
def PushCampaignDelivery.settled (now : ℕ) (status : PushCampaignDeliveryStatus) (errorMessage : Option String)
    (d : PushCampaignDelivery) : PushCampaignDelivery :=
  { d with
    status := status
    attemptedAt := some now
    deliveredAt := if status = .delivered then some now else none
    errorMessage := errorMessage }

/-- The deliveries that are tried again with their campaign. -/
def retryable (id : ℕ) (_ : ℕ) (d : PushCampaignDelivery) : Bool := d.campaignId == id && d.status == .failed

/-- A delivery that is to be tried again. -/
def PushCampaignDelivery.retried (d : PushCampaignDelivery) : PushCampaignDelivery :=
  { d with status := .pending, errorMessage := none }

/-! ## Days in Lagos -/

/-- How far Lagos is ahead of universal time. -/
def lagosOffsetMs : ℤ := 3600000

/-- How long a day is. -/
def dayMs : ℤ := 86400000

/-- The first moment of the day in Lagos on which a moment falls. -/
@[irreducible] def startOfDay (target : ℕ) : ℤ := (target + lagosOffsetMs) / dayMs * dayMs - lagosOffsetMs

/-- Whether a moment falls on the day of another one. -/
@[irreducible] def onDay (target : ℕ) (t : ℕ) : Bool :=
  decide (startOfDay target ≤ t) && decide ((t : ℤ) < startOfDay target + dayMs)

/-- The campaigns that count towards the limit of a store on a day, but for the one that is asked about. -/
def counted (storeId campaignId target : ℕ) (i : ℕ) (c : PushCampaign) : Bool :=
  i != campaignId && c.storeId == some storeId &&
    (c.status == .scheduled || c.status == .sending || c.status == .sent) &&
    (c.scheduledAt.any (onDay target) || c.startedAt.any (onDay target) || c.sentAt.any (onDay target))

/-! ## Calls -/

/-- The calls of the campaign service; each is atomic. A review is told what was read of the campaign, and so are
the messages of a delivery. -/
inductive Op : Type → Type 1
  | now : Op ℕ
  | findOwnedStore (userId storeId : ℕ) : Op (Option StoreRecord)
  | findStore (storeId : ℕ) : Op (Option StoreRecord)
  | create (staffUserId : ℕ) (dto : CreatePushCampaignDto) : Op ℕ
  | createForStore (userId storeId : ℕ) (dto : CreateStorePushCampaignDto) : Op ℕ
  | findCampaign (id : ℕ) : Op (Option PushCampaign)
  | findStoreCampaign (storeId id : ℕ) : Op (Option PushCampaign)
  | editForStore (id : ℕ) (dto : UpdatePushCampaignDto) : Op Unit
  | edit (id : ℕ) (dto : UpdatePushCampaignDto) (ofStore : Bool) : Op Unit
  | schedule (id scheduledAt : ℕ) : Op Unit
  | cancel (id now : ℕ) : Op Unit
  | review (id staffUserId now : ℕ) (dto : ReviewPushCampaignDto) (read : PushCampaign) : Op Unit
  | countDay (storeId campaignId target : ℕ) : Op ℕ
  | retryDeliveries (id : ℕ) : Op Unit
  | createAuditLog : Op Unit
  | notifyVendor (userId : ℕ) : Op Unit
  | beginProcessing (server : ℕ) : Op Bool
  | endProcessing (server : ℕ) : Op Unit
  | recover (now : ℕ) : Op Unit
  | findDue (now : ℕ) : Op (List ℕ)
  | claim (id now startedAt : ℕ) : Op ℕ
  | resolveAudience (campaign : PushCampaign) : Op (List ℕ)
  | createDeliveries (id : ℕ) (userIds : List ℕ) : Op Unit
  | setRecipients (id total : ℕ) : Op Unit
  | findPending (id : ℕ) : Op (List (ℕ × PushCampaignDelivery))
  | findRecipient (userId : ℕ) : Op Bool
  | findPreference (userId : ℕ) : Op (Option (Bool × Bool))
  | upsertNotification (id userId : ℕ) (read : PushCampaign) : Op Unit
  | push (id userId : ℕ) (read : PushCampaign) : Op PushResult
  | settleDelivery (deliveryId now : ℕ) (status : PushCampaignDeliveryStatus)
      (errorMessage : Option String) : Op Unit
  | countDeliveries (id : ℕ) (status : PushCampaignDeliveryStatus) : Op ℕ
  | finish (id now : ℕ) (outcome : Outcome) : Op Unit
  | fail (id : ℕ) (message : String) : Op Unit

/-- An update of one campaign, which has to exist. -/
def updateCampaign (id : ℕ) (f : PushCampaign → PushCampaign) (s : State) : Except Error Unit × State :=
  if (s.pushCampaign.find id).isSome then (.ok (), { s with pushCampaign := s.pushCampaign.update id f })
  else (.error .recordNotFound, s)

/-- The approval that a review comes to, if it is one. -/
def State.approval (s : State) (id : ℕ) (decision : Decision) (read : PushCampaign) : List Approval :=
  if decision = .approve then ((s.pushCampaign.find id).map fun c => ⟨id, read.content, c.content⟩).toList else []

/-- The deliveries of the recipients who have none yet. -/
def addDeliveries (id : ℕ) : List ℕ → Table PushCampaignDelivery → Table PushCampaignDelivery
  | [], t => t
  | userId :: rest, t =>
    addDeliveries id rest
      (if (t.first fun _ d => d.campaignId == id && d.userId == userId).isSome then t
        else t.create { campaignId := id, userId := userId })

/-- A message of a campaign is noted. -/
def State.note (s : State) (id : ℕ) (channel : Channel) (content : Content) : State :=
  { s with messages := ⟨id, channel, content⟩ :: s.messages }

/-- What a call does. -/
def exec : {α : Type} → Op α → Env → State → Except Error α × State
  | _, .now, e, s => (.ok e.now, s)
  | _, .findOwnedStore userId storeId, _, s =>
    (.ok ((s.store.find storeId).filter fun store => store.ownerUserId == userId), s)
  | _, .findStore storeId, _, s => (.ok (s.store.find storeId), s)
  | _, .create staffUserId dto, _, s =>
    (.ok s.pushCampaign.next, { s with pushCampaign := s.pushCampaign.create (writtenByStaff staffUserId dto) })
  | _, .createForStore userId storeId dto, _, s =>
    (.ok s.pushCampaign.next, { s with pushCampaign := s.pushCampaign.create (written userId storeId dto) })
  | _, .findCampaign id, _, s => (.ok (s.pushCampaign.find id), s)
  | _, .findStoreCampaign storeId id, _, s =>
    (.ok ((s.pushCampaign.find id).filter fun c => c.storeId == some storeId), s)
  | _, .editForStore id dto, _, s => updateCampaign id (fun c => (c.edited dto).unreviewed) s
  | _, .edit id dto ofStore, _, s =>
    if ofStore then
      updateCampaign id (fun c => { (c.edited dto).unreviewed with status := .draft, scheduledAt := none }) s
    else updateCampaign id (PushCampaign.edited dto) s
  | _, .schedule id scheduledAt, _, s => updateCampaign id (PushCampaign.scheduledFor scheduledAt) s
  | _, .cancel id now, _, s => updateCampaign id (PushCampaign.cancelled now) s
  | _, .review id staffUserId now dto read, _, s =>
    updateCampaign id (PushCampaign.reviewed staffUserId now dto)
      { s with approvals := s.approval id dto.decision read ++ s.approvals }
  | _, .countDay storeId campaignId target, _, s =>
    (.ok (s.pushCampaign.many (counted storeId campaignId target)).length, s)
  | _, .retryDeliveries id, _, s =>
    (.ok (), { s with pushCampaignDelivery :=
      s.pushCampaignDelivery.updateMany (retryable id) PushCampaignDelivery.retried })
  | _, .createAuditLog, _, s => (.ok (), s)
  | _, .notifyVendor _, _, s => (.ok (), s)
  | _, .beginProcessing server, _, s =>
    if server ∈ s.processing then (.ok true, s) else (.ok false, { s with processing := server :: s.processing })
  | _, .endProcessing server, _, s => (.ok (), { s with processing := s.processing.filter (· != server) })
  | _, .recover now, _, s =>
    (.ok (), { s with pushCampaign := s.pushCampaign.updateMany (stuck now) (PushCampaign.recovered now) })
  | _, .findDue now, _, s =>
    (.ok ((((s.pushCampaign.many (due now)).insertionSort fun c d =>
      c.2.scheduledAt.getD 0 ≤ d.2.scheduledAt.getD 0).take 5).map (·.1)), s)
  | _, .claim id now startedAt, _, s =>
    (.ok (s.pushCampaign.many (claimable id now)).length,
      { s with pushCampaign := s.pushCampaign.updateMany (claimable id now) (PushCampaign.started startedAt) })
  | _, .resolveAudience campaign, e, s =>
    if campaign.audience.type = .storeCustomers ∧ campaign.storeId = none then
      (.error (.badRequest "Store campaign is missing its store."), s)
    else (.ok e.audience, s)
  | _, .createDeliveries id userIds, _, s =>
    (.ok (), { s with pushCampaignDelivery := addDeliveries id userIds s.pushCampaignDelivery })
  | _, .setRecipients id total, _, s => updateCampaign id (fun c => { c with totalRecipients := total }) s
  | _, .findPending id, _, s =>
    (.ok ((s.pushCampaignDelivery.many fun _ d => d.campaignId == id && d.status == .pending).take 25), s)
  | _, .findRecipient _, e, s => (.ok e.recipientExists, s)
  | _, .findPreference _, e, s => (.ok e.preference, s)
  | _, .upsertNotification id userId read, _, s =>
    match s.notification.first fun _ n => n.campaignId == id && n.recipientId == userId with
    | some (_, n) => (.ok (), s.note id .inApp n.content)
    | none =>
      (.ok (), State.note
        { s with notification := s.notification.create ⟨id, userId, Channel.inApp.show read.content⟩ } id .inApp
          (Channel.inApp.show read.content))
  | _, .push id _ read, e, s =>
    (if e.pushFails then .error (.provider "push") else .ok e.push,
      s.note id .push (Channel.push.show read.content))
  | _, .settleDelivery deliveryId now status errorMessage, _, s =>
    (.ok (), { s with pushCampaignDelivery :=
      s.pushCampaignDelivery.update deliveryId (PushCampaignDelivery.settled now status errorMessage) })
  | _, .countDeliveries id status, _, s =>
    (.ok (s.pushCampaignDelivery.many fun _ d => d.campaignId == id && d.status == status).length, s)
  | _, .finish id now outcome, _, s =>
    (.ok (), { s with
      pushCampaign := s.pushCampaign.updateMany (delivering id) (PushCampaign.finished now outcome) })
  | _, .fail id message, _, s =>
    (.ok (), { s with pushCampaign := s.pushCampaign.updateMany (delivering id) (PushCampaign.failedWith message) })

/-- The calls, run on the tables and the providers. -/
def machine : Machine Op Error State Env where
  exec := exec

end Superstore.Campaigns
