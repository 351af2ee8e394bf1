import Superstore.Campaigns.Requests
import Superstore.Relational.Keys
import Superstore.Relational.Ledger

/-!
# Only what was approved is sent

What a campaign of a store says is changed by its vendor and by staff, and approved by staff who may have
read something else. Deliveries go on with what they have read, and so do those that follow a
restart. None of them sends anything but what a campaign said when its approval was written: an edit takes the
approval back in the same statement, and a delivery looks for the approval in the row that it sends.
-/

namespace Superstore.Campaigns

open Interleaving Relational Contract

/-! ## Campaigns -/

/-- A campaign of a store that stands approved. -/
def PushCampaign.StandsApproved (c : PushCampaign) : Prop := c.storeId.isSome ∧ c.approvalStatus = .approved

/-- A change of a campaign that approves nothing: it stays with its store, and if it stands approved after the
change, it did so before and says the same. -/
structure PushCampaign.Follows (c c' : PushCampaign) : Prop where
  storeId : c'.storeId = c.storeId
  approved : c'.StandsApproved → c.StandsApproved ∧ c'.content = c.content

/-- Following on from a campaign is reflexive and transitive. -/
instance : IsPreorder PushCampaign PushCampaign.Follows where
  refl _ := ⟨rfl, fun h => ⟨h, rfl⟩⟩
  trans _ _ _ h h' := by
    refine ⟨h'.storeId.trans h.storeId, fun happroved => ?_⟩
    obtain ⟨happroved', hcontent'⟩ := h'.approved happroved
    obtain ⟨happroved'', hcontent⟩ := h.approved happroved'
    exact ⟨happroved'', hcontent'.trans hcontent⟩

/-- A campaign that stays with its store. -/
def PushCampaign.SameStore (c c' : PushCampaign) : Prop := c'.storeId = c.storeId

/-- Belonging to the same store is reflexive and transitive. -/
instance : IsPreorder PushCampaign PushCampaign.SameStore where
  refl _ := rfl
  trans _ _ _ h h' := Eq.trans h' h

/-- A change that touches neither the content nor the review. -/
theorem PushCampaign.follows_of_same {c c' : PushCampaign} (hstore : c'.storeId = c.storeId)
    (hstatus : c'.approvalStatus = c.approvalStatus) (hcontent : c'.content = c.content) : c.Follows c' :=
  ⟨hstore, fun h => ⟨⟨hstore ▸ h.1, hstatus ▸ h.2⟩, hcontent⟩⟩

/-- A change after which the review starts anew. -/
theorem PushCampaign.follows_unreviewed {c c' : PushCampaign} (hstore : c'.storeId = c.storeId)
    (hstatus : c'.approvalStatus = .pending) : c.Follows c' :=
  ⟨hstore, fun h => by cases hstatus.symm.trans h.2⟩

/-! ## The invariant -/

/-- Something has been approved for a campaign. -/
def State.Approved (s : State) (id : ℕ) (content : Content) : Prop :=
  ∃ a ∈ s.approvals, a.campaignId = id ∧ a.written = content

/-- What a campaign says has been approved, if it is one of a store. -/
def State.MaySay (s : State) (id : ℕ) (said : Content → Prop) : Prop :=
  ∃ c, s.pushCampaign.find id = some c ∧ (c.storeId.isSome → ∃ content, said content ∧ s.Approved id content)

/-- Whom a delivery is for. -/
def PushCampaignDelivery.recipient (d : PushCampaignDelivery) : Option (ℕ × ℕ) := some (d.campaignId, d.userId)

/-- Whom a notification is for. -/
def Notification.recipient (n : Notification) : Option (ℕ × ℕ) := some (n.campaignId, n.recipientId)

/-- Whatever stands approved has been approved as it is, and so has whatever was said; each recipient has one
delivery and one notification of a campaign. -/
structure Reviewed (s : State) : Prop where
  approved : ∀ id c, s.pushCampaign.find id = some c → c.StandsApproved → s.Approved id c.content
  messages : ∀ m ∈ s.messages, s.MaySay m.campaignId fun content => m.content = m.channel.show content
  notifications : ∀ i n, s.notification.find i = some n →
    s.MaySay n.campaignId fun content => n.content = Channel.inApp.show content
  notified : s.notification.Distinct Notification.recipient
  recipients : s.pushCampaignDelivery.Distinct PushCampaignDelivery.recipient

/-- Approvals stay, and campaigns stay with their stores. -/
structure Later (s s' : State) : Prop where
  campaigns : s.pushCampaign.Evolves PushCampaign.SameStore s'.pushCampaign
  approvals : ∀ a ∈ s.approvals, a ∈ s'.approvals

/-- Being a later state is reflexive and transitive. -/
instance : IsPreorder State Later where
  refl _ := ⟨.refl _, fun _ => id⟩
  trans _ _ _ h h' := ⟨h.campaigns.trans h'.campaigns, fun a ha => h'.approvals a (h.approvals a ha)⟩

variable {s s' : State} {id : ℕ}

/-- An approval stays on record. -/
theorem State.Approved.later {content : Content} (h : s.Approved id content) (hs : Later s s') :
    s'.Approved id content := by
  obtain ⟨a, ha, hid, hcontent⟩ := h
  exact ⟨a, hs.approvals a ha, hid, hcontent⟩

/-- What may be said on behalf of a campaign may be said later. -/
theorem State.MaySay.later {said : Content → Prop} (h : s.MaySay id said) (hs : Later s s') :
    s'.MaySay id said := by
  obtain ⟨c, hc, happroved⟩ := h
  obtain ⟨c', hc', hsame⟩ := hs.campaigns id c hc
  refine ⟨c', hc', fun hstore => ?_⟩
  rw [show c'.storeId = c.storeId from hsame] at hstore
  obtain ⟨content, hsaid, hcontent⟩ := happroved hstore
  exact ⟨content, hsaid, hcontent.later hs⟩

/-- What a request has made sure of when it writes. -/
def Op.Checked : {α : Type} → Op α → State → Prop
  | _, .edit id _ ofStore, s => ∃ c, s.pushCampaign.find id = some c ∧ c.storeId.isSome = ofStore
  | _, .upsertNotification id _ read, s => s.MaySay id (· = read.content)
  | _, .push id _ read, s => s.MaySay id (· = read.content)
  | _, _, _ => True

/-- The contract of reviews. -/
def reviews : Contract Op State Env where
  inv := Reviewed
  guar := Later
  known := Op.Checked
  allowed _ _ _ := True
  refl := refl_of Later
  trans := trans_of Later

/-! ## Operations -/

/-- An operation that is no review. -/
def Op.isReview : {α : Type} → Op α → Bool
  | _, .review _ _ _ _ _ => true
  | _, _ => false

/-- A change of one campaign. -/
theorem updateCampaign_grows {P : PushCampaign → Prop}
    {R : PushCampaign → PushCampaign → Prop} [IsPreorder PushCampaign R]
    {f : PushCampaign → PushCampaign} (h : ∀ c, s.pushCampaign.find id = some c → R c (f c)) :
    s.pushCampaign.Grows P R (updateCampaign id f s).2.pushCampaign := by
  unfold updateCampaign
  split
  · exact .update h
  · exact .refl _

/-- A campaign that is updated is changed, and the others stay. -/
theorem updateCampaign_find (id : ℕ) (f : PushCampaign → PushCampaign) (s : State) (i : ℕ) :
    (updateCampaign id f s).2.pushCampaign.find i =
      if i = id then (s.pushCampaign.find i).map f else s.pushCampaign.find i := by
  unfold updateCampaign
  split
  · exact Table.find_update _ _ _ _
  · next hnone =>
    split
    · next hi => rw [hi, Option.not_isSome_iff_eq_none.mp hnone, Option.map_none]
    · rfl

/-- Updating a campaign leaves the approvals alone. -/
@[simp] theorem updateCampaign_approvals (id : ℕ) (f : PushCampaign → PushCampaign) (s : State) :
    (updateCampaign id f s).2.approvals = s.approvals := by
  unfold updateCampaign
  split <;> rfl

/-- Updating a campaign leaves the messages alone. -/
@[simp] theorem updateCampaign_messages (id : ℕ) (f : PushCampaign → PushCampaign) (s : State) :
    (updateCampaign id f s).2.messages = s.messages := by
  unfold updateCampaign
  split <;> rfl

/-- Updating a campaign leaves the notifications alone. -/
@[simp] theorem updateCampaign_notification (id : ℕ) (f : PushCampaign → PushCampaign) (s : State) :
    (updateCampaign id f s).2.notification = s.notification := by
  unfold updateCampaign
  split <;> rfl

/-- Updating a campaign leaves the deliveries alone. -/
@[simp] theorem updateCampaign_pushCampaignDelivery (id : ℕ) (f : PushCampaign → PushCampaign) (s : State) :
    (updateCampaign id f s).2.pushCampaignDelivery = s.pushCampaignDelivery := by
  unfold updateCampaign
  split <;> rfl

/-- Only reviews approve anything. -/
theorem exec_follows {α : Type} {op : Op α} (e : Env) (hop : op.isReview = false) (hchecked : op.Checked s) :
    s.pushCampaign.Grows (fun c => ¬c.StandsApproved) PushCampaign.Follows (exec op e s).2.pushCampaign := by
  cases op with
  | review => cases hop
  | create staffUserId dto => exact .create _ fun h => by cases h.1
  | createForStore userId storeId dto => exact .create _ fun h => by cases h.2
  | editForStore id dto => exact updateCampaign_grows fun c _ => PushCampaign.follows_unreviewed rfl rfl
  | edit id dto ofStore =>
    obtain ⟨c, hc, hstore⟩ := hchecked
    cases ofStore with
    | true => exact updateCampaign_grows fun c _ => PushCampaign.follows_unreviewed rfl rfl
    | false =>
      refine updateCampaign_grows fun d hd => ⟨rfl, fun happroved => ?_⟩
      obtain rfl := Option.some.inj (hc.symm.trans hd)
      exact absurd (happroved.1.symm.trans hstore) (by decide)
  | schedule id scheduledAt => exact updateCampaign_grows fun c _ => PushCampaign.follows_of_same rfl rfl rfl
  | cancel id now => exact updateCampaign_grows fun c _ => PushCampaign.follows_of_same rfl rfl rfl
  | setRecipients id total => exact updateCampaign_grows fun c _ => PushCampaign.follows_of_same rfl rfl rfl
  | recover now => exact .updateMany fun _ c _ _ => PushCampaign.follows_of_same rfl rfl rfl
  | claim id now startedAt => exact .updateMany fun _ c _ _ => PushCampaign.follows_of_same rfl rfl rfl
  | finish id now outcome => exact .updateMany fun _ c _ _ => PushCampaign.follows_of_same rfl rfl rfl
  | fail id message => exact .updateMany fun _ c _ _ => PushCampaign.follows_of_same rfl rfl rfl
  | beginProcessing => dsimp only [exec]; split <;> exact .refl _
  | resolveAudience => dsimp only [exec]; split <;> exact .refl _
  | upsertNotification => dsimp only [exec]; split <;> exact .refl _
  | _ => exact .refl _

/-- Approvals stay. -/
theorem exec_approvals {α : Type} (op : Op α) (e : Env) (s : State) :
    ∀ a ∈ s.approvals, a ∈ (exec op e s).2.approvals := by
  intro a ha
  cases op with
  | review id staffUserId now dto read =>
    rw [exec, updateCampaign_approvals]
    exact List.mem_append_right _ ha
  | edit id dto ofStore => cases ofStore <;> simpa [exec] using ha
  | beginProcessing => dsimp only [exec]; split <;> exact ha
  | resolveAudience => dsimp only [exec]; split <;> exact ha
  | upsertNotification => dsimp only [exec]; split <;> exact ha
  | _ => simpa [exec, State.note] using ha

/-- Whether an operation tells anybody anything. -/
def Op.tells : {α : Type} → Op α → Bool
  | _, .upsertNotification _ _ _ => true
  | _, .push _ _ _ => true
  | _, _ => false

/-- Other operations leave what has been said as it is. -/
theorem exec_quiet {α : Type} {op : Op α} (e : Env) (hop : op.tells = false) :
    (exec op e s).2.messages = s.messages ∧ (exec op e s).2.notification = s.notification := by
  cases op with
  | upsertNotification => cases hop
  | push => cases hop
  | edit id dto ofStore => cases ofStore <;> simp [exec]
  | beginProcessing => dsimp only [exec]; split <;> exact ⟨rfl, rfl⟩
  | resolveAudience => dsimp only [exec]; split <;> exact ⟨rfl, rfl⟩
  | _ => simp [exec]

/-- Deliveries are entered for recipients who have none yet. -/
theorem addDeliveries_distinct (id : ℕ) (userIds : List ℕ) {t : Table PushCampaignDelivery}
    (h : t.Distinct PushCampaignDelivery.recipient) :
    (addDeliveries id userIds t).Distinct PushCampaignDelivery.recipient := by
  induction userIds generalizing t with
  | nil => exact h
  | cons userId rest ih =>
    rw [addDeliveries]
    apply ih
    split
    · exact h
    · next hfirst =>
      have hnone := Option.not_isSome_iff_eq_none.mp hfirst
      refine h.create fun i d k hd hk hdk => ?_
      have hkey : (d.campaignId, d.userId) = (id, userId) := Option.some.inj (hdk.trans hk.symm)
      have hother := Table.first_eq_none.mp hnone i d hd
      rw [(Prod.mk.inj hkey).1, (Prod.mk.inj hkey).2, beq_self_eq_true, beq_self_eq_true] at hother
      cases hother

/-- No operation gives a recipient a second delivery. -/
theorem exec_recipients {α : Type} (op : Op α) (e : Env)
    (h : s.pushCampaignDelivery.Distinct PushCampaignDelivery.recipient) :
    (exec op e s).2.pushCampaignDelivery.Distinct PushCampaignDelivery.recipient := by
  have hgrows {t : Table PushCampaignDelivery} (hgrows : s.pushCampaignDelivery.Grows (fun _ => False)
      (Table.KeepsKey PushCampaignDelivery.recipient) t) : t.Distinct PushCampaignDelivery.recipient :=
    h.grows hgrows fun _ _ hkeeps => hkeeps
  cases op with
  | createDeliveries id userIds => exact addDeliveries_distinct id userIds h
  | retryDeliveries id => exact hgrows (.updateMany fun _ _ _ _ _ h => h)
  | settleDelivery deliveryId now status errorMessage => exact hgrows (.update fun _ _ _ h => h)
  | edit id dto ofStore => cases ofStore <;> simpa [exec] using h
  | beginProcessing => dsimp only [exec]; split <;> exact h
  | resolveAudience => dsimp only [exec]; split <;> exact h
  | upsertNotification => dsimp only [exec]; split <;> exact h
  | _ => simpa [exec, State.note] using h

/-- Campaigns stay with their stores, and approvals stay. -/
theorem exec_later {α : Type} {op : Op α} (e : Env) (hchecked : op.Checked s) : Later s (exec op e s).2 := by
  refine ⟨?_, exec_approvals op e s⟩
  cases op with
  | review id staffUserId now dto read =>
    have hsame (c : PushCampaign) : c.SameStore (c.reviewed staffUserId now dto) := rfl
    have hgrows : s.pushCampaign.Grows (fun _ => False) PushCampaign.SameStore
        (exec (.review id staffUserId now dto read) e s).2.pushCampaign :=
      updateCampaign_grows (s := { s with approvals := s.approval id dto.decision read ++ s.approvals })
        fun c _ => hsame c
    exact hgrows.kept
  | _ => exact (exec_follows e rfl hchecked).kept.mono fun _ _ h => h.storeId

/-- What stands approved after an operation has been approved as it is. -/
theorem exec_approved {α : Type} {op : Op α} (e : Env) (h : Reviewed s) (hchecked : op.Checked s)
    {c' : PushCampaign} (hc' : (exec op e s).2.pushCampaign.find id = some c') (hstands : c'.StandsApproved) :
    (exec op e s).2.Approved id c'.content := by
  have hlater := exec_later e hchecked
  have hold {c : PushCampaign} (hc : s.pushCampaign.find id = some c) (hfollows : c.Follows c') :
      (exec op e s).2.Approved id c'.content := by
    obtain ⟨hbefore, hcontent⟩ := hfollows.approved hstands
    rw [hcontent]
    exact (h.approved id c hc hbefore).later hlater
  by_cases hop : op.isReview = true
  · cases op with
    | review k staffUserId now dto read =>
      rw [exec, updateCampaign_find] at hc'
      split at hc'
      · next hid =>
        obtain ⟨c, hc, rfl⟩ := Option.map_eq_some_iff.mp hc'
        have hdecision : dto.decision = .approve := by
          by_contra hnot
          have hstatus := hstands.2
          rw [PushCampaign.reviewed, if_neg hnot] at hstatus
          cases hstatus
        refine ⟨⟨k, read.content, c.content⟩, ?_, hid.symm, rfl⟩
        rw [exec, updateCampaign_approvals, State.approval, if_pos hdecision, ← hid, hc]
        exact List.mem_cons_self
      · exact hold hc' (refl_of _ _)
    | _ => cases hop
  · have hgrows := exec_follows e (by simpa using hop) hchecked
    cases hc : s.pushCampaign.find id with
    | none =>
      obtain ⟨c, hnot, hfollows⟩ := hgrows.entered id c' hc' hc
      exact absurd (hfollows.approved hstands).1 hnot
    | some c =>
      obtain ⟨c'', hc'', hfollows⟩ := hgrows.kept id c hc
      obtain rfl := Option.some.inj (hc'.symm.trans hc'')
      exact hold hc hfollows

/-- What is said by an operation may be said, and nobody is notified twice. -/
theorem exec_said {α : Type} {op : Op α} (e : Env) (h : Reviewed s) (hchecked : op.Checked s) :
    (∀ m ∈ (exec op e s).2.messages, s.MaySay m.campaignId fun content => m.content = m.channel.show content) ∧
    (∀ i n, (exec op e s).2.notification.find i = some n →
      s.MaySay n.campaignId fun content => n.content = Channel.inApp.show content) ∧
    (exec op e s).2.notification.Distinct Notification.recipient := by
  have hread {k : ℕ} {read : PushCampaign} (hmay : s.MaySay k (· = read.content)) (channel : Channel) :
      s.MaySay k fun content => channel.show read.content = channel.show content := by
    obtain ⟨c, hc, happroved⟩ := hmay
    refine ⟨c, hc, fun hstore => ?_⟩
    obtain ⟨content, rfl, hcontent⟩ := happroved hstore
    exact ⟨read.content, rfl, hcontent⟩
  by_cases hop : op.tells = true
  swap
  · obtain ⟨hmessages, hnotification⟩ := exec_quiet (s := s) e (by simpa using hop)
    rw [hmessages, hnotification]
    exact ⟨h.messages, h.notifications, h.notified⟩
  cases op with
  | push k userId read =>
    refine ⟨fun m hm => ?_, h.notifications, h.notified⟩
    rcases List.mem_cons.mp hm with rfl | hold
    · exact hread hchecked .push
    · exact h.messages m hold
  | upsertNotification k userId read =>
    dsimp only [exec]
    split
    · next n hfirst =>
      obtain ⟨hn, hkey⟩ := Table.find_of_first hfirst
      refine ⟨fun m hm => ?_, h.notifications, h.notified⟩
      rcases List.mem_cons.mp hm with rfl | hold
      · have hmay := h.notifications _ n hn
        rwa [beq_iff_eq.mp (Bool.and_eq_true_iff.mp hkey).1] at hmay
      · exact h.messages m hold
    · next hnone =>
      refine ⟨fun m hm => ?_, fun i n hn => ?_, ?_⟩
      · rcases List.mem_cons.mp hm with rfl | hold
        · exact hread hchecked .inApp
        · exact h.messages m hold
      · rcases Ledger.find_of_create hn with ⟨-, rfl⟩ | hold
        · exact hread hchecked .inApp
        · exact h.notifications i n hold
      · refine h.notified.create fun i n key hn hkey hsame => ?_
        have hpair : (n.campaignId, n.recipientId) = (k, userId) := Option.some.inj (hsame.trans hkey.symm)
        have hother := Table.first_eq_none.mp hnone i n hn
        rw [(Prod.mk.inj hpair).1, (Prod.mk.inj hpair).2, beq_self_eq_true, beq_self_eq_true] at hother
        cases hother
  | _ => cases hop

/-- Every call keeps to the reviews, where what it relies on is known. -/
theorem reviews_safe {α : Type} (op : Op α) : reviews.Safe machine op := by
  intro e s h hchecked _
  have hlater : Later s (exec op e s).2 := exec_later e hchecked
  obtain ⟨hmessages, hnotifications, hnotified⟩ := exec_said e h hchecked
  refine ⟨⟨fun id c => exec_approved e h hchecked, fun m hm => (hmessages m hm).later hlater,
    fun i n hn => (hnotifications i n hn).later hlater, hnotified, exec_recipients op e h.recipients⟩, hlater⟩

/-! ## Requests -/

/-- A program none of whose operations has to have made sure of anything. -/
abbrev Unchecked {α : Type} (p : Request α) : Prop := p.All fun _ op => ∀ s, op.Checked s

/-- A call that relies on nothing is unchecked. -/
theorem unchecked_call {α : Type} {op : Op α} (h : ∀ s, op.Checked s) : Unchecked (Prog.call op) :=
  (Prog.all_call op).mpr h

/-- What is done under a condition is unchecked if it is so without. -/
theorem unchecked_onlyWhen {c : Bool} {p : Request Unit} (h : Unchecked p) : Unchecked (onlyWhen c p) := by
  unfold onlyWhen
  split
  · exact h
  · exact Prog.all_done _

/-- Looking up a campaign relies on nothing. -/
theorem requireCampaign_unchecked (id : ℕ) : Unchecked (requireCampaign id) :=
  .bind (unchecked_call fun _ => trivial) fun _ => Prog.all_orFail _ _

/-- Looking up a campaign that may be edited relies on nothing. -/
theorem requireEditable_unchecked (id : ℕ) : Unchecked (requireEditable id) :=
  .bind (requireCampaign_unchecked id) fun _ => .bind (Prog.all_require _ _) fun _ => Prog.all_done _

/-- Looking up the store of a vendor relies on nothing. -/
theorem requireOwnedStore_unchecked (userId storeId : ℕ) (requireActive : Bool) :
    Unchecked (requireOwnedStore userId storeId requireActive) :=
  .bind (unchecked_call fun _ => trivial) fun _ => .bind (Prog.all_orFail _ _) fun _ => Prog.all_require _ _

/-- Looking up a campaign of a store relies on nothing. -/
theorem requireStoreCampaign_unchecked (storeId campaignId : ℕ) :
    Unchecked (requireStoreCampaign storeId campaignId) :=
  .bind (unchecked_call fun _ => trivial) fun _ => Prog.all_orFail _ _

/-- The check of what a vendor sends relies on nothing. -/
theorem ensureVendorSendable_unchecked (campaign : PushCampaign) : Unchecked (ensureVendorSendable campaign) :=
  .bind (Prog.all_require _ _) fun _ => Prog.all_require _ _

/-- The daily limit of a vendor is checked without relying on anything. -/
theorem assertVendorDailyLimit_unchecked (storeId campaignId target : ℕ) :
    Unchecked (assertVendorDailyLimit storeId campaignId target) :=
  .bind (unchecked_call fun _ => trivial) fun _ => Prog.all_require _ _

/-- The limit of a campaign's store is checked without relying on anything. -/
theorem assertLimitOf_unchecked (storeId : Option ℕ) (campaignId target : ℕ) :
    Unchecked (assertLimitOf storeId campaignId target) := by
  cases storeId with
  | none => exact Prog.all_done _
  | some storeId => exact assertVendorDailyLimit_unchecked storeId campaignId target

/-- An audience is checked without relying on anything. -/
theorem validateAudience_unchecked (audience : Option Audience) : Unchecked (validateAudience audience) := by
  cases audience with
  | none => exact Prog.all_done _
  | some audience => exact .bind (Prog.all_require _ _) fun _ => Prog.all_require _ _

/-- A campaign that has been read is the one that was there. -/
theorem requireCampaign_finds (id : ℕ) (s : State) : reviews.Informed machine (requireCampaign id)
    (fun r s' => ∀ c, r = .ok c → s'.pushCampaign.find id = some c ∧ Reviewed s') s := by
  intro e s₁ _ hinv _
  refine ⟨trivial, fun _ _ => ?_⟩
  change reviews.Informed machine (Prog.orFail (s₁.pushCampaign.find id) _) _ s₁
  cases hfind : s₁.pushCampaign.find id with
  | none => exact fun c hc => by cases hc
  | some campaign =>
    intro c hc
    obtain rfl := Except.ok.inj hc
    exact ⟨hfind, hinv⟩

/-- The campaign that may be edited is the stored one. -/
theorem requireEditable_finds (id : ℕ) (s : State) : reviews.Informed machine (requireEditable id)
    (fun r s' => ∀ c, r = .ok c → s'.pushCampaign.find id = some c) s := by
  refine Informed.bind ((requireCampaign_finds id s).mono fun r s' h =>
    ⟨fun campaign hr => ?_, fun _ _ _ hc => by cases hc⟩)
  unfold Prog.require
  split
  · intro c hc
    obtain rfl := Except.ok.inj hc
    exact (h _ hr).1
  · exact fun c hc => by cases hc

/-- Trying the failed deliveries again relies on nothing. -/
theorem retryFailed_unchecked (id : ℕ) (campaign : PushCampaign) : Unchecked (retryFailed id campaign) :=
  unchecked_onlyWhen (unchecked_call fun _ => trivial)

/-- A program that says of a campaign at most what may be said. -/
abbrev Tells {α : Type} (id : ℕ) (content : Content) (p : Request α) : Prop :=
  p.All fun _ op => ∀ s : State, s.MaySay id (· = content) → op.Checked s

/-- A program that relies on nothing says no more than may be said. -/
theorem Unchecked.tells {α : Type} {p : Request α} (h : Unchecked p) (id : ℕ) (content : Content) :
    Tells id content p :=
  h.imp fun _ _ hop s _ => hop s

/-- A call that relies on nothing says no more than may be said. -/
theorem tells_call {α : Type} {op : Op α} {id : ℕ} {content : Content} (h : ∀ s, op.Checked s) :
    Tells id content (Prog.call op) := (Prog.all_call op).mpr fun s _ => h s

/-- A user is notified of the content of the campaign. -/
theorem notifyMarketingUser_tells (id userId : ℕ) (campaign : PushCampaign) :
    Tells id campaign.content (notifyMarketingUser id userId campaign) := by
  refine .bind (tells_call fun _ => trivial) fun _ => .bind (Prog.all_require _ _) fun _ => ?_
  refine .bind (tells_call fun _ => trivial) fun preference => .bind ?_ fun _ => .bind ?_ fun _ => Prog.all_done _
  · unfold onlyWhen
    split
    · exact (Prog.all_call _).mpr fun _ h => h
    · exact Prog.all_done _
  · unfold pushIf
    split
    · exact (Prog.all_call _).mpr fun _ h => h
    · exact Prog.all_done _

/-- A delivery carries the content of the campaign. -/
theorem deliver_tells (id : ℕ) (campaign : PushCampaign) (delivery : ℕ × PushCampaignDelivery) :
    Tells id campaign.content (deliver id campaign delivery) := by
  refine .attempt (.bind (notifyMarketingUser_tells id _ campaign) fun _ => ?_) fun _ => ?_
  · exact .bind (tells_call fun _ => trivial) fun _ => tells_call fun _ => trivial
  · exact .bind (tells_call fun _ => trivial) fun _ => tells_call fun _ => trivial

/-- All deliveries carry the content of the campaign. -/
theorem deliverAll_tells (id : ℕ) (campaign : PushCampaign) (rounds : ℕ) :
    Tells id campaign.content (deliverAll id campaign rounds) := by
  induction rounds with
  | zero => exact Prog.all_done _
  | succ rounds ih =>
    refine .bind (tells_call fun _ => trivial) fun current => ?_
    split
    · refine .bind (tells_call fun _ => trivial) fun deliveries => ?_
      split
      · exact Prog.all_done _
      · exact .bind (.forkEach fun delivery _ => deliver_tells id campaign delivery) fun _ => ih
    · exact Prog.all_done _

/-- A delivery that has found its campaign approved says what has been approved. -/
theorem processCampaign_ready (rounds id : ℕ) (s : State) :
    reviews.Ready machine (processCampaign rounds id) s := by
  refine .attempt (Informed.seq (requireCampaign_finds id s) fun campaign s₁ hread => ?_)
    fun _ _ => .call fun _ _ _ => trivial
  obtain ⟨hfind, hinv⟩ := hread
  refine Ready.require_bind fun happroved => ?_
  have hmay : s₁.MaySay id (· = campaign.content) :=
    ⟨campaign, hfind, fun hstore => ⟨_, rfl, hinv.approved id campaign hfind ⟨hstore, happroved hstore⟩⟩⟩
  refine Ready.of_fact (F := fun s => s.MaySay id (· = campaign.content))
    (fun _ _ hlater h => h.later hlater) ?_ hmay
  have hstore : Tells id campaign.content (ensureStoreActive campaign.storeId) := by
    cases campaign.storeId with
    | none => exact Prog.all_done _
    | some storeId => exact .bind (tells_call fun _ => trivial) fun _ => Prog.all_require _ _
  have hcreate (userIds : List ℕ) : Unchecked (Prog.call (.createDeliveries id userIds)) :=
    unchecked_call fun _ => trivial
  have hdeliveries (c : Bool) (userIds : List ℕ) :
      Tells id campaign.content (onlyWhen c (Prog.call (.createDeliveries id userIds))) :=
    (unchecked_onlyWhen (hcreate userIds)).tells _ _
  refine .bind hstore fun _ => .bind (tells_call fun _ => trivial) fun userIds =>
    .bind (hdeliveries _ _) fun _ => ?_
  refine .bind (tells_call fun _ => trivial) fun _ => .bind (deliverAll_tells id campaign rounds) fun all => ?_
  split
  · refine .bind (tells_call fun _ => trivial) fun _ => .bind (tells_call fun _ => trivial) fun _ => ?_
    refine .bind (tells_call fun _ => trivial) fun _ => .bind (tells_call fun _ => trivial) fun _ => ?_
    exact tells_call fun _ => trivial
  · exact Prog.all_done _

/-- The scheduler sends only what has been approved. -/
theorem processDueCampaigns_ready (server rounds : ℕ) (s : State) :
    reviews.Ready machine (processDueCampaigns server rounds) s := by
  refine .then (fun _ _ _ => trivial) fun processing s₁ _ _ => ?_
  cases processing with
  | true => exact trivial
  | false =>
    refine Ready.bind (.attempt ?_ fun _ _ => trivial) fun _ _ => .call fun _ _ _ => trivial
    refine .then (fun _ _ _ => trivial) fun now _ _ _ => .then (fun _ _ _ => trivial) fun _ _ _ _ => ?_
    refine .then (fun _ _ _ => trivial) fun due _ _ _ => .forEach fun id _ s => ?_
    refine .then (fun _ _ _ => trivial) fun startedAt _ _ _ => .then (fun _ _ _ => trivial) fun claimed s _ _ => ?_
    split
    · exact processCampaign_ready rounds id s
    · exact trivial

/-- Staff edit a campaign that they have read. -/
theorem update_ready (id : ℕ) (dto : UpdatePushCampaignDto) (s : State) :
    reviews.Ready machine (update id dto) s := by
  have hedit (campaign : PushCampaign) {s₁ : State} (hfind : s₁.pushCampaign.find id = some campaign) :
      reviews.Ready machine (do
        Prog.require (campaign.storeId.isNone ∨ dto.audience.isNone)
          (.badRequest "The audience of a vendor campaign is fixed to that store’s eligible customers.")
        validateAudience dto.audience
        Prog.call (.edit id dto campaign.storeId.isSome)
        Prog.call .createAuditLog) s₁ := by
    refine Ready.of_fact (F := fun s => ∃ c, s.pushCampaign.find id = some c ∧
      c.storeId.isSome = campaign.storeId.isSome)
      (fun _ s' hlater h => ?_) ?_ ⟨campaign, hfind, rfl⟩
    · obtain ⟨c, hc, hstore⟩ := h
      obtain ⟨c', hc', hsame⟩ := hlater.campaigns id c hc
      exact ⟨c', hc', (congrArg Option.isSome hsame).trans hstore⟩
    · have hvalid := (validateAudience_unchecked dto.audience).imp fun _ op hop s
        (_ : ∃ c, s.pushCampaign.find id = some c ∧ c.storeId.isSome = campaign.storeId.isSome) => hop s
      refine .bind (Prog.all_require _ _) fun _ => .bind hvalid fun _ => .bind ?_ fun _ => ?_
      · exact (Prog.all_call _).mpr fun _ h => h
      · exact (Prog.all_call _).mpr fun _ _ => trivial
  exact Informed.seq (requireEditable_finds id s) fun campaign _ hfind => hedit campaign hfind

/-- The staff send a campaign only as it has been approved. -/
theorem sendNow_ready (server rounds id : ℕ) (s : State) : reviews.Ready machine (sendNow server rounds id) s := by
  have hunchecked {α : Type} {p : Request α} (h : Unchecked p) (s : State) : reviews.Ready machine p s :=
    informed_of_all h s
  refine Ready.bind (hunchecked (requireCampaign_unchecked id) s) fun campaign _ => Ready.require_bind fun _ => ?_
  refine Ready.require_bind fun _ => .then (fun _ _ _ => trivial) fun target s _ _ => ?_
  refine Ready.bind (hunchecked (assertLimitOf_unchecked _ id target) s) fun _ s => ?_
  refine Ready.bind (hunchecked (retryFailed_unchecked id campaign) s) fun _ _ => ?_
  refine .then (fun _ _ _ => trivial) fun now _ _ _ => .then (fun _ _ _ => trivial) fun _ _ _ _ => ?_
  exact .then (fun _ _ _ => trivial) fun _ s _ _ => ⟨processDueCampaigns_ready server rounds s, trivial⟩

/-- A vendor sends a campaign only as it has been approved. -/
theorem sendForStore_ready (server rounds userId storeId campaignId : ℕ) (s : State) :
    reviews.Ready machine (sendForStore server rounds userId storeId campaignId) s := by
  have hunchecked {α : Type} {p : Request α} (h : Unchecked p) (s : State) : reviews.Ready machine p s :=
    informed_of_all h s
  refine Ready.bind (hunchecked (requireOwnedStore_unchecked userId storeId true) s) fun _ s => ?_
  refine Ready.bind (hunchecked (requireStoreCampaign_unchecked storeId campaignId) s) fun campaign s => ?_
  refine Ready.bind (hunchecked (ensureVendorSendable_unchecked campaign) s) fun _ _ => ?_
  refine .then (fun _ _ _ => trivial) fun target s _ _ => ?_
  refine Ready.bind (hunchecked (assertVendorDailyLimit_unchecked storeId campaignId target) s) fun _ s => ?_
  refine Ready.bind (hunchecked (retryFailed_unchecked campaignId campaign) s) fun _ _ => ?_
  refine .then (fun _ _ _ => trivial) fun now _ _ _ => .then (fun _ _ _ => trivial) fun _ _ _ _ => ?_
  exact .then (fun _ _ _ => trivial) fun _ s _ _ => ⟨processDueCampaigns_ready server rounds s, trivial⟩

/-- Other requests say nothing, and edit nothing but what needs a review again. -/
theorem campaignRequest_ready {p : Request Unit} (h : CampaignRequest p) (s : State) :
    reviews.Ready machine p s := by
  have hcall {α : Type} {op : Op α} (h : ∀ s, op.Checked s) : Unchecked (Prog.call op) := unchecked_call h
  cases h with
  | update id dto => exact update_ready id dto s
  | sendNow server rounds id => exact sendNow_ready server rounds id s
  | sendForStore server rounds userId storeId campaignId =>
      exact sendForStore_ready server rounds userId storeId campaignId s
  | processDueCampaigns server rounds => exact processDueCampaigns_ready server rounds s
  | create staffUserId dto =>
    refine informed_of_all (.bind (validateAudience_unchecked _) fun _ => ?_) s
    exact .bind (hcall fun _ => trivial) fun _ => hcall fun _ => trivial
  | schedule id scheduledAt =>
    refine informed_of_all (.bind (requireEditable_unchecked id) fun existing =>
      .bind (Prog.all_require _ _) fun _ => ?_) s
    refine .bind (hcall fun _ => trivial) fun _ => .bind (Prog.all_require _ _) fun _ => ?_
    refine .bind (assertLimitOf_unchecked _ _ _) fun _ => .bind (hcall fun _ => trivial) fun _ =>
      hcall fun _ => trivial
  | cancel id =>
    refine informed_of_all (.bind (requireCampaign_unchecked id) fun _ =>
      .bind (Prog.all_require _ _) fun _ => ?_) s
    exact .bind (hcall fun _ => trivial) fun _ => .bind (hcall fun _ => trivial) fun _ => hcall fun _ => trivial
  | review id staffUserId dto =>
    refine informed_of_all (.bind (requireCampaign_unchecked id) fun _ =>
      .bind (Prog.all_require _ _) fun _ => ?_) s
    refine .bind (Prog.all_require _ _) fun _ => .bind (Prog.all_require _ _) fun _ => ?_
    refine .bind (hcall fun _ => trivial) fun _ => .bind (hcall fun _ => trivial) fun _ => ?_
    exact .bind (hcall fun _ => trivial) fun _ => hcall fun _ => trivial
  | createForStore userId storeId dto =>
    refine informed_of_all (.bind (requireOwnedStore_unchecked userId storeId true) fun _ => ?_) s
    exact .bind (hcall fun _ => trivial) fun _ => hcall fun _ => trivial
  | updateForStore userId storeId campaignId dto =>
    refine informed_of_all (.bind (requireOwnedStore_unchecked userId storeId true) fun _ => ?_) s
    refine .bind (requireStoreCampaign_unchecked storeId campaignId) fun _ =>
      .bind (Prog.all_require _ _) fun _ => ?_
    exact .bind (Prog.all_require _ _) fun _ => .bind (hcall fun _ => trivial) fun _ => hcall fun _ => trivial
  | scheduleForStore userId storeId campaignId scheduledAt =>
    refine informed_of_all (.bind (requireOwnedStore_unchecked userId storeId true) fun _ => ?_) s
    refine .bind (requireStoreCampaign_unchecked storeId campaignId) fun campaign => ?_
    refine .bind (ensureVendorSendable_unchecked campaign) fun _ => .bind (hcall fun _ => trivial) fun _ => ?_
    refine .bind (Prog.all_require _ _) fun _ => .bind (assertVendorDailyLimit_unchecked _ _ _) fun _ => ?_
    exact .bind (hcall fun _ => trivial) fun _ => hcall fun _ => trivial
  | cancelForStore userId storeId campaignId =>
    refine informed_of_all (.bind (requireOwnedStore_unchecked userId storeId false) fun _ => ?_) s
    refine .bind (requireStoreCampaign_unchecked storeId campaignId) fun _ =>
      .bind (Prog.all_require _ _) fun _ => ?_
    exact .bind (hcall fun _ => trivial) fun _ => .bind (hcall fun _ => trivial) fun _ => hcall fun _ => trivial

/-! ## Runs -/

/-- The campaigns keep to their reviews. -/
theorem reviews_holds : reviews.Holds campaigns where
  starts hp s _ := campaignRequest_ready hp s
  performs op := reviews_safe op
  background {s s'} h hinv := by
    have hlater : Later s s' := ⟨.of_eq h.pushCampaign, fun a ha => by rwa [h.approvals]⟩
    refine ⟨⟨fun id c hc hstands => ?_, fun m hm => ?_, fun i n hn => ?_, ?_, ?_⟩, hlater⟩
    · rw [h.pushCampaign] at hc
      exact (hinv.approved id c hc hstands).later hlater
    · rw [h.messages] at hm
      exact (hinv.messages m hm).later hlater
    · rw [h.notification] at hn
      exact (hinv.notifications i n hn).later hlater
    · rw [h.notification]
      exact hinv.notified
    · rw [h.pushCampaignDelivery]
      exact hinv.recipients

/-- Nobody has made a campaign yet. -/
structure Unused (s : State) : Prop where
  campaigns : ∀ i, s.pushCampaign.find i = none
  deliveries : ∀ i, s.pushCampaignDelivery.find i = none
  notifications : ∀ i, s.notification.find i = none
  messages : s.messages = []

/-- Before the first campaign nothing has been sent. -/
theorem Unused.reviewed (h : Unused s) : Reviewed s where
  approved id c hc := by
    rw [h.campaigns id] at hc
    cases hc
  messages m hm := by
    rw [h.messages] at hm
    cases hm
  notifications i n hn := by
    rw [h.notifications i] at hn
    cases hn
  notified := .of_empty h.notifications
  recipients := .of_empty h.deliveries

/-- In every run of vendors, staff and schedulers on any number of servers, interleaved at each of their calls:
whatever is sent of a campaign of a store, by push or in the application, is what the campaign said when one of its
approvals was written; and no recipient has two deliveries or two notifications of one campaign. -/
theorem only_approved_is_sent (hs : Unused s) {c : Config Op Error State}
    (hrun : campaigns.Run System.anyOp ⟨s, []⟩ c) :
    (∀ m ∈ c.world.messages, ∃ campaign, c.world.pushCampaign.find m.campaignId = some campaign ∧
      (campaign.storeId.isSome → ∃ a ∈ c.world.approvals, a.campaignId = m.campaignId ∧
        m.content = m.channel.show a.written)) ∧
    (∀ i j n n', c.world.notification.find i = some n → c.world.notification.find j = some n' →
      n.campaignId = n'.campaignId → n.recipientId = n'.recipientId → i = j) ∧
    ∀ i j d d', c.world.pushCampaignDelivery.find i = some d → c.world.pushCampaignDelivery.find j = some d' →
      d.campaignId = d'.campaignId → d.userId = d'.userId → i = j := by
  have hinv : Reviewed c.world := (reviews_holds.run (c := ⟨s, []⟩) ⟨hs.reviewed, by simp⟩
    (System.Run.mono campaigns hrun fun _ _ _ _ => trivial)).1.1
  refine ⟨fun m hm => ?_, fun i j n n' hn hn' hid hrecipient => ?_, fun i j d d' hd hd' hid huser => ?_⟩
  · obtain ⟨campaign, hfind, happroved⟩ := hinv.messages m hm
    refine ⟨campaign, hfind, fun hstore => ?_⟩
    obtain ⟨content, hsaid, a, ha, hcampaign, rfl⟩ := happroved hstore
    exact ⟨a, ha, hcampaign, hsaid⟩
  · exact hinv.notified i j n n' _ hn hn' rfl (by rw [Notification.recipient, hid, hrecipient])
  · exact hinv.recipients i j d d' _ hd hd' rfl (by rw [PushCampaignDelivery.recipient, hid, huser])

/-! ## An approval that is written over an edit -/

/-- A vendor writes a campaign and changes it while it is reviewed, and has it sent. -/
def rewritten : List (Request Unit) :=
  [createForStore 1 1 { title := "Sale", message := "Rice" }, reviewVendorCampaign 1 9 { decision := .approve },
    updateForStore 1 1 1 { message := some "Free rice" }, sendForStore 0 2 1 1 1]

/-- The campaign is changed between what the review reads and what it writes. -/
def changedMeanwhile : List (ℕ × Env) :=
  (List.replicate 3 0 ++ [1, 1] ++ List.replicate 4 2 ++ List.replicate 3 1 ++ List.replicate 8 3 ++
    List.replicate 14 4 ++
    List.replicate 6 5).map fun i => (i, { now := 5, audience := [7], push := { attempted := 1, successful := 1 } })

/-- A store whose owner has not made a campaign yet. -/
def beforeCampaigns : State where
  store := Table.empty.create { ownerUserId := 1, isActive := true }

/-- Nothing has been sent before the campaigns of the example. -/
theorem unused_beforeCampaigns : Unused beforeCampaigns := ⟨fun _ => rfl, fun _ => rfl, fun _ => rfl, rfl⟩

/-- The requests of the example can be made. -/
theorem rewritten_start : ∀ p ∈ rewritten, campaigns.starts p := by
  intro p hp
  simp only [rewritten, List.mem_cons, List.not_mem_nil, or_false] at hp
  rcases hp with rfl | rfl | rfl | rfl
  · exact .createForStore _ _ _
  · exact .review _ _ _
  · exact .updateForStore _ _ _ _
  · exact .sendForStore _ _ _ _ _

/-- What is pushed is what the approval was written on, and that is not what its reviewer had read. -/
theorem only_approved_is_sent_rewritten :
    ∃ (s : State) (m : Message) (a : Approval), m ∈ s.messages ∧ m.channel = .push ∧ a ∈ s.approvals ∧
      m.content = m.channel.show a.written ∧ a.read ≠ a.written := by
  have hrun := campaigns.schedule_run rewritten_start changedMeanwhile (s := beforeCampaigns)
  have hmessage : (⟨1, .push, { title := "Sale", message := "Free rice" }⟩ : Message) ∈
      (campaigns.follow ⟨beforeCampaigns, rewritten⟩ changedMeanwhile).world.messages := by decide +kernel
  have hstore : ((campaigns.follow ⟨beforeCampaigns, rewritten⟩ changedMeanwhile).world.pushCampaign.find 1).map
      (·.storeId) = some (some 1) := by decide +kernel
  have hread : ∀ a ∈ (campaigns.follow ⟨beforeCampaigns, rewritten⟩ changedMeanwhile).world.approvals,
      a.read ≠ a.written := by
    decide +kernel
  obtain ⟨campaign, hfind, happroved⟩ := (only_approved_is_sent unused_beforeCampaigns hrun).1 _ hmessage
  obtain ⟨campaign', hfind', hid⟩ := Option.map_eq_some_iff.mp hstore
  obtain rfl := Option.some.inj (hfind.symm.trans hfind')
  obtain ⟨a, ha, -, hcontent⟩ := happroved (by rw [hid]; rfl)
  exact ⟨_, _, a, hmessage, rfl, ha, hcontent, hread a ha⟩

end Superstore.Campaigns
