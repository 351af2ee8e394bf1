import Superstore.Access.Permissions
import Superstore.Interleaving.Runs
import Superstore.Relational.Ledger

/-!
# Approval requests

A request for an approval is entered after a look for one that is pending, and decided after a look at
it; neither statement looks again. Requests that overlap can enter two, or decide one twice. Where the
statements find what the looks have found, at most one request is pending for the same action on the
same resource, a decision stays as it is, and who has decided is not the requester and has been found
to hold a permission of an approver.
-/

namespace Superstore.Approvals

open Interleaving Relational
open Rbac (UserAccess AuthenticatedUser buildUserContext hasPermission)

/-! ## Rows and requests -/

/-- The policy for an action that has to be approved. -/
structure ApprovalPolicy where
  actionKey : String
  initiatorPermissions : Option (List String) := none
  approverPermissions : Option (List String) := none
  enabled : Bool := true

/-- A request for an approval. -/
structure ApprovalRequest where
  policyId : ℕ
  actionKey : String
  resourceType : String
  resourceId : String
  requestedById : ℕ
  decidedById : Option ℕ := none
  status : String := "PENDING"
  reason : Option String := none
  decisionReason : Option String := none
  decidedAt : Option ℕ := none
  deriving DecidableEq

/-- What a request for an approval says. -/
structure CreateApprovalRequestDto where
  actionKey : String
  resourceType : String
  resourceId : String
  reason : Option String := none

/-- What a decision on a request says. -/
structure DecideApprovalDto where
  status : String
  reason : Option String := none

/-- Whether a request is pending for an action on a resource. -/
def ApprovalRequest.pendingFor (r : ApprovalRequest) (actionKey resourceType resourceId : String) : Bool :=
  r.actionKey == actionKey && r.resourceType == resourceType && r.resourceId == resourceId && r.status == "PENDING"

/-- The tables of approvals. Beside them are kept the permissions that each user has been found to have, and the
permissions of approvers that each policy has been found to ask for. -/
structure State where
  user : Table UserAccess := Table.empty
  approvalPolicy : Table ApprovalPolicy := Table.empty
  approvalRequest : Table ApprovalRequest := Table.empty
  found : List (ℕ × AuthenticatedUser) := []
  asked : List (ℕ × List String) := []

/-- The calls of the approval service; each is atomic. -/
inductive Op : Type → Type 1
  | findPolicy (actionKey : String) : Op (Option (ℕ × ApprovalPolicy))
  | buildUserContext (actorId : ℕ) : Op AuthenticatedUser
  | findDuplicate (dto : CreateApprovalRequestDto) : Op (Option (ℕ × ApprovalRequest))
  | create (policyId actorId : ℕ) (dto : CreateApprovalRequestDto) : Op ℕ
  | findRequest (id : ℕ) : Op (Option (ApprovalRequest × ApprovalPolicy))
  | update (actorId id : ℕ) (dto : DecideApprovalDto) : Op ApprovalRequest
  | createAuditLog : Op Unit

/-- A request as it is entered. -/
def entered (policyId actorId : ℕ) (dto : CreateApprovalRequestDto) : ApprovalRequest where
  policyId := policyId
  actionKey := dto.actionKey
  resourceType := dto.resourceType
  resourceId := dto.resourceId
  requestedById := actorId
  reason := dto.reason

/-- A request once it has been decided. -/
def decided (now actorId : ℕ) (dto : DecideApprovalDto) (r : ApprovalRequest) : ApprovalRequest :=
  { r with status := dto.status, decidedById := some actorId, decisionReason := dto.reason, decidedAt := some now }

/-- A request with its policy. -/
def withPolicy (id : ℕ) (s : State) : Option (ApprovalRequest × ApprovalPolicy) := do
  let request ← s.approvalRequest.find id
  let policy ← s.approvalPolicy.find request.policyId
  pure (request, policy)

/-- What a call does at a time. -/
def exec : {α : Type} → Op α → ℕ → State → Except Error α × State
  | _, .findPolicy actionKey, _, s => (.ok (s.approvalPolicy.first fun _ p => p.actionKey == actionKey), s)
  | _, .buildUserContext actorId, now, s =>
    match buildUserContext now (s.user.find actorId) with
    | .ok context => (.ok context, { s with found := (actorId, context) :: s.found })
    | .error err => (.error err, s)
  | _, .findDuplicate dto, _, s =>
    (.ok (s.approvalRequest.first fun _ r => r.pendingFor dto.actionKey dto.resourceType dto.resourceId), s)
  | _, .create policyId actorId dto, _, s =>
    (.ok s.approvalRequest.next,
      { s with approvalRequest := s.approvalRequest.create (entered policyId actorId dto) })
  | _, .findRequest id, _, s =>
    (.ok (withPolicy id s),
      { s with
        asked :=
          ((withPolicy id s).elim [] fun r => [(r.1.policyId, r.2.approverPermissions.getD [])]) ++ s.asked })
  | _, .update actorId id dto, now, s =>
    match s.approvalRequest.find id with
    | some r =>
      (.ok (decided now actorId dto r),
        { s with approvalRequest := s.approvalRequest.update id (decided now actorId dto) })
    | none => (.error .recordNotFound, s)
  | _, .createAuditLog, _, s => (.ok (), s)

/-- A program over the calls of approvals. -/
abbrev Request := Prog Op Error

/-- Enter a request for an approval. -/
def create (actorId : ℕ) (dto : CreateApprovalRequestDto) : Request Unit := do
  let policy ← Prog.call (.findPolicy dto.actionKey)
  let policy ← Prog.orFail (policy.filter (·.2.enabled))
    (.notFound "Approval policy is not configured for this action.")
  let context ← Prog.call (.buildUserContext actorId)
  Prog.require ((policy.2.initiatorPermissions.getD []).any (hasPermission context))
    (.forbidden "User cannot initiate this approval workflow.")
  let duplicate ← Prog.call (.findDuplicate dto)
  Prog.require (duplicate = none) (.conflict "A pending approval request already exists.")
  let _ ← Prog.call (.create policy.1 actorId dto)
  pure ()

/-- Decide a request for an approval. -/
def decide (actorId id : ℕ) (dto : DecideApprovalDto) : Request Unit := do
  let request ← Prog.call (.findRequest id)
  let (request, policy) ← Prog.orFail request (.notFound "Approval request not found.")
  Prog.require (request.status = "PENDING") (.conflict "Approval request has already been decided.")
  Prog.require (request.requestedById ≠ actorId) (.forbidden "Segregation of duties prevents self-approval.")
  let context ← Prog.call (.buildUserContext actorId)
  Prog.require ((policy.approverPermissions.getD []).any (hasPermission context))
    (.forbidden "User cannot approve this workflow.")
  let _ ← Prog.call (.update actorId id dto)
  Prog.call .createAuditLog

/-! ## The system -/

/-- The calls, run on the tables. -/
def machine : Machine Op Error State ℕ where
  exec := exec

/-- The requests of staff. -/
inductive StaffRequest : Request Unit → Prop
  | create (actorId : ℕ) (dto : CreateApprovalRequestDto) : StaffRequest (create actorId dto)
  | decide (actorId id : ℕ) (dto : DecideApprovalDto) : StaffRequest (decide actorId id dto)

/-- Users and policies may change in any way. -/
structure Outside (s s' : State) : Prop where
  approvalRequest : s'.approvalRequest = s.approvalRequest
  found : s'.found = s.found
  asked : s'.asked = s.asked

/-- Any number of interleaved requests, at any times. -/
def approvals : System Op Error State ℕ :=
  { machine with
    starts := StaffRequest
    background := Outside }

/-- The statement that enters a request finds none that is pending for the same, and the one that decides finds
the request pending and undecided. -/
def Op.finds : {α : Type} → Op α → State → Bool
  | _, .create _ _ dto, s =>
    (s.approvalRequest.first fun _ r => r.pendingFor dto.actionKey dto.resourceType dto.resourceId).isNone
  | _, .update _ id _, s => (s.approvalRequest.find id).all fun r => r.status == "PENDING" && r.decidedById.isNone
  | _, _, _ => true

/-- A user has been found to have a permission that the policy of a request asks of its approvers. -/
def Approver (s : State) (r : ApprovalRequest) (actorId : ℕ) : Prop :=
  ∃ context permissions, (actorId, context) ∈ s.found ∧ (r.policyId, permissions) ∈ s.asked ∧
    ∃ permission ∈ permissions, hasPermission context permission = true

/-- A request keeps its policy and who has asked, and stays as it is once it has been decided. -/
structure ApprovalRequest.Stays (r r' : ApprovalRequest) : Prop where
  policyId : r'.policyId = r.policyId
  requestedById : r'.requestedById = r.requestedById
  decided : r.decidedById.isSome → r' = r

/-- Staying a request is reflexive and transitive. -/
instance : IsPreorder ApprovalRequest ApprovalRequest.Stays where
  refl _ := ⟨rfl, rfl, fun _ => rfl⟩
  trans r r' r'' h h' := by
    refine ⟨h'.policyId.trans h.policyId, h'.requestedById.trans h.requestedById, fun hdecided => ?_⟩
    obtain rfl := h.decided hdecided
    exact h'.decided hdecided

/-- What holds of requests in every state. -/
structure Sound (s : State) : Prop where
  pending : ∀ i j r r', s.approvalRequest.find i = some r → s.approvalRequest.find j = some r' →
    r.status = "PENDING" → r'.pendingFor r.actionKey r.resourceType r.resourceId → i = j
  decider : ∀ i r a, s.approvalRequest.find i = some r → r.decidedById = some a →
    a ≠ r.requestedById ∧ Approver s r a

/-- Who decides a request is an approver, and not who has asked. -/
def Op.Grounded : {α : Type} → Op α → State → Prop
  | _, .update actorId id _, s =>
    ∃ r, s.approvalRequest.find id = some r ∧ actorId ≠ r.requestedById ∧ Approver s r actorId
  | _, _, _ => True

/-- Requests are kept, and what has been found out is not forgotten. -/
structure Later (s s' : State) : Prop where
  approvalRequest : s.approvalRequest.Evolves ApprovalRequest.Stays s'.approvalRequest
  found : s.found ⊆ s'.found
  asked : s.asked ⊆ s'.asked

/-- Being a later state is reflexive and transitive. -/
instance : IsPreorder State Later where
  refl _ := ⟨.refl _, List.Subset.refl _, List.Subset.refl _⟩
  trans _ _ _ h h' := ⟨h.approvalRequest.trans h'.approvalRequest, List.Subset.trans h.found h'.found,
    List.Subset.trans h.asked h'.asked⟩

/-- What is kept of requests whose statements find what was looked for. -/
def decisions : Contract Op State ℕ where
  inv := Sound
  guar := Later
  known op s := op.Grounded s
  allowed op _ s := op.finds s
  refl := refl_of Later
  trans := trans_of Later

/-- An approver stays one. -/
theorem Approver.later {s s' : State} {r r' : ApprovalRequest} {a : ℕ} (h : Approver s r a)
    (hlater : Later s s') (hr : r.Stays r') : Approver s' r' a := by
  obtain ⟨context, permissions, hfound, hasked, hholds⟩ := h
  exact ⟨context, permissions, hlater.found hfound, hr.policyId ▸ hlater.asked hasked, hholds⟩

/-- More may have been found out about users and policies. -/
theorem Sound.learn {s s' : State} (h : Sound s) (hsame : s'.approvalRequest = s.approvalRequest)
    (hlater : Later s s') : Sound s' where
  pending := by
    rw [hsame]
    exact h.pending
  decider i r a hr ha := by
    rw [hsame] at hr
    obtain ⟨hother, happrover⟩ := h.decider i r a hr ha
    exact ⟨hother, happrover.later hlater (refl_of ApprovalRequest.Stays r)⟩

/-- A request that is entered while none is pending for the same. -/
theorem Sound.enter {s : State} (h : Sound s) {policyId actorId : ℕ} {dto : CreateApprovalRequestDto}
    (hnone : ∀ i r, s.approvalRequest.find i = some r →
      r.pendingFor dto.actionKey dto.resourceType dto.resourceId = false) :
    Sound { s with approvalRequest := s.approvalRequest.create (entered policyId actorId dto) } where
  pending i j r r' hr hr' hpending hsame := by
    rcases Ledger.find_of_create hr with ⟨rfl, rfl⟩ | hold <;>
      rcases Ledger.find_of_create hr' with ⟨rfl, rfl⟩ | hold'
    · rfl
    · exact absurd (hnone j r' hold') (by rw [Bool.not_eq_false]; exact hsame)
    · refine absurd (hnone i r hold) ?_
      simp only [ApprovalRequest.pendingFor, entered, Bool.and_eq_true, beq_iff_eq] at hsame
      obtain ⟨⟨⟨hkey, htype⟩, hid⟩, -⟩ := hsame
      simp [ApprovalRequest.pendingFor, hkey, htype, hid, hpending]
    · exact h.pending i j r r' hold hold' hpending hsame
  decider i r a hr ha := by
    rcases Ledger.find_of_create hr with ⟨-, rfl⟩ | hold
    · cases ha
    · exact h.decider i r a hold ha

/-- A request that is decided while it is pending. -/
theorem Sound.decide {s : State} (h : Sound s) {now actorId id : ℕ} {dto : DecideApprovalDto} {r : ApprovalRequest}
    (hr : s.approvalRequest.find id = some r) (hpending : r.status = "PENDING") (hother : actorId ≠ r.requestedById)
    (happrover : Approver s r actorId) :
    Sound { s with approvalRequest := s.approvalRequest.update id (decided now actorId dto) } := by
  -- A request that is pending after the decision was pending before it.
  have hrow {i : ℕ} {r' : ApprovalRequest}
      (hr' : (s.approvalRequest.update id (decided now actorId dto)).find i = some r') :
      ∃ r₀, s.approvalRequest.find i = some r₀ ∧ (r'.status = "PENDING" → r₀.status = "PENDING") ∧
        r'.actionKey = r₀.actionKey ∧ r'.resourceType = r₀.resourceType ∧ r'.resourceId = r₀.resourceId ∧
        r'.requestedById = r₀.requestedById ∧ r'.policyId = r₀.policyId ∧
        (r'.decidedById = r₀.decidedById ∨ r'.decidedById = some actorId ∧ i = id) := by
    rw [Table.find_update] at hr'
    split at hr'
    · next heq =>
      rw [heq, hr] at hr'
      obtain rfl := Option.some.inj hr'
      exact ⟨r, heq ▸ hr, fun _ => hpending, rfl, rfl, rfl, rfl, rfl, .inr ⟨rfl, heq⟩⟩
    · exact ⟨r', hr', fun h => h, rfl, rfl, rfl, rfl, rfl, .inl rfl⟩
  constructor
  · intro i j r₁ r₂ h₁ h₂ hpending₁ hsame
    obtain ⟨r₁', hr₁', hstatus₁, hkey₁, htype₁, hid₁, -⟩ := hrow h₁
    obtain ⟨r₂', hr₂', hstatus₂, hkey₂, htype₂, hid₂, -⟩ := hrow h₂
    simp only [ApprovalRequest.pendingFor, Bool.and_eq_true, beq_iff_eq] at hsame
    obtain ⟨⟨⟨hkey, htype⟩, hid⟩, hpending₂⟩ := hsame
    refine h.pending i j r₁' r₂' hr₁' hr₂' (hstatus₁ hpending₁) ?_
    simp [ApprovalRequest.pendingFor, ← hkey₁, ← hkey₂, ← htype₁, ← htype₂, ← hid₁, ← hid₂, hkey, htype, hid,
      hstatus₂ hpending₂]
  · intro i r' a hr' ha
    obtain ⟨r₀, hr₀, -, -, -, -, hrequested, hpolicy, hold | ⟨hnew, rfl⟩⟩ := hrow hr'
    · obtain ⟨hne, context, permissions, hfound, hasked, hholds⟩ := h.decider i r₀ a hr₀ (hold ▸ ha)
      exact ⟨hrequested ▸ hne, context, permissions, hfound, hpolicy ▸ hasked, hholds⟩
    · obtain rfl : actorId = a := Option.some.inj (hnew.symm.trans ha)
      obtain rfl := Option.some.inj (hr.symm.trans hr₀)
      obtain ⟨context, permissions, hfound, hasked, hholds⟩ := happrover
      exact ⟨hrequested ▸ hother, context, permissions, hfound, hpolicy ▸ hasked, hholds⟩

/-- What a user may do is noted when it is found. -/
theorem exec_buildUserContext (actorId now : ℕ) (s : State) :
    (∃ context, exec (.buildUserContext actorId) now s =
      (.ok context, { s with found := (actorId, context) :: s.found })) ∨
    ∃ err, exec (.buildUserContext actorId) now s = (.error err, s) := by
  cases h : buildUserContext now (s.user.find actorId) with
  | ok context => exact .inl ⟨context, by simp only [exec, h]⟩
  | error err => exact .inr ⟨err, by simp only [exec, h]⟩

/-- Every statement that finds what was looked for keeps what holds of requests. -/
theorem decisions_safe {α : Type} (op : Op α) : decisions.Safe machine op := by
  intro now s hinv hknown hfinds
  cases op with
  | buildUserContext actorId =>
    change Sound (exec (.buildUserContext actorId) now s).2 ∧ Later s (exec (.buildUserContext actorId) now s).2
    rcases exec_buildUserContext actorId now s with ⟨context, hexec⟩ | ⟨err, hexec⟩ <;> rw [hexec]
    · have hlater : Later s { s with found := (actorId, context) :: s.found } :=
        ⟨.refl _, List.subset_cons_self _ _, List.Subset.refl _⟩
      exact ⟨hinv.learn rfl hlater, hlater⟩
    · exact ⟨hinv, refl_of Later s⟩
  | create policyId actorId dto =>
    have hnone := Table.first_eq_none.mp (Option.isNone_iff_eq_none.mp hfinds)
    exact ⟨hinv.enter hnone, .create _ _, List.Subset.refl _, List.Subset.refl _⟩
  | findRequest id =>
    have hlater : Later s (exec (.findRequest id) now s).2 :=
      ⟨.refl _, List.Subset.refl _, List.subset_append_right _ _⟩
    exact ⟨hinv.learn rfl hlater, hlater⟩
  | update actorId id dto =>
    obtain ⟨r, hr, hother, happrover⟩ := hknown
    have hexec : (exec (.update actorId id dto) now s).2 =
        { s with approvalRequest := s.approvalRequest.update id (decided now actorId dto) } := by
      simp only [exec, hr]
    have hopen : r.status = "PENDING" ∧ r.decidedById = none := by
      have hall : (s.approvalRequest.find id).all fun r => r.status == "PENDING" && r.decidedById.isNone := hfinds
      simpa [hr] using hall
    change Sound (exec (.update actorId id dto) now s).2 ∧ Later s (exec (.update actorId id dto) now s).2
    rw [hexec]
    refine ⟨hinv.decide hr hopen.1 hother happrover, .update fun r' hr' => ⟨rfl, rfl, fun hdecided => ?_⟩,
      List.Subset.refl _, List.Subset.refl _⟩
    obtain rfl := Option.some.inj (hr.symm.trans hr')
    rw [hopen.2] at hdecided
    cases hdecided
  | findPolicy _ | findDuplicate _ | createAuditLog => exact ⟨hinv, refl_of Later s⟩

/-- A request is entered whatever has been found out. -/
theorem create_ready (actorId : ℕ) (dto : CreateApprovalRequestDto) (s : State) :
    decisions.Ready machine (create actorId dto) s := by
  refine .then (fun _ _ _ => trivial) fun policy s₁ _ _ => .orFail_bind fun policy _ => ?_
  refine .then (fun _ _ _ => trivial) fun context s₂ _ _ => .require_bind fun _ => ?_
  refine .then (fun _ _ _ => trivial) fun duplicate s₃ _ _ => .require_bind fun _ => ?_
  exact .then (fun _ _ _ => trivial) fun _ _ _ _ => trivial

/-- Who has been found to hold a permission that the policy of a request asks for may decide it. -/
theorem decide_ready (actorId id : ℕ) (dto : DecideApprovalDto) (s : State) :
    decisions.Ready machine (decide actorId id dto) s := by
  refine .call_bind (fun _ _ _ => trivial) fun now s₁ _ _ _ _ _ found hfound =>
    .orFail_bind fun request hrequest => ?_
  obtain rfl : withPolicy id s₁ = found := Except.ok.inj hfound
  obtain ⟨r, policy⟩ := request
  -- The request is found with its policy, and the permissions that this asks for are noted.
  have hr : s₁.approvalRequest.find id = some r := by
    obtain ⟨r', hr', h⟩ := Option.bind_eq_some_iff.mp hrequest
    obtain ⟨policy', -, h⟩ := Option.bind_eq_some_iff.mp h
    obtain ⟨rfl, -⟩ := Prod.mk.inj (Option.some.inj h)
    exact hr'
  have hasked : (r.policyId, policy.approverPermissions.getD []) ∈ (exec (.findRequest id) now s₁).2.asked := by
    change _ ∈ ((withPolicy id s₁).elim [] fun r => [(r.1.policyId, r.2.approverPermissions.getD [])]) ++ s₁.asked
    rw [hrequest]
    exact List.mem_cons_self
  refine .require_bind fun _ => .require_bind fun hother => ?_
  refine .call_bind (fun _ _ _ => trivial) fun now' s₂ hlater _ _ _ _ context hcontext =>
    .require_bind fun hholds => ?_
  change (exec (.buildUserContext actorId) now' s₂).1 = .ok context at hcontext
  change decisions.Ready machine _ (exec (.buildUserContext actorId) now' s₂).2
  rcases exec_buildUserContext actorId now' s₂ with ⟨context', hexec⟩ | ⟨err, hexec⟩ <;> rw [hexec] at hcontext ⊢
  swap
  · cases hcontext
  obtain rfl : context' = context := Except.ok.inj hcontext
  obtain ⟨r₂, hr₂, hstays⟩ := hlater.approvalRequest id r hr
  have happrover : Approver { s₂ with found := (actorId, context') :: s₂.found } r₂ actorId := by
    obtain ⟨permission, hmem, hpermission⟩ := List.any_eq_true.mp hholds
    refine ⟨context', _, List.mem_cons_self, ?_, permission, hmem, hpermission⟩
    rw [hstays.policyId]
    exact hlater.asked hasked
  refine .then (fun s₃ hlater' _ => ?_) fun _ s₃ _ _ => .call fun _ _ _ => trivial
  obtain ⟨r₃, hr₃, hstays'⟩ := hlater'.approvalRequest id r₂ hr₂
  refine ⟨r₃, hr₃, ?_, happrover.later hlater' hstays'⟩
  rw [hstays'.requestedById, hstays.requestedById]
  exact hother.symm

/-- The approvals are decided once. -/
theorem decisions_hold : decisions.Holds approvals where
  starts hp s _ := by
    cases hp with
    | create actorId dto => exact create_ready actorId dto s
    | decide actorId id dto => exact decide_ready actorId id dto s
  performs op := decisions_safe op
  background {s s'} h hinv := by
    have hlater : Later s s' := by
      refine ⟨.of_eq h.approvalRequest, ?_, ?_⟩
      · rw [h.found]
        exact List.Subset.refl _
      · rw [h.asked]
        exact List.Subset.refl _
    exact ⟨hinv.learn h.approvalRequest hlater, hlater⟩

/-- Where the statements of requests that overlap find what was looked for, no two requests are pending for the
same, and each is decided once, by an approver who has not asked for it. -/
theorem decided_once {s : State} (hs : Sound s) {c c' : Config Op Error State}
    (hrun : approvals.Run (fun op _ c => op.finds c.world) ⟨s, []⟩ c)
    (hrun' : approvals.Run (fun op _ c => op.finds c.world) c c') :
    (∀ i j r r', c.world.approvalRequest.find i = some r → c.world.approvalRequest.find j = some r' →
      r.status = "PENDING" → r'.pendingFor r.actionKey r.resourceType r.resourceId → i = j) ∧
    ∀ i r a, c.world.approvalRequest.find i = some r → r.decidedById = some a →
      a ≠ r.requestedById ∧ Approver c.world r a ∧ c'.world.approvalRequest.find i = some r := by
  have hstart : decisions.Sound approvals ⟨s, []⟩ := ⟨hs, nofun⟩
  obtain ⟨hsound, -⟩ := decisions_hold.run hstart hrun
  obtain ⟨-, hlater⟩ := decisions_hold.run hsound hrun'
  refine ⟨hsound.1.pending, fun i r a hr ha => ?_⟩
  obtain ⟨hother, happrover⟩ := hsound.1.decider i r a hr ha
  obtain ⟨r', hr', hstays⟩ := hlater.approvalRequest i r hr
  obtain rfl := hstays.decided (ha ▸ rfl)
  exact ⟨hother, happrover, hr'⟩

/-! ## Two approvers -/

/-- A user with a role that grants one permission. -/
def staff (id : ℕ) (permission : String) : UserAccess where
  id := id
  email := "staff@superstore.example"
  roles := [{ role := { name := "staff", permissions := [permission] } }]

/-- Refunds are asked for by one of the staff, and approved by two others. -/
def refundPolicy : State where
  user := ((Table.empty.create (staff 1 "refunds.request")).create (staff 2 "refunds.approve")).create
    (staff 3 "refunds.approve")
  approvalPolicy := Table.empty.create
    { actionKey := "refund", initiatorPermissions := some ["refunds.request"],
      approverPermissions := some ["refunds.approve"] }

/-- The policy of the example has no requests yet. -/
theorem refundPolicy_sound : Sound refundPolicy where
  pending _ _ _ _ hr := by cases hr
  decider _ _ _ hr := by cases hr

/-- A request for a refund, and the decisions of two approvers. -/
def refundRequests : List (Request Unit) :=
  [create 1 { actionKey := "refund", resourceType := "Order", resourceId := "1" },
    decide 2 1 { status := "APPROVED" }, decide 3 1 { status := "REJECTED" }]

/-- The requests of the example can be made. -/
theorem refundRequests_start : ∀ p ∈ refundRequests, approvals.starts p := by
  intro p hp
  rw [refundRequests, List.mem_cons, List.mem_pair] at hp
  rcases hp with rfl | rfl | rfl
  · exact .create _ _
  · exact .decide _ _ _
  · exact .decide _ _ _

/-- Both approvers have looked at the request when the first of them decides it. -/
def bothLook : List (ℕ × ℕ) :=
  List.replicate 4 (0, 1) ++ [(1, 2), (1, 2), (2, 2), (2, 2), (1, 3)]

/-- The status of a request. -/
def statusOf (c : Config Op Error State) (id : ℕ) : Option String :=
  (c.world.approvalRequest.find id).map (·.status)

/-- What has been approved can be rejected. -/
theorem decided_twice :
    ¬∀ (s : State) (c c' : Config Op Error State), Sound s → approvals.Run System.anyOp ⟨s, []⟩ c →
      approvals.Run System.anyOp c c' → ∀ id, statusOf c id = some "APPROVED" →
        statusOf c' id = some "APPROVED" := by
  intro h
  have hlost := h refundPolicy _ _ refundPolicy_sound (approvals.schedule_run refundRequests_start bothLook)
    (approvals.follow_run _ [(2, 3)]) 1 (by decide +kernel)
  revert hlost
  decide +kernel

/-- One approver after the other: the first decision stays. -/
theorem decided_once_refund : statusOf (approvals.follow (approvals.follow ⟨refundPolicy, refundRequests⟩
    (List.replicate 5 (0, 1) ++ List.replicate 4 (1, 2))) (List.replicate 4 (2, 3))) 1 = some "APPROVED" := by
  have hallows : approvals.allows (fun op _ c => op.finds c.world) ⟨refundPolicy, refundRequests⟩
      (List.replicate 5 (0, 1) ++ List.replicate 4 (1, 2)) := by decide +kernel
  have hallows' : approvals.allows (fun op _ c => op.finds c.world) (approvals.follow ⟨refundPolicy, refundRequests⟩
      (List.replicate 5 (0, 1) ++ List.replicate 4 (1, 2))) (List.replicate 4 (2, 3)) := by decide +kernel
  have hdecided : (((approvals.follow ⟨refundPolicy, refundRequests⟩ (List.replicate 5 (0, 1) ++
      List.replicate 4 (1, 2))).world.approvalRequest.find 1).map fun r => (r.status, r.decidedById)) =
      some ("APPROVED", some 2) := by decide +kernel
  obtain ⟨r, hr, hby⟩ := Option.map_eq_some_iff.mp hdecided
  obtain ⟨hstatus, hby⟩ := Prod.mk.inj hby
  have hrun : approvals.Run (fun op _ c => op.finds c.world) ⟨refundPolicy, []⟩ _ :=
    (approvals.start_all_run refundRequests_start).trans (approvals.follow_run_of hallows)
  obtain ⟨-, -, hr'⟩ := (decided_once refundPolicy_sound hrun (approvals.follow_run_of hallows')).2 1 r 2 hr hby
  exact Option.map_eq_some_iff.mpr ⟨r, hr', hstatus⟩

end Superstore.Approvals
