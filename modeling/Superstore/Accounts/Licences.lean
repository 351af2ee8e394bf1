import Superstore.Accounts.Defaults
import Superstore.Interleaving.Runs
import Superstore.Relational.Ledger

/-!
# Licences of riders

A rider's licence is verified by a provider or reviewed by staff. Staff look at a licence and then
decide, and neither statement looks again; a rider asks the provider again whatever staff have decided.
Where the statement of an approval finds that the provider has verified the licence, and no answer
of the provider approves a licence that staff have rejected last, a licence with a provider is approved
only if it is verified, and one that staff have rejected is not approved before they decide again.
-/

namespace Superstore.Licences

open Interleaving Relational
open Accounts (DocumentStatus)

/-! ## Rows and requests -/

/-- How far the application of a rider is. -/
inductive OnboardingStatus
  | created | profileCompleted | documentsUploaded | bankVerified | underReview | approved | rejected | suspended
  deriving DecidableEq

/-- Whether a vehicle has been approved. -/
inductive VehicleStatus
  | pending | approved | rejected | suspended
  deriving DecidableEq

/-- A document of a rider. -/
structure RiderDocument where
  type : String
  documentNumber : Option String := none
  status : DocumentStatus := .pending

/-- A document of a vehicle. -/
structure VehicleDocument where
  type : String
  status : DocumentStatus := .pending

/-- A vehicle of a rider. -/
structure Vehicle where
  type : String
  photoUrl : Option String := none
  status : VehicleStatus := .pending
  documents : List VehicleDocument := []

/-- The profile of a rider, with the documents, liveness checks and vehicles that belong to it. -/
structure RiderProfile where
  userId : ℕ
  areaOfOperation : Option String := none
  emergencyContactName : Option String := none
  emergencyContactPhone : Option String := none
  onboardingStatus : OnboardingStatus := .created
  rejectionReason : Option String := none
  rejectedAt : Option ℕ := none
  documents : List RiderDocument := []
  liveness : List DocumentStatus := []
  vehicles : List Vehicle := []

/-- A licence of a rider. -/
structure RiderLicence where
  riderId : ℕ
  type : String
  number : Option String := none
  issueDate : Option ℕ := none
  expiryDate : Option ℕ := none
  documentUrl : Option String := none
  status : DocumentStatus := .pending
  provider : Option String := none
  providerReference : Option String := none
  providerStatus : Option String := none
  providerRaw : Option String := none
  idempotencyKey : Option String := none
  consentCapturedAt : Option ℕ := none
  verifiedAt : Option ℕ := none

/-- What a request to enter a licence says. -/
structure CreateRiderLicenceDto where
  type : String := "DRIVERS_LICENSE"
  number : Option String := none
  issueDate : Option ℕ := none
  expiryDate : Option ℕ := none
  documentUrl : String

/-- What a request to verify a licence says. -/
structure VerifyDriverLicenseDto where
  licenseNumber : String
  idempotencyKey : String

/-- An answer of the provider. -/
structure IdentroIdentity where
  identroReference : Option String := none
  identroStatus : Option String := none
  identroRaw : String := "{}"

/-- What staff make of a licence or an application. -/
inductive Decision
  | approve | reject
  deriving DecidableEq

/-- The status that a decision gives. -/
def Decision.status : Decision → DocumentStatus
  | .approve => .approved
  | .reject => .rejected

/-- Whether a text is there and not empty. -/
def filled (text : Option String) : Bool := text.any (· != "")

/-- The status of a licence for an answer of the provider. -/
def providerDecision (providerStatus : String) : DocumentStatus :=
  if providerStatus = "VERIFIED" then .approved
  else if ["FAILED", "NOT_FOUND", "REJECTED"].contains providerStatus then .rejected
  else .pending

/-- The status that the provider reports, which is pending where it reports none. -/
def IdentroIdentity.providerStatus (result : IdentroIdentity) : String := result.identroStatus.getD "PENDING"

/-! ## What an application lacks -/

/-- The documents that show who somebody is. -/
def identityTypes : List String :=
  ["NIN", "NIN_SLIP", "NATIONAL_ID", "DRIVERS_LICENSE", "INTERNATIONAL_PASSPORT", "VOTERS_CARD"]

/-- The vehicles that need no licence. -/
def nonMotorizedTypes : List String := ["BICYCLE", "FOOT", "WALKER"]

/-- What is missing from an application before it can be submitted. -/
def missingApplicationRequirements (profile : RiderProfile) (licences : List RiderLicence) : List String :=
  let identity := profile.documents.any fun d => identityTypes.contains d.type.toUpper && filled d.documentNumber
  let licenceEvidence := licences.any fun l => filled l.documentUrl || filled l.number
  let motorized := profile.vehicles.any fun v => !nonMotorizedTypes.contains v.type.toUpper
  let registration := profile.vehicles.any fun v => v.documents.any fun d =>
    d.type.toUpper == "VEHICLE_REGISTRATION"
  let blank (text : Option String) : Bool := !filled (text.map trim)
  [(blank profile.areaOfOperation, "AREA_OF_OPERATION"),
    (!identity && !licenceEvidence, "IDENTITY_DOCUMENT"),
    (profile.liveness.isEmpty, "LIVENESS_SESSION"),
    (profile.vehicles.isEmpty, "VEHICLE"),
    (!profile.vehicles.isEmpty && !profile.vehicles.any fun v => filled v.photoUrl, "VEHICLE_PHOTO"),
    (blank profile.emergencyContactName || blank profile.emergencyContactPhone, "EMERGENCY_CONTACT"),
    (motorized && !licenceEvidence, "DRIVER_LICENSE_DOCUMENT"),
    (motorized && !registration, "VEHICLE_REGISTRATION")].filterMap fun r => if r.1 then some r.2 else none

/-- A vehicle that can be used for deliveries. -/
def Vehicle.operational (verifiedLicence : Bool) (v : Vehicle) : Bool :=
  filled v.photoUrl && decide (v.status = .approved) &&
    (nonMotorizedTypes.contains v.type.toUpper ||
      (verifiedLicence && v.documents.any fun d =>
        decide (d.status = .approved) && d.type.toUpper == "VEHICLE_REGISTRATION"))

/-- What is missing before a rider can deliver. -/
def missingOperationalRequirements (profile : RiderProfile) (licences : List RiderLicence) : List String :=
  let identity := profile.documents.find? fun d => identityTypes.contains d.type.toUpper && filled d.documentNumber
  let verifiedLicence := licences.any fun l => decide (l.status = .approved)
  missingApplicationRequirements profile licences ++
    [(!identity.any (fun d => decide (d.status = .approved)) && !verifiedLicence, "APPROVED_IDENTITY"),
      (!profile.liveness.any fun status => decide (status = .approved), "APPROVED_LIVENESS"),
      (!profile.vehicles.isEmpty && !profile.vehicles.any (Vehicle.operational verifiedLicence),
        "OPERATIONALLY_APPROVED_VEHICLE")].filterMap fun r => if r.1 then some r.2 else none

/-! ## Calls -/

/-- Profiles and licences, and beside them the decisions of staff on licences, the latest first. -/
structure State where
  riderProfile : Table RiderProfile := Table.empty
  riderLicence : Table RiderLicence := Table.empty
  decisions : List (ℕ × Decision) := []

/-- What a call receives from outside: the time, and the answer of the provider. -/
structure Env where
  now : ℕ := 0
  identro : Except Error IdentroIdentity := .error .unavailable

/-- The latest decision on a licence. -/
def latest (decisions : List (ℕ × Decision)) (licenceId : ℕ) : Option Decision :=
  (decisions.find? fun d => d.1 == licenceId).map Prod.snd

/-- The licences of a rider. -/
def State.licences (s : State) (riderId : ℕ) : List (ℕ × RiderLicence) :=
  s.riderLicence.many fun _ l => l.riderId == riderId

/-- The calls to the database and to the provider; each is atomic. -/
inductive Op : Type → Type 1
  | findProfile (userId : ℕ) : Op (Option (ℕ × RiderProfile))
  | findByKey (riderId : ℕ) (idempotencyKey : String) : Op (Option (ℕ × RiderLicence))
  | findByReference (riderId : ℕ) (reference : String) : Op (Option (ℕ × RiderLicence))
  | findLicence (licenceId : ℕ) : Op (Option RiderLicence)
  | verifyDriversLicense (licenseNumber idempotencyKey : String) : Op IdentroIdentity
  | createDriverLicenseRequest (licenseNumber idempotencyKey : String) : Op IdentroIdentity
  | getDriverLicenseRequest (reference : String) : Op IdentroIdentity
  | createManual (riderId : ℕ) (dto : CreateRiderLicenceDto) : Op ℕ
  | createVerified (riderId : ℕ) (dto : VerifyDriverLicenseDto) (result : IdentroIdentity) : Op ℕ
  | syncLicence (licenceId : ℕ) (result : IdentroIdentity) : Op Unit
  | reviewLicence (licenceId : ℕ) (decision : Decision) : Op Unit
  | decideApplication (riderId : ℕ) (decision : Decision) (reason : String)
      (approvePendingManualChecks : Bool) : Op ℕ
  | createAuditLog : Op Unit
  | notifyRiderDecision (userId riderId : ℕ) (decision : Decision) : Op Unit

/-- A licence that a rider has photographed. -/
def manualLicence (riderId : ℕ) (dto : CreateRiderLicenceDto) : RiderLicence where
  riderId := riderId
  type := dto.type
  number := dto.number.map fun number => (trim number).toUpper
  issueDate := dto.issueDate
  expiryDate := dto.expiryDate
  documentUrl := some (trim dto.documentUrl)

/-- A licence with the provider's first answer. -/
def verifiedLicence (now riderId : ℕ) (dto : VerifyDriverLicenseDto) (result : IdentroIdentity) : RiderLicence where
  riderId := riderId
  type := "DRIVERS_LICENSE"
  number := some (trim dto.licenseNumber).toUpper
  status := providerDecision result.providerStatus
  provider := some "identro"
  providerReference := result.identroReference
  providerStatus := some result.providerStatus
  providerRaw := some result.identroRaw
  idempotencyKey := some dto.idempotencyKey
  consentCapturedAt := some now
  verifiedAt := if providerDecision result.providerStatus = .approved then some now else none

/-- A licence with the provider's latest answer. -/
def RiderLicence.sync (now : ℕ) (result : IdentroIdentity) (l : RiderLicence) : RiderLicence :=
  { l with
    providerStatus := some result.providerStatus, providerRaw := some result.identroRaw
    status := providerDecision result.providerStatus
    verifiedAt := if providerDecision result.providerStatus = .approved then some now else none }

/-- A licence as staff have decided. -/
def RiderLicence.review (decision : Decision) (l : RiderLicence) : RiderLicence :=
  { l with status := decision.status }

/-- A licence that waits for staff: photographed, and without a provider. -/
def RiderLicence.pendingManual (l : RiderLicence) : Bool :=
  decide (l.status = .pending) && !filled l.provider && filled l.documentUrl

/-- A vehicle and its registrations, approved where they were pending. -/
def Vehicle.approvePending (v : Vehicle) : Vehicle :=
  { v with
    status := if v.status = .pending && filled v.photoUrl then .approved else v.status
    documents := v.documents.map fun d =>
      if d.type = "VEHICLE_REGISTRATION" ∧ d.status = .pending then { d with status := .approved } else d }

/-- Approve what a rider's application still has pending for a manual check. -/
def approveManualChecks (riderId : ℕ) (s : State) : State :=
  { riderProfile :=
      s.riderProfile.update riderId fun p => { p with vehicles := p.vehicles.map Vehicle.approvePending }
    riderLicence := s.riderLicence.updateMany (fun _ l => l.riderId == riderId && l.pendingManual)
      (RiderLicence.review .approve)
    decisions := (((s.licences riderId).filter (·.2.pendingManual)).map fun l =>
      (l.1, Decision.approve)) ++ s.decisions }

/-- The profile of a rider once the application has been decided. -/
def RiderProfile.decided (now : ℕ) (decision : Decision) (reason : String) (p : RiderProfile) : RiderProfile :=
  match decision with
  | .approve => { p with onboardingStatus := .approved, rejectionReason := none, rejectedAt := none }
  | .reject => { p with onboardingStatus := .rejected, rejectionReason := some reason, rejectedAt := some now }

/-- The transaction that decides a rider's application. -/
def decideApplication (now riderId : ℕ) (decision : Decision) (reason : String) (approvePendingManualChecks : Bool)
    (s : State) : Except Error (ℕ × State) := do
  let initial ← fromOption (s.riderProfile.find riderId) (.notFound "Rider profile not found.")
  ensure (initial.onboardingStatus = .underReview)
    (.badRequest "Only riders under review can receive a final decision.")
  let checked := if decision = .approve && approvePendingManualChecks then approveManualChecks riderId s else s
  let candidate := (checked.riderProfile.find riderId).getD initial
  ensure (decision = .reject ∨
    missingOperationalRequirements candidate ((checked.licences riderId).map Prod.snd) = [])
    (.badRequest "Rider cannot be approved. Automatic checks are incomplete or manual evidence was not approved.")
  pure (initial.userId,
    { checked with riderProfile := checked.riderProfile.update riderId (RiderProfile.decided now decision reason) })

/-- What a call does. -/
def exec : {α : Type} → Op α → Env → State → Except Error α × State
  | _, .findProfile userId, _, s => (.ok (s.riderProfile.first fun _ p => p.userId == userId), s)
  | _, .findByKey riderId idempotencyKey, _, s =>
    (.ok (s.riderLicence.first fun _ l => l.riderId == riderId && l.idempotencyKey == some idempotencyKey), s)
  | _, .findByReference riderId reference, _, s =>
    (.ok (s.riderLicence.first fun _ l => l.riderId == riderId && l.providerReference == some reference), s)
  | _, .findLicence licenceId, _, s => (.ok (s.riderLicence.find licenceId), s)
  | _, .verifyDriversLicense _ _, e, s => (e.identro, s)
  | _, .createDriverLicenseRequest _ _, e, s => (e.identro, s)
  | _, .getDriverLicenseRequest _, e, s => (e.identro, s)
  | _, .createManual riderId dto, _, s =>
    (.ok s.riderLicence.next, { s with riderLicence := s.riderLicence.create (manualLicence riderId dto) })
  | _, .createVerified riderId dto result, e, s =>
    if (s.riderLicence.first fun _ l => l.riderId == riderId && l.idempotencyKey ==
      some dto.idempotencyKey).isSome then
      (.error .uniqueViolation, s)
    else
      (.ok s.riderLicence.next,
        { s with riderLicence := s.riderLicence.create (verifiedLicence e.now riderId dto result) })
  | _, .syncLicence licenceId result, e, s =>
    if (s.riderLicence.find licenceId).isSome then
      (.ok (), { s with riderLicence := s.riderLicence.update licenceId (RiderLicence.sync e.now result) })
    else (.error .recordNotFound, s)
  | _, .reviewLicence licenceId decision, _, s =>
    if (s.riderLicence.find licenceId).isSome then
      (.ok (), { s with
        riderLicence := s.riderLicence.update licenceId (RiderLicence.review decision)
        decisions := (licenceId, decision) :: s.decisions })
    else (.error .recordNotFound, s)
  | _, .decideApplication riderId decision reason approvePendingManualChecks, e, s =>
    match decideApplication e.now riderId decision reason approvePendingManualChecks s with
    | .ok (userId, s') => (.ok userId, s')
    | .error err => (.error err, s)
  | _, .createAuditLog, _, s => (.ok (), s)
  | _, .notifyRiderDecision _ _ _, _, s => (.ok (), s)

/-- A program over the calls of licences. -/
abbrev Request := Prog Op Error

/-- The profile of a rider. -/
def requireProfile (userId : ℕ) : Request (ℕ × RiderProfile) := do
  let rider ← Prog.call (.findProfile userId)
  Prog.orFail rider (.notFound "Rider profile not found.")

/-- Add a photographed licence. -/
def addLicence (userId : ℕ) (dto : CreateRiderLicenceDto) : Request Unit := do
  let rider ← requireProfile userId
  let _ ← Prog.call (.createManual rider.1 dto)
  pure ()

/-- The question to the provider, which tracks it where that is asked for. -/
def askIdentro (dto : VerifyDriverLicenseDto) (trackedRequest : Bool) : Request IdentroIdentity :=
  if trackedRequest then
    Prog.call (.createDriverLicenseRequest (trim dto.licenseNumber).toUpper dto.idempotencyKey)
  else Prog.call (.verifyDriversLicense (trim dto.licenseNumber).toUpper dto.idempotencyKey)

/-- Enter the licence with the answer of the provider. -/
def enterVerified (riderId : ℕ) (dto : VerifyDriverLicenseDto) (trackedRequest : Bool) : Request Unit := do
  let result ← askIdentro dto trackedRequest
  let _ ← Prog.call (.createVerified riderId dto result)
  Prog.call .createAuditLog

/-- Have the provider verify a licence; a key that is used again does nothing. -/
def verifyDriverLicense (userId : ℕ) (dto : VerifyDriverLicenseDto) (trackedRequest : Bool) : Request Unit := do
  let rider ← requireProfile userId
  let existing ← Prog.call (.findByKey rider.1 dto.idempotencyKey)
  if existing.isSome then pure () else enterVerified rider.1 dto trackedRequest

/-- Ask the provider again. -/
def syncDriverLicenseRequest (userId : ℕ) (reference : String) : Request Unit := do
  let rider ← requireProfile userId
  let licence ← Prog.call (.findByReference rider.1 reference)
  let licence ← Prog.orFail licence (.notFound "Driver licence request not found.")
  let result ← Prog.call (.getDriverLicenseRequest reference)
  Prog.call (.syncLicence licence.1 result)

/-- Staff decide on a licence. -/
def reviewRiderLicence (licenceId : ℕ) (decision : Decision) : Request Unit := do
  let licence ← Prog.call (.findLicence licenceId)
  let licence ← Prog.orFail licence (.notFound "Rider licence not found.")
  Prog.require (¬(decision = .approve ∧ !filled licence.provider ∧ !filled licence.documentUrl))
    (.badRequest "A manual driver licence cannot be approved without an uploaded image.")
  Prog.require (¬(decision = .approve ∧ filled licence.provider ∧ licence.providerStatus ≠ some "VERIFIED"))
    (.badRequest "An automatic provider failure or pending result cannot be manually approved.")
  Prog.call (.reviewLicence licenceId decision)
  Prog.call .createAuditLog

/-- Staff decide on an application. -/
def decideRiderApplication (riderId : ℕ) (decision : Decision) (reason : String)
    (approvePendingManualChecks : Bool) :
    Request Unit := do
  let userId ← Prog.call (.decideApplication riderId decision reason approvePendingManualChecks)
  Prog.call (.notifyRiderDecision userId riderId decision)

/-! ## The system -/

/-- The calls, run on the tables and the provider. -/
def machine : Machine Op Error State Env where
  exec := exec

/-- The requests of riders and staff. -/
inductive LicenceRequest : Request Unit → Prop
  | addLicence (userId : ℕ) (dto : CreateRiderLicenceDto) : LicenceRequest (addLicence userId dto)
  | verifyDriverLicense (userId : ℕ) (dto : VerifyDriverLicenseDto) (trackedRequest : Bool) :
      LicenceRequest (verifyDriverLicense userId dto trackedRequest)
  | syncDriverLicenseRequest (userId : ℕ) (reference : String) :
      LicenceRequest (syncDriverLicenseRequest userId reference)
  | reviewRiderLicence (licenceId : ℕ) (decision : Decision) :
      LicenceRequest (reviewRiderLicence licenceId decision)
  | decideRiderApplication (riderId : ℕ) (decision : Decision) (reason : String)
      (approvePendingManualChecks : Bool) :
      LicenceRequest (decideRiderApplication riderId decision reason approvePendingManualChecks)

/-- Profiles may change in any way. -/
structure Outside (s s' : State) : Prop where
  riderLicence : s'.riderLicence = s.riderLicence
  decisions : s'.decisions = s.decisions

/-- Any number of interleaved requests, with any answers of the provider. -/
def licensing : System Op Error State Env :=
  { machine with
    starts := LicenceRequest
    background := Outside }

/-- The statement of an approval finds the licence verified, or without a provider; an answer of the
provider does not approve a licence that staff have rejected last. -/
def Op.heeds : {α : Type} → Op α → State → Bool
  | _, .reviewLicence licenceId .approve, s =>
    (s.riderLicence.find licenceId).all fun l => !filled l.provider || l.providerStatus == some "VERIFIED"
  | _, .syncLicence licenceId result, s =>
    decide (providerDecision result.providerStatus = .approved → latest s.decisions licenceId ≠ some .reject)
  | _, _, _ => true

/-! ## What holds of every licence -/

/-- What holds of a licence, given what staff have decided last on it. -/
structure Kept (last : Option Decision) (l : RiderLicence) : Prop where
  named : l.provider ≠ some ""
  verified : l.provider.isSome → l.status = .approved → l.providerStatus = some "VERIFIED"
  rejected : last = some .reject → l.status ≠ .approved

/-- Every licence is kept, and staff have decided on no licence that is not there. -/
structure Sound (s : State) : Prop where
  licences : ∀ i l, s.riderLicence.find i = some l → Kept (latest s.decisions i) l
  known : ∀ d ∈ s.decisions, d.1 < s.riderLicence.next

variable {s : State}

/-- The provider's answer approves a licence exactly if it is verified. -/
theorem providerDecision_approved {providerStatus : String} :
    providerDecision providerStatus = .approved ↔ providerStatus = "VERIFIED" := by
  unfold providerDecision
  split
  · next h => exact iff_of_true rfl h
  · next h => exact iff_of_false (by split <;> nofun) h

/-- A licence without a provider has none that counts as one. -/
theorem Kept.filled_iff {last : Option Decision} {l : RiderLicence} (h : Kept last l) :
    filled l.provider = l.provider.isSome := by
  have hnamed := h.named
  cases hp : l.provider with
  | none => rfl
  | some name =>
    rw [hp] at hnamed
    simpa [filled] using hnamed

/-- The latest decision on a licence is the one at the head, if it is about it. -/
theorem latest_cons (licenceId : ℕ) (decision : Decision) (ds : List (ℕ × Decision)) (i : ℕ) :
    latest ((licenceId, decision) :: ds) i = if licenceId = i then some decision else latest ds i := by
  unfold latest
  by_cases heq : licenceId = i
  · rw [List.find?_cons_of_pos (by simpa using heq), if_pos heq]
    rfl
  · rw [List.find?_cons_of_neg (by simpa using heq), if_neg heq]

/-- Approvals of several licences, after whatever has been decided before. -/
theorem latest_approvals {α : Type} (ls : List (ℕ × α)) (ds : List (ℕ × Decision)) (i : ℕ) :
    latest ((ls.map fun l => (l.1, Decision.approve)) ++ ds) i =
      if i ∈ ls.map Prod.fst then some .approve else latest ds i := by
  induction ls with
  | nil => rfl
  | cons l ls ih =>
    rw [List.map_cons, List.cons_append, latest_cons, ih]
    by_cases heq : l.1 = i
    · rw [if_pos heq, if_pos (List.mem_map.mpr ⟨l, List.mem_cons_self, heq⟩)]
    · have hne : ¬i = l.1 := fun h => heq h.symm
      simp only [if_neg heq, List.map_cons, List.mem_cons, hne, false_or]

/-- A licence that is not there has not been decided on. -/
theorem Sound.latest_next (h : Sound s) : latest s.decisions s.riderLicence.next = none := by
  unfold latest
  rw [Option.map_eq_none_iff, List.find?_eq_none]
  intro d hd heq
  have hlt := h.known d hd
  rw [beq_iff_eq.mp heq] at hlt
  exact lt_irrefl _ hlt

/-- A licence that is entered. -/
theorem Sound.create (h : Sound s) {l : RiderLicence} (hl : Kept none l) :
    Sound { s with riderLicence := s.riderLicence.create l } where
  licences i l' hl' := by
    rcases Ledger.find_of_create hl' with ⟨rfl, rfl⟩ | hold
    · exact h.latest_next.symm ▸ hl
    · exact h.licences i l' hold
  known d hd := Nat.lt_succ_of_lt (h.known d hd)

/-- A licence that is entered with the provider's first answer. -/
theorem verifiedLicence_kept (now riderId : ℕ) (dto : VerifyDriverLicenseDto) (result : IdentroIdentity) :
    Kept none (verifiedLicence now riderId dto result) where
  named := by simp [verifiedLicence]
  verified _ hstatus := congrArg some (providerDecision_approved.mp hstatus)
  rejected := nofun

/-- A licence that is entered by hand is kept, since nobody has decided on it. -/
theorem manualLicence_kept (riderId : ℕ) (dto : CreateRiderLicenceDto) : Kept none (manualLicence riderId dto) where
  named := nofun
  verified := nofun
  rejected := nofun

/-- An answer of the provider, which approves no licence that staff have rejected last. -/
theorem Sound.sync (h : Sound s) {licenceId now : ℕ} {result : IdentroIdentity}
    (hheeds : providerDecision result.providerStatus = .approved → latest s.decisions licenceId ≠ some .reject) :
    Sound { s with riderLicence := s.riderLicence.update licenceId (RiderLicence.sync now result) } where
  licences i l hl := by
    rw [Table.find_update] at hl
    split at hl
    · next heq =>
      obtain ⟨l₀, hl₀, rfl⟩ := Option.map_eq_some_iff.mp hl
      have hkept := h.licences i l₀ hl₀
      refine ⟨hkept.named, fun _ hstatus => congrArg some (providerDecision_approved.mp hstatus), ?_⟩
      intro hlast hstatus
      exact hheeds hstatus (heq ▸ hlast)
    · exact h.licences i l hl
  known d hd := h.known d hd

/-- A decision of staff, which approves a licence with a provider only where it is verified. -/
theorem Sound.review (h : Sound s) {licenceId : ℕ} {decision : Decision} {l : RiderLicence}
    (hl : s.riderLicence.find licenceId = some l)
    (hheeds : decision = .approve → l.provider.isSome → l.providerStatus = some "VERIFIED") :
    Sound { s with
      riderLicence := s.riderLicence.update licenceId (RiderLicence.review decision)
      decisions := (licenceId, decision) :: s.decisions } where
  licences i l' hl' := by
    change Kept (latest ((licenceId, decision) :: s.decisions) i) l'
    rw [latest_cons]
    rw [Table.find_update] at hl'
    by_cases heq : i = licenceId
    · rw [if_pos heq, heq, hl] at hl'
      obtain rfl := Option.some.inj hl'
      rw [if_pos heq.symm]
      cases decision with
      | approve => exact ⟨(h.licences _ _ hl).named, fun hprovider _ => hheeds rfl hprovider, nofun⟩
      | reject => exact ⟨(h.licences _ _ hl).named, nofun, nofun⟩
    · rw [if_neg heq] at hl'
      rw [if_neg fun h => heq h.symm]
      exact h.licences i l' hl'
  known d hd := by
    rcases List.mem_cons.mp hd with rfl | hold
    · exact (Table.lt_next hl : licenceId < s.riderLicence.next)
    · exact h.known d hold

/-- Approving what waits for staff touches no licence with a provider. -/
theorem Sound.approveManualChecks (h : Sound s) (riderId : ℕ) : Sound (approveManualChecks riderId s) where
  licences i l hl := by
    change (s.riderLicence.updateMany (fun _ l => l.riderId == riderId && l.pendingManual) _).find i = some l at hl
    change Kept (latest ((((s.licences riderId).filter (·.2.pendingManual)).map fun l => (l.1, .approve)) ++
      s.decisions) i) l
    rw [latest_approvals]
    rw [Table.find_updateMany] at hl
    obtain ⟨l₀, hl₀, rfl⟩ := Option.map_eq_some_iff.mp hl
    have hkept := h.licences i l₀ hl₀
    have hmem : i ∈ ((s.licences riderId).filter (·.2.pendingManual)).map Prod.fst ↔
        (l₀.riderId == riderId && l₀.pendingManual) = true := by
      constructor
      · intro hmem
        obtain ⟨⟨j, l₁⟩, hfiltered, rfl⟩ := List.mem_map.mp hmem
        obtain ⟨hmany, hpending⟩ := List.mem_filter.mp hfiltered
        obtain ⟨hfind, howner⟩ := Table.mem_many.mp hmany
        obtain rfl := Option.some.inj (hl₀.symm.trans hfind)
        exact Bool.and_eq_true_iff.mpr ⟨howner, hpending⟩
      · intro hcond
        obtain ⟨howner, hpending⟩ := Bool.and_eq_true_iff.mp hcond
        have hmany : (i, l₀) ∈ s.licences riderId := Table.mem_many.mpr ⟨hl₀, howner⟩
        exact List.mem_map.mpr ⟨(i, l₀), List.mem_filter.mpr ⟨hmany, hpending⟩, rfl⟩
    by_cases hcond : (l₀.riderId == riderId && l₀.pendingManual) = true
    · rw [if_pos (hmem.mpr hcond), if_pos hcond]
      refine ⟨hkept.named, fun hprovider _ => ?_, nofun⟩
      -- A licence that waits for staff has no provider.
      have hpending := (Bool.and_eq_true_iff.mp hcond).2
      rw [RiderLicence.pendingManual, hkept.filled_iff, show l₀.provider.isSome = true from hprovider] at hpending
      simp at hpending
    · rw [if_neg fun hin => hcond (hmem.mp hin), if_neg hcond]
      exact hkept
  known d hd := by
    rcases List.mem_append.mp hd with hnew | hold
    · obtain ⟨⟨j, l⟩, hfiltered, rfl⟩ := List.mem_map.mp hnew
      have hfind : s.riderLicence.find j = some l := (Table.mem_many.mp (List.mem_filter.mp hfiltered).1).1
      exact (Table.lt_next hfind : j < s.riderLicence.next)
    · exact h.known d hold

/-- The decision on an application keeps every licence. -/
theorem Sound.decideApplication (h : Sound s) {now riderId userId : ℕ} {decision : Decision} {reason : String}
    {approvePendingManualChecks : Bool} {s' : State}
    (hdecided : decideApplication now riderId decision reason approvePendingManualChecks s = .ok (userId, s')) :
    Sound s' := by
  obtain ⟨initial, _, hrest⟩ := bind_eq_ok.mp hdecided
  obtain ⟨_, _, hrest⟩ := bind_eq_ok.mp hrest
  obtain ⟨_, _, hrest⟩ := bind_eq_ok.mp hrest
  obtain ⟨-, rfl⟩ := Prod.mk.inj (Except.ok.inj hrest)
  have hchecked : Sound (if decision = .approve && approvePendingManualChecks then
      Licences.approveManualChecks riderId s else s) := by
    split
    · exact h.approveManualChecks riderId
    · exact h
  exact ⟨hchecked.licences, hchecked.known⟩

/-! ## Runs -/

/-- What is kept of licences where decisions and answers heed one another. -/
def licences : Contract Op State Env where
  inv := Sound
  guar _ _ := True
  known _ _ := True
  allowed op _ s := op.heeds s
  refl _ := trivial
  trans _ _ := trivial

/-- Every call that heeds what has happened keeps every licence. -/
theorem licences_safe {α : Type} (op : Op α) : licences.Safe machine op := by
  intro e s hsound _ hheeds
  refine ⟨?_, trivial⟩
  change Sound (exec op e s).2
  cases op with
  | createManual riderId dto => exact hsound.create (manualLicence_kept riderId dto)
  | createVerified riderId dto result =>
    simp only [exec]
    split
    · exact hsound
    · exact hsound.create (verifiedLicence_kept e.now riderId dto result)
  | syncLicence licenceId result =>
    simp only [exec]
    split
    · exact hsound.sync (of_decide_eq_true hheeds)
    · exact hsound
  | reviewLicence licenceId decision =>
    simp only [exec]
    split
    · next hsome =>
      obtain ⟨l, hl⟩ := Option.isSome_iff_exists.mp hsome
      refine hsound.review hl fun happrove hprovider => ?_
      subst happrove
      have hall : ((s.riderLicence.find licenceId).all fun l =>
        !filled l.provider || l.providerStatus == some "VERIFIED") = true := hheeds
      rw [hl, Option.all_some, (hsound.licences _ _ hl).filled_iff, hprovider] at hall
      exact beq_iff_eq.mp hall
    · exact hsound
  | decideApplication riderId decision reason approvePendingManualChecks =>
    simp only [exec]
    split
    · next hdecided => exact hsound.decideApplication hdecided
    · exact hsound
  | findProfile _ | findByKey _ _ | findByReference _ _ | findLicence _ | verifyDriversLicense _ _
  | createDriverLicenseRequest _ _ | getDriverLicenseRequest _ | createAuditLog | notifyRiderDecision _ _ _ =>
    exact hsound

/-- The requests of riders and staff keep the licences. -/
theorem licences_hold : licences.Holds licensing where
  starts _ s _ := Contract.informed_of_forall (fun _ _ => trivial) _ s
  performs op := licences_safe op
  background {s s'} h hsound := by
    refine ⟨⟨?_, ?_⟩, trivial⟩
    · rw [h.riderLicence, h.decisions]
      exact hsound.licences
    · rw [h.riderLicence, h.decisions]
      exact hsound.known

/-- Where the statement of an approval finds the licence verified, and no answer of the provider approves a licence
that staff have rejected last, a licence with a provider is approved only if it is verified, and one that staff have
rejected is not approved until they decide again. -/
theorem approved_only_if_verified {s : State} (hs : Sound s) {c : Config Op Error State}
    (hrun : licensing.Run (fun op _ c => op.heeds c.world) ⟨s, []⟩ c) :
    ∀ i l, c.world.riderLicence.find i = some l →
      (l.provider.isSome → l.status = .approved → l.providerStatus = some "VERIFIED") ∧
      (latest c.world.decisions i = some .reject → l.status ≠ .approved) := by
  have hstart : licences.Sound licensing ⟨s, []⟩ := ⟨hs, nofun⟩
  have hsound := (licences_hold.run hstart hrun).1.1
  intro i l hl
  exact ⟨(hsound.licences i l hl).verified, (hsound.licences i l hl).rejected⟩

/-! ## A decision and an answer at the same time -/

/-- A rider without licences. -/
def oneRider : State := { riderProfile := Table.empty.create { userId := 7 } }

/-- The rider of the example has no licences. -/
theorem oneRider_sound : Sound oneRider where
  licences _ l hl := absurd (show (none : Option RiderLicence) = some l from hl) (Option.some_ne_none l).symm
  known _ hd := absurd hd List.not_mem_nil

/-- A licence is verified, reviewed twice, and asked for again. -/
def riderRequests : List (Request Unit) :=
  [verifyDriverLicense 7 ⟨"AAA00000AA00", "DL-VERIFY-001"⟩ false, reviewRiderLicence 1 .approve,
    reviewRiderLicence 1 .reject, syncDriverLicenseRequest 7 "DL-IDENTRO-001"]

/-- The requests of the example can be made. -/
theorem riderRequests_start : ∀ p ∈ riderRequests, licensing.starts p := by
  intro p hp
  simp only [riderRequests, List.mem_cons, List.not_mem_nil, or_false] at hp
  rcases hp with rfl | rfl | rfl | rfl
  · exact .verifyDriverLicense _ _ _
  · exact .reviewRiderLicence _ _
  · exact .reviewRiderLicence _ _
  · exact .syncDriverLicenseRequest _ _

/-- The provider answers with a status. -/
def answers (providerStatus : String) (i : ℕ) : ℕ × Env :=
  (i, { identro := .ok { identroReference := some "DL-IDENTRO-001", identroStatus := some providerStatus } })

/-- The licence is verified, and then the other requests go on in some order. -/
def verifiedThen (providerStatus : String) (order : List ℕ) : List (ℕ × Env) :=
  [0, 0, 0, 0, 0].map (answers "VERIFIED") ++ order.map (answers providerStatus)

/-- A licence that the provider has failed in the meantime is approved. -/
theorem licence_approved_unverified :
    ¬∀ (s : State) (c : Config Op Error State), Sound s → licensing.Run System.anyOp ⟨s, []⟩ c →
      ∀ i l, c.world.riderLicence.find i = some l →
        (l.provider.isSome → l.status = .approved → l.providerStatus = some "VERIFIED") ∧
        (latest c.world.decisions i = some .reject → l.status ≠ .approved) := by
  intro h
  -- Staff look, the provider takes its answer back, and staff approve.
  have hrun := licensing.schedule_run (s := oneRider) riderRequests_start (verifiedThen "FAILED" [1, 3, 3, 3, 3, 1])
  have hstate : ((licensing.follow ⟨oneRider, riderRequests⟩
      (verifiedThen "FAILED" [1, 3, 3, 3, 3, 1])).world.riderLicence.find 1).map
        (fun l => (l.provider.isSome, l.status, l.providerStatus)) = some (true, .approved, some "FAILED") := by
    decide +kernel
  obtain ⟨l, hl, hfields⟩ := Option.map_eq_some_iff.mp hstate
  obtain ⟨hprovider, hfields⟩ := Prod.mk.inj hfields
  obtain ⟨hstatus, hfailed⟩ := Prod.mk.inj hfields
  have hverified := (h oneRider _ oneRider_sound hrun 1 l hl).1 hprovider hstatus
  rw [hfailed] at hverified
  revert hverified
  decide

/-- A licence that staff have rejected stays so when they reject it after the provider has been asked again. -/
theorem licence_rejected_at_last :
    ∃ l, (licensing.follow ⟨oneRider, riderRequests⟩
        (verifiedThen "VERIFIED" [3, 3, 3, 3, 1, 1, 2, 2])).world.riderLicence.find 1 = some l ∧
      l.status ≠ .approved := by
  have hallows : licensing.allows (fun op _ c => op.heeds c.world) ⟨oneRider, riderRequests⟩
      (verifiedThen "VERIFIED" [3, 3, 3, 3, 1, 1, 2, 2]) := by decide +kernel
  have hrun : licensing.Run (fun op _ c => op.heeds c.world) ⟨oneRider, []⟩ _ :=
    (licensing.start_all_run riderRequests_start).trans (licensing.follow_run_of hallows)
  have hsome : ((licensing.follow ⟨oneRider, riderRequests⟩
      (verifiedThen "VERIFIED" [3, 3, 3, 3, 1, 1, 2, 2])).world.riderLicence.find 1).isSome := by decide +kernel
  obtain ⟨l, hl⟩ := Option.isSome_iff_exists.mp hsome
  have hrejected : latest (licensing.follow ⟨oneRider, riderRequests⟩
      (verifiedThen "VERIFIED" [3, 3, 3, 3, 1, 1, 2, 2])).world.decisions 1 = some .reject := by decide +kernel
  exact ⟨l, hl, (approved_only_if_verified oneRider_sound hrun 1 l hl).2 hrejected⟩

end Superstore.Licences
