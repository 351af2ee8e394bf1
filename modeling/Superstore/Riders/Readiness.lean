import Mathlib.Data.List.Forall2
import Mathlib.Data.List.Perm.Basic

/-!
# The readiness of a rider

What a rider's application still lacks is computed from lists of evidence. All searches in them
but one ask whether there is any record of a kind. The identity document is the first one that has
a number, so that its status depends on the order of the documents. It is shown for which riders
the assessment depends on the evidence alone.
-/

namespace Superstore.Riders

/-- How a piece of evidence has been reviewed. -/
inductive ReviewStatus
  | pending | approved | rejected | expired
  deriving DecidableEq

/-- A document of a rider. -/
structure Document where
  type : String
  documentNumber : Option String
  status : ReviewStatus
  deriving DecidableEq

/-- A driving licence of a rider. -/
structure Licence where
  number : Option String := none
  documentUrl : Option String := none
  status : ReviewStatus
  deriving DecidableEq

/-- A liveness check of a rider. -/
structure LivenessRecord where
  status : ReviewStatus
  deriving DecidableEq

/-- A document of a vehicle. -/
structure VehicleDocument where
  type : String
  status : ReviewStatus
  deriving DecidableEq

/-- A vehicle of a rider. -/
structure Vehicle where
  type : String
  photoUrl : Option String
  status : Option String
  documents : List VehicleDocument
  deriving DecidableEq

/-- The profile of a rider, as far as it is assessed. -/
structure RiderReadinessSnapshot where
  areaOfOperation : Option String
  emergencyContactName : Option String
  emergencyContactPhone : Option String
  onboardingStatus : String
  documents : List Document
  licences : List Licence
  liveness : List LivenessRecord
  vehicles : List Vehicle

/-- What a rider may lack. -/
inductive Requirement
  | areaOfOperation | identityDocument | livenessSession | vehicle | vehiclePhoto | emergencyContact
  | driverLicenseDocument | vehicleRegistration | approvedIdentity | approvedLiveness
  | operationallyApprovedVehicle
  deriving DecidableEq

/-- The types of documents that prove an identity. -/
def identityTypes : List String :=
  ["NIN", "NIN_SLIP", "NATIONAL_ID", "DRIVERS_LICENSE", "INTERNATIONAL_PASSPORT", "VOTERS_CARD"]

/-- The types of vehicles without a motor. -/
def nonMotorizedTypes : List String := ["BICYCLE", "FOOT", "WALKER"]

/-- A text that is there and not empty. -/
def truthy (text : Option String) : Bool := text.any (· != "")

/-- A requirement that is missing under a condition. -/
def missingIf (c : Bool) (r : Requirement) : List Requirement := if c then [r] else []

section Assessment

variable (toUpperCase trim : String → String)

/-- A document that proves an identity by its number. -/
def Document.isIdentity (d : Document) : Bool :=
  identityTypes.contains (toUpperCase d.type) && truthy d.documentNumber

/-- A vehicle with a motor. -/
def Vehicle.motorized (v : Vehicle) : Bool := !nonMotorizedTypes.contains (toUpperCase v.type)

/-- A licence of which something has been handed in. -/
def Licence.evidence (l : Licence) : Bool := truthy l.documentUrl || truthy l.number

/-- A vehicle that may be used for deliveries. -/
def Vehicle.operational (verifiedLicence : Bool) (v : Vehicle) : Bool :=
  truthy v.photoUrl && v.status == some "APPROVED" &&
    (!v.motorized toUpperCase ||
      (v.documents.any (fun d => d.status == .approved && toUpperCase d.type == "VEHICLE_REGISTRATION") &&
        verifiedLicence))

namespace RiderReadinessSnapshot

variable (p : RiderReadinessSnapshot)

/-- The first numbered identity document. -/
def identity : Option Document := p.documents.find? (·.isIdentity toUpperCase)

/-- Whether a licence has been approved. -/
def verifiedLicence : Bool := (p.licences.find? (·.status == .approved)).isSome

/-- Whether anything of a licence has been handed in. -/
def licenceEvidence : Bool := (p.licences.find? (·.evidence)).isSome

/-- Whether there is a vehicle with a motor. -/
def hasMotorizedVehicle : Bool := p.vehicles.any (·.motorized toUpperCase)

/-- Whether the registration of a vehicle has been handed in. -/
def hasRegistration : Bool :=
  p.vehicles.any fun v => v.documents.any fun d => toUpperCase d.type == "VEHICLE_REGISTRATION"

/-- What an application lacks. -/
def missingApplicationRequirements : List Requirement :=
  missingIf (!truthy (p.areaOfOperation.map trim)) .areaOfOperation ++
  missingIf (!(p.identity toUpperCase).isSome && !p.licenceEvidence) .identityDocument ++
  missingIf p.liveness.isEmpty .livenessSession ++
  missingIf p.vehicles.isEmpty .vehicle ++
  missingIf (!p.vehicles.isEmpty && !p.vehicles.any (truthy ·.photoUrl)) .vehiclePhoto ++
  missingIf (!truthy (p.emergencyContactName.map trim) || !truthy (p.emergencyContactPhone.map trim))
    .emergencyContact ++
  missingIf (p.hasMotorizedVehicle toUpperCase && !p.licenceEvidence) .driverLicenseDocument ++
  missingIf (p.hasMotorizedVehicle toUpperCase && !p.hasRegistration toUpperCase) .vehicleRegistration

/-- Whether the identity of a rider has been approved. -/
def identityApproved : Bool :=
  (p.identity toUpperCase).any (·.status == .approved) || p.verifiedLicence

/-- What a rider lacks for deliveries. -/
def missingOperationalRequirements : List Requirement :=
  p.missingApplicationRequirements toUpperCase trim ++
  missingIf (!p.identityApproved toUpperCase) .approvedIdentity ++
  missingIf (!p.liveness.any (·.status == .approved)) .approvedLiveness ++
  missingIf (!p.vehicles.isEmpty && !p.vehicles.any (·.operational toUpperCase p.verifiedLicence))
    .operationallyApprovedVehicle

end RiderReadinessSnapshot

/-- An assessment of a rider. -/
structure Readiness where
  canSubmit : Bool
  canAcceptDeliveries : Bool
  missingApplicationRequirements : List Requirement
  missingOperationalRequirements : List Requirement

/-- Assess a rider. -/
def assessRiderReadiness (p : RiderReadinessSnapshot) : Readiness where
  canSubmit := (p.missingApplicationRequirements toUpperCase trim).isEmpty &&
    !(["UNDER_REVIEW", "APPROVED", "SUSPENDED"].contains p.onboardingStatus)
  canAcceptDeliveries := p.onboardingStatus == "APPROVED" &&
    (p.missingOperationalRequirements toUpperCase trim).isEmpty
  missingApplicationRequirements := (p.missingApplicationRequirements toUpperCase trim).eraseDups
  missingOperationalRequirements := (p.missingOperationalRequirements toUpperCase trim).eraseDups

end Assessment

/-! ## Evidence in another order -/

/-- A vehicle with its documents in another order. -/
def Vehicle.Shuffled (v w : Vehicle) : Prop :=
  ∃ documents, v.documents.Perm documents ∧ w = { v with documents := documents }

/-- A rider with the evidence in another order, the documents of the vehicles included. -/
structure Shuffled (p q : RiderReadinessSnapshot) : Prop where
  areaOfOperation : q.areaOfOperation = p.areaOfOperation
  emergencyContactName : q.emergencyContactName = p.emergencyContactName
  emergencyContactPhone : q.emergencyContactPhone = p.emergencyContactPhone
  onboardingStatus : q.onboardingStatus = p.onboardingStatus
  documents : p.documents.Perm q.documents
  licences : p.licences.Perm q.licences
  liveness : p.liveness.Perm q.liveness
  vehicles : ∃ vehicles, List.Forall₂ Vehicle.Shuffled p.vehicles vehicles ∧ vehicles.Perm q.vehicles

/-- A rider with one more approved piece of evidence, anywhere among the others. -/
inductive Adds (p : RiderReadinessSnapshot) : RiderReadinessSnapshot → Prop
  | document {before after : List Document} {d : Document} (happroved : d.status = .approved)
      (hp : p.documents = before ++ after) :
      Adds p { p with documents := before ++ d :: after }
  | licence {before after : List Licence} {l : Licence} (happroved : l.status = .approved)
      (hp : p.licences = before ++ after) :
      Adds p { p with licences := before ++ l :: after }
  | liveness {before after : List LivenessRecord} {l : LivenessRecord} (happroved : l.status = .approved)
      (hp : p.liveness = before ++ after) :
      Adds p { p with liveness := before ++ l :: after }


/-! ## Searches for any record -/

/-- A requirement is missing under its condition. -/
theorem mem_missingIf {c : Bool} {r s : Requirement} : r ∈ missingIf c s ↔ c = true ∧ r = s := by
  unfold missingIf
  split <;> simp_all

/-- Related lists agree on whether any of their elements has a property that related elements share. -/
theorem any_of_forall₂ {α : Type} {R : α → α → Prop} {f : α → Bool} (hf : ∀ a b, R a b → f b = f a)
    {l l' : List α} (h : List.Forall₂ R l l') : l'.any f = l.any f := by
  induction h with
  | nil => rfl
  | cons hab _ ih => rw [List.any_cons, List.any_cons, hf _ _ hab, ih]

section Shuffled

variable {toUpperCase : String → String} {p q : RiderReadinessSnapshot}

/-- The documents of a vehicle count in whichever order they come. -/
theorem Vehicle.Shuffled.any_eq {v w : Vehicle} (h : v.Shuffled w) (f : VehicleDocument → Bool) :
    w.documents.any f = v.documents.any f := by
  obtain ⟨documents, hperm, rfl⟩ := h
  exact hperm.symm.any_eq

/-- A vehicle is operational in whichever order its documents come. -/
theorem Vehicle.Shuffled.operational_eq {v w : Vehicle} (h : v.Shuffled w) (verified : Bool) :
    w.operational toUpperCase verified = v.operational toUpperCase verified := by
  unfold Vehicle.operational
  rw [h.any_eq]
  obtain ⟨documents, _, rfl⟩ := h
  rfl

/-- The photo of a vehicle does not depend on the order of its documents. -/
theorem Vehicle.Shuffled.photoUrl_eq {v w : Vehicle} (h : v.Shuffled w) : w.photoUrl = v.photoUrl := by
  obtain ⟨documents, _, rfl⟩ := h
  rfl

/-- Whether a vehicle is motorized does not depend on the order of its documents. -/
theorem Vehicle.Shuffled.motorized_eq {v w : Vehicle} (h : v.Shuffled w) :
    w.motorized toUpperCase = v.motorized toUpperCase := by
  obtain ⟨documents, _, rfl⟩ := h
  rfl

/-- The vehicles count in whichever order they come. -/
theorem Shuffled.vehicles_any (h : Shuffled p q) {f : Vehicle → Bool} (hf : ∀ v w, v.Shuffled w → f w = f v) :
    q.vehicles.any f = p.vehicles.any f := by
  obtain ⟨vehicles, hdocuments, hperm⟩ := h.vehicles
  rw [← hperm.any_eq, any_of_forall₂ hf hdocuments]

/-- Whether there are vehicles does not depend on their order. -/
theorem Shuffled.vehicles_isEmpty (h : Shuffled p q) : q.vehicles.isEmpty = p.vehicles.isEmpty := by
  obtain ⟨vehicles, hdocuments, hperm⟩ := h.vehicles
  rw [← hperm.isEmpty_eq]
  generalize p.vehicles = vs at hdocuments
  cases hdocuments <;> rfl

/-- Whether a licence is verified does not depend on the order of the licences. -/
theorem Shuffled.verifiedLicence (h : Shuffled p q) : q.verifiedLicence = p.verifiedLicence := by
  unfold RiderReadinessSnapshot.verifiedLicence
  rw [List.isSome_find?, List.isSome_find?, h.licences.any_eq]

/-- Whether a licence is shown does not depend on the order of the licences. -/
theorem Shuffled.licenceEvidence (h : Shuffled p q) : q.licenceEvidence = p.licenceEvidence := by
  unfold RiderReadinessSnapshot.licenceEvidence
  rw [List.isSome_find?, List.isSome_find?, h.licences.any_eq]

/-- Whether there is a document of identity does not depend on the order of the documents. -/
theorem Shuffled.identity_isSome (h : Shuffled p q) :
    (q.identity toUpperCase).isSome = (p.identity toUpperCase).isSome := by
  unfold RiderReadinessSnapshot.identity
  rw [List.isSome_find?, List.isSome_find?, h.documents.any_eq]

/-- What an application lacks does not depend on the order of the evidence. -/
theorem Shuffled.missingApplicationRequirements (h : Shuffled p q) (trim : String → String) :
    q.missingApplicationRequirements toUpperCase trim = p.missingApplicationRequirements toUpperCase trim := by
  have hphoto : q.vehicles.any (truthy ·.photoUrl) = p.vehicles.any (truthy ·.photoUrl) :=
    h.vehicles_any fun v w hvw => by rw [hvw.photoUrl_eq]
  have hmotor : q.hasMotorizedVehicle toUpperCase = p.hasMotorizedVehicle toUpperCase :=
    h.vehicles_any fun v w hvw => hvw.motorized_eq
  have hregistration : q.hasRegistration toUpperCase = p.hasRegistration toUpperCase :=
    h.vehicles_any fun v w hvw => hvw.any_eq _
  unfold RiderReadinessSnapshot.missingApplicationRequirements
  rw [h.areaOfOperation, h.emergencyContactName, h.emergencyContactPhone, h.identity_isSome,
    h.licenceEvidence, ← h.liveness.isEmpty_eq, h.vehicles_isEmpty, hphoto, hmotor, hregistration]

/-- What a rider lacks for deliveries depends on the order of the evidence only as far as the
approval of the identity does. -/
theorem Shuffled.missingOperationalRequirements (h : Shuffled p q) (trim : String → String)
    (hidentity : q.identityApproved toUpperCase = p.identityApproved toUpperCase) :
    q.missingOperationalRequirements toUpperCase trim = p.missingOperationalRequirements toUpperCase trim := by
  have hvehicles : q.vehicles.any (·.operational toUpperCase p.verifiedLicence) =
      p.vehicles.any (·.operational toUpperCase p.verifiedLicence) :=
    h.vehicles_any fun v w hvw => hvw.operational_eq _
  unfold RiderReadinessSnapshot.missingOperationalRequirements
  rw [h.missingApplicationRequirements, hidentity, ← h.liveness.any_eq, h.vehicles_isEmpty,
    h.verifiedLicence, hvehicles]

end Shuffled

/-! ## The approval of an identity -/

section Identity

variable (toUpperCase : String → String)

/-- An identity document or a licence has been approved. -/
def RiderReadinessSnapshot.HasApprovedIdentity (p : RiderReadinessSnapshot) : Prop :=
  (∃ d ∈ p.documents, d.isIdentity toUpperCase ∧ d.status = .approved) ∨
    ∃ l ∈ p.licences, l.status = .approved

/-- A licence has been approved, or else the numbered identity documents have all been approved or
none of them has. -/
def RiderReadinessSnapshot.Uniform (p : RiderReadinessSnapshot) : Prop :=
  (∃ l ∈ p.licences, l.status = .approved) ∨
    (∀ d ∈ p.documents, d.isIdentity toUpperCase → d.status = .approved) ∨
    ∀ d ∈ p.documents, d.isIdentity toUpperCase → d.status ≠ .approved

variable {toUpperCase} {p q : RiderReadinessSnapshot}

/-- A licence is verified exactly if one of the licences is approved. -/
theorem verifiedLicence_iff : p.verifiedLicence = true ↔ ∃ l ∈ p.licences, l.status = .approved := by
  simp [RiderReadinessSnapshot.verifiedLicence]

/-- The document of identity is one of the documents. -/
theorem identity_eq_some {d : Document} (h : p.identity toUpperCase = some d) :
    d ∈ p.documents ∧ d.isIdentity toUpperCase :=
  ⟨List.mem_of_find?_eq_some h, List.find?_some h⟩

/-- Where the documents agree, an identity has been approved exactly when there is evidence of it. -/
theorem RiderReadinessSnapshot.Uniform.identityApproved_iff (h : p.Uniform toUpperCase) :
    p.identityApproved toUpperCase = true ↔ p.HasApprovedIdentity toUpperCase := by
  unfold RiderReadinessSnapshot.identityApproved RiderReadinessSnapshot.HasApprovedIdentity
  rw [Bool.or_eq_true, verifiedLicence_iff]
  constructor
  · rintro (hidentity | hlicence)
    · cases hd : p.identity toUpperCase with
      | none =>
        rw [hd] at hidentity
        cases hidentity
      | some d =>
        obtain ⟨hmem, hnumbered⟩ := identity_eq_some hd
        rw [hd, Option.any_some, beq_iff_eq] at hidentity
        exact .inl ⟨d, hmem, hnumbered, hidentity⟩
    · exact .inr hlicence
  · rintro (⟨d, hd, hnumbered, happroved⟩ | hlicence)
    · have hsome : (p.identity toUpperCase).isSome := List.find?_isSome.mpr ⟨d, hd, hnumbered⟩
      obtain ⟨first, hfirst⟩ := Option.isSome_iff_exists.mp hsome
      obtain ⟨hmem, hidentity⟩ := identity_eq_some hfirst
      rcases h with hlicence | hall | hnone
      · exact .inr hlicence
      · left
        rw [hfirst, Option.any_some, beq_iff_eq]
        exact hall first hmem hidentity
      · exact absurd happroved (hnone d hd hnumbered)
    · exact .inr hlicence

/-- A document that comes first decides, if it is a numbered identity document. -/
theorem identity_of_first {d : Document} {rest : List Document} (hd : d.isIdentity toUpperCase)
    (hp : p.documents = d :: rest) : p.identity toUpperCase = some d := by
  unfold RiderReadinessSnapshot.identity
  rw [hp, List.find?_cons_of_pos hd]

/-- The same evidence of an identity stays there in any other order. -/
theorem Shuffled.uniform (h : Shuffled p q) (hp : p.Uniform toUpperCase) : q.Uniform toUpperCase := by
  rcases hp with ⟨l, hl, happroved⟩ | hall | hnone
  · exact .inl ⟨l, h.licences.mem_iff.mp hl, happroved⟩
  · exact .inr (.inl fun d hd => hall d (h.documents.mem_iff.mpr hd))
  · exact .inr (.inr fun d hd => hnone d (h.documents.mem_iff.mpr hd))

/-- Whether an identity is approved does not depend on the order of the documents. -/
theorem Shuffled.hasApprovedIdentity (h : Shuffled p q) :
    q.HasApprovedIdentity toUpperCase ↔ p.HasApprovedIdentity toUpperCase := by
  unfold RiderReadinessSnapshot.HasApprovedIdentity
  simp only [h.documents.mem_iff, h.licences.mem_iff]

/-- Where the documents of identity are of one status, it does not matter which one comes first. -/
theorem Shuffled.identityApproved (h : Shuffled p q) (hp : p.Uniform toUpperCase) :
    q.identityApproved toUpperCase = p.identityApproved toUpperCase := by
  rw [Bool.eq_iff_iff, (h.uniform hp).identityApproved_iff, hp.identityApproved_iff, h.hasApprovedIdentity]

end Identity

/-! ## More evidence -/

section Adds

variable {toUpperCase : String → String} {p q : RiderReadinessSnapshot}

/-- A further document changes nothing, or it becomes the identity. -/
theorem identity_insert (toUpperCase : String → String) {before after : List Document} (d : Document)
    (hp : p.documents = before ++ after) :
    ({ p with documents := before ++ d :: after } : RiderReadinessSnapshot).identity toUpperCase =
        p.identity toUpperCase ∨
      ({ p with documents := before ++ d :: after } : RiderReadinessSnapshot).identity toUpperCase = some d := by
  unfold RiderReadinessSnapshot.identity
  rw [hp]
  dsimp only
  rw [List.find?_append, List.find?_append]
  cases before.find? (·.isIdentity toUpperCase) with
  | some first => exact .inl rfl
  | none =>
    by_cases hd : d.isIdentity toUpperCase
    · rw [List.find?_cons_of_pos hd]
      exact .inr rfl
    · rw [List.find?_cons_of_neg hd]
      exact .inl rfl

/-- What one of the elements has, one of more elements has. -/
theorem any_insert {α : Type} (f : α → Bool) {xs before after : List α} (a : α) (h : xs = before ++ after)
    (hf : xs.any f = true) : (before ++ a :: after).any f = true := by
  obtain ⟨x, hx, hfx⟩ := List.any_eq_true.mp hf
  refine List.any_eq_true.mpr ⟨x, ?_, hfx⟩
  rw [h] at hx
  exact List.mem_append.mpr ((List.mem_append.mp hx).imp_right (List.mem_cons_of_mem a))

/-- More evidence: nothing that was found before is missing now. -/
structure Improves (toUpperCase : String → String) (p q : RiderReadinessSnapshot) : Prop where
  areaOfOperation : q.areaOfOperation = p.areaOfOperation
  emergencyContactName : q.emergencyContactName = p.emergencyContactName
  emergencyContactPhone : q.emergencyContactPhone = p.emergencyContactPhone
  vehicles : q.vehicles = p.vehicles
  identity : (p.identity toUpperCase).isSome = true → (q.identity toUpperCase).isSome = true
  licenceEvidence : p.licenceEvidence = true → q.licenceEvidence = true
  liveness : q.liveness.isEmpty = true → p.liveness.isEmpty = true
  identityApproved : p.identityApproved toUpperCase = true → q.identityApproved toUpperCase = true
  verifiedLicence : p.verifiedLicence = true → q.verifiedLicence = true
  approvedLiveness : p.liveness.any (·.status == .approved) = true → q.liveness.any (·.status == .approved) = true

/-- More evidence is better evidence. -/
theorem Adds.improves (h : Adds p q) : Improves toUpperCase p q := by
  cases h with
  | @document before after d happroved hp =>
    have hinsert := identity_insert toUpperCase d hp
    refine ⟨rfl, rfl, rfl, rfl, fun h => ?_, id, id, fun h => ?_, id, id⟩
    · rcases hinsert with hsame | hnew
      · rw [hsame, h]
      · rw [hnew, Option.isSome_some]
    · unfold RiderReadinessSnapshot.identityApproved at h ⊢
      rcases hinsert with hsame | hnew
      · rw [hsame]
        exact h
      · rw [hnew, Option.any_some, beq_iff_eq.mpr happroved, Bool.true_or]
  | @licence before after l happroved hp =>
    have hverified : p.verifiedLicence = true →
        ({ p with licences := before ++ l :: after } : RiderReadinessSnapshot).verifiedLicence = true := fun h => by
      unfold RiderReadinessSnapshot.verifiedLicence at h ⊢
      rw [List.isSome_find?] at h ⊢
      exact any_insert _ _ hp h
    refine ⟨rfl, rfl, rfl, rfl, id, fun h => ?_, id, fun h => ?_, hverified, id⟩
    · unfold RiderReadinessSnapshot.licenceEvidence at h ⊢
      rw [List.isSome_find?] at h ⊢
      exact any_insert _ _ hp h
    · unfold RiderReadinessSnapshot.identityApproved at h ⊢
      rw [Bool.or_eq_true] at h ⊢
      exact h.imp_right hverified
  | liveness happroved hp =>
    refine ⟨rfl, rfl, rfl, rfl, id, id, fun h => ?_, id, id, any_insert _ _ hp⟩
    simp at h

/-- With more evidence, an application lacks nothing more. -/
theorem Improves.missingApplicationRequirements (h : Improves toUpperCase p q) (trim : String → String) :
    q.missingApplicationRequirements toUpperCase trim ⊆ p.missingApplicationRequirements toUpperCase trim := by
  have hmotor : q.hasMotorizedVehicle toUpperCase = p.hasMotorizedVehicle toUpperCase := by
    unfold RiderReadinessSnapshot.hasMotorizedVehicle
    rw [h.vehicles]
  have hregistration : q.hasRegistration toUpperCase = p.hasRegistration toUpperCase := by
    unfold RiderReadinessSnapshot.hasRegistration
    rw [h.vehicles]
  have hidentity := h.identity
  have hevidence := h.licenceEvidence
  intro r
  simp only [RiderReadinessSnapshot.missingApplicationRequirements, List.mem_append, mem_missingIf,
    h.areaOfOperation, h.emergencyContactName, h.emergencyContactPhone, h.vehicles, hmotor, hregistration]
  have hliveness := h.liveness
  grind

/-- With more evidence, a rider lacks nothing more for deliveries. -/
theorem Improves.missingOperationalRequirements (h : Improves toUpperCase p q) (trim : String → String) :
    q.missingOperationalRequirements toUpperCase trim ⊆ p.missingOperationalRequirements toUpperCase trim := by
  have hoperational : p.vehicles.any (·.operational toUpperCase p.verifiedLicence) = true →
      p.vehicles.any (·.operational toUpperCase q.verifiedLicence) = true := by
    intro hany
    obtain ⟨v, hv, hop⟩ := List.any_eq_true.mp hany
    refine List.any_eq_true.mpr ⟨v, hv, ?_⟩
    have hlicence := h.verifiedLicence
    unfold Vehicle.operational at hop ⊢
    grind
  have happlication := h.missingApplicationRequirements trim
  intro r
  simp only [RiderReadinessSnapshot.missingOperationalRequirements, List.mem_append, mem_missingIf, h.vehicles]
  have hidentity := h.identityApproved
  have hliveness := h.approvedLiveness
  have hsub := @happlication r
  grind

end Adds

/-! ## Readiness and evidence -/

/-- The assessment of a rider depends on the evidence and not on its order: in another order the same
requirements are missing, an approved identity is missing where there is no evidence of one, and more
evidence never adds a requirement. -/
structure DependsOnEvidence (toUpperCase trim : String → String) (p : RiderReadinessSnapshot) : Prop where
  shuffled : ∀ q, Shuffled p q → ∀ r,
    (r ∈ (assessRiderReadiness toUpperCase trim q).missingApplicationRequirements ↔
      r ∈ (assessRiderReadiness toUpperCase trim p).missingApplicationRequirements) ∧
    (r ∈ (assessRiderReadiness toUpperCase trim q).missingOperationalRequirements ↔
      r ∈ (assessRiderReadiness toUpperCase trim p).missingOperationalRequirements)
  identity : .approvedIdentity ∈ (assessRiderReadiness toUpperCase trim p).missingOperationalRequirements ↔
    (¬∃ d ∈ p.documents, d.isIdentity toUpperCase ∧ d.status = .approved) ∧
      ¬∃ l ∈ p.licences, l.status = .approved
  added : ∀ q, Adds p q →
    (assessRiderReadiness toUpperCase trim q).missingApplicationRequirements ⊆
      (assessRiderReadiness toUpperCase trim p).missingApplicationRequirements ∧
    (assessRiderReadiness toUpperCase trim q).missingOperationalRequirements ⊆
      (assessRiderReadiness toUpperCase trim p).missingOperationalRequirements

section Readiness

variable {toUpperCase trim : String → String} {p : RiderReadinessSnapshot}

/-- What is missing before deliveries is what one of the checks asks for. -/
theorem mem_missingOperational {r : Requirement} :
    r ∈ (assessRiderReadiness toUpperCase trim p).missingOperationalRequirements ↔
      r ∈ p.missingOperationalRequirements toUpperCase trim := List.mem_eraseDups

/-- What is missing in the application is what one of the checks asks for. -/
theorem mem_missingApplication {r : Requirement} :
    r ∈ (assessRiderReadiness toUpperCase trim p).missingApplicationRequirements ↔
      r ∈ p.missingApplicationRequirements toUpperCase trim := List.mem_eraseDups

/-- An approved identity is missing exactly when the first document and the licences show none. -/
theorem approvedIdentity_missing :
    .approvedIdentity ∈ (assessRiderReadiness toUpperCase trim p).missingOperationalRequirements ↔
      ¬p.identityApproved toUpperCase = true := by
  rw [mem_missingOperational]
  simp [RiderReadinessSnapshot.missingOperationalRequirements,
    RiderReadinessSnapshot.missingApplicationRequirements, mem_missingIf]

/-- The assessment of a rider depends on the evidence alone exactly when a licence has been approved, or
the numbered identity documents have all been approved or none of them has. -/
theorem readiness_depends_on_evidence :
    DependsOnEvidence toUpperCase trim p ↔ p.Uniform toUpperCase := by
  constructor
  · intro h
    by_contra hnot
    unfold RiderReadinessSnapshot.Uniform at hnot
    push Not at hnot
    obtain ⟨hlicence, ⟨d, hd, hnumbered, hbad⟩, e, he, henumbered, happroved⟩ := hnot
    -- With the document that is not approved in front, the approved one is not looked at.
    obtain ⟨before, after, hdocuments⟩ := List.append_of_mem hd
    let q : RiderReadinessSnapshot := { p with documents := d :: (before ++ after) }
    have hperm : p.documents.Perm q.documents := by
      rw [hdocuments]
      exact List.perm_middle
    have hshuffled : Shuffled p q :=
      ⟨rfl, rfl, rfl, rfl, hperm, .refl _, .refl _, p.vehicles, List.forall₂_same.mpr fun v _ =>
        ⟨_, .refl _, rfl⟩, .refl _⟩
    have hmissing : .approvedIdentity ∈
        (assessRiderReadiness toUpperCase trim q).missingOperationalRequirements := by
      rw [approvedIdentity_missing]
      unfold RiderReadinessSnapshot.identityApproved
      rw [identity_of_first (p := q) hnumbered rfl, Bool.or_eq_true, verifiedLicence_iff]
      simpa using ⟨hbad, hlicence⟩
    have hp := (h.identity.mp (((h.shuffled q hshuffled .approvedIdentity).2).mp hmissing)).1
    exact hp ⟨e, he, henumbered, happroved⟩
  · intro h
    refine ⟨fun q hq r => ?_, ?_, fun q hq => ⟨fun r => ?_, fun r => ?_⟩⟩
    · rw [mem_missingApplication, mem_missingApplication, mem_missingOperational, mem_missingOperational,
        hq.missingApplicationRequirements, hq.missingOperationalRequirements trim (hq.identityApproved h)]
      exact ⟨Iff.rfl, Iff.rfl⟩
    · rw [approvedIdentity_missing, h.identityApproved_iff, ← not_or]
      exact Iff.rfl
    · rw [mem_missingApplication, mem_missingApplication]
      exact fun hr => hq.improves.missingApplicationRequirements trim hr
    · rw [mem_missingOperational, mem_missingOperational]
      exact fun hr => hq.improves.missingOperationalRequirements trim hr

end Readiness

/-- A rider whose first identity document has been rejected and whose second one has been approved. -/
def secondTry : RiderReadinessSnapshot where
  areaOfOperation := some "Yaba"
  emergencyContactName := some "Ada"
  emergencyContactPhone := some "+2348000000000"
  onboardingStatus := "UNDER_REVIEW"
  documents := [⟨"NIN", some "11111111111", .rejected⟩, ⟨"VOTERS_CARD", some "90F5B1", .approved⟩]
  licences := []
  liveness := [⟨.approved⟩]
  vehicles := [⟨"BICYCLE", some "photo", some "APPROVED", []⟩]

/-- The approved document of this rider does not count. -/
theorem second_identity_ignored : ¬DependsOnEvidence String.toUpper id secondTry := by
  intro h
  have hmissing : Requirement.approvedIdentity ∈
      (assessRiderReadiness String.toUpper id secondTry).missingOperationalRequirements := by decide +kernel
  refine (h.identity.mp hmissing).1 ⟨⟨"VOTERS_CARD", some "90F5B1", .approved⟩, ?_, ?_, rfl⟩
  · exact List.mem_cons_of_mem _ List.mem_cons_self
  · decide +kernel

end Superstore.Riders
