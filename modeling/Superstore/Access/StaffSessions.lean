import Superstore.Access.Staff
import Superstore.Interleaving.Answers
import Superstore.Interleaving.Permits
import Superstore.Relational.Growth

/-!
# Sessions of the staff

Once a session has been closed it lets nobody in, whatever else is going on, and an account that is not active lets
nobody in either. A change of the password closes every session that is there. And what is done by the staff is
done for somebody whom the guard has let in, with a role that what is done asks for. -/

namespace Superstore.Staff

open Interleaving Relational

/-! ## Permissions of roles -/

/-- A role has the permissions that a route asks for. -/
def StaffRole.Grants (role : StaffRole) (required : Option (List String)) : Prop :=
  role = .superAdmin ∨ required.getD [] ⊆ getStaffPermissions role

/-- No permission of a role covers another one, except for the role that has them all. -/
theorem permissions_plain {role : StaffRole} (h : role ≠ .superAdmin) :
    ∀ c ∈ getStaffPermissions role, isWildcard c = false ∧ c ≠ "*" ∧ c ≠ "admin.*" := by
  cases role
  case superAdmin => exact absurd rfl h
  all_goals decide +kernel

/-- The keys of a role suffice for a permission exactly if the role has it, or has them all. -/
theorem grants_iff (role : StaffRole) (permission : String) :
    grants (getStaffPermissions role) permission = true ↔
      role = .superAdmin ∨ permission ∈ getStaffPermissions role := by
  by_cases hrole : role = .superAdmin
  · subst hrole
    simp [grants, getStaffPermissions, staffPermissions]
  · have hplain := permissions_plain hrole
    have hstar : "*" ∉ getStaffPermissions role := fun hmem => (hplain _ hmem).2.1 rfl
    have hadmin : "admin.*" ∉ getStaffPermissions role := fun hmem => (hplain _ hmem).2.2 rfl
    have hcovers : (getStaffPermissions role).any (covers · permission) = false := by
      rw [List.any_eq_false]
      intro c hc
      rw [covers, (hplain c hc).1, Bool.false_and]
      exact Bool.false_ne_true
    simp [grants, hstar, hadmin, hcovers, hrole]

/-- The guard of permissions lets through exactly those whose role has what a route asks for. -/
theorem hasPermissions_iff {actor : AuthenticatedStaff} {role : StaffRole}
    (h : actor.permissions = getStaffPermissions role) (required : Option (List String)) :
    hasPermissions required (some actor) = .ok () ↔ role.Grants required := by
  unfold hasPermissions
  split
  · next hempty =>
    have hnone : required.getD [] = [] := List.isEmpty_iff.mp hempty
    have hgrants : role.Grants required := by
      right
      rw [hnone]
      exact List.nil_subset _
    exact iff_of_true rfl hgrants
  · next hsome =>
    have hall : (required.getD []).all (grants actor.permissions) = true ↔ role.Grants required := by
      rw [List.all_eq_true, h]
      simp only [grants_iff]
      by_cases hrole : role = .superAdmin
      · simp [StaffRole.Grants, hrole]
      · simp [StaffRole.Grants, hrole, List.subset_def]
    split
    · next hchecked => exact iff_of_true rfl (hall.mp hchecked.2)
    · next hchecked => exact iff_of_false nofun fun hgrants => hchecked ⟨rfl, hall.mpr hgrants⟩

/-! ## What holds of sessions -/

/-- A session has been opened for an account. -/
def State.Opened (s : State) (staffId sessionId : ℕ) : Prop :=
  ∃ r, s.staffSession.find sessionId = some r ∧ r.staffUserId = staffId

/-- The guard has let somebody in who manages accounts. -/
def State.Manages (s : State) (staffId : ℕ) : Prop := ∃ a ∈ s.admissions, a.staffId = staffId ∧ a.role = .superAdmin

/-- The guard has let somebody in whose role has the permissions that a route asks for. -/
def State.Serves (s : State) (staffId : ℕ) (required : Option (List String)) : Prop :=
  ∃ a ∈ s.admissions, a.staffId = staffId ∧ a.role.Grants required

/-- The hash of the password of an account. -/
def State.passwordOf (s : State) (staffId : ℕ) : Option String :=
  (s.staffUser.find staffId).map StaffUser.passwordHash

/-- A session that has been revoked, or has expired by a time. -/
def StaffSession.Closed (r : StaffSession) (t : ℕ) : Prop := r.revokedAt.isSome ∨ r.expiresAt ≤ t

/-- What holds of sessions, of whom they have let in, and of what has been done for them, in every state. -/
structure Guarded (s : State) : Prop where
  owned : ∀ i r, s.staffSession.find i = some r → (s.staffUser.find r.staffUserId).isSome
  signed : ∀ t ∈ s.signed, s.Opened t.sub t.sid
  admitted : ∀ a ∈ s.admissions, s.Opened a.staffId a.sessionId
  audited : ∀ i l, s.auditLog.find i = some l → l.action ∈ staffActions → s.Manages l.staffActorId
  handled : ∀ h ∈ s.handled, s.Serves h.staffId h.required

/-- A session stays that of its account, expires when it did, and stays revoked. -/
structure StaffSession.Kept (r r' : StaffSession) : Prop where
  staffUserId : r'.staffUserId = r.staffUserId
  expiresAt : r'.expiresAt = r.expiresAt
  revoked : r.revokedAt.isSome → r'.revokedAt.isSome

/-- Staying a session is reflexive and transitive. -/
instance : IsPreorder StaffSession StaffSession.Kept where
  refl _ := ⟨rfl, rfl, id⟩
  trans _ _ _ h h' :=
    ⟨h'.staffUserId.trans h.staffUserId, h'.expiresAt.trans h.expiresAt, h'.revoked ∘ h.revoked⟩

/-- How the sessions of the staff change; they are revoked when the password of their account changes. -/
structure Later (s s' : State) : Prop where
  accounts : ∀ id, (s.staffUser.find id).isSome → (s'.staffUser.find id).isSome
  sessions : s.staffSession.Evolves StaffSession.Kept s'.staffSession
  password : ∀ i r r', s.staffSession.find i = some r → s'.staffSession.find i = some r' →
    s'.passwordOf r.staffUserId = s.passwordOf r.staffUserId ∨ r'.revokedAt.isSome
  admissions : s.admissions ⊆ s'.admissions

/-- Being a later state is reflexive and transitive. -/
instance : IsPreorder State Later where
  refl _ := ⟨fun _ => id, .refl _, fun _ _ _ _ _ => .inl rfl, List.Subset.refl _⟩
  trans s s' s'' h h' := by
    refine ⟨fun id hid => h'.accounts id (h.accounts id hid), h.sessions.trans h'.sessions,
      fun i r r'' hr hr'' => ?_,
      List.Subset.trans h.admissions h'.admissions⟩
    obtain ⟨r', hr', hkept⟩ := h.sessions i r hr
    have hpassword := h'.password i r' r'' hr' hr''
    rw [hkept.staffUserId] at hpassword
    rcases h.password i r r' hr hr' with hsame | hrevoked
    · exact hpassword.imp_left fun hsame' => hsame'.trans hsame
    · obtain ⟨r₀, hr₀, hkept'⟩ := h'.sessions i r' hr'
      obtain rfl := Option.some.inj (hr''.symm.trans hr₀)
      exact .inr (hkept'.revoked hrevoked)

/-- What a call relies on: that the account of a session is there, the session of a token or of somebody let in has
been opened, and what is done is done for one whose role allows it. -/
def Op.Grounded : {α : Type} → Op α → State → Prop
  | _, .createSession staffId, s => (s.staffUser.find staffId).isSome
  | _, .signToken staffId sessionId, s => s.Opened staffId sessionId
  | _, .letIn staffId sessionId, s => s.Opened staffId sessionId
  | _, .audit staffActorId action _, s => action ∈ staffActions → s.Manages staffActorId
  | _, .handle staffId required, s => s.Serves staffId required
  | _, _, _ => True

variable {s s' : State}

/-- A session that has been opened for an account stays that of the account. -/
theorem State.Opened.later {staffId sessionId : ℕ} (h : s.Opened staffId sessionId) (hlater : Later s s') :
    s'.Opened staffId sessionId := by
  obtain ⟨r, hr, hstaff⟩ := h
  obtain ⟨r', hr', hkept⟩ := hlater.sessions sessionId r hr
  exact ⟨r', hr', hkept.staffUserId.trans hstaff⟩

/-- Whoever has been let in to manage accounts has been so in every later state. -/
theorem State.Manages.later {staffId : ℕ} (h : s.Manages staffId) (hlater : Later s s') : s'.Manages staffId := by
  obtain ⟨a, ha, hadmitted⟩ := h
  exact ⟨a, hlater.admissions ha, hadmitted⟩

/-- Whoever has been let in for a route has been so in every later state. -/
theorem State.Serves.later {staffId : ℕ} {required : Option (List String)} (h : s.Serves staffId required)
    (hlater : Later s s') : s'.Serves staffId required := by
  obtain ⟨a, ha, hadmitted⟩ := h
  exact ⟨a, hlater.admissions ha, hadmitted⟩

/-- A closed session stays closed. -/
theorem Later.closed (hlater : Later s s') {i t : ℕ} (h : ∃ r, s.staffSession.find i = some r ∧ r.Closed t) :
    ∃ r, s'.staffSession.find i = some r ∧ r.Closed t := by
  obtain ⟨r, hr, hclosed⟩ := h
  obtain ⟨r', hr', hkept⟩ := hlater.sessions i r hr
  exact ⟨r', hr', hclosed.imp hkept.revoked fun hexpired => hkept.expiresAt.trans_le hexpired⟩

/-! ## Calls -/

/-- What one call adds to a state: every entry that is new is right where it is made. -/
structure Added (s s' : State) : Prop where
  accounts : ∀ id, (s.staffUser.find id).isSome → (s'.staffUser.find id).isSome
  sessions : s.staffSession.Grows (fun r => (s.staffUser.find r.staffUserId).isSome) StaffSession.Kept
    s'.staffSession
  password : ∀ i r r', s.staffSession.find i = some r → s'.staffSession.find i = some r' →
    s'.passwordOf r.staffUserId = s.passwordOf r.staffUserId ∨ r'.revokedAt.isSome
  signed : ∀ t ∈ s'.signed, t ∈ s.signed ∨ s.Opened t.sub t.sid
  admissions : s.admissions ⊆ s'.admissions
  admitted : ∀ a ∈ s'.admissions, a ∈ s.admissions ∨ s.Opened a.staffId a.sessionId
  audited : ∀ i l, s'.auditLog.find i = some l → l.action ∈ staffActions →
    s.auditLog.find i = some l ∨ s.Manages l.staffActorId
  handled : ∀ h ∈ s'.handled, h ∈ s.handled ∨ s.Serves h.staffId h.required

/-- Nothing is added where nothing changes. -/
theorem Added.refl (s : State) : Added s s where
  accounts _ := id
  sessions := .refl _
  password _ _ _ _ _ := .inl rfl
  signed _ := .inl
  admissions := List.Subset.refl _
  admitted _ := .inl
  audited _ _ hl _ := .inl hl
  handled _ := .inl

/-- Where everything new is right, what held before holds after, and sessions change as they should. -/
theorem Added.guarded (hadded : Added s s') (h : Guarded s) : Guarded s' ∧ Later s s' := by
  have hlater : Later s s' := ⟨hadded.accounts, hadded.sessions.kept, hadded.password, hadded.admissions⟩
  refine ⟨⟨?_, fun t ht => ?_, fun a ha => ?_, fun i l hl haction => ?_, fun d hd => ?_⟩, hlater⟩
  · have howned := hadded.sessions.forall h.owned (fun _ hr => hr) fun r r' hkept hr => by rwa [hkept.staffUserId]
    exact fun i r hr => hadded.accounts _ (howned i r hr)
  · exact ((hadded.signed t ht).elim (h.signed t) id).later hlater
  · exact ((hadded.admitted a ha).elim (h.admitted a) id).later hlater
  · exact ((hadded.audited i l hl haction).elim (fun hl => h.audited i l hl haction) id).later hlater
  · exact ((hadded.handled d hd).elim (h.handled d) id).later hlater

/-- Accounts that are entered or changed, with the password that they had. -/
theorem added_accounts (h : Guarded s) {t : Table StaffUser}
    (ht : ∀ id u, s.staffUser.find id = some u → ∃ u', t.find id = some u' ∧ u'.passwordHash = u.passwordHash) :
    Added s { s with staffUser := t } := by
  refine { Added.refl s with accounts := fun id hid => ?_, password := fun i r _ hr _ => .inl ?_ }
  · obtain ⟨u, hu⟩ := Option.isSome_iff_exists.mp hid
    obtain ⟨u', hu', -⟩ := ht id u hu
    exact Option.isSome_iff_exists.mpr ⟨u', hu'⟩
  · obtain ⟨u, hu⟩ := Option.isSome_iff_exists.mp (h.owned i r hr)
    obtain ⟨u', hu', hsame⟩ := ht _ u hu
    change (t.find r.staffUserId).map StaffUser.passwordHash = s.passwordOf r.staffUserId
    rw [State.passwordOf, hu, hu', Option.map_some, Option.map_some, hsame]

/-- An account that is changed, with the password that it had. -/
theorem added_account (h : Guarded s) (id : ℕ) {f : StaffUser → StaffUser}
    (hf : ∀ u, (f u).passwordHash = u.passwordHash) : Added s { s with staffUser := s.staffUser.update id f } := by
  refine added_accounts h fun i u hu => ?_
  rw [Table.find_update, hu]
  split
  · exact ⟨f u, rfl, hf u⟩
  · exact ⟨u, rfl, rfl⟩

/-- Sessions that are opened for accounts, or changed. -/
theorem added_sessions {t : Table StaffSession}
    (ht : s.staffSession.Grows (fun r => (s.staffUser.find r.staffUserId).isSome) StaffSession.Kept t) :
    Added s { s with staffSession := t } :=
  { Added.refl s with sessions := ht, password := fun _ _ _ _ _ => .inl rfl }

/-- A change of the password closes the sessions of the account. -/
theorem added_password (staffId now : ℕ) (f : StaffUser → StaffUser) :
    Added s { s with
      staffUser := s.staffUser.update staffId f
      staffSession := s.staffSession.updateMany (isOpenOf staffId) (StaffSession.revoked now) } := by
  refine { Added.refl s with
    accounts := fun id hid => ?_, sessions := .updateMany fun _ _ _ _ => ⟨rfl, rfl, fun _ => rfl⟩
    password := fun i r r' hr hr' => ?_ }
  · rw [Table.find_update]
    split
    · rw [Option.isSome_map]
      exact hid
    · exact hid
  · by_cases hid : r.staffUserId = staffId
    · right
      change (s.staffSession.updateMany _ _).find i = some r' at hr'
      rw [Table.find_updateMany, hr, Option.map_some, Option.some_inj] at hr'
      subst hr'
      cases hrevoked : r.revokedAt with
      | none =>
        rw [if_pos (by simp [isOpenOf, hid, hrevoked])]
        rfl
      | some t =>
        rw [if_neg (by simp [isOpenOf, hrevoked]), hrevoked]
        rfl
    · left
      change ((s.staffUser.update staffId f).find r.staffUserId).map StaffUser.passwordHash =
        s.passwordOf r.staffUserId
      rw [Table.find_update_of_ne _ _ hid, State.passwordOf]

/-- What every call adds is right. -/
theorem exec_added {α : Type} (op : Op α) (e : Env) (h : Guarded s) (hknown : op.Grounded s) :
    Added s (exec op e s).2 := by
  have hsame : Added s s := .refl s
  cases op with
  | now => exact hsame
  | findStaffByEmail email => exact hsame
  | findStaff id => exact hsame
  | comparePassword password passwordHash => exact hsame
  | hashPassword password => exact hsame
  | findSession id => exact hsame
  | createSession staffId =>
    simp only [exec]
    split
    · exact hsame
    · exact added_sessions (.create _ hknown)
  | signToken staffId sessionId =>
    refine { hsame with signed := fun t ht => ?_ }
    rcases List.mem_cons.mp ht with rfl | ht
    · exact .inr hknown
    · exact .inl ht
  | verifyToken token =>
    simp only [exec]
    split <;> exact hsame
  | touchSession id =>
    simp only [exec]
    split
    · exact added_sessions (.update fun r _ => ⟨rfl, rfl, fun hrevoked => hrevoked⟩)
    · exact hsame
  | letIn staffId sessionId =>
    simp only [exec]
    split
    · next u hu =>
      split
      · refine { hsame with admissions := List.subset_cons_self _ _, admitted := fun a ha => ?_ }
        rcases List.mem_cons.mp ha with rfl | ha
        · exact .inr hknown
        · exact .inl ha
      · exact hsame
    · exact hsame
  | noteLogin staffId =>
    simp only [exec]
    split
    · exact added_account h staffId fun _ => rfl
    · exact hsame
  | revokeSession id => exact added_sessions (.update fun r _ => ⟨rfl, rfl, fun _ => rfl⟩)
  | revokeSessions staffId => exact added_sessions (.updateMany fun _ _ _ _ => ⟨rfl, rfl, fun _ => rfl⟩)
  | changePassword staffId passwordHash =>
    simp only [exec]
    split
    · exact added_password staffId e.now _
    · exact hsame
  | createStaff row =>
    simp only [exec]
    split
    · exact hsame
    · exact added_accounts h fun id u hu => ⟨u, Table.find_create_of_find row hu, rfl⟩
  | updateStaff id dto =>
    simp only [exec]
    split
    · split
      · exact hsame
      · exact added_account h id fun _ => rfl
    · exact hsame
  | deactivateStaff id =>
    simp only [exec]
    split
    · exact added_account h id fun _ => rfl
    · exact hsame
  | audit staffActorId action entityId =>
    refine { hsame with audited := fun i l hl haction => ?_ }
    change (s.auditLog.create _).find i = some l at hl
    rw [Table.find_create] at hl
    split at hl
    · obtain rfl := Option.some.inj hl
      exact .inr (hknown haction)
    · exact .inl hl
  | sendTemplate email =>
    simp only [exec]
    split <;> exact hsame
  | handle staffId required =>
    refine { hsame with handled := fun d hd => ?_ }
    rcases List.mem_cons.mp hd with rfl | hd
    · exact .inr hknown
    · exact .inl hd

/-- What other code does adds nothing of the staff's. -/
theorem Outside.added (h : Outside s s') : Added s s' where
  accounts id hid := by rwa [h.staffUser]
  sessions := .of_eq h.staffSession
  password i r r' _ _ := by
    left
    rw [State.passwordOf, State.passwordOf, h.staffUser]
  signed t ht := .inl (h.signed ▸ ht)
  admissions := by
    rw [h.admissions]
    exact List.Subset.refl _
  admitted a ha := .inl (h.admissions ▸ ha)
  audited i l hl haction := .inl (h.auditLog i l hl haction)
  handled d hd := .inl (h.handled ▸ hd)

/-- What is kept of sessions, and of what is done for the staff. -/
def sessions : Contract Op State Env where
  inv := Guarded
  guar := Later
  known op s := op.Grounded s
  allowed _ _ _ := True
  refl := refl_of Later
  trans := trans_of Later

/-! ## Requests -/

/-- Calls that rely on something. -/
def Op.asks : {α : Type} → Op α → Bool
  | _, .createSession _ | _, .signToken _ _ | _, .letIn _ _ | _, .audit _ _ _ | _, .handle _ _ => true
  | _, _ => false

/-- A call that relies on nothing, or logs what is done for somebody. -/
def Op.LogsFor (staffId : ℕ) : {α : Type} → Op α → Prop
  | _, .audit staffActorId _ _ => staffActorId = staffId
  | _, op => op.asks = false

/-- What is done to an account is logged for whom it is done. -/
theorem create_logs (dto : CreateStaffUserDto) (temporaryPassword : String) (actorId : ℕ) :
    (create dto temporaryPassword actorId).All fun _ op => op.LogsFor actorId := by
  refine .bind ((Prog.all_call _).mpr rfl) fun existing => .bind (Prog.all_require _ _) fun _ => ?_
  refine .bind ((Prog.all_call _).mpr rfl) fun passwordHash => .bind ((Prog.all_call _).mpr rfl) fun id => ?_
  exact .bind ((Prog.all_call _).mpr rfl) fun _ => .bind ((Prog.all_call _).mpr rfl) fun _ => Prog.all_done _

/-- Looking up an account is logged for nobody. -/
theorem findOne_logs (id actorId : ℕ) : (findOne id).All fun _ op => op.LogsFor actorId :=
  .bind ((Prog.all_call _).mpr rfl) fun _ => Prog.all_orFail _ _

/-- A change of an account is logged for whom it is made. -/
theorem update_logs (id : ℕ) (dto : UpdateStaffUserDto) (actorId : ℕ) :
    (update id dto actorId).All fun _ op => op.LogsFor actorId := by
  refine .bind (findOne_logs id actorId) fun _ => .bind ((Prog.all_call _).mpr rfl) fun updated => ?_
  exact .bind ((Prog.all_call _).mpr rfl) fun _ => Prog.all_done _

/-- A deactivation is logged for whom it is made. -/
theorem deactivate_logs (id actorId : ℕ) : (deactivate id actorId).All fun _ op => op.LogsFor actorId := by
  refine .bind (Prog.all_require _ _) fun _ => .bind (findOne_logs id actorId) fun _ => ?_
  exact .bind ((Prog.all_call _).mpr rfl) fun _ => .bind ((Prog.all_call _).mpr rfl) fun _ =>
    (Prog.all_call _).mpr rfl

/-- A change of the own password relies on nothing. -/
theorem changePassword_quiet (staffId : ℕ) (currentPassword newPassword : String) :
    (changePassword staffId currentPassword newPassword).All fun _ op => op.asks = false := by
  refine .bind ((Prog.all_call _).mpr rfl) fun found => .bind (Prog.all_orFail _ _) fun staff => ?_
  refine .bind ((Prog.all_call _).mpr rfl) fun valid => .bind (Prog.all_require _ _) fun _ => ?_
  exact .bind (Prog.all_require _ _) fun _ => .bind ((Prog.all_call _).mpr rfl) fun _ => (Prog.all_call _).mpr rfl

/-- Every request makes sure of what is needed, where a login does, and the guard gives a fact about
whom it lets in. -/
theorem request_ready {C : Contract Op State Env} {F : AuthenticatedStaff → State → Prop}
    (hF : ∀ actor s s', C.guar s s' → F actor s → F actor s')
    (hknown : ∀ {β : Type} (op : Op β), op.asks = false → ∀ s, C.known op s)
    (hlogin : ∀ email password s, C.Ready machine (login email password) s)
    (hactivate : ∀ token s, C.Gives machine (canActivate token) F s)
    (haudit : ∀ actor action entityId s, F actor s → actor.role = .superAdmin →
      C.known (.audit actor.id action entityId) s)
    (hhandle : ∀ actor required s, F actor s → hasPermissions required (some actor) = .ok () →
      C.known (.handle actor.id required) s)
    {p : Request Unit} (h : StaffRequest p) (s : State) : C.Ready machine p s := by
  have hguarded {α : Type} (token : Token) {handler : AuthenticatedStaff → Request α}
      (hhandler : ∀ actor s, F actor s → C.Ready machine (handler actor) s) :
      C.Ready machine (guarded token handler) s :=
    (hactivate token s).ready fun actor s₁ hactor => .bind (hhandler actor s₁ hactor) fun _ _ => trivial
  have hmanaged {α : Type} (token : Token) {handler : AuthenticatedStaff → Request α}
      (hlogs : ∀ actor, (handler actor).All fun _ op => op.LogsFor actor.id) :
      C.Ready machine (managed token handler) s := by
    refine hguarded token fun actor s₁ hactor => .require_bind fun hrole => ?_
    refine .of_fact (hF actor) ((hlogs actor).imp fun _ op hop s₂ hs₂ => ?_) hactor
    cases op
    case audit staffActorId action entityId =>
      obtain rfl : staffActorId = actor.id := hop
      exact haudit actor action entityId s₂ hs₂ hrole
    all_goals exact hknown _ hop s₂
  cases h with
  | login email password => exact .bind (hlogin email password s) fun _ _ => trivial
  | logout token => exact hguarded token fun actor _ _ => .call fun s₁ _ _ => hknown _ rfl s₁
  | changePassword token currentPassword newPassword =>
    exact hguarded token fun actor s₁ _ => Contract.informed_of_all
      ((changePassword_quiet actor.id currentPassword newPassword).imp fun _ op hop => hknown op hop) s₁
  | create token dto temporaryPassword =>
    exact hmanaged token fun actor => create_logs dto temporaryPassword actor.id
  | findOne token id => exact hmanaged token fun actor => findOne_logs id actor.id
  | update token id dto => exact hmanaged token fun actor => update_logs id dto actor.id
  | deactivate token id => exact hmanaged token fun actor => deactivate_logs id actor.id
  | permitted token required =>
    refine hguarded token fun actor s₁ hactor => .done_bind fun answer hanswer => ?_
    exact .call fun s₂ hs₂ _ => hhandle actor required s₂ (hF actor _ _ hs₂ hactor) hanswer

/-- The guard has let somebody in, with the role and the permissions that are known of one. -/
def State.LetIn (s : State) (actor : AuthenticatedStaff) : Prop :=
  ⟨actor.id, actor.sessionId, actor.role⟩ ∈ s.admissions ∧ actor.permissions = getStaffPermissions actor.role

/-- A login opens a session for the account that it has found, and signs a token for it. -/
theorem login_ready (email password : String) (s : State) : sessions.Ready machine (login email password) s := by
  refine .call_bind (fun _ _ _ => trivial) fun e s₁ _ _ _ _ _ found hfound => .orFail_bind fun member hmember => ?_
  obtain rfl : s₁.staffUser.first _ = found := Except.ok.inj hfound
  obtain ⟨hfirst, -⟩ := Option.filter_eq_some_iff.mp hmember
  have hexists : (s₁.staffUser.find member.1).isSome := by
    rw [(Table.find_of_first hfirst).1]
    rfl
  refine .then (fun _ _ _ => trivial) fun valid s₂ hs₂ _ => .require_bind fun _ => .bind ?_ fun _ s₃ => ?_
  · refine .call_bind (fun s₃ hs₃ _ => hs₃.accounts _ (hs₂.accounts _ hexists))
      fun e₃ s₃ _ _ _ _ _ sessionId hcreated => ?_
    have hopened : (machine.exec (.createSession member.1) e₃ s₃).2.Opened member.1 sessionId := by
      simp only [machine, exec] at hcreated ⊢
      split at hcreated
      · cases hcreated
      · next hunique =>
        obtain rfl := Except.ok.inj hcreated
        rw [if_neg hunique]
        exact ⟨_, Table.find_create_self _ _, rfl⟩
    exact .then (fun s₄ hs₄ _ => hopened.later hs₄) fun _ _ _ _ => trivial
  · exact .then (fun _ _ _ => trivial) fun _ _ _ _ => trivial

/-- Whom the guard gives to a route has been let in. -/
theorem canActivate_gives (token : Token) (s : State) :
    sessions.Gives machine (canActivate token) (fun actor s' => s'.LetIn actor) s := by
  refine .attempt (.then (fun _ _ _ => trivial) fun payload s₁ _ _ => ?_) fun err s' => ?_
  · refine .bind (R := fun u s₂ => ⟨payload.sub, payload.sid, u.role⟩ ∈ s₂.admissions) ?_ fun u s₂ hu =>
      .pure ⟨hu, rfl⟩
    refine .call_bind (fun _ _ _ => trivial) fun e s₂ _ _ _ _ _ found hfound => ?_
    obtain rfl : s₂.staffSession.find payload.sid = found := Except.ok.inj hfound
    refine .then (fun _ _ _ => trivial) fun now s₃ hs₃ _ => .orFail_bind fun r hr => ?_
    obtain ⟨hfind, hchecked⟩ := Option.filter_eq_some_iff.mp hr
    simp only [Bool.and_eq_true, beq_iff_eq] at hchecked
    have hopened : s₂.Opened payload.sub payload.sid := ⟨r, hfind, hchecked.1.1⟩
    refine .then (fun _ _ _ => trivial) fun _ s₄ hs₄ _ => ?_
    refine .call_bind (fun s₅ hs₅ _ => ((hopened.later hs₃).later hs₄).later hs₅)
      fun e₅ s₅ _ _ _ _ _ staff hstaff => ?_
    refine .orFail fun u hu => ?_
    obtain ⟨rfl, hactive⟩ := Option.filter_eq_some_iff.mp hu
    simp only [machine, exec] at hstaff ⊢
    split at hstaff
    · next u' hu' =>
      obtain rfl := Option.some.inj (Except.ok.inj hstaff)
      rw [if_pos (of_decide_eq_true hactive)]
      exact List.mem_cons_self
    · cases hstaff
  · cases err <;> exact fun a hfail => by cases hfail

/-- Every request makes sure of what its calls rely on. -/
theorem sessions_ready {p : Request Unit} (h : StaffRequest p) (s : State) : sessions.Ready machine p s := by
  refine request_ready (F := fun actor s => s.LetIn actor) (fun actor s s' hlater hin => ?_) ?_ login_ready
    canActivate_gives (fun actor action entityId s hin hrole _ => ?_) (fun actor required s hin hchecked => ?_) h s
  · exact ⟨Later.admissions hlater hin.1, hin.2⟩
  · intro β op hop s
    cases op <;> trivial
  · exact ⟨_, hin.1, rfl, hrole⟩
  · exact ⟨_, hin.1, rfl, (hasPermissions_iff hin.2 required).mp hchecked⟩

/-- The requests of the staff keep the sessions guarded. -/
theorem sessions_holds : sessions.Holds staff where
  starts hp s _ := sessions_ready hp s
  performs op e _ hinv hknown _ := (exec_added op e hinv hknown).guarded hinv
  background h hinv := (Outside.added h).guarded hinv

/-! ## Sessions and accounts that let nobody in -/

/-- Whom a session has let in. -/
def State.admittedThrough (s : State) (i : ℕ) : List Admission := s.admissions.filter (·.sessionId = i)

/-- With which sessions an account has been let in. -/
def State.admittedAs (s : State) (k : ℕ) : List Admission := s.admissions.filter (·.staffId = k)

/-- A call that lets somebody in through a session. -/
def Op.admitsThrough (i : ℕ) : {α : Type} → Op α → Bool
  | _, .letIn _ sessionId => sessionId == i
  | _, _ => false

/-- A call that makes an account active again. -/
def Op.reactivates (k : ℕ) : {α : Type} → Op α → Bool
  | _, .updateStaff id dto => id == k && dto.status == some .active
  | _, _ => false

/-- A session that is closed at a time lets in nobody new. -/
def shut (i t : ℕ) (admitted : List Admission) : Contract Op State Env where
  inv s := (∃ r, s.staffSession.find i = some r ∧ r.Closed t) ∧ s.admittedThrough i = admitted
  guar _ _ := True
  known op _ := op.admitsThrough i = false
  allowed _ e _ := t ≤ e.now
  refl _ := trivial
  trans _ _ := trivial

/-- An account that is not active is not let in any more. -/
def barred (k : ℕ) (admitted : List Admission) : Contract Op State Env where
  inv s := (∃ u, s.staffUser.find k = some u ∧ u.status ≠ .active) ∧ s.admittedAs k = admitted
  guar _ _ := True
  known _ _ := True
  allowed op _ _ := op.reactivates k = false
  refl _ := trivial
  trans _ _ := trivial

/-- Only the guard lets somebody in: an account that is active, through a session. -/
theorem exec_admissions {α : Type} (op : Op α) (e : Env) (s : State) :
    (exec op e s).2.admissions = s.admissions ∨
      ∃ staffId sessionId u, s.staffUser.find staffId = some u ∧ u.status = .active ∧
        op.admitsThrough sessionId = true ∧
        (exec op e s).2.admissions = ⟨staffId, sessionId, u.role⟩ :: s.admissions := by
  cases op
  case letIn staffId sessionId =>
    simp only [exec]
    split
    · next u hu =>
      split
      · next hactive => exact .inr ⟨staffId, sessionId, u, hu, hactive, beq_self_eq_true _, rfl⟩
      · exact .inl rfl
    · exact .inl rfl
  case updateStaff id dto =>
    left
    simp only [exec]
    split
    · split <;> rfl
    · rfl
  all_goals
    left
    first
    | rfl
    | simp only [exec]
      split <;> rfl

/-- Whoever is let in shows among those of some kind only if they are of that kind. -/
theorem exec_filter {α : Type} (op : Op α) (e : Env) (s : State) {kind : Admission → Bool}
    (hkind : ∀ staffId sessionId u, s.staffUser.find staffId = some u → u.status = .active →
      op.admitsThrough sessionId = true → kind ⟨staffId, sessionId, u.role⟩ = false) :
    (exec op e s).2.admissions.filter kind = s.admissions.filter kind := by
  rcases exec_admissions op e s with hsame | ⟨staffId, sessionId, u, hu, hactive, hop, hcons⟩
  · rw [hsame]
  · rw [hcons, List.filter_cons_of_neg]
    rw [hkind staffId sessionId u hu hactive hop]
    exact Bool.false_ne_true

/-- A status other than active stays so, where nobody makes the account active. -/
theorem exec_status {α : Type} {op : Op α} {k : ℕ} (hop : op.reactivates k = false) (e : Env)
    (h : ∃ u, s.staffUser.find k = some u ∧ u.status ≠ .active) :
    ∃ u, (exec op e s).2.staffUser.find k = some u ∧ u.status ≠ .active := by
  obtain ⟨u, hu, hstatus⟩ := h
  have hupdate (id : ℕ) {f : StaffUser → StaffUser} (hf : id = k → (f u).status ≠ .active) :
      ∃ u', (s.staffUser.update id f).find k = some u' ∧ u'.status ≠ .active := by
    rw [Table.find_update, hu]
    split
    · next hid => exact ⟨f u, rfl, hf hid.symm⟩
    · exact ⟨u, rfl, hstatus⟩
  cases op
  case noteLogin staffId =>
    simp only [exec]
    split
    · exact hupdate staffId fun _ => hstatus
    · exact ⟨u, hu, hstatus⟩
  case changePassword staffId passwordHash =>
    simp only [exec]
    split
    · exact hupdate staffId fun _ => hstatus
    · exact ⟨u, hu, hstatus⟩
  case createStaff row =>
    simp only [exec]
    split
    · exact ⟨u, hu, hstatus⟩
    · exact ⟨u, Table.find_create_of_find row hu, hstatus⟩
  case updateStaff id dto =>
    simp only [exec]
    split
    · split
      · exact ⟨u, hu, hstatus⟩
      · refine hupdate id fun hid => ?_
        cases hnamed : dto.status with
        | none =>
          rw [StaffUser.updated, hnamed]
          exact hstatus
        | some status =>
          rw [StaffUser.updated, hnamed]
          intro hactive
          simp [Op.reactivates, hid, hnamed, show status = .active from hactive] at hop
    · exact ⟨u, hu, hstatus⟩
  case deactivateStaff id =>
    simp only [exec]
    split
    · exact hupdate id fun _ => nofun
    · exact ⟨u, hu, hstatus⟩
  all_goals
    first
    | exact ⟨u, hu, hstatus⟩
    | simp only [exec]
      split <;> first | exact ⟨u, hu, hstatus⟩ | (split <;> exact ⟨u, hu, hstatus⟩)

variable {i k t : ℕ} {admitted : List Admission}

/-- The guard does not let anybody in through a session that it has found closed. -/
theorem canActivate_shut (token : Token) (s : State) :
    (shut i t admitted).Gives machine (canActivate token) (fun _ _ => True) s := by
  refine .attempt (.then (fun _ _ _ => rfl) fun payload s₁ _ _ => ?_) fun err s' => ?_
  · refine .bind (R := fun _ _ => True) ?_ fun u s₂ _ => .pure trivial
    refine .call_bind (fun _ _ _ => rfl) fun e s₂ _ hinv _ _ _ found hfound => ?_
    obtain rfl : s₂.staffSession.find payload.sid = found := Except.ok.inj hfound
    refine .call_bind (fun _ _ _ => rfl) fun e₃ s₃ _ _ hlate _ _ now hnow => .orFail_bind fun r hr => ?_
    obtain rfl : e₃.now = now := Except.ok.inj hnow
    have hother : (payload.sid == i) = false := by
      rw [beq_eq_false_iff_ne]
      rintro rfl
      obtain ⟨⟨r', hr', hclosed⟩, -⟩ := hinv
      obtain ⟨hfind, hchecked⟩ := Option.filter_eq_some_iff.mp hr
      obtain rfl := Option.some.inj (hfind.symm.trans hr')
      simp only [Bool.and_eq_true, Option.isNone_iff_eq_none, decide_eq_true_eq] at hchecked
      rcases hclosed with hrevoked | hexpired
      · rw [hchecked.1.2] at hrevoked
        cases hrevoked
      · have hlate' : t ≤ e₃.now := hlate
        omega
    refine .then (fun _ _ _ => rfl) fun _ s₄ _ _ => .then (fun _ _ _ => hother) fun staff s₅ _ _ => ?_
    exact .orFail fun _ _ => trivial
  · cases err <;> exact fun a hfail => by cases hfail

/-- A login lets in nobody through a closed session. -/
theorem login_shut (email password : String) (s : State) :
    (shut i t admitted).Ready machine (login email password) s := by
  refine .then (fun _ _ _ => rfl) fun found s₁ _ _ => .orFail_bind fun member _ => ?_
  refine .then (fun _ _ _ => rfl) fun valid s₂ _ _ => .require_bind fun _ => .bind ?_ fun _ s₃ => ?_
  · exact .then (fun _ _ _ => rfl) fun _ _ _ _ => .then (fun _ _ _ => rfl) fun _ _ _ _ => trivial
  · exact .then (fun _ _ _ => rfl) fun _ _ _ _ => trivial

/-- No request lets anybody in through a session that it finds closed. -/
theorem shut_ready {p : Request Unit} (h : StaffRequest p) (s : State) :
    (shut i t admitted).Ready machine p s := by
  refine request_ready (F := fun _ _ => True) (fun _ _ _ _ _ => trivial) (fun op hop _ => ?_) login_shut
    canActivate_shut (fun _ _ _ _ _ _ => rfl) (fun _ _ _ _ _ => rfl) h s
  cases op <;> first | rfl | cases hop

/-- What requests find closed lets in nobody. -/
theorem shut_holds : (sessions.both (shut i t admitted)).Holds staff where
  starts hp s _ := ((sessions_ready hp s).both (shut_ready hp s)).mono fun _ _ _ => trivial
  performs op e s hinv hknown _ := by
    obtain ⟨hguarded, hlater⟩ := (exec_added op e hinv.1 hknown.1).guarded hinv.1
    refine ⟨⟨hguarded, hlater.closed hinv.2.1, ?_⟩, hlater, trivial⟩
    have hother : op.admitsThrough i = false := hknown.2
    rw [← hinv.2.2]
    refine exec_filter op e s fun staffId sessionId u _ _ hop => decide_eq_false fun hthrough => ?_
    have hadmits : op.admitsThrough i = true := hthrough ▸ hop
    rw [hother] at hadmits
    cases hadmits
  background h hinv := by
    obtain ⟨hguarded, hlater⟩ := (Outside.added h).guarded hinv.1
    refine ⟨⟨hguarded, hlater.closed hinv.2.1, ?_⟩, hlater, trivial⟩
    rw [State.admittedThrough, Outside.admissions h]
    exact hinv.2.2

/-- An account that is not active is not let in while nobody makes it active. -/
theorem barred_holds : (barred k admitted).Holds staff where
  starts _ s _ := Contract.informed_of_forall (fun _ _ => trivial) _ s
  performs op e s hinv _ hallowed := by
    refine ⟨⟨exec_status hallowed e hinv.1, ?_⟩, trivial⟩
    rw [← hinv.2]
    obtain ⟨⟨u', hu', hstatus⟩, -⟩ := hinv
    refine exec_filter op e s fun staffId sessionId u hu hactive _ => decide_eq_false fun hself => ?_
    have hself' : staffId = k := hself
    subst hself'
    obtain rfl := Option.some.inj (hu.symm.trans hu')
    exact hstatus hactive
  background h hinv := by
    rw [barred] at hinv ⊢
    refine ⟨⟨?_, ?_⟩, trivial⟩
    · rw [Outside.staffUser h]
      exact hinv.1
    · rw [State.admittedAs, Outside.admissions h]
      exact hinv.2

/-! ## Requests under way -/

/-- What calls can answer while a session is closed at a time. -/
def Op.AnswersWhenShut (i t : ℕ) : {α : Type} → Op α → Except Error α → Prop
  | _, .now, r => ∀ now, r = .ok now → t ≤ now
  | _, .findSession id, r => id = i → ∀ found, r = .ok (some found) → found.Closed t
  | _, _, _ => True

/-- Letting somebody in through a session takes a permit. -/
def entries (i : ℕ) (answers : ∀ β, Op β → Except Error β → Prop) : Permits Op Error State where
  debt s := (s.admittedThrough i).length
  cost op _ := if op.admitsThrough i then 1 else 0
  answers op r := answers _ op r

/-- What is done to accounts takes no permit. -/
theorem entries_free {answers : ∀ β, Op β → Except Error β → Prop} {α : Type} {op : Op α} {staffId : ℕ}
    (h : op.LogsFor staffId) (r : Except Error α) : (entries i answers).cost op r = 0 := by
  cases op <;> first | rfl | cases h

variable {answers : ∀ β, Op β → Except Error β → Prop} {n : ℤ}

/-- The guard needs one permit, unless what it has read tells it that the session is closed. -/
theorem canActivate_covered (hn : 0 ≤ n)
    (hopen : ∀ r now, answers _ (.findSession i) (.ok (some r)) → answers _ .now (.ok now) → ¬r.Closed now → 1 ≤ n)
    (token : Token) : (entries i answers).Covered n (canActivate token) := by
  refine .attempt_free (.free_bind hn (fun _ => rfl) fun payload => .bind_free ?_ fun _ => trivial) fun err => ?_
  · refine .answer_bind hn (fun _ => rfl) fun found hfound => .answer_bind hn (fun _ => rfl) fun now hnow => ?_
    refine .orFail_bind hn fun r hr => .free_bind hn (fun _ => rfl) fun _ => ?_
    obtain ⟨rfl, hchecked⟩ := Option.filter_eq_some_iff.mp hr
    have hcost : (if payload.sid == i then 1 else 0 : ℤ) ≤ n := by
      split
      · next hsid =>
        rw [beq_iff_eq] at hsid
        simp only [Bool.and_eq_true, Option.isNone_iff_eq_none, decide_eq_true_eq] at hchecked
        refine hopen r now (hsid ▸ hfound) hnow fun hclosed => ?_
        rcases hclosed with hrevoked | hexpired
        · rw [hchecked.1.2] at hrevoked
          cases hrevoked
        · omega
      · exact hn
    exact .call_bind hn (fun _ _ => .of_all (Int.sub_nonneg.mpr hcost) (Prog.all_orFail _ _)) fun _ _ => hcost
  · cases err <;> trivial

/-- A request needs as many permits as the guard does. -/
theorem request_covered (hn : 0 ≤ n) (hactivate : ∀ token, (entries i answers).Covered n (canActivate token))
    {p : Request Unit} (h : StaffRequest p) : (entries i answers).Covered n p := by
  have hquiet {β : Type} {q : Request β} (hq : q.All fun _ op => op.asks = false) :
      q.All fun _ op => ∀ r, (entries i answers).cost op r = 0 := by
    refine hq.imp fun _ op hop r => ?_
    cases op <;> first | rfl | cases hop
  have hguarded {β : Type} (token : Token) {handler : AuthenticatedStaff → Request β}
      (hhandler : ∀ actor, (handler actor).All fun _ op => ∀ r, (entries i answers).cost op r = 0) :
      (entries i answers).Covered n (guarded token handler) :=
    .bind_free (hactivate token) fun actor => .bind (hhandler actor) fun _ => trivial
  have hmanaged {β : Type} (token : Token) {handler : AuthenticatedStaff → Request β}
      (hlogs : ∀ actor, (handler actor).All fun _ op => op.LogsFor actor.id) :
      (entries i answers).Covered n (managed token handler) :=
    hguarded token fun actor => .bind (Prog.all_require _ _) fun _ => (hlogs actor).imp fun _ _ hop =>
      entries_free hop
  cases h with
  | login email password =>
    refine .of_all hn (.bind ?_ fun _ => trivial)
    refine .bind ((Prog.all_call _).mpr fun _ => rfl) fun found => .bind (Prog.all_orFail _ _) fun member => ?_
    refine .bind ((Prog.all_call _).mpr fun _ => rfl) fun valid => .bind (Prog.all_require _ _) fun _ =>
      .bind ?_ fun _ => ?_
    · exact .bind ((Prog.all_call _).mpr fun _ => rfl) fun _ =>
        .bind ((Prog.all_call _).mpr fun _ => rfl) fun _ => trivial
    · exact .bind ((Prog.all_call _).mpr fun _ => rfl) fun _ => trivial
  | logout token => exact hguarded token fun actor => (Prog.all_call _).mpr fun _ => rfl
  | changePassword token currentPassword newPassword =>
    exact hguarded token fun actor => hquiet (changePassword_quiet actor.id currentPassword newPassword)
  | create token dto temporaryPassword =>
    exact hmanaged token fun actor => create_logs dto temporaryPassword actor.id
  | findOne token id => exact hmanaged token fun actor => findOne_logs id actor.id
  | update token id dto => exact hmanaged token fun actor => update_logs id dto actor.id
  | deactivate token id => exact hmanaged token fun actor => deactivate_logs id actor.id
  | permitted token required =>
    exact hguarded token fun actor => .bind (Prog.all_done _) fun _ => (Prog.all_call _).mpr fun _ => rfl

/-- Any request lets in at most one, whatever its calls answer. -/
theorem once_covered {p : Request Unit} (h : StaffRequest p) : (entries i fun _ _ _ => True).Covered 1 p :=
  request_covered zero_le_one (canActivate_covered zero_le_one fun _ _ _ _ _ => le_rfl) h

/-- A request lets in nobody through a session that is closed before it starts. -/
theorem shut_covered {p : Request Unit} (h : StaffRequest p) :
    (entries i fun _ op r => op.AnswersWhenShut i t r).Covered 0 p := by
  refine request_covered le_rfl (canActivate_covered le_rfl fun r now hr hnow hopen => absurd ?_ hopen) h
  have hlate : t ≤ now := hnow now rfl
  exact (hr rfl r rfl).imp_right fun hexpired => hexpired.trans hlate

/-- While a session is closed, whoever is let in through it takes a permit. -/
theorem entries_holds : (entries i fun _ op r => op.AnswersWhenShut i t r).Holds staff fun _ e c =>
    t ≤ e.now ∧ ∃ r, c.world.staffSession.find i = some r ∧ r.Closed t where
  starts := shut_covered
  performs op e c h := by
    obtain ⟨hlate, r, hr, hclosed⟩ := h
    refine ⟨?_, ?_⟩
    · cases op
      case now =>
        intro now hnow
        obtain rfl := Except.ok.inj hnow
        exact hlate
      case findSession id =>
        rintro rfl found hfound
        have hfound' : c.world.staffSession.find id = some found := Except.ok.inj hfound
        obtain rfl := Option.some.inj (hr.symm.trans hfound')
        exact hclosed
      all_goals trivial
    · change (((exec op e c.world).2.admittedThrough i).length : ℤ) ≤
        (c.world.admittedThrough i).length + if op.admitsThrough i then 1 else 0
      rw [State.admittedThrough, State.admittedThrough]
      rcases exec_admissions op e c.world with hsame | ⟨staffId, sessionId, u, -, -, hop, hcons⟩
      · rw [hsame]
        split <;> omega
      · rw [hcons, List.filter_cons]
        split
        · next hthrough =>
          rw [decide_eq_true_eq] at hthrough
          rw [if_pos (hthrough ▸ hop), List.length_cons]
          omega
        · split <;> omega
  background h := by
    change ((State.admittedThrough _ i).length : ℤ) ≤ _
    rw [State.admittedThrough, Outside.admissions h]
    exact le_rfl

/-- Every request that is under way lets in at most one through a session, which may be closed by then. -/
theorem under_way_covered {s : State} {c : Config Op Error State} (hrun : staff.Run System.anyOp ⟨s, []⟩ c) :
    ∀ p ∈ c.threads, (entries i fun _ op r => op.AnswersWhenShut i t r).Covered 1 p := by
  have hcost {β : Type} (op : Op β) (r : Except Error β) : 0 ≤ (entries i fun _ _ _ => True).cost op r := by
    change (0 : ℤ) ≤ if op.admitsThrough i then 1 else 0
    split <;> omega
  have honce := Permits.Covered.under_way hcost (fun _ _ => trivial) (fun _ hp => once_covered hp) hrun
  intro p hp
  refine Permits.Covered.of_answers (fun _ _ => ?_) (fun _ _ _ => trivial) (honce p hp)
  rfl

/-- Through a session that is closed, the requests under way let in at most one each. -/
theorem admitted_under_way {c d : Config Op Error State} (hc : sessions.Sound staff c)
    (hcovered : ∀ p ∈ c.threads, (entries i fun _ op r => op.AnswersWhenShut i t r).Covered 1 p)
    (hclosed : ∃ r, c.world.staffSession.find i = some r ∧ r.Closed t)
    (hrun : staff.Run (fun _ e _ => t ≤ e.now) c d) :
    (d.world.admittedThrough i).length ≤ (c.world.admittedThrough i).length + c.threads.length := by
  have hstays : ∀ d : Config Op Error State, staff.Run (fun _ e _ => t ≤ e.now) c d →
      ∃ r, d.world.staffSession.find i = some r ∧ r.Closed t := by
    intro d hd
    obtain ⟨-, hlater⟩ := sessions_holds.run hc (System.Run.mono _ hd fun _ _ _ _ => trivial)
    exact Later.closed hlater hclosed
  have hwithin : ((d.world.admittedThrough i).length : ℤ) ≤
      (c.world.admittedThrough i).length + c.threads.length * 1 :=
    entries_holds.run_under_way hcovered (System.Run.and staff hrun hstays)
  omega

/-! ## Runs -/

/-- However requests interleave: what is done to accounts is done for somebody whom the guard has let in as one who
manages them, and what routes do, for somebody let in with a role that has the permissions; a session that is there
when the password of its account changes is revoked; a closed session lets in nobody for requests that come later,
and at most one for each request that was already under way; and an account that is not active is not let in until
somebody makes it active. -/
theorem staff_sessions {s : State} (hs : Guarded s) {c c' : Config Op Error State}
    (hrun : staff.Run System.anyOp ⟨s, []⟩ c) (hrun' : staff.Run System.anyOp c c') :
    (∀ i l, c.world.auditLog.find i = some l → l.action ∈ staffActions → c.world.Manages l.staffActorId) ∧
    (∀ d ∈ c.world.handled, c.world.Serves d.staffId d.required) ∧
    (∀ i r, c.world.staffSession.find i = some r →
      c'.world.passwordOf r.staffUserId ≠ c.world.passwordOf r.staffUserId →
        ∃ r', c'.world.staffSession.find i = some r' ∧ r'.revokedAt.isSome) ∧
    (∀ i r now, c.world.staffSession.find i = some r → r.Closed now → ∀ d : Config Op Error State,
      staff.Run (fun _ e _ => now ≤ e.now) ⟨c.world, []⟩ d →
        d.world.admittedThrough i = c.world.admittedThrough i) ∧
    (∀ i r now, c.world.staffSession.find i = some r → r.Closed now → ∀ d : Config Op Error State,
      staff.Run (fun _ e _ => now ≤ e.now) c d →
        (d.world.admittedThrough i).length ≤ (c.world.admittedThrough i).length + c.threads.length) ∧
    ∀ k u, c.world.staffUser.find k = some u → u.status ≠ .active → ∀ d : Config Op Error State,
      staff.Run (fun op _ _ => op.reactivates k = false) c d → d.world.admittedAs k = c.world.admittedAs k := by
  have hstart : sessions.Sound staff ⟨s, []⟩ := ⟨hs, nofun⟩
  obtain ⟨hsound, -⟩ := sessions_holds.run hstart (System.Run.mono _ hrun fun _ _ _ _ => trivial)
  have hinv : Guarded c.world := hsound.1
  refine ⟨hinv.audited, hinv.handled, fun i r hr hchanged => ?_, fun i r now hr hclosed d hlate => ?_,
    fun i r now hr hclosed d hlate => ?_, fun k u hu hstatus d hkept => ?_⟩
  · obtain ⟨-, hlater⟩ := sessions_holds.run hsound (System.Run.mono _ hrun' fun _ _ _ _ => trivial)
    obtain ⟨r', hr', -⟩ := Later.sessions hlater i r hr
    exact ⟨r', hr', (Later.password hlater i r r' hr hr').resolve_left hchanged⟩
  · have hshut : (sessions.both (shut i now (c.world.admittedThrough i))).Sound staff ⟨c.world, []⟩ :=
      ⟨⟨hinv, ⟨r, hr, hclosed⟩, rfl⟩, nofun⟩
    obtain ⟨⟨⟨-, -, hsame⟩, -⟩, -⟩ := shut_holds.run hshut (System.Run.mono _ hlate fun _ _ _ h => ⟨trivial, h⟩)
    exact hsame
  · exact admitted_under_way hsound (under_way_covered hrun) ⟨r, hr, hclosed⟩ hlate
  · have hbarred : (barred k (c.world.admittedAs k)).Sound staff c :=
      ⟨⟨⟨u, hu, hstatus⟩, rfl⟩, fun p _ => Contract.informed_of_forall (fun _ _ => trivial) p c.world⟩
    obtain ⟨⟨⟨-, hsame⟩, -⟩, -⟩ := barred_holds.run hbarred hkept
    exact hsame

/-! ## A login and a deactivation -/

/-- Two members of the staff, one of whom manages accounts. -/
def twoMembers : State where
  staffUser :=
    (Table.empty.create
      { email := "ada@purse.com", firstName := "Ada", lastName := "Obi", passwordHash := "h1"
        role := .superAdmin }).create
      { email := "ben@purse.com", firstName := "Ben", lastName := "Eze", passwordHash := "h2"
        role := .financeAdmin }

/-- The sessions of the example are guarded, since there are none. -/
theorem twoMembers_guarded : Guarded twoMembers where
  owned _ _ hr := by cases hr
  signed _ ht := by cases ht
  admitted _ ha := by cases ha
  audited _ _ hl _ := by cases hl
  handled _ hd := by cases hd

/-- Two logins, and what is done with their tokens. -/
def staffRequests : List (Request Unit) :=
  [login "ada@purse.com" "secret" >>= fun _ => pure (),
    managed ⟨1, 1, 900001⟩ fun actor => deactivate 2 actor.id,
    permitted ⟨1, 1, 900001⟩ (some ["orders.view"]),
    login "ben@purse.com" "secret" >>= fun _ => pure (),
    guarded ⟨1, 1, 900001⟩ fun actor => changePassword actor.id "secret" "better",
    permitted ⟨1, 1, 900001⟩ none,
    permitted ⟨2, 2, 900001⟩ none]

/-- The requests of the example can be made. -/
theorem staffRequests_start : ∀ p ∈ staffRequests, staff.starts p := by
  intro p hp
  simp only [staffRequests, List.mem_cons, List.not_mem_nil, or_false] at hp
  rcases hp with rfl | rfl | rfl | rfl | rfl | rfl | rfl
  · exact .login "ada@purse.com" "secret"
  · exact .deactivate ⟨1, 1, 900001⟩ 2
  · exact .permitted ⟨1, 1, 900001⟩ (some ["orders.view"])
  · exact .login "ben@purse.com" "secret"
  · exact .changePassword ⟨1, 1, 900001⟩ "secret" "better"
  · exact .permitted ⟨1, 1, 900001⟩ none
  · exact .permitted ⟨2, 2, 900001⟩ none

/-- The logins are over when the first two requests come, which take turns. -/
def staffTogether : List (ℕ × Env) :=
  List.replicate 5 (0, { now := 1, sessionTokenHash := "s1" }) ++
    List.replicate 5 (3, { now := 1, sessionTokenHash := "s2" }) ++
    (List.replicate 9 [(1, { now := 2 }), (2, { now := 2 })]).flatten

/-- A request has looked up its session when the password of the account changes. -/
def staffChanging : List (ℕ × Env) :=
  List.replicate 3 (5, { now := 3 }) ++ List.replicate 9 (4, { now := 3, passwordHash := "h3" })

/-- What each request still does later. -/
def staffLater (requests : List ℕ) : List (ℕ × Env) := requests.flatMap fun i => List.replicate 6 (i, { now := 4 })

/-- An account is deactivated by one who has been let in to manage accounts, and is not let in any more. A change
of the password closes the session: it lets in nobody for a new request, and somebody for the one that has looked
it up. -/
theorem staff_sessions_together :
    let c := staff.follow ⟨twoMembers, staffRequests⟩ staffTogether
    let c' := staff.follow c staffChanging
    (c.world.auditLog.find 1 = some ⟨1, "STAFF_USER_DEACTIVATED", 2⟩ ∧ c.world.Manages 1) ∧
      (c.world.handled = [⟨1, some ["orders.view"]⟩] ∧ c.world.Serves 1 (some ["orders.view"])) ∧
      (∃ r, c'.world.staffSession.find 1 = some r ∧ r.revokedAt.isSome) ∧
      (staff.follow ⟨c'.world, [permitted ⟨1, 1, 900001⟩ none]⟩ (staffLater [0])).world.admittedThrough 1 =
        c'.world.admittedThrough 1 ∧
      (c'.world.admittedThrough 1).length < ((staff.follow c' (staffLater [5])).world.admittedThrough 1).length ∧
      ((staff.follow c' (staffLater [5])).world.admittedThrough 1).length ≤
        (c'.world.admittedThrough 1).length + c'.threads.length ∧
      (staff.follow c (staffLater [6])).world.admittedAs 2 = c.world.admittedAs 2 := by
  intro c c'
  have hrun : staff.Run System.anyOp ⟨twoMembers, []⟩ c :=
    staff.schedule_run (s := twoMembers) staffRequests_start staffTogether
  have hrun' : staff.Run System.anyOp c c' := staff.follow_run c staffChanging
  obtain ⟨haudited, hhandled, hchanged, -, -, hbarred⟩ := staff_sessions twoMembers_guarded hrun hrun'
  obtain ⟨-, -, -, hnew, hunderWay, -⟩ := staff_sessions twoMembers_guarded (hrun.trans hrun') .refl
  have hlog : c.world.auditLog.find 1 = some ⟨1, "STAFF_USER_DEACTIVATED", 2⟩ := by decide +kernel
  have hdone : c.world.handled = [⟨1, some ["orders.view"]⟩] := by decide +kernel
  have howner : (c.world.staffSession.find 1).map (·.staffUserId) = some 1 := by decide +kernel
  have hstatus : (c.world.staffUser.find 2).map (·.status) = some .inactive := by decide +kernel
  have hpassword : c'.world.passwordOf 1 ≠ c.world.passwordOf 1 := by decide +kernel
  obtain ⟨r, hr, hof⟩ := Option.map_eq_some_iff.mp howner
  obtain ⟨u, hu, hinactive⟩ := Option.map_eq_some_iff.mp hstatus
  obtain ⟨r', hr', hrevoked⟩ := hchanged 1 r hr (hof.symm ▸ hpassword)
  have hlate (requests : List ℕ) : ∀ round ∈ staffLater requests, 4 ≤ round.2.now := by
    intro round hround
    obtain ⟨i, -, hi⟩ := List.mem_flatMap.mp hround
    rw [List.eq_of_mem_replicate hi]
  have hbetter : ∀ p ∈ [permitted ⟨1, 1, 900001⟩ none], staff.starts p := fun p hp =>
    List.mem_singleton.mp hp ▸ .permitted ⟨1, 1, 900001⟩ none
  refine ⟨⟨hlog, ?_⟩, ⟨hdone, ?_⟩, ⟨r', hr', hrevoked⟩, ?_, by decide +kernel, ?_, ?_⟩
  · exact haudited 1 _ hlog (by decide +kernel)
  · exact hhandled ⟨1, some ["orders.view"]⟩ (hdone ▸ List.mem_cons_self)
  · exact hnew 1 r' 4 hr' (.inl hrevoked) _
      ((staff.start_all_run hbetter).trans (staff.follow_run_env (Φ := fun e => 4 ≤ e.now) (hlate [0])))
  · exact hunderWay 1 r' 4 hr' (.inl hrevoked) _ (staff.follow_run_env (Φ := fun e => 4 ≤ e.now) (hlate [5]))
  · have hkept : staff.allows (fun op _ _ => !op.reactivates 2) c (staffLater [6]) = true := by decide +kernel
    refine hbarred 2 u hu (by simp [hinactive]) _
      (System.Run.mono _ (staff.follow_run_of hkept) fun op _ _ hop => ?_)
    simpa using hop

end Superstore.Staff
