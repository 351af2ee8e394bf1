import Superstore.Access.Auth
import Superstore.Interleaving.Answers

/-!
# Refresh tokens

A rotation replaces the hash that a token has been compared with, provided that it is still there. A new
hash has never been there before, so that a token is accepted once, and no two tokens of a session can
be accepted at the same time. A session that has been revoked or has expired is rotated no more.
-/

namespace Superstore.Auth

open Interleaving Relational

variable (cfg : Settings)

/-- The identifier that is taken at random for a rotation hashes to what no session has had. -/
def Op.takesFresh : {α : Type} → Op α → Env → State → Bool
  | _, .rotateSession _ _ _ _, e, s => !s.hashes.contains (hashRefreshIdentifier cfg e.identifier)
  | _, _, _, _ => true

/-- The tokens of a session that have been accepted. -/
def State.acceptedFor (s : State) (id : ℕ) : List RefreshToken := s.accepted.filter (·.sid = id)

/-- A session that has been revoked, or has expired by a time. -/
def AdminSession.Closed (r : AdminSession) (t : ℕ) : Prop := r.revokedAt.isSome ∨ r.expiresAt ≤ t

/-- What a token is compared with in a session. -/
def Matches (t : RefreshToken) (r : AdminSession) : Prop :=
  match t.jti with
  | some jti => r.sessionTokenHash = hashRefreshIdentifier cfg jti
  | none => r.refreshRotatedAt = none

/-- A token that would be accepted at a time. -/
def Acceptable (now : ℕ) (s : State) (t : RefreshToken) : Prop :=
  ∃ r, s.adminSession.find t.sid = some r ∧ r.userId = t.sub ∧ Matches cfg t r ∧ ¬r.Closed now

/-- A token that its session will never have the identifier of again. -/
def Spent (s : State) (t : RefreshToken) (r : AdminSession) : Prop :=
  match t.jti with
  | some jti => hashRefreshIdentifier cfg jti ∈ s.hashes ∧ r.sessionTokenHash ≠ hashRefreshIdentifier cfg jti
  | none => r.refreshRotatedAt.isSome

/-- What holds of sessions and their tokens in every state. -/
structure Guarded (s : State) : Prop where
  known : ∀ i r, s.adminSession.find i = some r → r.sessionTokenHash ∈ s.hashes
  rotated : ∀ t ∈ s.signed, ∀ r, s.adminSession.find t.sid = some r → t.jti.isSome → Matches cfg t r →
    r.refreshRotatedAt.isSome
  spent : ∀ t ∈ s.accepted, ∃ r, s.adminSession.find t.sid = some r ∧ Spent cfg s t r
  once : s.accepted.Nodup

/-- How a session changes: its hash stays, or becomes one that no session has had. -/
structure Renewed (t : ℕ) (s s' : State) (i : ℕ) (r r' : AdminSession) : Prop where
  kept : r'.sessionTokenHash = r.sessionTokenHash ∧ r'.refreshRotatedAt = r.refreshRotatedAt ∨
    r'.sessionTokenHash ∉ s.hashes ∧ r'.refreshRotatedAt.isSome
  revoked : r.revokedAt.isSome → r'.revokedAt.isSome
  closed : r.Closed t → r'.expiresAt = r.expiresAt ∧ s'.acceptedFor i = s.acceptedFor i

/-- How sessions change while it is a time or later. -/
structure Later (t : ℕ) (s s' : State) : Prop where
  sessions : ∀ i r, s.adminSession.find i = some r → ∃ r', s'.adminSession.find i = some r' ∧ Renewed t s s' i r r'
  hashes : s.hashes ⊆ s'.hashes

/-- A session that stays as it is. -/
theorem Renewed.same {t : ℕ} {s s' : State} {i : ℕ} {r : AdminSession} (h : s'.acceptedFor i = s.acceptedFor i) :
    Renewed t s s' i r r := ⟨.inl ⟨rfl, rfl⟩, fun h => h, fun _ => ⟨rfl, h⟩⟩

/-- A session that is closed stays closed. -/
theorem Renewed.stays {t : ℕ} {s s' : State} {i : ℕ} {r r' : AdminSession} (h : Renewed t s s' i r r')
    (hr : r.Closed t) : r'.Closed t :=
  hr.imp h.revoked fun hexpired => (h.closed hr).1.trans_le hexpired

/-- The way sessions change is reflexive and transitive. -/
instance (t : ℕ) : IsPreorder State (Later t) where
  refl _ := ⟨fun _ r hr => ⟨r, hr, .same rfl⟩, List.Subset.refl _⟩
  trans s s' s'' h h' := by
    refine ⟨fun i r hr => ?_, List.Subset.trans h.hashes h'.hashes⟩
    obtain ⟨r', hr', hrenewed⟩ := h.sessions i r hr
    obtain ⟨r'', hr'', hrenewed'⟩ := h'.sessions i r' hr'
    refine ⟨r'', hr'', ?_, fun hrevoked => hrenewed'.revoked (hrenewed.revoked hrevoked), fun hclosed => ?_⟩
    · rcases hrenewed'.kept with ⟨hhash, hrotated⟩ | ⟨hnew, hrotated⟩
      · rcases hrenewed.kept with ⟨hhash', hrotated'⟩ | ⟨hnew, hsome⟩
        · exact .inl ⟨hhash.trans hhash', hrotated.trans hrotated'⟩
        · exact .inr ⟨hhash ▸ hnew, hrotated ▸ hsome⟩
      · exact .inr ⟨fun hold => hnew (h.hashes hold), hrotated⟩
    · obtain ⟨hexpires, haccepted⟩ := hrenewed.closed hclosed
      obtain ⟨hexpires', haccepted'⟩ := hrenewed'.closed (hrenewed.stays hclosed)
      exact ⟨hexpires'.trans hexpires, haccepted'.trans haccepted⟩

/-- What a call relies on: a rotation, that the hash which it expects is the one that the token has been compared
with; a signature, that the session has been opened or rotated by this version. -/
def Op.Grounded : {α : Type} → Op α → State → Prop
  | _, .rotateSession token id _ expectedSessionHash, s =>
    token.sid = id ∧ expectedSessionHash ∈ s.hashes ∧ (∃ r, s.adminSession.find id = some r) ∧
      ∀ r, s.adminSession.find id = some r → r.sessionTokenHash = expectedSessionHash → Matches cfg token r
  | _, .signRefreshToken token, s => ∃ r, s.adminSession.find token.sid = some r ∧ r.refreshRotatedAt.isSome
  | _, _, _ => True

/-- What is kept of sessions while it is a time or later, given fresh identifiers. -/
def rotation (t : ℕ) : Contract Op State Env where
  inv := Guarded cfg
  guar := Later t
  known op s := op.Grounded cfg s
  allowed op e s := op.takesFresh cfg e s ∧ t ≤ e.now
  refl := refl_of (Later t)
  trans := trans_of (Later t)

variable {cfg} {t : ℕ} {s s' : State}

/-! ## Calls -/

/-- Sessions that are revoked, or left alone. -/
theorem Guarded.revoke (h : Guarded cfg s) (p : ℕ → AdminSession → Bool) (now : ℕ)
    (hsession : s'.adminSession = s.adminSession.updateMany p fun r => { r with revokedAt := some now })
    (hhashes : s'.hashes = s.hashes) (hsigned : s'.signed = s.signed) (haccepted : s'.accepted = s.accepted) :
    Guarded cfg s' ∧ Later t s s' := by
  have hfind (i : ℕ) (r' : AdminSession) (hr' : s'.adminSession.find i = some r') :
      ∃ r, s.adminSession.find i = some r ∧ r'.sessionTokenHash = r.sessionTokenHash ∧
        r'.refreshRotatedAt = r.refreshRotatedAt := by
    rw [hsession, Table.find_updateMany] at hr'
    obtain ⟨r, hr, rfl⟩ := Option.map_eq_some_iff.mp hr'
    refine ⟨r, hr, ?_⟩
    split <;> exact ⟨rfl, rfl⟩
  have hsame (i : ℕ) : s'.acceptedFor i = s.acceptedFor i := by rw [State.acceptedFor, haccepted, State.acceptedFor]
  have hlater : Later t s s' := by
    refine ⟨fun i r hr => ⟨if p i r then { r with revokedAt := some now } else r, ?_, ?_⟩, ?_⟩
    · rw [hsession, Table.find_updateMany, hr]
      rfl
    · split
      · exact ⟨.inl ⟨rfl, rfl⟩, fun _ => rfl, fun _ => ⟨rfl, hsame i⟩⟩
      · exact .same (hsame i)
    · rw [hhashes]
      exact List.Subset.refl _
  refine ⟨⟨fun i r' hr' => ?_, fun t ht r' hr' hjti hmatches => ?_, fun t ht => ?_, haccepted ▸ h.once⟩, hlater⟩
  · obtain ⟨r, hr, hhash, -⟩ := hfind i r' hr'
    rw [hhash, hhashes]
    exact h.known i r hr
  · obtain ⟨r, hr, hhash, hrotated⟩ := hfind t.sid r' hr'
    rw [hrotated]
    refine h.rotated t (hsigned ▸ ht) r hr hjti ?_
    rwa [Matches, hhash, hrotated, ← Matches] at hmatches
  · obtain ⟨r, hr, hspent⟩ := h.spent t (haccepted ▸ ht)
    obtain ⟨r', hr', -⟩ := hlater.sessions t.sid r hr
    obtain ⟨r₀, hr₀, hhash, hrotated⟩ := hfind t.sid r' hr'
    obtain rfl := Option.some.inj (hr.symm.trans hr₀)
    refine ⟨r', hr', ?_⟩
    rwa [Spent, hhash, hrotated, hhashes, ← Spent]

/-- Calls that have nothing to do with sessions. -/
theorem Guarded.keep (h : Guarded cfg s) (hkept : SessionsKept s s') : Guarded cfg s' ∧ Later t s s' := by
  refine h.revoke (fun _ _ => false) 0 ?_ hkept.hashes hkept.signed hkept.accepted
  rw [Table.updateMany_false]
  exact hkept.adminSession

/-- A session that is opened. -/
theorem Guarded.open (h : Guarded cfg s) {now userId : ℕ} {hash : Digest}
    (hsession : s'.adminSession = s.adminSession.create (opened cfg now userId hash))
    (hhashes : s'.hashes = hash :: s.hashes) (hsigned : s'.signed = s.signed)
    (haccepted : s'.accepted = s.accepted) :
    Guarded cfg s' ∧ Later t s s' := by
  have hfind (i : ℕ) (r : AdminSession) (hr : s'.adminSession.find i = some r) :
      r = opened cfg now userId hash ∨ s.adminSession.find i = some r := by
    rw [hsession, Table.find_create] at hr
    split at hr
    · exact .inl (Option.some.inj hr).symm
    · exact .inr hr
  have hold (i : ℕ) (r : AdminSession) (hr : s.adminSession.find i = some r) : s'.adminSession.find i = some r := by
    rw [hsession]
    exact Table.find_create_of_find _ hr
  refine ⟨⟨fun i r hr => ?_, fun t ht r hr hjti hmatches => ?_, fun t ht => ?_, haccepted ▸ h.once⟩,
    fun i r hr => ⟨r, hold i r hr, .same (by rw [State.acceptedFor, haccepted, State.acceptedFor])⟩, ?_⟩
  · rw [hhashes]
    rcases hfind i r hr with rfl | hr
    · exact List.mem_cons_self
    · exact List.mem_cons_of_mem _ (h.known i r hr)
  · rcases hfind t.sid r hr with rfl | hr
    · rfl
    · exact h.rotated t (hsigned ▸ ht) r hr hjti hmatches
  · obtain ⟨r, hr, hspent⟩ := h.spent t (haccepted ▸ ht)
    refine ⟨r, hold t.sid r hr, ?_⟩
    unfold Spent at hspent ⊢
    split at hspent
    · exact ⟨hhashes ▸ List.mem_cons_of_mem _ hspent.1, hspent.2⟩
    · exact hspent
  · rw [hhashes]
    exact List.subset_cons_self _ _

/-- A session that is rotated for a token, to a hash that no session has had. -/
theorem Guarded.rotate (h : Guarded cfg s) {token : RefreshToken} {now id userId : ℕ} {expected hash : Digest}
    (hfresh : hash ∉ s.hashes) (hnow : t ≤ now)
    (hknown : (Op.rotateSession token id userId expected).Grounded cfg s)
    (hfirst : (s.adminSession.first (rotatable now id userId expected)).isSome)
    (hsession : s'.adminSession =
      s.adminSession.updateMany (rotatable now id userId expected) (AdminSession.rotated cfg now hash))
    (hhashes : s'.hashes = hash :: s.hashes) (hsigned : s'.signed = s.signed)
    (haccepted : s'.accepted = token :: s.accepted) : Guarded cfg s' ∧ Later t s s' := by
  obtain ⟨rfl, hexpected, -, hmatches⟩ := hknown
  -- The session that is rotated is the one of the token, which it has matched until now.
  obtain ⟨⟨i, r⟩, hfound⟩ := Option.isSome_iff_exists.mp hfirst
  obtain ⟨hr, hrotatable⟩ := Table.find_of_first hfound
  simp only [rotatable, Bool.and_eq_true, beq_iff_eq, decide_eq_true_eq, Option.isNone_iff_eq_none] at hr hrotatable
  obtain ⟨⟨⟨⟨rfl, huser⟩, hhash⟩, hrevoked⟩, hexpires⟩ := hrotatable
  have hmatch := hmatches r hr hhash
  have hself : s'.adminSession.find token.sid = some (r.rotated cfg now hash) := by
    rw [hsession, Table.find_updateMany, hr]
    simp [rotatable, huser, hhash, hrevoked, hexpires]
  have hother {i : ℕ} (hi : i ≠ token.sid) : s'.adminSession.find i = s.adminSession.find i := by
    rw [hsession, Table.find_updateMany]
    simp [rotatable, hi]
  have hspent : Spent cfg s' token (r.rotated cfg now hash) := by
    unfold Spent
    unfold Matches at hmatch
    split
    · next jti heq =>
      rw [heq] at hmatch
      rw [hhashes, ← hmatch]
      have hold : r.sessionTokenHash ∈ s.hashes := hhash ▸ hexpected
      exact ⟨List.mem_cons_of_mem _ hold, fun heq : hash = r.sessionTokenHash => hfresh (heq ▸ hold)⟩
    · rfl
  have hnew : token ∉ s.accepted := by
    intro hmem
    obtain ⟨r₀, hr₀, hspent₀⟩ := h.spent token hmem
    obtain rfl := Option.some.inj (hr.symm.trans hr₀)
    unfold Spent at hspent₀
    unfold Matches at hmatch
    split at hspent₀
    · next jti heq =>
      rw [heq] at hmatch
      exact hspent₀.2 hmatch
    · next heq =>
      rw [heq] at hmatch
      rw [hmatch] at hspent₀
      cases hspent₀
  refine ⟨⟨fun i r' hr' => ?_, fun u hu r' hr' hjti hmatches => ?_, fun u hu => ?_, ?_⟩, fun i r' hr' => ?_, ?_⟩
  · rw [hhashes]
    by_cases hi : i = token.sid
    · rw [hi, hself] at hr'
      obtain rfl := Option.some.inj hr'
      exact List.mem_cons_self
    · exact List.mem_cons_of_mem _ (h.known i r' (hother hi ▸ hr'))
  · by_cases hi : u.sid = token.sid
    · rw [hi, hself] at hr'
      obtain rfl := Option.some.inj hr'
      rfl
    · exact h.rotated u (hsigned ▸ hu) r' (hother hi ▸ hr') hjti hmatches
  · rw [haccepted] at hu
    rcases List.mem_cons.mp hu with rfl | hu
    · exact ⟨_, hself, hspent⟩
    · obtain ⟨r', hr', hspent'⟩ := h.spent u hu
      by_cases hi : u.sid = token.sid
      · refine ⟨_, hi ▸ hself, ?_⟩
        unfold Spent at hspent' ⊢
        split at hspent'
        · exact ⟨hhashes ▸ List.mem_cons_of_mem _ hspent'.1, fun heq : hash = _ => hfresh (heq ▸ hspent'.1)⟩
        · rfl
      · refine ⟨r', (hother hi).trans hr', ?_⟩
        unfold Spent at hspent' ⊢
        split at hspent'
        · exact ⟨hhashes ▸ List.mem_cons_of_mem _ hspent'.1, hspent'.2⟩
        · exact hspent'
  · rw [haccepted]
    exact List.nodup_cons.mpr ⟨hnew, h.once⟩
  · by_cases hi : i = token.sid
    · subst hi
      obtain rfl := Option.some.inj (hr.symm.trans hr')
      refine ⟨_, hself, .inr ⟨hfresh, rfl⟩, fun h => h, fun hclosed => ?_⟩
      rcases hclosed with hrevoked' | hexpired
      · rw [hrevoked] at hrevoked'
        cases hrevoked'
      · omega
    · refine ⟨r', (hother hi).trans hr', .same ?_⟩
      have hne : ¬token.sid = i := fun heq => hi heq.symm
      simp [State.acceptedFor, haccepted, hne]
  · rw [hhashes]
    exact List.subset_cons_self _ _

/-- A token that is signed for a session of this version. -/
theorem Guarded.sign (h : Guarded cfg s) {token : RefreshToken}
    (hknown : (Op.signRefreshToken token).Grounded cfg s) :
    Guarded cfg { s with signed := token :: s.signed } ∧ Later t s { s with signed := token :: s.signed } := by
  obtain ⟨r₀, hr₀, hrotated⟩ := hknown
  refine ⟨⟨h.known, fun u hu r hr hjti hmatches => ?_, h.spent, h.once⟩,
    fun i r hr => ⟨r, hr, .same rfl⟩, List.Subset.refl _⟩
  rcases List.mem_cons.mp hu with rfl | hu
  · obtain rfl := Option.some.inj (hr₀.symm.trans hr)
    exact hrotated
  · exact h.rotated u hu r hr hjti hmatches

/-- Every call keeps what holds of sessions and their tokens. -/
theorem rotation_safe {α : Type} (op : Op α) : (rotation cfg t).Safe (machine cfg) op := by
  intro e s hinv hknown hallowed
  change Guarded cfg (exec cfg op e s).2 ∧ Later t s (exec cfg op e s).2
  by_cases hof : op.ofSessions = false
  · exact Guarded.keep hinv (exec_sessionsKept hof e s)
  cases op <;> first | exact absurd rfl hof | clear hof
  case createSession challenge userId =>
    simp only [exec]
    split
    · exact ⟨hinv, refl_of (Later t) s⟩
    · exact Guarded.open hinv rfl rfl rfl rfl
  case rotateSession token id userId expected =>
    have hfresh : hashRefreshIdentifier cfg e.identifier ∉ s.hashes := by simpa [Op.takesFresh] using hallowed.1
    simp only [exec]
    split
    · exact ⟨hinv, refl_of (Later t) s⟩
    · next hfirst =>
      split
      · exact ⟨hinv, refl_of (Later t) s⟩
      · have hopen : (s.adminSession.first (rotatable e.now id userId expected)).isSome := by
          rwa [Bool.not_eq_true, Option.isNone_eq_false_iff] at hfirst
        have hgrounded : (Op.rotateSession token id userId expected).Grounded cfg s := hknown
        exact Guarded.rotate hinv hfresh hallowed.2 hgrounded hopen rfl rfl rfl rfl
  case signRefreshToken token => exact Guarded.sign hinv hknown
  case revokeSession id =>
    exact Guarded.revoke hinv (fun i _ => i == id) e.now rfl rfl rfl rfl
  case resetPassword userId passwordHash =>
    simp only [exec]
    split
    · exact Guarded.revoke hinv (fun _ r => r.userId == userId && r.revokedAt.isNone) e.now rfl rfl rfl rfl
    · exact ⟨hinv, refl_of (Later t) s⟩

/-! ## Requests -/

/-- A session that has been opened or rotated by this version. -/
def Current (s : State) (id : ℕ) : Prop := ∃ r, s.adminSession.find id = some r ∧ r.refreshRotatedAt.isSome

/-- A session that has been opened or rotated stays so. -/
theorem Current.later {id : ℕ} (h : Current s id) (hlater : Later t s s') : Current s' id := by
  obtain ⟨r, hr, hrotated⟩ := h
  obtain ⟨r', hr', hrenewed⟩ := hlater.sessions id r hr
  refine ⟨r', hr', ?_⟩
  rcases hrenewed.kept with ⟨-, hsame⟩ | ⟨-, hsome⟩
  · rw [hsame]
    exact hrotated
  · exact hsome

/-- What a rotation relies on is not lost. -/
theorem grounded_later {token : RefreshToken} {id userId : ℕ} {expected : Digest}
    (h : (Op.rotateSession token id userId expected).Grounded cfg s) (hlater : Later t s s') :
    (Op.rotateSession token id userId expected).Grounded cfg s' := by
  obtain ⟨hsid, hexpected, ⟨r, hr⟩, hmatches⟩ := h
  obtain ⟨r', hr', hrenewed⟩ := hlater.sessions id r hr
  refine ⟨hsid, hlater.hashes hexpected, ⟨r', hr'⟩, fun r₀ hr₀ hhash => ?_⟩
  obtain rfl := Option.some.inj (hr'.symm.trans hr₀)
  rcases hrenewed.kept with ⟨hsame, hrotated⟩ | ⟨hnew, -⟩
  · have hmatch := hmatches r hr (hsame.symm.trans hhash)
    rwa [Matches, hsame, hrotated, ← Matches]
  · exact absurd (hhash ▸ hexpected) hnew

/-- A session is opened under the key that is answered. -/
theorem current_of_create {challenge : Option String} {userId id : ℕ} {jti : Identifier} {e : Env}
    (h : (exec cfg (.createSession challenge userId) e s).1 = .ok (id, jti)) :
    Current (exec cfg (.createSession challenge userId) e s).2 id := by
  simp only [exec] at h ⊢
  split at h
  · cases h
  · next hunique =>
    obtain ⟨rfl, -⟩ := Prod.mk.inj (Except.ok.inj h)
    rw [if_neg hunique]
    exact ⟨_, Table.find_create_self _ _, rfl⟩

/-- A session that is counted has been rotated. -/
theorem current_of_rotate {token : RefreshToken} {id userId : ℕ} {expected : Digest} {jti : Identifier} {e : Env}
    (h : (exec cfg (.rotateSession token id userId expected) e s).1 = .ok (1, jti)) :
    Current (exec cfg (.rotateSession token id userId expected) e s).2 id := by
  simp only [exec] at h ⊢
  split at h
  · cases h
  · next hfirst =>
    split at h
    · cases h
    · next hunique =>
      rw [if_neg hfirst, if_neg hunique]
      rw [Bool.not_eq_true, Option.isNone_eq_false_iff] at hfirst
      obtain ⟨⟨i, r⟩, hfound⟩ := Option.isSome_iff_exists.mp hfirst
      obtain ⟨hr, hrotatable⟩ := Table.find_of_first hfound
      have hi : i = id := by
        simp only [rotatable, Bool.and_eq_true, beq_iff_eq] at hrotatable
        exact hrotatable.1.1.1.1
      subst hi
      refine ⟨r.rotated cfg e.now (hashRefreshIdentifier cfg e.identifier), ?_, rfl⟩
      change (s.adminSession.updateMany _ _).find i = _
      rw [Table.find_updateMany, hr, Option.map_some, if_pos hrotatable]

/-- Tokens are issued for a session that is opened, or rotated with what a rotation relies on. -/
theorem issueTokens_ready {userId : ℕ} {challenge : Option String} {existing : Option (RefreshToken × ℕ × Digest)}
    (h : ∀ token id hash, existing = some (token, id, hash) →
      (Op.rotateSession token id userId hash).Grounded cfg s) :
    (rotation cfg t).Ready (machine cfg) (issueTokens userId challenge existing) s := by
  refine Contract.Informed.seq (P := fun (a : ℕ × Identifier) s₁ => Current s₁ a.1) ?_ fun a s₁ hcurrent => ?_
  · cases existing with
    | none =>
      refine fun e s₁ _ _ _ => ⟨trivial, fun _ _ a ha => ?_⟩
      exact current_of_create ha
    | some existing =>
      obtain ⟨token, id, hash⟩ := existing
      have hgrounded := h token id hash rfl
      refine Contract.Informed.bind fun e s₁ hs _ _ =>
        ⟨grounded_later hgrounded hs, fun _ _ => ⟨fun a ha => ?_, ?_⟩⟩
      · obtain ⟨count, jti⟩ := a
        change (rotation cfg t).Informed (machine cfg) ((Prog.require (count = 1) _).bind _) _ _
        unfold Prog.require
        split
        · next hcount =>
          subst hcount
          have hcurrent := current_of_rotate ha
          change (rotation cfg t).Informed (machine cfg) ((Prog.call (.findSession id)).bind _) _ _
          refine Contract.Informed.bind fun e₂ s₂ hs₂ _ _ => ⟨trivial, fun _ _ => ⟨fun session _ => ?_, nofun⟩⟩
          cases session with
          | none => exact nofun
          | some r =>
            intro a ha
            obtain rfl := Except.ok.inj ha
            exact hcurrent.later hs₂
        · exact nofun
      · exact nofun
  · obtain ⟨id, jti⟩ := a
    change (rotation cfg t).Ready (machine cfg) ((Prog.call _).bind _) s₁
    exact .then (fun s₁ hs _ => hcurrent.later hs) fun _ _ _ _ =>
      .then (fun _ _ _ => trivial) fun _ _ _ _ => trivial

/-- What a refresh finds out about a session is what the rotation relies on. -/
theorem refreshSession_gives (token : RefreshToken) (s : State) :
    (rotation cfg t).Gives (machine cfg) (refreshSession cfg token) (fun a s' =>
      (Op.rotateSession a.1 a.1.sid a.2.userId a.2.sessionTokenHash).Grounded cfg s') s := by
  refine .attempt ?_ fun err _ => by cases err <;> exact fun a hfail => by cases hfail
  refine .then (fun _ _ _ => trivial) fun payload s₁ _ _ => ?_
  refine .call_bind (fun _ _ _ => trivial) fun e s₂ _ hinv _ _ _ found hfound => ?_
  obtain rfl : s₂.adminSession.find payload.sid = found := Except.ok.inj hfound
  refine .then (fun _ _ _ => trivial) fun now s₃ hs₃ _ => .orFail_bind fun session hsession => ?_
  obtain ⟨hr, hchecked⟩ := Option.filter_eq_some_iff.mp hsession
  have hmatches : Matches cfg payload session := by
    simp only [refreshIdentifierMatches, Bool.and_eq_true] at hchecked
    unfold Matches
    split
    · next jti heq =>
      rw [heq] at hchecked
      exact eq_of_beq hchecked.1.1.2
    · next heq =>
      rw [heq] at hchecked
      exact Option.isNone_iff_eq_none.mp hchecked.1.1.2
  have hgrounded : (Op.rotateSession payload payload.sid session.userId
      session.sessionTokenHash).Grounded cfg s₂ := by
    refine ⟨rfl, hinv.known _ _ hr, ⟨session, hr⟩, fun r hr' _ => ?_⟩
    obtain rfl := Option.some.inj (hr.symm.trans hr')
    exact hmatches
  refine .then (fun _ _ _ => trivial) fun user s₄ hs₄ _ => .require_bind fun _ => .pure ?_
  exact grounded_later hgrounded (trans_of (Later t) hs₃ hs₄)

/-- A refresh rotates the session that it has found. -/
theorem refreshToken_ready (token : RefreshToken) (s : State) :
    (rotation cfg t).Ready (machine cfg) (refreshToken cfg token) s := by
  refine (refreshSession_gives token s).ready fun a s' hgrounded => issueTokens_ready ?_
  rintro _ _ _ ⟨rfl⟩
  exact hgrounded

/-- Every request makes sure of what its calls rely on. -/
theorem rotation_ready {p : Request Unit} (h : AuthRequest cfg p) (s : State) :
    (rotation cfg t).Ready (machine cfg) p s := by
  have hnothing {β : Type} (op : Op β) (hop : op.asks = false) (s : State) : (rotation cfg t).known op s := by
    cases op <;> trivial
  refine request_ready hnothing (fun _ _ _ => issueTokens_ready nofun) refreshToken_ready ?_ h s
  intro userId email purpose otp s
  refine Contract.informed_of_all ((consumeOtp_all userId email purpose otp).imp fun _ op hof s => ?_) s
  cases op <;> first | trivial | cases hof.1

/-! ## Runs -/

/-- Every operation keeps what is known of the refresh tokens. -/
theorem rotation_holds : (rotation cfg t).Holds (auth cfg) where
  starts hp s _ := rotation_ready hp s
  performs op := rotation_safe op
  background h hinv := by
    obtain ⟨revoked, now, hsession⟩ := h.adminSession
    exact Guarded.revoke hinv revoked now hsession h.hashes h.signed h.accepted

/-- No two tokens of a session can be accepted at the same time, where identifiers are hashed injectively. -/
theorem Guarded.acceptable_unique (h : Guarded cfg s) (hinj : Function.Injective cfg.sha256) {now : ℕ}
    {u v : RefreshToken} (hu : u ∈ s.signed) (hv : v ∈ s.signed) (hsid : u.sid = v.sid)
    (hau : Acceptable cfg now s u) (hav : Acceptable cfg now s v) : u = v := by
  obtain ⟨r, hr, huser, hmatches, -⟩ := hau
  obtain ⟨r', hr', huser', hmatches', -⟩ := hav
  obtain rfl := Option.some.inj ((hsid ▸ hr).symm.trans hr')
  have hjti : u.jti = v.jti := by
    cases hu' : u.jti with
    | none =>
      cases hv' : v.jti with
      | none => rfl
      | some j =>
        -- A session of an earlier version has no token of this one.
        have hrotated := h.rotated v hv r hr' (by rw [hv']; rfl) hmatches'
        rw [Matches, hu'] at hmatches
        simp [show r.refreshRotatedAt = none from hmatches] at hrotated
    | some j =>
      cases hv' : v.jti with
      | none =>
        have hrotated := h.rotated u hu r hr (by rw [hu']; rfl) hmatches
        rw [Matches, hv'] at hmatches'
        simp [show r.refreshRotatedAt = none from hmatches'] at hrotated
      | some j' =>
        rw [Matches, hu'] at hmatches
        rw [Matches, hv'] at hmatches'
        have hhash : hashRefreshIdentifier cfg j = hashRefreshIdentifier cfg j' := hmatches.symm.trans hmatches'
        exact congrArg some (Subtype.ext (hinj hhash))
  obtain ⟨usub, usid, ujti⟩ := u
  obtain ⟨vsub, vsid, vjti⟩ := v
  simp_all

/-- However requests interleave, each refresh token is accepted at most once, at most one of a session can be
accepted at any time, and none is once the session has been revoked or has expired. -/
theorem refresh_tokens_single_use (hinj : Function.Injective cfg.sha256) {s : State} (hs : Guarded cfg s)
    {c c' : Config Op Error State} {now : ℕ}
    (hrun : (auth cfg).Run (fun op e c => op.takesFresh cfg e c.world) ⟨s, []⟩ c)
    (hrun' : (auth cfg).Run (fun op e c => op.takesFresh cfg e c.world ∧ now ≤ e.now) c c') :
    c.world.accepted.Nodup ∧
    (∀ u ∈ c.world.signed, ∀ v ∈ c.world.signed, u.sid = v.sid →
      Acceptable cfg now c.world u → Acceptable cfg now c.world v → u = v) ∧
    ∀ i r, c.world.adminSession.find i = some r → r.Closed now →
      c'.world.acceptedFor i = c.world.acceptedFor i := by
  have hstart : (rotation cfg 0).Sound (auth cfg) ⟨s, []⟩ := ⟨hs, nofun⟩
  have hrun₀ : (auth cfg).Run (fun op e c => op.takesFresh cfg e c.world ∧ 0 ≤ e.now) ⟨s, []⟩ c :=
    System.Run.mono _ hrun fun _ _ _ h => ⟨h, Nat.zero_le _⟩
  obtain ⟨⟨hinv, hthreads⟩, -⟩ := rotation_holds.run hstart hrun₀
  -- From here on only what happens at the time or later counts.
  have hsound : (rotation cfg now).Sound (auth cfg) c := by
    refine ⟨hinv, fun p hp => (hthreads p hp).strengthen (fun _ h => h) (fun s s' h => ?_)
      (fun _ _ _ h => ⟨h.1, Nat.zero_le _⟩) fun _ _ h => h⟩
    refine ⟨fun i r hr => ?_, h.hashes⟩
    obtain ⟨r', hr', hrenewed⟩ := h.sessions i r hr
    exact ⟨r', hr', hrenewed.kept, hrenewed.revoked, fun hclosed =>
      hrenewed.closed (hclosed.imp_right fun h => h.trans (Nat.zero_le _))⟩
  obtain ⟨-, hlater⟩ := rotation_holds.run hsound hrun'
  refine ⟨hinv.once, fun u hu v hv hsid => hinv.acceptable_unique hinj hu hv hsid, fun i r hr hclosed => ?_⟩
  obtain ⟨r', -, hrenewed⟩ := hlater.sessions i r hr
  exact (hrenewed.closed hclosed).2

/-! ## A login and two refreshes -/

/-- The hash of the example has no collisions. -/
theorem plainSettings_injective : Function.Injective plainSettings.sha256 := by
  intro a b h
  exact String.append_right_inj "#" |>.mp (congrArg Subtype.val h)

/-- Nobody has logged in before the first request. -/
theorem oneUser_guarded : Guarded plainSettings oneUser where
  known _ _ hr := by cases hr
  rotated _ ht := by cases ht
  spent _ ht := by cases ht
  once := .nil

/-- The refresh token of the first session. -/
def firstToken : RefreshToken where
  sub := 1
  sid := 1
  jti := some ⟨"first", first_ne_empty⟩

/-- A login, and two refreshes with its token. -/
def refreshRequests : List (Request Unit) :=
  [createSessionForUser none 1 >>= fun _ => pure (), refreshToken plainSettings firstToken >>= fun _ => pure (),
    refreshToken plainSettings firstToken >>= fun _ => pure ()]

/-- The requests of the example can be made. -/
theorem refreshRequests_start : ∀ p ∈ refreshRequests, (auth plainSettings).starts p := by
  intro p hp
  rw [refreshRequests, List.mem_cons, List.mem_pair] at hp
  rcases hp with rfl | rfl | rfl
  · exact .otherLogin 1
  · exact .refreshToken firstToken
  · exact .refreshToken firstToken

/-- Both refreshes have found the session when the first of them rotates it. -/
def refreshTogether : List (ℕ × Env) :=
  List.replicate 4 (0, { now := 1, identifier := ⟨"first", first_ne_empty⟩ }) ++
    List.replicate 4 (1, { now := 2 }) ++ List.replicate 4 (2, { now := 2 }) ++
    List.replicate 4 (1, { now := 3, identifier := ⟨"second", second_ne_empty⟩ }) ++
    List.replicate 4 (2, { now := 4, identifier := ⟨"third", third_ne_empty⟩ })

/-- One of two refreshes with the same token is accepted. -/
theorem refresh_tokens_single_use_together :
    let c := (auth plainSettings).follow ⟨oneUser, refreshRequests⟩ refreshTogether
    c.world.accepted = [firstToken] ∧ c.world.accepted.Nodup := by
  have hallows : (auth plainSettings).allows (fun op e c => op.takesFresh plainSettings e c.world)
      ⟨oneUser, refreshRequests⟩ refreshTogether := by decide +kernel
  have hrun : (auth plainSettings).Run (fun op e c => op.takesFresh plainSettings e c.world) ⟨oneUser, []⟩ _ :=
    ((auth plainSettings).start_all_run refreshRequests_start).trans ((auth plainSettings).follow_run_of hallows)
  refine ⟨by decide +kernel, ?_⟩
  have hlast : (auth plainSettings).Run (fun op e c => op.takesFresh plainSettings e c.world ∧ 0 ≤ e.now)
      ((auth plainSettings).follow ⟨oneUser, refreshRequests⟩ refreshTogether) _ := .refl
  exact (refresh_tokens_single_use plainSettings_injective oneUser_guarded hrun hlast).1

end Superstore.Auth
