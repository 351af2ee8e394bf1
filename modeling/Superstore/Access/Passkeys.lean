import Superstore.Access.Auth
import Superstore.Interleaving.Permits

/-!
# Passkey logins

The answer to a challenge opens a session after the challenge has been deleted, whether or not it was
still there. An answer that is sent twice at the same time opens two sessions. Where each deletion finds
its challenge, a deletion earns the one session that is opened after it, so that a challenge leads to at
most one for each time that it has been issued.
-/

namespace Superstore.Auth

open Interleaving Relational

/-- A challenge that is deleted is still there. -/
def Op.findsChallenge : {α : Type} → Op α → State → Bool
  | _, .deleteLoginChallenge challenge, s => s.loginChallenges.contains challenge
  | _, _, _ => true

/-- The logins with a challenge, as many more as it can still lead to, less how often it has been issued. -/
def State.excess (challenge : String) (s : State) : ℤ :=
  s.logins.count challenge + (if challenge ∈ s.loginChallenges then 1 else 0) - s.issued.count challenge

/-- A deletion of a challenge earns the session that is opened for it. -/
def Op.price (challenge : String) : {α : Type} → Op α → Except Error α → ℤ
  | _, .deleteLoginChallenge deleted, _ => if deleted = challenge then -1 else 0
  | _, .createSession (some answered) _, .ok _ => if answered = challenge then 1 else 0
  | _, _, _ => 0

/-- The answers of calls; a deletion never fails. -/
def Op.Answers : {α : Type} → Op α → Except Error α → Prop
  | _, .deleteLoginChallenge _, .error _ => False
  | _, _, _ => True

/-- Sessions for a challenge, paid with its deletions. -/
def logins (challenge : String) : Permits Op Error State where
  debt := State.excess challenge
  cost := Op.price challenge
  answers := Op.Answers

variable {cfg : Settings} {challenge : String} {s s' : State}

/-! ## Calls -/

/-- What happens to a challenge that is not touched. -/
theorem excess_kept (h : LoginsKept s s') : s'.excess challenge = s.excess challenge := by
  rw [State.excess, h.logins, h.loginChallenges, h.issued, State.excess]

/-- A call raises the excess of a challenge by no more than its price. -/
theorem excess_exec {α : Type} (op : Op α) (e : Env) (s : State) (hfinds : op.findsChallenge s) :
    op.Answers (exec cfg op e s).1 ∧
      (exec cfg op e s).2.excess challenge ≤ s.excess challenge + op.price challenge (exec cfg op e s).1 := by
  by_cases hof : op.ofLogins = false
  · have hanswers : op.Answers (exec cfg op e s).1 := by cases op <;> exact trivial
    refine ⟨hanswers, ?_⟩
    have hprice : op.price challenge (exec cfg op e s).1 = 0 := by cases op <;> first | rfl | cases hof
    rw [hprice, add_zero, excess_kept (exec_loginsKept hof e s)]
  cases op <;> first | exact absurd rfl hof | clear hof
  case createSession answered userId =>
    refine ⟨trivial, ?_⟩
    simp only [exec]
    split
    · cases answered <;> simp [Op.price]
    · cases answered with
      | none => simp [Op.price, State.excess]
      | some answered =>
        simp only [Op.price, State.excess, Option.toList_some, List.singleton_append, List.count_cons, beq_iff_eq]
        split
        · simp only [Nat.cast_add, Nat.cast_one]
          omega
        · simp only [Nat.add_zero]
          omega
  case setLoginChallenge =>
    refine ⟨trivial, ?_⟩
    simp only [exec, Op.price, State.excess, List.count_cons, List.mem_cons, List.mem_filter]
    by_cases hself : e.challenge = challenge
    · grind
    · have hne : ¬challenge = e.challenge := fun h => hself h.symm
      simp [hself, hne]
  case deleteLoginChallenge deleted =>
    have hmem : deleted ∈ s.loginChallenges := by simpa [Op.findsChallenge] using hfinds
    refine ⟨trivial, ?_⟩
    simp only [exec, Op.price, State.excess, List.mem_filter]
    by_cases hself : deleted = challenge
    · subst hself
      grind
    · have hne : ¬challenge = deleted := fun h => hself h.symm
      simp [hself, hne]

/-! ## Requests -/

/-- A session for a challenge is opened with a permit, any other one without. -/
theorem createSessionForUser_covered (answered : Option String) (userId : ℕ) {n : ℤ} (hn : 0 ≤ n)
    (hpermit : answered = some challenge → 1 ≤ n) :
    (logins challenge).Covered n (createSessionForUser answered userId) := by
  refine .free_bind hn (fun _ => rfl) fun user => .require_bind hn ?_
  refine .call_bind hn (fun session _ => ?_) fun _ _ => ?_
  · have hleft : 0 ≤ n - (Op.createSession answered userId).price challenge (.ok session) := by
      cases answered with
      | none => simpa [Op.price] using hn
      | some answered =>
        simp only [Op.price]
        split
        · next heq =>
          have hone := hpermit (congrArg some heq)
          omega
        · omega
    exact .free_bind hleft (fun _ => rfl) fun token => .free_bind hleft (fun _ => rfl) fun _ => hleft
  · cases answered <;> exact hn

/-- A call that costs nothing, whatever it answers. -/
def Op.Free (challenge : String) {α : Type} (op : Op α) : Prop := ∀ r, op.price challenge r = 0

/-- Calls that have nothing to do with logins cost nothing. -/
theorem free_of_ofLogins {α : Type} {op : Op α} (h : op.ofLogins = false) : op.Free challenge := by
  intro r
  cases op <;> first | rfl | cases h

/-- Tokens that are issued without a challenge cost nothing. -/
theorem issueTokens_free (userId : ℕ) (existing : Option (RefreshToken × ℕ × Digest)) :
    (issueTokens userId none existing).All fun _ op => op.Free challenge := by
  refine .bind ?_ fun session => ?_
  · cases existing with
    | none => exact (Prog.all_call _).mpr fun r => by cases r <;> rfl
    | some existing =>
      refine .bind ((Prog.all_call _).mpr fun _ => rfl) fun rotated => .bind (Prog.all_require _ _) fun _ => ?_
      exact .bind ((Prog.all_call _).mpr fun _ => rfl) fun found => .bind (Prog.all_orFail _ _) fun _ => trivial
  · exact .bind ((Prog.all_call _).mpr fun _ => rfl) fun token =>
      .bind ((Prog.all_call _).mpr fun _ => rfl) fun _ => trivial

/-- Sending a one-time code leaves the challenges of logins alone. -/
theorem createAndSendOtp_free (userId : ℕ) (email : String) (purpose : OtpPurpose) :
    (createAndSendOtp userId email purpose).All fun _ op => op.Free challenge :=
  (createAndSendOtp_all userId email purpose).imp fun _ _ h => free_of_ofLogins h.2

/-- Consuming a one-time code leaves the challenges of logins alone. -/
theorem consumeOtp_free (userId : ℕ) (email : String) (purpose : OtpPurpose) (otp : String) :
    (consumeOtp cfg userId email purpose otp).All fun _ op => op.Free challenge :=
  (consumeOtp_all userId email purpose otp).imp fun _ _ h => free_of_ofLogins h.2

/-- The answer to a challenge pays the session that it opens with the deletion of the challenge. -/
theorem verifyAuthentication_covered (answered : String) (response : AuthenticationResponse) :
    (logins challenge).Covered 0 (verifyAuthentication answered response) := by
  refine .free_bind le_rfl (fun _ => rfl) fun pending => .require_bind le_rfl ?_
  refine .free_bind le_rfl (fun _ => rfl) fun found => .orFail_bind le_rfl fun stored _ => .require_bind le_rfl ?_
  refine .free_bind le_rfl (fun _ => rfl) fun result => .orFail_bind le_rfl fun newCounter _ => ?_
  refine .free_bind le_rfl (fun _ => rfl) fun _ => .call_bind le_rfl (fun _ _ => ?_) fun _ herror => herror.elim
  have hleft : 0 ≤ 0 - (Op.deleteLoginChallenge answered).price challenge (.ok ()) := by
    simp only [Op.price]
    split <;> omega
  have hcovered : (logins challenge).Covered _ (createSessionForUser (some answered) stored.2.1.userId) :=
    createSessionForUser_covered (some answered) stored.2.1.userId hleft fun heq => by
      simp [Op.price, Option.some.inj heq]
  exact hcovered.bind_free fun _ => trivial

/-- Requests other than answers to challenges cost nothing. -/
theorem request_covered {p : Request Unit} (h : AuthRequest cfg p) : (logins challenge).Covered 0 p := by
  have hcall {β : Type} {op : Op β} (hop : op.ofLogins = false) :
      (Prog.call op : Request β).All fun _ op => op.Free challenge := (Prog.all_call _).mpr (free_of_ofLogins hop)
  cases h with
  | verifyAuthentication answered response => exact verifyAuthentication_covered answered response
  | otherLogin userId => exact (createSessionForUser_covered none userId le_rfl nofun).bind_free fun _ => trivial
  | login email password =>
    refine .of_all le_rfl ?_
    refine .bind (hcall rfl) fun found => .bind (Prog.all_orFail _ _) fun user => ?_
    refine .bind (hcall rfl) fun valid => .bind (Prog.all_require _ _) fun _ => ?_
    split
    · exact .bind (issueTokens_free _ _) fun _ => trivial
    · exact .bind (createAndSendOtp_free _ _ _) fun _ => trivial
  | refreshToken token =>
    refine .of_all le_rfl
      (.bind (.bind (.attempt ?_ fun err => by cases err <;> trivial) fun _ => ?_) fun _ => trivial)
    · refine .bind (hcall rfl) fun payload => .bind (hcall rfl) fun found => .bind (hcall rfl) fun now => ?_
      refine .bind (Prog.all_orFail _ _) fun session => .bind (hcall rfl) fun user => ?_
      exact .bind (Prog.all_require _ _) fun _ => trivial
    · exact issueTokens_free _ _
  | logout sessionId => exact .of_all le_rfl (hcall rfl)
  | verifyEmailOtp email otp =>
    refine .of_all le_rfl (.bind (hcall rfl) fun found => .bind (Prog.all_orFail _ _) fun user => ?_)
    exact .bind (consumeOtp_free _ _ _ _) fun _ => hcall rfl
  | resendEmailOtp email =>
    refine .of_all le_rfl (.bind (hcall rfl) fun found => ?_)
    cases found with
    | none => exact trivial
    | some user =>
      change Prog.All _ (if user.2.isEmailVerified then _ else _)
      split
      · exact trivial
      · exact .attempt (createAndSendOtp_free _ _ _) fun _ => trivial
  | forgotPassword email =>
    refine .of_all le_rfl (.bind (hcall rfl) fun found => ?_)
    cases found with
    | none => exact trivial
    | some user =>
      change Prog.All _ (if user.2.status = .active then _ else _)
      split
      · exact .attempt (createAndSendOtp_free _ _ _) fun _ => trivial
      · exact trivial
  | resetPassword email otp password =>
    refine .of_all le_rfl (.bind (hcall rfl) fun found => .bind (Prog.all_orFail _ _) fun user => ?_)
    exact .bind (consumeOtp_free _ _ _ _) fun _ => .bind (hcall rfl) fun _ => hcall rfl
  | authenticationOptions =>
    exact .of_all le_rfl (.bind ((Prog.all_call _).mpr fun _ => rfl) fun _ => trivial)

/-! ## Runs -/

/-- No operation gains a login that no challenge has paid for. -/
theorem logins_hold (challenge : String) :
    (logins challenge).Holds (auth cfg) fun op _ c => op.findsChallenge c.world where
  starts hp := request_covered hp
  performs op e c hfinds := excess_exec op e c.world hfinds
  background {s s'} h := by
    have hkey : challenge ∈ s'.loginChallenges → challenge ∈ s.loginChallenges :=
      fun hmem => h.loginChallenges.subset hmem
    change s'.excess challenge ≤ s.excess challenge
    rw [State.excess, h.logins, h.issued, State.excess]
    by_cases hmem : challenge ∈ s'.loginChallenges
    · rw [if_pos hmem, if_pos (hkey hmem)]
    · rw [if_neg hmem]
      split <;> omega

/-- Where each deletion of a challenge finds it, a challenge leads to no more logins than it has been issued. -/
theorem passkey_challenges_single_use {s : State} (hs : ∀ challenge, s.excess challenge ≤ 0)
    {c : Config Op Error State} (hrun : (auth cfg).Run (fun op _ c => op.findsChallenge c.world) ⟨s, []⟩ c)
    (challenge : String) : c.world.logins.count challenge ≤ c.world.issued.count challenge := by
  have hexcess : c.world.excess challenge ≤ s.excess challenge := (logins_hold challenge).run hrun
  have hstart := hs challenge
  rw [State.excess] at hexcess
  split at hexcess <;> omega

/-! ## An answer that is sent twice -/

/-- A customer with a passkey, who has no challenge to answer yet. -/
def onePasskey : State :=
  { oneUser with
    passkeyCredential := Table.empty.create { userId := 1, credentialId := "passkey", publicKey := "key" } }

/-- No challenge has led to a login before the first request. -/
theorem onePasskey_excess (challenge : String) : onePasskey.excess challenge ≤ 0 := by
  simp [State.excess, onePasskey, oneUser]

/-- A challenge is issued and answered twice. -/
def passkeyRequests : List (Request Unit) :=
  [authenticationOptions, verifyAuthentication "c" ⟨"passkey", "signed"⟩,
    verifyAuthentication "c" ⟨"passkey", "signed"⟩]

/-- The requests of the example can be made. -/
theorem passkeyRequests_start : ∀ p ∈ passkeyRequests, (auth plainSettings).starts p := by
  intro p hp
  rw [passkeyRequests, List.mem_cons, List.mem_pair] at hp
  rcases hp with rfl | rfl | rfl
  · exact .authenticationOptions
  · exact .verifyAuthentication _ _
  · exact .verifyAuthentication _ _

/-- The challenge is issued, and the answers are verified in some order. -/
def answering (answers : List ℕ) : List (ℕ × Env) :=
  (0, { challenge := "c" }) :: answers.map fun i =>
    (i, { now := i, identifier := if i = 1 then ⟨"first", first_ne_empty⟩ else ⟨"second", second_ne_empty⟩,
          verification := .ok (some i) })

/-- An answer that is sent twice at the same time opens two sessions. -/
theorem passkey_challenge_used_twice :
    ¬∀ (cfg : Settings) (s : State) (c : Config Op Error State), (∀ challenge, s.excess challenge ≤ 0) →
      (auth cfg).Run System.anyOp ⟨s, []⟩ c →
      ∀ challenge, c.world.logins.count challenge ≤ c.world.issued.count challenge := by
  intro h
  have hbound := h plainSettings onePasskey _ onePasskey_excess
    ((auth plainSettings).schedule_run passkeyRequests_start
      (answering [1, 2, 1, 1, 1, 1, 1, 1, 2, 2, 2, 2, 2, 2])) "c"
  revert hbound
  decide +kernel

/-- An answer that is sent again after the login opens no other session. -/
theorem passkey_challenge_used_once :
    ((auth plainSettings).follow ⟨onePasskey, passkeyRequests⟩
      (answering [1, 1, 1, 1, 1, 1, 1, 2])).world.logins.count "c" ≤
      ((auth plainSettings).follow ⟨onePasskey, passkeyRequests⟩
        (answering [1, 1, 1, 1, 1, 1, 1, 2])).world.issued.count "c" := by
  have hallows : (auth plainSettings).allows (fun op _ c => op.findsChallenge c.world) ⟨onePasskey, passkeyRequests⟩
      (answering [1, 1, 1, 1, 1, 1, 1, 2]) := by decide +kernel
  have hrun : (auth plainSettings).Run (fun op _ c => op.findsChallenge c.world) ⟨onePasskey, []⟩ _ :=
    ((auth plainSettings).start_all_run passkeyRequests_start).trans ((auth plainSettings).follow_run_of hallows)
  exact passkey_challenges_single_use onePasskey_excess hrun "c"

end Superstore.Auth
