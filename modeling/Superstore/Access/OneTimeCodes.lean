import Superstore.Access.Auth

/-!
# One-time codes

A code is compared with what has been read of its challenge, and a failure is counted afterwards. Codes
that are tried at the same time share one reading of the counter, so that more of them can be tried
than the challenge allows. Where every failure so far has been counted when a challenge is read, and
nothing has happened to it when it is redeemed, the limit holds. A challenge is redeemed once in any case,
since only one call finds it there to delete.
-/

namespace Superstore.Auth

open Interleaving Relational

/-- A challenge is read when all wrong codes so far have been counted, and redeemed as it has been read. -/
def Op.undisturbed : {α : Type} → Op α → Env → State → Bool
  | _, .findChallenge userId email purpose _, e, s =>
    (openChallenge e.now userId email purpose s).all fun c => decide (s.tried c.1 ≤ c.2.attempts)
  | _, .redeemChallenge id read, _, s =>
    (s.otpChallenge.find id).all fun c => c.attempts == read.attempts && decide (s.tried id ≤ read.attempts)
  | _, _, _, _ => true

/-- What holds of challenges and the codes that have been tried. -/
structure Counted (s : State) : Prop where
  known : ∀ g ∈ s.guesses, g.1 < s.otpChallenge.next ∧ ∀ c, s.otpChallenge.find g.1 = some c → c.maxAttempts = g.2
  limit : ∀ g ∈ s.guesses, s.tried g.1 ≤ g.2
  once : (s.redeemed.map (·.challengeId)).Nodup
  spent : ∀ r ∈ s.redeemed, s.otpChallenge.find r.challengeId = none ∧ r.challengeId < s.otpChallenge.next
  below : ∀ r ∈ s.redeemed, r.attempts < r.maxAttempts ∧ r.guesses < r.maxAttempts

/-- Challenges keep their limits, and those that are gone do not come back. -/
structure Elapses (s s' : State) : Prop where
  next : s.otpChallenge.next ≤ s'.otpChallenge.next
  kept : ∀ i c', i < s.otpChallenge.next → s'.otpChallenge.find i = some c' →
    ∃ c, s.otpChallenge.find i = some c ∧ c'.maxAttempts = c.maxAttempts

/-- The way challenges change is reflexive and transitive. -/
instance : IsPreorder State Elapses where
  refl _ := ⟨le_rfl, fun _ c _ hc => ⟨c, hc, rfl⟩⟩
  trans s s' s'' h h' := by
    refine ⟨h.next.trans h'.next, fun i c'' hi hc'' => ?_⟩
    obtain ⟨c', hc', hmax'⟩ := h'.kept i c'' (hi.trans_le h.next) hc''
    obtain ⟨c, hc, hmax⟩ := h.kept i c' hi hc'
    exact ⟨c, hc, hmax'.trans hmax⟩

/-- A challenge is redeemed only below the limit that it has been read with. -/
def Op.Allowed : {α : Type} → Op α → State → Prop
  | _, .redeemChallenge id read, s => read.attempts < read.maxAttempts ∧ id < s.otpChallenge.next ∧
    ∀ c, s.otpChallenge.find id = some c → c.maxAttempts = read.maxAttempts
  | _, _, _ => True

/-- What is kept of challenges that are read and redeemed undisturbed. -/
def codes : Contract Op State Env where
  inv := Counted
  guar := Elapses
  known op s := op.Allowed s
  allowed op e s := op.undisturbed e s
  refl := refl_of Elapses
  trans := trans_of Elapses

variable {cfg : Settings} {s s' : State}

/-! ## Calls -/

/-- Challenges that change, or go, while no code is tried or redeemed. -/
theorem Counted.elapse (h : Counted s) (helapses : Elapses s s') (hguesses : s'.guesses = s.guesses)
    (hredeemed : s'.redeemed = s.redeemed) : Counted s' where
  known g hg := by
    obtain ⟨hlt, hmax⟩ := h.known g (hguesses ▸ hg)
    refine ⟨hlt.trans_le helapses.next, fun c' hc' => ?_⟩
    obtain ⟨c, hc, hsame⟩ := helapses.kept g.1 c' hlt hc'
    exact hsame.trans (hmax c hc)
  limit g hg := by
    have hlimit := h.limit g (hguesses ▸ hg)
    rwa [State.tried, hguesses, ← State.tried]
  once := hredeemed ▸ h.once
  spent r hr := by
    obtain ⟨hnone, hlt⟩ := h.spent r (hredeemed ▸ hr)
    refine ⟨Option.eq_none_iff_forall_ne_some.mpr fun c' hc' => ?_, hlt.trans_le helapses.next⟩
    obtain ⟨c, hc, -⟩ := helapses.kept r.challengeId c' hlt hc'
    rw [hnone] at hc
    cases hc
  below r hr := h.below r (hredeemed ▸ hr)

/-- Challenges that are deleted. -/
theorem Elapses.deleteMany (p : ℕ → OtpChallenge → Bool)
    (h : s'.otpChallenge = s.otpChallenge.deleteMany p) : Elapses s s' := by
  refine ⟨by rw [h]; exact le_rfl, fun i c' _ hc' => ?_⟩
  rw [h, Table.find_deleteMany] at hc'
  exact ⟨c', (Option.filter_eq_some_iff.mp hc').1, rfl⟩

/-- A challenge that has just been made. -/
theorem Elapses.create (c : OtpChallenge) (h : s'.otpChallenge = s.otpChallenge.create c) : Elapses s s' := by
  refine ⟨by rw [h]; exact Nat.le_succ _, fun i c' hi hc' => ?_⟩
  rw [h, Table.find_create, if_neg hi.ne] at hc'
  exact ⟨c', hc', rfl⟩

/-- A failure that is counted. -/
theorem Elapses.update (id : ℕ) (f : OtpChallenge → OtpChallenge) (hf : ∀ c, (f c).maxAttempts = c.maxAttempts)
    (h : s'.otpChallenge = s.otpChallenge.update id f) : Elapses s s' := by
  refine ⟨by rw [h]; exact le_rfl, fun i c' _ hc' => ?_⟩
  rw [h, Table.find_update] at hc'
  split at hc'
  · obtain ⟨c, hc, rfl⟩ := Option.map_eq_some_iff.mp hc'
    exact ⟨c, hc, hf c⟩
  · exact ⟨c', hc', rfl⟩

/-- The challenge that was made last is one of the challenges. -/
theorem newest_mem {cs : List (ℕ × OtpChallenge)} {c : ℕ × OtpChallenge} (h : newest cs = some c) : c ∈ cs := by
  induction cs with
  | nil => cases h
  | cons d rest ih =>
    simp only [newest] at h
    split at h
    · next d' hd' =>
      split at h
      · obtain rfl := Option.some.inj h
        exact List.mem_cons_of_mem _ (ih hd')
      · obtain rfl := Option.some.inj h
        exact List.mem_cons_self
    · obtain rfl := Option.some.inj h
      exact List.mem_cons_self

/-- An open challenge is one of its table. -/
theorem find_openChallenge {now userId id : ℕ} {email : String} {purpose : OtpPurpose} {c : OtpChallenge}
    (h : openChallenge now userId email purpose s = some (id, c)) : s.otpChallenge.find id = some c :=
  (Table.mem_many.mp (newest_mem h)).1

/-- A wrong code that is tried when all others have been counted. -/
theorem Counted.guess (h : Counted s) {id : ℕ} {c : OtpChallenge} (hc : s.otpChallenge.find id = some c)
    (hbelow : c.attempts < c.maxAttempts) (hcounted : s.tried id ≤ c.attempts) :
    Counted { s with guesses := (id, c.maxAttempts) :: s.guesses } where
  known g hg := by
    rcases List.mem_cons.mp hg with rfl | hg
    · refine ⟨Table.lt_next hc, fun c' hc' => ?_⟩
      obtain rfl := Option.some.inj (hc.symm.trans hc')
      rfl
    · exact h.known g hg
  limit g hg := by
    have htried : State.tried { s with guesses := (id, c.maxAttempts) :: s.guesses } g.1 =
        s.tried g.1 + if id = g.1 then 1 else 0 := by simp [State.tried, List.countP_cons]
    rw [htried]
    rcases List.mem_cons.mp hg with rfl | hg
    · rw [if_pos rfl]
      change s.tried id + 1 ≤ c.maxAttempts
      omega
    · have hlimit := h.limit g hg
      split
      · next heq =>
        have hmax := (h.known g hg).2 c (heq ▸ hc)
        rw [← heq]
        omega
      · omega
  once := h.once
  spent := h.spent
  below := h.below

/-- A challenge that is redeemed as it has been read. -/
theorem Counted.redeem (h : Counted s) {id : ℕ} {c read : OtpChallenge} (hc : s.otpChallenge.find id = some c)
    (hknown : (Op.redeemChallenge id read).Allowed s) (hattempts : c.attempts = read.attempts)
    (hcounted : s.tried id ≤ read.attempts) :
    Counted { s with
      otpChallenge := s.otpChallenge.deleteMany fun i _ => i == id
      redeemed := ⟨id, c.attempts, s.tried id, c.maxAttempts⟩ :: s.redeemed } := by
  obtain ⟨hbelow, -, hmax⟩ := hknown
  have hmax := hmax c hc
  have helapses : Elapses s { s with otpChallenge := s.otpChallenge.deleteMany fun i _ => i == id } :=
    .deleteMany (fun i _ => i == id) rfl
  have hsound := h.elapse helapses rfl rfl
  have hnew : id ∉ s.redeemed.map (·.challengeId) := by
    intro hmem
    obtain ⟨r, hr, rfl⟩ := List.mem_map.mp hmem
    rw [(h.spent r hr).1] at hc
    cases hc
  refine ⟨hsound.known, hsound.limit, List.nodup_cons.mpr ⟨hnew, h.once⟩, fun r hr => ?_, fun r hr => ?_⟩
  · rcases List.mem_cons.mp hr with rfl | hr
    · have hlt : id < s.otpChallenge.next := Table.lt_next hc
      refine ⟨?_, hlt⟩
      change (s.otpChallenge.deleteMany fun i _ => i == id).find id = none
      rw [Table.find_deleteMany, hc]
      simp
    · exact hsound.spent r hr
  · rcases List.mem_cons.mp hr with rfl | hr
    · change c.attempts < c.maxAttempts ∧ s.tried id < c.maxAttempts
      omega
    · exact h.below r hr

/-- Every call that is undisturbed keeps what holds of challenges and codes. -/
theorem codes_safe {α : Type} (op : Op α) : codes.Safe (machine cfg) op := by
  intro e s hinv hknown hallowed
  change Counted (exec cfg op e s).2 ∧ Elapses s (exec cfg op e s).2
  have hkeep {s' : State} (helapses : Elapses s s') (hguesses : s'.guesses = s.guesses)
      (hredeemed : s'.redeemed = s.redeemed) : Counted s' ∧ Elapses s s' :=
    ⟨Counted.elapse hinv helapses hguesses hredeemed, helapses⟩
  by_cases hof : op.ofCodes = false
  · have hsame : CodesKept s (exec cfg op e s).2 := exec_codesKept hof e s
    obtain ⟨htable, hguesses, hredeemed⟩ := hsame
    refine hkeep ⟨htable ▸ le_rfl, fun i c hi hc => ⟨c, ?_, rfl⟩⟩ hguesses hredeemed
    rwa [htable] at hc
  cases op <;> first | exact absurd rfl hof | clear hof
  case deleteChallenges userId purpose =>
    exact hkeep (.deleteMany (fun _ c => c.userId == userId && c.purpose == purpose) rfl) rfl rfl
  case createChallenge userId purpose email =>
    simp only [exec]
    split
    · exact hkeep (refl_of Elapses s) rfl rfl
    · exact hkeep (.create (asked cfg e userId purpose email) rfl) rfl rfl
  case deleteChallenge id =>
    simp only [exec]
    split
    · exact hkeep (.deleteMany (fun i _ => i == id) rfl) rfl rfl
    · exact hkeep (refl_of Elapses s) rfl rfl
  case countFailure id =>
    simp only [exec]
    split
    · exact hkeep (.update id (fun c => { c with attempts := c.attempts + 1 }) (fun _ => rfl) rfl) rfl rfl
    · exact hkeep (refl_of Elapses s) rfl rfl
  case findChallenge userId email purpose otp =>
    have hcounted : (openChallenge e.now userId email purpose s).all fun c => decide (s.tried c.1 ≤ c.2.attempts) :=
      hallowed
    simp only [exec]
    split
    · next id c hopen =>
      rw [hopen] at hcounted
      split
      · next hwrong =>
        refine ⟨Counted.guess hinv (find_openChallenge hopen) hwrong.1 (by simpa using hcounted), ?_⟩
        exact ⟨le_rfl, fun _ c _ hc => ⟨c, hc, rfl⟩⟩
      · exact hkeep (refl_of Elapses s) rfl rfl
    · exact hkeep (refl_of Elapses s) rfl rfl
  case redeemChallenge id read =>
    have hsame : (s.otpChallenge.find id).all
        fun c => c.attempts == read.attempts && decide (s.tried id ≤ read.attempts) := hallowed
    simp only [exec]
    split
    · next c hc =>
      rw [hc, Option.all_some, Bool.and_eq_true, beq_iff_eq, decide_eq_true_eq] at hsame
      have hread : (Op.redeemChallenge id read).Allowed s := hknown
      exact ⟨Counted.redeem hinv hc hread hsame.1 hsame.2, .deleteMany (fun i _ => i == id) rfl⟩
    · exact hkeep (refl_of Elapses s) rfl rfl

/-! ## Requests -/

/-- A code that is right and below the limit may be redeemed. -/
theorem consumeOtp_ready (userId : ℕ) (email : String) (purpose : OtpPurpose) (otp : String) (s : State) :
    codes.Ready (machine cfg) (consumeOtp cfg userId email purpose otp) s := by
  refine .call_bind (fun _ _ _ => trivial) fun e s₁ _ _ _ _ _ found hfound => .orFail_bind fun challenge hc => ?_
  obtain ⟨id, read⟩ := challenge
  subst hc
  have hread : s₁.otpChallenge.find id = some read := by
    change (exec cfg (.findChallenge userId email purpose otp) e s₁).1 = .ok (some (id, read)) at hfound
    simp only [exec] at hfound
    split at hfound
    · next hopen =>
      obtain ⟨rfl, rfl⟩ := Prod.mk.inj (Option.some.inj (Except.ok.inj hfound))
      exact find_openChallenge hopen
    · cases hfound
  have htable : (exec cfg (.findChallenge userId email purpose otp) e s₁).2.otpChallenge = s₁.otpChallenge := by
    simp only [exec]
    repeat' split
    all_goals rfl
  refine .require_bind fun hbelow => ?_
  change codes.Ready (machine cfg) (ite _ _ _) (exec cfg (.findChallenge userId email purpose otp) e s₁).2
  split
  · refine .then (fun s₂ hs₂ _ => ⟨hbelow, ?_, fun c hc => ?_⟩) fun deleted s₂ _ _ => ?_
    · have hlt := hs₂.next
      rw [htable] at hlt
      exact (Table.lt_next hread).trans_le hlt
    · obtain ⟨c₀, hc₀, hmax⟩ := hs₂.kept id c (htable ▸ Table.lt_next hread) hc
      rw [htable, hread] at hc₀
      obtain rfl := Option.some.inj hc₀
      exact hmax
    · exact Contract.informed_of_all (Prog.all_require _ _) s₂
  · exact .then (fun _ _ _ => trivial) fun _ _ _ _ => trivial

/-- Every request redeems only codes that are right and below the limit. -/
theorem codes_ready {p : Request Unit} (h : AuthRequest cfg p) (s : State) : codes.Ready (machine cfg) p s := by
  have hnothing {β : Type} (op : Op β) (hop : op.asks = false) (s : State) : codes.known op s := by
    cases op <;> trivial
  have hissue (userId : ℕ) (challenge : Option String) (existing : Option (RefreshToken × ℕ × Digest)) (s : State) :
      codes.Ready (machine cfg) (issueTokens userId challenge existing) s := by
    refine .bind ?_ fun session s₁ => ?_
    · cases existing with
      | none => exact .call fun _ _ _ => trivial
      | some existing =>
        refine .then (fun _ _ _ => trivial) fun _ _ _ _ => .require_bind fun _ => ?_
        exact .then (fun _ _ _ => trivial) fun _ _ _ _ => .orFail_bind fun _ _ => trivial
    · exact .then (fun _ _ _ => trivial) fun _ _ _ _ => .then (fun _ _ _ => trivial) fun _ _ _ _ => trivial
  refine request_ready hnothing (fun _ _ s => hissue _ _ none s) (fun token s => ?_) consumeOtp_ready h s
  refine .bind (.attempt ?_ fun err _ => by cases err <;> trivial) fun _ s₁ => hissue _ _ _ s₁
  refine .then (fun _ _ _ => trivial) fun _ _ _ _ => .then (fun _ _ _ => trivial) fun _ _ _ _ => ?_
  refine .then (fun _ _ _ => trivial) fun _ _ _ _ => .orFail_bind fun session _ => ?_
  exact .then (fun _ _ _ => trivial) fun _ _ _ _ => .require_bind fun _ => trivial

/-! ## Runs -/

/-- Every operation of the identity service keeps what is known of the codes. -/
theorem codes_hold : codes.Holds (auth cfg) where
  starts hp s _ := codes_ready hp s
  performs op := codes_safe op
  background {s s'} h hinv := by
    have helapses : Elapses s s' := by
      refine ⟨h.otpChallenge ▸ le_rfl, fun i c _ hc => ⟨c, ?_, rfl⟩⟩
      rwa [h.otpChallenge] at hc
    exact ⟨Counted.elapse hinv helapses h.guesses h.redeemed, helapses⟩

/-- Where challenges are read when every failure has been counted, and redeemed as they have been read, no more
wrong codes are tried than a challenge allows, each is redeemed at most once, and only below its limit. -/
theorem attempts_bounded {s : State} (hs : Counted s) {c : Config Op Error State}
    (hrun : (auth cfg).Run (fun op e c => op.undisturbed e c.world) ⟨s, []⟩ c) :
    (∀ g ∈ c.world.guesses, c.world.tried g.1 ≤ g.2) ∧ (c.world.redeemed.map (·.challengeId)).Nodup ∧
      ∀ r ∈ c.world.redeemed, r.attempts < r.maxAttempts ∧ r.guesses < r.maxAttempts := by
  have hstart : codes.Sound (auth cfg) ⟨s, []⟩ := ⟨hs, nofun⟩
  obtain ⟨⟨hinv, -⟩, -⟩ := codes_hold.run hstart hrun
  exact ⟨hinv.limit, hinv.once, hinv.below⟩

/-! ## Two guesses -/

/-- Nothing has been tried or redeemed before the first request. -/
theorem oneUser_counted : Counted oneUser where
  known _ hg := by cases hg
  limit _ hg := by cases hg
  once := .nil
  spent _ hr := by cases hr
  below _ hr := by cases hr

/-- A customer asks for a code, and somebody guesses twice. -/
def guessRequests : List (Request Unit) :=
  [forgotPassword "a@superstore.example", resetPassword plainSettings "a@superstore.example" "000000" "secret",
    resetPassword plainSettings "a@superstore.example" "000001" "secret"]

/-- The requests of the example can be made. -/
theorem guessRequests_start : ∀ p ∈ guessRequests, (auth plainSettings).starts p := by
  intro p hp
  rw [guessRequests, List.mem_cons, List.mem_pair] at hp
  rcases hp with rfl | rfl | rfl
  · exact .forgotPassword _
  · exact .resetPassword _ _ _
  · exact .resetPassword _ _ _

/-- The code is sent, and each guess is made, in some order. -/
def guessing (guesses : List ℕ) : List (ℕ × Env) :=
  List.replicate 6 (0, { now := 1, otp := "123456", challengeKey := "key" }) ++ guesses.map fun i =>
    (i, { now := 2 })

/-- Guesses that are made at the same time are all compared, however few are allowed. -/
theorem attempts_can_exceed :
    ¬∀ (cfg : Settings) (s : State) (c : Config Op Error State), Counted s → (auth cfg).Run System.anyOp ⟨s, []⟩ c →
      ∀ g ∈ c.world.guesses, c.world.tried g.1 ≤ g.2 := by
  intro h
  have hbound := h plainSettings oneUser _ oneUser_counted
    ((auth plainSettings).schedule_run guessRequests_start (guessing [1, 1, 2, 2])) (1, 1) (by decide +kernel)
  revert hbound
  decide +kernel

/-- A guess that comes after another one has been counted is not compared. -/
theorem attempts_bounded_one :
    (∀ g ∈ ((auth plainSettings).follow ⟨oneUser, guessRequests⟩ (guessing [1, 1, 1, 2, 2])).world.guesses,
      ((auth plainSettings).follow ⟨oneUser, guessRequests⟩ (guessing [1, 1, 1, 2, 2])).world.tried g.1 ≤ g.2) ∧
    (((auth plainSettings).follow ⟨oneUser, guessRequests⟩
      (guessing [1, 1, 1, 2, 2])).world.redeemed.map (·.challengeId)).Nodup := by
  have hallows : (auth plainSettings).allows (fun op e c => op.undisturbed e c.world) ⟨oneUser, guessRequests⟩
      (guessing [1, 1, 1, 2, 2]) := by decide +kernel
  have hrun : (auth plainSettings).Run (fun op e c => op.undisturbed e c.world) ⟨oneUser, []⟩ _ :=
    ((auth plainSettings).start_all_run guessRequests_start).trans ((auth plainSettings).follow_run_of hallows)
  have hbounded := attempts_bounded oneUser_counted hrun
  exact ⟨hbounded.1, hbounded.2.1⟩

end Superstore.Auth
