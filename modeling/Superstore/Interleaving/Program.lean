import Mathlib.Order.Defs.Unbundled

/-!
# Programs that are run one atomic operation at a time

A program is a tree of operations. Between two operations anything else may happen to the
shared state, so a program remembers only what its earlier operations have returned. An
operation answers with a value or an error; `attempt` lets a program handle an error, and
`fork` starts a second program whose operations interleave with everybody else's.

The signature `Op` of operations is a parameter, with the answer type of an operation as
its index. What an operation does is supplied by the interpreter of the runs.
-/

namespace Interleaving

/-- A program over the operations `Op` that returns an `α` or fails with an `ε`. -/
inductive Prog (Op : Type → Type 1) (ε : Type) : Type → Type 1
  | done {α : Type} (r : Except ε α) : Prog Op ε α
  | perform {α β : Type} (op : Op β) (k : Except ε β → Prog Op ε α) : Prog Op ε α
  | fork {α : Type} (child : Prog Op ε Unit) (k : Prog Op ε α) : Prog Op ε α

/-- What each operation does to the shared state: given what the environment contributes, its
answer and the next state. -/
structure Machine (Op : Type → Type 1) (ε σ ω : Type) where
  exec : ∀ {β : Type}, Op β → ω → σ → Except ε β × σ

namespace Prog

variable {Op : Type → Type 1} {ε α β γ σ ω : Type}

/-- Continue with the value of a returning program; an error skips the continuation. -/
def bind : Prog Op ε α → (α → Prog Op ε β) → Prog Op ε β
  | .done (.ok a), f => f a
  | .done (.error e), _ => .done (.error e)
  | .perform op k, f => .perform op fun r => (k r).bind f
  | .fork child k, f => .fork child (k.bind f)

/-- Programs are sequenced with `do`. -/
instance : Monad (Prog Op ε) where
  pure a := .done (.ok a)
  bind := Prog.bind

/-- Run one operation and return its answer. -/
def call (op : Op α) : Prog Op ε α := .perform op .done

/-- Fail with an error. -/
def fail (e : ε) : Prog Op ε α := .done (.error e)

/-- Fail unless a condition holds. -/
def require (c : Prop) [Decidable c] (e : ε) : Prog Op ε Unit :=
  if c then .done (.ok ()) else .done (.error e)

/-- The value of an option, or a failure. -/
def orFail (o : Option α) (e : ε) : Prog Op ε α :=
  match o with
  | some a => .done (.ok a)
  | none => .done (.error e)

/-- Run a program and hand its error, if there is one, to a handler. -/
def attempt : Prog Op ε α → (ε → Prog Op ε α) → Prog Op ε α
  | .done (.ok a), _ => .done (.ok a)
  | .done (.error e), handler => handler e
  | .perform op k, handler => .perform op fun r => (k r).attempt handler
  | .fork child k, handler => .fork child (k.attempt handler)

/-- Run a program for every element of a list, one after the other. -/
def forEach : List β → (β → Prog Op ε Unit) → Prog Op ε Unit
  | [], _ => .done (.ok ())
  | x :: xs, body => (body x).bind fun _ => forEach xs body

/-- Start one program for every element of a list, all at once. -/
def forkEach : List β → (β → Prog Op ε Unit) → Prog Op ε Unit
  | [], _ => .done (.ok ())
  | x :: xs, body => .fork (body x) (forkEach xs body)

/-- A value is a program that is done. -/
@[simp] theorem pure_eq (a : α) : (pure a : Prog Op ε α) = .done (.ok a) := rfl

/-- The sequence of `do` is the sequence of programs. -/
@[simp] theorem bind_eq (p : Prog Op ε α) (f : α → Prog Op ε β) : p >>= f = p.bind f := rfl

/-- A sequence whose first part is a value is its second part. -/
@[simp] theorem done_ok_bind (a : α) (f : α → Prog Op ε β) :
    (Prog.done (.ok a) : Prog Op ε α).bind f = f a := rfl

/-- A sequence of three programs may be grouped either way. -/
theorem bind_assoc (p : Prog Op ε α) (f : α → Prog Op ε β) (g : β → Prog Op ε γ) :
    (p.bind f).bind g = p.bind fun a => (f a).bind g := by
  induction p with
  | done r => cases r <;> rfl
  | perform op k ih => exact congrArg (Prog.perform op) (funext fun r => ih r f)
  | fork child k _ ih => exact congrArg (Prog.fork child) (ih f)

/-! ## Undisturbed runs -/

variable (m : Machine Op ε σ ω)

/-- A run of one program without anything in between, under one environment answer. A forked
program is run to its end where it is started. -/
def runAlone (e : ω) : ∀ {α : Type}, Prog Op ε α → σ → Except ε α × σ
  | _, .done r, s => (r, s)
  | _, .perform op k, s => runAlone e (k (m.exec op e s).1) (m.exec op e s).2
  | _, .fork child k, s => runAlone e k (runAlone e child s).2

/-- The complete undisturbed runs of one program; every operation has its own environment answer. -/
inductive Alone : {α : Type} → Prog Op ε α → σ → Except ε α → σ → Prop
  | done {α : Type} (r : Except ε α) (s : σ) : Alone (.done r) s r s
  | perform {α β : Type} {op : Op β} {k : Except ε β → Prog Op ε α} {s s' : σ} {r : Except ε α}
      (e : ω) (h : Alone (k (m.exec op e s).1) (m.exec op e s).2 r s') :
      Alone (.perform op k) s r s'
  | fork {α : Type} {child : Prog Op ε Unit} {k : Prog Op ε α} {s s₁ s' : σ} {r : Except ε α}
      {rc : Except ε Unit} (hc : Alone child s rc s₁) (h : Alone k s₁ r s') :
      Alone (.fork child k) s r s'

/-- A run under one environment answer is one of the complete undisturbed runs. -/
theorem alone_runAlone (e : ω) (p : Prog Op ε α) (s : σ) :
    Alone m p s (p.runAlone m e s).1 (p.runAlone m e s).2 := by
  induction p generalizing s with
  | done r => exact .done r s
  | perform op k ih => exact .perform e (ih _ _)
  | fork child k ihc ih => exact .fork (ihc s) (ih _)

/-- Running a sequence alone is running its parts one after the other. -/
theorem runAlone_bind (e : ω) (p : Prog Op ε α) (f : α → Prog Op ε β)
    (s : σ) :
    (p.bind f).runAlone m e s =
      match p.runAlone m e s with
      | (.ok a, s') => (f a).runAlone m e s'
      | (.error err, s') => (.error err, s') := by
  induction p generalizing s with
  | done r => cases r <;> rfl
  | perform op k ih => exact ih _ f _
  | fork child k _ ih => exact ih f _

/-- Run alone under one environment answer, a program returns, with a result and a state that
satisfy `Q`. -/
def Ends (e : ω) (p : Prog Op ε α) (Q : α → σ → Prop) (s : σ) : Prop :=
  ∃ a s', p.runAlone m e s = (.ok a, s') ∧ Q a s'

/-- What a program ends with may be weakened. -/
theorem Ends.mono {m : Machine Op ε σ ω} {e : ω} {p : Prog Op ε α} {Q R : α → σ → Prop} {s : σ}
    (h : Ends m e p Q s) (hQR : ∀ a s', Q a s' → R a s') : Ends m e p R s := by
  obtain ⟨a, s', hrun, hQ⟩ := h
  exact ⟨a, s', hrun, hQR a s' hQ⟩

/-- A program that is done ends with its value. -/
@[simp] theorem ends_done (e : ω) (r : Except ε α) (Q : α → σ → Prop) (s : σ) :
    Ends m e (.done r) Q s ↔ ∃ a, r = .ok a ∧ Q a s := by
  simp [Ends, runAlone, and_assoc]

/-- An operation ends with its answer. -/
@[simp] theorem ends_call (e : ω) (op : Op α) (Q : α → σ → Prop) (s : σ) :
    Ends m e (call op) Q s ↔ ∃ a, (m.exec op e s).1 = .ok a ∧ Q a (m.exec op e s).2 := by
  change (∃ a s', m.exec op e s = (.ok a, s') ∧ Q a s') ↔ _
  constructor
  · rintro ⟨a, s', hrun, hQ⟩
    rw [hrun]
    exact ⟨a, rfl, hQ⟩
  · rintro ⟨a, ha, hQ⟩
    exact ⟨a, _, Prod.ext ha rfl, hQ⟩

/-- A sequence ends where its second part does, after the first one. -/
@[simp] theorem ends_bind (e : ω) (p : Prog Op ε α) (f : α → Prog Op ε β) (Q : β → σ → Prop) (s : σ) :
    Ends m e (p.bind f) Q s ↔ Ends m e p (fun a s' => Ends m e (f a) Q s') s := by
  rw [Ends, Ends, runAlone_bind]
  cases h : p.runAlone m e s with
  | mk r s' =>
    cases r with
    | ok a => simp [Ends, and_assoc]
    | error err => simp

/-- The weakest precondition of the complete undisturbed runs of a program. -/
def wpAlone : ∀ {α : Type}, Prog Op ε α → (Except ε α → σ → Prop) → σ → Prop
  | _, .done r, Q, s => Q r s
  | _, .perform op k, Q, s => ∀ e, wpAlone (k (m.exec op e s).1) Q (m.exec op e s).2
  | _, .fork child k, Q, s => wpAlone child (fun _ s₁ => wpAlone k Q s₁) s

/-- The weakest precondition holds exactly where every undisturbed run ends well. -/
theorem wpAlone_iff (p : Prog Op ε α) (Q : Except ε α → σ → Prop) (s : σ) :
    p.wpAlone m Q s ↔ ∀ r s', Alone m p s r s' → Q r s' := by
  constructor
  · intro h r s' hrun
    induction hrun with
    | done r s => exact h
    | perform e _ ih => exact ih Q (h e)
    | fork _ _ ihc ih => exact ih Q (ihc _ h)
  · intro h
    induction p generalizing s with
    | done r => exact h r s (.done r s)
    | perform op k ih => exact fun e => ih _ Q _ fun r s' hrun => h r s' (.perform e hrun)
    | fork child k ihc ih =>
      exact ihc _ s fun rc s₁ hc => ih Q s₁ fun r s' hrun => h r s' (.fork hc hrun)

/-- What every undisturbed run ends with may be weakened. -/
theorem wpAlone_mono {p : Prog Op ε α} {Q R : Except ε α → σ → Prop} {s : σ}
    (h : p.wpAlone m Q s) (hQR : ∀ r s', Q r s' → R r s') : p.wpAlone m R s :=
  (wpAlone_iff m p R s).mpr fun r s' hrun => hQR r s' ((wpAlone_iff m p Q s).mp h r s' hrun)

/-- A program that is done ends with its result. -/
@[simp] theorem wpAlone_done (r : Except ε α) (Q : Except ε α → σ → Prop) (s : σ) :
    wpAlone m (.done r) Q s ↔ Q r s := Iff.rfl

/-- A program that fails ends with its error. -/
@[simp] theorem wpAlone_fail (e : ε) (Q : Except ε α → σ → Prop) (s : σ) :
    wpAlone m (fail e) Q s ↔ Q (.error e) s := Iff.rfl

/-- An operation ends with its answer, in whichever environment. -/
@[simp] theorem wpAlone_call (op : Op α) (Q : Except ε α → σ → Prop) (s : σ) :
    wpAlone m (call op) Q s ↔ ∀ e, Q (m.exec op e s).1 (m.exec op e s).2 := Iff.rfl

/-- A requirement ends well exactly if it is met. -/
@[simp] theorem wpAlone_require (c : Prop) [Decidable c] (e : ε) (Q : Except ε Unit → σ → Prop)
    (s : σ) : wpAlone m (require c e) Q s ↔ (c → Q (.ok ()) s) ∧ (¬c → Q (.error e) s) := by
  by_cases h : c <;> simp [require, h]

/-- An option ends with its value, if it has one. -/
@[simp] theorem wpAlone_orFail (o : Option α) (e : ε) (Q : Except ε α → σ → Prop) (s : σ) :
    wpAlone m (orFail o e) Q s ↔ (∀ a, o = some a → Q (.ok a) s) ∧ (o = none → Q (.error e) s) := by
  cases o <;> simp [orFail]

/-- The weakest precondition of a sequence; an error of the first part ends it. -/
@[simp] theorem wpAlone_bind (p : Prog Op ε α) (f : α → Prog Op ε β)
    (Q : Except ε β → σ → Prop) (s : σ) :
    wpAlone m (p.bind f) Q s ↔ wpAlone m p (fun r s' =>
      (∀ a, r = .ok a → wpAlone m (f a) Q s') ∧ ∀ e, r = .error e → Q (.error e) s') s := by
  induction p generalizing s with
  | done r => cases r <;> simp [wpAlone, bind]
  | perform op k ih => exact forall_congr' fun e => ih _ f _
  | fork child k _ ih =>
    have hk : wpAlone m (k.bind f) Q = wpAlone m k fun r s' =>
        (∀ a, r = .ok a → wpAlone m (f a) Q s') ∧ ∀ e, r = .error e → Q (.error e) s' :=
      funext fun s₁ => propext (ih f s₁)
    simp only [bind, wpAlone, hk]

/-- The weakest precondition of an attempt; the handler starts where the error has left the state. -/
theorem wpAlone_attempt (p : Prog Op ε α) (handler : ε → Prog Op ε α) (Q : Except ε α → σ → Prop) (s : σ) :
    wpAlone m (p.attempt handler) Q s ↔ wpAlone m p (fun r s' =>
      (∀ a, r = .ok a → Q (.ok a) s') ∧ ∀ e, r = .error e → wpAlone m (handler e) Q s') s := by
  induction p generalizing s with
  | done r => cases r <;> simp [wpAlone, attempt]
  | perform op k ih => exact forall_congr' fun e => ih _ handler Q _
  | fork child k _ ih =>
    have hk : wpAlone m (k.attempt handler) Q = wpAlone m k fun r s' =>
        (∀ a, r = .ok a → Q (.ok a) s') ∧ ∀ e, r = .error e → wpAlone m (handler e) Q s' :=
      funext fun s₁ => propext (ih handler Q s₁)
    simp only [attempt, wpAlone, hk]

/-- From a state on, every undisturbed run of a program ends in a related state. -/
def Within (R : σ → σ → Prop) (p : Prog Op ε α) (s : σ) : Prop := p.wpAlone m (fun _ s' => R s s') s

section Within

variable {m} {R : σ → σ → Prop} [IsPreorder σ R] {s : σ}

/-- A program that is done stays within every relation. -/
theorem Within.done (r : Except ε α) : (Prog.done r : Prog Op ε α).Within m R s := refl_of R s

/-- An operation that stays within the relation, followed by a program that does so from every state on. -/
theorem Within.call_bind {op : Op β} {f : β → Prog Op ε α} (hop : ∀ e, R s (m.exec op e s).2)
    (hf : ∀ b s₁, (f b).Within m R s₁) : ((call op).bind f).Within m R s := by
  refine (wpAlone_bind m _ f _ s).mpr fun e => ⟨fun b _ => ?_, fun _ _ => hop e⟩
  exact wpAlone_mono m (hf b _) fun _ _ => trans_of R (hop e)

/-- An operation that changes nothing, followed by a program that knows its answer. -/
theorem Within.read_bind {op : Op β} {f : β → Prog Op ε α} (hop : ∀ e, (m.exec op e s).2 = s)
    (hf : ∀ e b, (m.exec op e s).1 = .ok b → (f b).Within m R s) :
    ((call op).bind f).Within m R s := by
  refine (wpAlone_bind m _ f _ s).mpr fun e => ?_
  change (∀ b, _ → wpAlone m (f b) _ (m.exec op e s).2) ∧ ∀ err, _ → R s (m.exec op e s).2
  rw [hop e]
  exact ⟨hf e, fun _ _ => refl_of R s⟩

/-- A decision made without any operation. -/
theorem Within.done_bind {r : Except ε β} {f : β → Prog Op ε α}
    (hf : ∀ b, r = .ok b → (f b).Within m R s) : ((Prog.done r).bind f).Within m R s := by
  cases r with
  | error e => exact .done _
  | ok b => exact hf b rfl

end Within

/-! ## Conditions on the operations of a program -/

/-- Every operation that the program can come to satisfies a condition. -/
def All (Φ : ∀ β, Op β → Prop) : ∀ {α : Type}, Prog Op ε α → Prop
  | _, .done _ => True
  | _, .perform op k => Φ _ op ∧ ∀ r, All Φ (k r)
  | _, .fork child k => All Φ child ∧ All Φ k

variable {Φ : ∀ β, Op β → Prop}

/-- A program that is done has no operation. -/
@[simp] theorem all_done (r : Except ε α) : All Φ (.done r : Prog Op ε α) := trivial

/-- A program that fails has no operation. -/
@[simp] theorem all_fail (e : ε) : All Φ (fail e : Prog Op ε α) := trivial

/-- A call has one operation. -/
@[simp] theorem all_call (op : Op α) : All Φ (call op : Prog Op ε α) ↔ Φ α op := by
  simp [call, All]

/-- A requirement has no operation. -/
@[simp] theorem all_require (c : Prop) [Decidable c] (e : ε) :
    All Φ (require c e : Prog Op ε Unit) := by
  by_cases h : c <;> simp [require, h]

/-- An option has no operation. -/
@[simp] theorem all_orFail (o : Option α) (e : ε) : All Φ (orFail o e : Prog Op ε α) := by
  cases o <;> simp [orFail]

/-- A condition that holds of every operation holds of those of any program. -/
theorem all_of_forall (h : ∀ β (op : Op β), Φ β op) (p : Prog Op ε α) : All Φ p := by
  induction p with
  | done r => trivial
  | perform op k ih => exact ⟨h _ op, ih⟩
  | fork child k ihc ih => exact ⟨ihc, ih⟩

/-- A condition on operations may be weakened. -/
theorem All.imp {Ψ : ∀ β, Op β → Prop} {p : Prog Op ε α} (h : p.All Φ) (hΦ : ∀ β op, Φ β op → Ψ β op) :
    p.All Ψ := by
  induction p with
  | done r => trivial
  | perform op k ih => exact ⟨hΦ _ op h.1, fun r => ih r (h.2 r)⟩
  | fork child k ihc ih => exact ⟨ihc h.1, ih h.2⟩

/-- A program whose operations all stay within a relation does so from every state on. -/
theorem All.within {m : Machine Op ε σ ω} {R : σ → σ → Prop} [IsPreorder σ R] {p : Prog Op ε α}
    (h : p.All fun _ op => ∀ e s, R s (m.exec op e s).2) (s : σ) : p.Within m R s := by
  induction p generalizing s with
  | done r => exact refl_of R s
  | perform op k ih =>
    exact fun e => wpAlone_mono m (ih _ (h.2 _) _) fun _ _ => trans_of R (h.1 e s)
  | fork child k ihc ih =>
    change wpAlone m child (fun _ s₁ => wpAlone m k (fun _ s' => R s s') s₁) s
    exact wpAlone_mono m (ihc h.1 s) fun _ s₁ h₁ => wpAlone_mono m (ih h.2 s₁) fun _ _ => trans_of R h₁

/-- A sequence satisfies a condition when its parts do. -/
theorem All.bind {p : Prog Op ε α} {f : α → Prog Op ε β} (hp : p.All Φ) (hf : ∀ a, (f a).All Φ) :
    (p.bind f).All Φ := by
  induction p with
  | done r =>
    cases r with
    | ok a => exact hf a
    | error e => trivial
  | perform op k ih => exact ⟨hp.1, fun r => ih r (hp.2 r) hf⟩
  | fork child k _ ih => exact ⟨hp.1, ih hp.2 hf⟩

/-- An attempt satisfies a condition when its program and its handler do. -/
theorem All.attempt {p : Prog Op ε α} {handler : ε → Prog Op ε α} (hp : p.All Φ)
    (hh : ∀ e, (handler e).All Φ) : (p.attempt handler).All Φ := by
  induction p with
  | done r =>
    cases r with
    | ok a => trivial
    | error e => exact hh e
  | perform op k ih => exact ⟨hp.1, fun r => ih r (hp.2 r) hh⟩
  | fork child k _ ih => exact ⟨hp.1, ih hp.2 hh⟩

/-- A loop satisfies a condition if its body does. -/
theorem All.forEach {xs : List β} {body : β → Prog Op ε Unit} (h : ∀ x ∈ xs, (body x).All Φ) :
    (forEach xs body).All Φ := by
  induction xs with
  | nil => trivial
  | cons x xs ih =>
    exact (h x List.mem_cons_self).bind fun _ => ih fun y hy => h y (List.mem_cons_of_mem _ hy)

/-- Programs that are started together satisfy a condition if each of them does. -/
theorem All.forkEach {xs : List β} {body : β → Prog Op ε Unit} (h : ∀ x ∈ xs, (body x).All Φ) :
    (forkEach xs body).All Φ := by
  induction xs with
  | nil => trivial
  | cons x xs ih =>
    exact ⟨h x List.mem_cons_self, ih fun y hy => h y (List.mem_cons_of_mem _ hy)⟩

/-! ## Conditions along an undisturbed run -/

/-- Wherever an undisturbed run comes to an operation, a condition holds. -/
def Along (Φ : ∀ β, Op β → σ → Prop) : ∀ {α : Type}, Prog Op ε α → σ → Prop
  | _, .done _, _ => True
  | _, .perform op k, s => Φ _ op s ∧ ∀ e, Along Φ (k (m.exec op e s).1) (m.exec op e s).2
  | _, .fork child k, s => Along Φ child s ∧ child.wpAlone m (fun _ s₁ => Along Φ k s₁) s

section Along

variable {m} {Ψ : ∀ β, Op β → σ → Prop}

/-- A condition holds along a sequence if it does at the first operation and along what follows. -/
theorem Along.call_bind {op : Op β} {f : β → Prog Op ε α} {s : σ} (hop : Ψ β op s)
    (hf : ∀ e b, (m.exec op e s).1 = .ok b → (f b).Along m Ψ (m.exec op e s).2) :
    ((call op).bind f).Along m Ψ s := by
  refine ⟨hop, fun e => ?_⟩
  change (Prog.bind (.done (m.exec op e s).1) f).Along m Ψ (m.exec op e s).2
  cases hr : (m.exec op e s).1 with
  | ok b => exact hf e b hr
  | error err => trivial

/-- A condition that no operation of a program gives up holds after the program. -/
theorem All.keeps {P : σ → Prop} {p : Prog Op ε α} (h : p.All fun _ op => ∀ s, P s → ∀ e, P (m.exec op e s).2)
    {s : σ} (hs : P s) : p.wpAlone m (fun _ s' => P s') s := by
  induction p generalizing s with
  | done r => exact hs
  | perform op k ih => exact fun e => ih _ (h.2 _) (h.1 s hs e)
  | fork child k ihc ih =>
    change wpAlone m child (fun _ s₁ => wpAlone m k (fun _ s' => P s') s₁) s
    exact wpAlone_mono m (ihc h.1 hs) fun _ _ h₁ => ih h.2 h₁

/-- A condition that no operation of a program gives up, and that comes with another one, comes with
it along the program. -/
theorem All.along {P : σ → Prop} {p : Prog Op ε α}
    (h : p.All fun β op => ∀ s, P s → Ψ β op s ∧ ∀ e, P (m.exec op e s).2) {s : σ} (hs : P s) :
    p.Along m Ψ s := by
  induction p generalizing s with
  | done r => trivial
  | perform op k ih => exact ⟨(h.1 s hs).1, fun e => ih _ (h.2 _) ((h.1 s hs).2 e)⟩
  | fork child k ihc ih =>
    have hkeeps := h.1.imp fun _ _ hop s hs => (hop s hs).2
    exact ⟨ihc h.1 hs, wpAlone_mono m (hkeeps.keeps hs) fun _ _ h₁ => ih h.2 h₁⟩

end Along

/-! ## What a program can end with -/

/-- Whatever its operations answer, a program ends with a result that satisfies a condition. -/
def Yields (P : Except ε α → Prop) : Prog Op ε α → Prop
  | .done r => P r
  | .perform _ k => ∀ r, (k r).Yields P
  | .fork _ k => k.Yields P

/-- A sequence ends well if its second part does from every value on, or with an error. -/
theorem Yields.bind {P : Except ε β → Prop} (p : Prog Op ε α) {f : α → Prog Op ε β}
    (hf : ∀ a, (f a).Yields P) (herror : ∀ e, P (.error e)) : (p.bind f).Yields P := by
  induction p with
  | done r =>
    cases r with
    | ok a => exact hf a
    | error e => exact herror e
  | perform op k ih => exact fun r => ih r hf
  | fork child k _ ih => exact ih hf

/-- A sequence whose second part returns only values of a kind does so as well. -/
theorem Yields.bind_ok {P : β → Prop} (p : Prog Op ε α) {f : α → Prog Op ε β}
    (hf : ∀ a, (f a).Yields fun r => ∀ b, r = .ok b → P b) : (p.bind f).Yields fun r => ∀ b, r = .ok b → P b := by
  refine Yields.bind p hf fun e b h => ?_
  cases h

/-- An attempt ends well if its program and its handler do. -/
theorem Yields.attempt {P : Except ε α → Prop} {p : Prog Op ε α} {handler : ε → Prog Op ε α}
    (hp : p.Yields P) (hh : ∀ e, (handler e).Yields P) : (p.attempt handler).Yields P := by
  induction p with
  | done r =>
    cases r with
    | ok a => exact hp
    | error e => exact hh e
  | perform op k ih => exact fun r => ih r (hp r) hh
  | fork child k _ ih => exact ih hp hh

/-- A sequence whose second part satisfies a condition for every value that the first can end with. -/
theorem All.bind_yields {P : Except ε α → Prop} {p : Prog Op ε α} {f : α → Prog Op ε β} (hp : p.All Φ)
    (hy : p.Yields P) (hf : ∀ a, P (.ok a) → (f a).All Φ) : (p.bind f).All Φ := by
  induction p with
  | done r =>
    cases r with
    | ok a => exact hf a hy
    | error e => trivial
  | perform op k ih => exact ⟨hp.1, fun r => ih r (hp.2 r) (hy r) hf⟩
  | fork child k _ ih => exact ⟨hp.1, ih hp.2 hy hf⟩

end Prog

end Interleaving
