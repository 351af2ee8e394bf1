import Mathlib.Data.Nat.Notation
import Mathlib.Logic.Relation
import Superstore.Interleaving.Program

/-!
# Interleaved runs and the contracts they keep

A configuration is a shared state and the programs that are running. A step lets one of
them perform its next operation, starts a new program, or changes the state from outside.
Nothing makes a program go on: one that is never chosen again has stopped where it was.

A contract names an invariant, a guarantee and the facts that each operation relies on.
`Informed` says that a program has made sure of these facts when it comes to an operation,
whatever guaranteed changes happen in between: what it has read earlier survives exactly as
far as the guarantee preserves it, so no assertion has to be annotated. That an operation
keeps the contract where its facts are known is then shown once, not once for each program.
-/

namespace Interleaving

open Prog

variable {Op : Type → Type 1} {ε σ ω α β : Type}

/-- A machine together with the programs that may be started and the changes from outside. -/
structure System (Op : Type → Type 1) (ε σ ω : Type) extends Machine Op ε σ ω where
  starts : Prog Op ε Unit → Prop
  background : σ → σ → Prop

/-- The shared state and the programs that have not finished yet. -/
structure Config (Op : Type → Type 1) (ε σ : Type) where
  world : σ
  threads : List (Prog Op ε Unit)

/-- Which operations a run may contain, given the state before them. -/
abbrev Condition (Op : Type → Type 1) (ε σ ω : Type) :=
  ∀ {β : Type}, Op β → ω → Config Op ε σ → Prop

namespace System

variable (S : System Op ε σ ω)

/-- One step of an interleaved run whose operations all meet a condition. -/
inductive Step (allowed : Condition Op ε σ ω) : Config Op ε σ → Config Op ε σ → Prop
  | start {c : Config Op ε σ} {p : Prog Op ε Unit} (hp : S.starts p) :
      Step allowed c ⟨c.world, c.threads ++ [p]⟩
  | perform {c : Config Op ε σ} {i : ℕ} {β : Type} {op : Op β}
      {k : Except ε β → Prog Op ε Unit} (e : ω) (hi : c.threads[i]? = some (.perform op k))
      (ha : allowed op e c) :
      Step allowed c ⟨(S.exec op e c.world).2, c.threads.set i (k (S.exec op e c.world).1)⟩
  | fork {c : Config Op ε σ} {i : ℕ} {child k : Prog Op ε Unit}
      (hi : c.threads[i]? = some (.fork child k)) :
      Step allowed c ⟨c.world, c.threads.set i k ++ [child]⟩
  | finish {c : Config Op ε σ} {i : ℕ} {r : Except ε Unit} (hi : c.threads[i]? = some (.done r)) :
      Step allowed c ⟨c.world, c.threads.eraseIdx i⟩
  | background {c : Config Op ε σ} {s : σ} (hs : S.background c.world s) :
      Step allowed c ⟨s, c.threads⟩

/-- Any number of steps. -/
abbrev Run (allowed : Condition Op ε σ ω) : Config Op ε σ → Config Op ε σ → Prop :=
  Relation.ReflTransGen (S.Step allowed)

/-- A step whose operation meets a condition meets every weaker one. -/
theorem Step.mono {allowed allowed' : Condition Op ε σ ω} {c c' : Config Op ε σ}
    (h : S.Step allowed c c')
    (hmono : ∀ {β : Type} (op : Op β) e c, allowed op e c → allowed' op e c) : S.Step allowed' c c' := by
  cases h with
  | start hp => exact .start hp
  | perform e hi ha => exact .perform e hi (hmono _ e c ha)
  | fork hi => exact .fork hi
  | finish hi => exact .finish hi
  | background hs => exact .background hs

/-- A run whose operations meet a condition meets every weaker one. -/
theorem Run.mono {allowed allowed' : Condition Op ε σ ω} {c c' : Config Op ε σ}
    (h : S.Run allowed c c')
    (hmono : ∀ {β : Type} (op : Op β) e c, allowed op e c → allowed' op e c) : S.Run allowed' c c' := by
  induction h with
  | refl => exact .refl
  | tail _ hstep ih => exact ih.tail (Step.mono S hstep hmono)

/-- What holds of every state of a run may be relied on in each of its steps. -/
theorem Run.and {allowed : Condition Op ε σ ω} {c c' : Config Op ε σ} (h : S.Run allowed c c')
    {Q : Config Op ε σ → Prop} (hQ : ∀ d, S.Run allowed c d → Q d) :
    S.Run (fun op e d => allowed op e d ∧ Q d) c c' := by
  induction h with
  | refl => exact .refl
  | tail hrun hstep ih =>
    refine ih.tail ?_
    cases hstep with
    | start hp => exact .start hp
    | perform e hi ha => exact .perform e hi ⟨ha, hQ _ hrun⟩
    | fork hi => exact .fork hi
    | finish hi => exact .finish hi
    | background hs => exact .background hs

/-- What programs have when they are started, and keep whatever their operations answer, all running
programs have. -/
theorem Run.threads {allowed : Condition Op ε σ ω} {c c' : Config Op ε σ} (h : S.Run allowed c c')
    {Q : Prog Op ε Unit → Prop} (hc : ∀ p ∈ c.threads, Q p) (hstart : ∀ p, S.starts p → Q p)
    (hperform : ∀ {β : Type} {op : Op β} {k : Except ε β → Prog Op ε Unit}, Q (.perform op k) → ∀ r, Q (k r))
    (hfork : ∀ {child k : Prog Op ε Unit}, Q (.fork child k) → Q child ∧ Q k) : ∀ p ∈ c'.threads, Q p := by
  induction h with
  | refl => exact hc
  | tail _ hstep ih =>
    cases hstep with
    | start hp =>
      intro p hmem
      rcases List.mem_append.mp hmem with hold | hnew
      · exact ih p hold
      · rw [List.mem_singleton.mp hnew]
        exact hstart _ hp
    | perform e hi ha =>
      intro p hmem
      rcases List.mem_or_eq_of_mem_set hmem with hold | rfl
      · exact ih p hold
      · exact hperform (ih _ (List.mem_of_getElem? hi)) _
    | fork hi =>
      intro p hmem
      obtain ⟨hchild, hk⟩ := hfork (ih _ (List.mem_of_getElem? hi))
      rcases List.mem_append.mp hmem with hold | hnew
      · rcases List.mem_or_eq_of_mem_set hold with hold | rfl
        · exact ih p hold
        · exact hk
      · rw [List.mem_singleton.mp hnew]
        exact hchild
    | finish hi => exact fun p hmem => ih p (List.mem_of_mem_eraseIdx hmem)
    | background hs => exact ih

/-- The condition that allows every operation. -/
def anyOp : Condition Op ε σ ω := fun _ _ _ => True

/-- Perform the next operation of one thread; a finished or missing thread changes nothing. -/
def advance (c : Config Op ε σ) (i : ℕ) (e : ω) : Config Op ε σ :=
  match c.threads[i]? with
  | some (.perform op k) =>
    ⟨(S.exec op e c.world).2, c.threads.set i (k (S.exec op e c.world).1)⟩
  | some (.fork child k) => ⟨c.world, c.threads.set i k ++ [child]⟩
  | _ => c

/-- Follow a schedule: in every round the chosen thread performs its next operation. -/
def follow (c : Config Op ε σ) : List (ℕ × ω) → Config Op ε σ
  | [] => c
  | (i, e) :: rest => follow (S.advance c i e) rest

/-- A scheduled round is a step, or changes nothing. -/
theorem advance_run (c : Config Op ε σ) (i : ℕ) (e : ω) :
    S.Run anyOp c (S.advance c i e) := by
  unfold advance
  split
  · next op k hi => exact .single (.perform e hi trivial)
  · next child k hi => exact .single (.fork hi)
  · exact .refl

/-- Every schedule gives a run. -/
theorem follow_run (c : Config Op ε σ) (schedule : List (ℕ × ω)) :
    S.Run anyOp c (S.follow c schedule) := by
  induction schedule generalizing c with
  | nil => exact .refl
  | cons round rest ih => exact (S.advance_run c round.1 round.2).trans (ih _)

/-- Programs that may be started can be running from the start. -/
theorem start_all_run {allowed : Condition Op ε σ ω} {s : σ} {ts ps : List (Prog Op ε Unit)}
    (h : ∀ p ∈ ps, S.starts p) : S.Run allowed ⟨s, ts⟩ ⟨s, ts ++ ps⟩ := by
  induction ps generalizing ts with
  | nil => simpa using Relation.ReflTransGen.refl
  | cons p ps ih =>
    have hstart : S.Step allowed ⟨s, ts⟩ ⟨s, ts ++ [p]⟩ := .start (h p List.mem_cons_self)
    have hrest : S.Run allowed ⟨s, ts ++ [p]⟩ ⟨s, (ts ++ [p]) ++ ps⟩ :=
      ih fun q hq => h q (List.mem_cons_of_mem _ hq)
    rw [List.append_assoc] at hrest
    exact .head hstart hrest

/-- A schedule gives a run from the state in which nothing has been started yet. -/
theorem schedule_run {s : σ} {ps : List (Prog Op ε Unit)} (h : ∀ p ∈ ps, S.starts p)
    (schedule : List (ℕ × ω)) : S.Run anyOp ⟨s, []⟩ (S.follow ⟨s, ps⟩ schedule) :=
  (S.start_all_run h).trans (S.follow_run _ _)

/-- A schedule whose environments all meet a condition gives a run in which they do. -/
theorem follow_run_env {Φ : ω → Prop} {c : Config Op ε σ} {schedule : List (ℕ × ω)}
    (h : ∀ round ∈ schedule, Φ round.2) : S.Run (fun _ e _ => Φ e) c (S.follow c schedule) := by
  induction schedule generalizing c with
  | nil => exact .refl
  | cons round rest ih =>
    refine Relation.ReflTransGen.trans ?_ (ih fun r hr => h r (List.mem_cons_of_mem _ hr))
    unfold advance
    split
    · next op k hi => exact .single (.perform _ hi (h round List.mem_cons_self))
    · next child k hi => exact .single (.fork hi)
    · exact .refl

/-- Every operation that a schedule comes to passes a test. -/
def allows (test : ∀ {β : Type}, Op β → ω → Config Op ε σ → Bool) (c : Config Op ε σ) :
    List (ℕ × ω) → Bool
  | [] => true
  | (i, e) :: rest =>
    (match c.threads[i]? with
      | some (.perform op _) => test op e c
      | _ => true) && allows test (S.advance c i e) rest

/-- A schedule whose operations all pass a test gives a run of allowed steps. -/
theorem follow_run_of {test : ∀ {β : Type}, Op β → ω → Config Op ε σ → Bool} {c : Config Op ε σ}
    {schedule : List (ℕ × ω)} (h : S.allows test c schedule) :
    S.Run (fun op e c => test op e c) c (S.follow c schedule) := by
  induction schedule generalizing c with
  | nil => exact .refl
  | cons round rest ih =>
    obtain ⟨i, e⟩ := round
    rw [allows, Bool.and_eq_true] at h
    refine Relation.ReflTransGen.trans ?_ (ih h.2)
    have htest := h.1
    unfold advance
    split
    · next op k hi =>
      rw [hi] at htest
      exact .single (.perform e hi htest)
    · next child k hi => exact .single (.fork hi)
    · exact .refl

/-! ### Programs that are run as a whole -/

/-- One program is run from its start to its end, where a condition allows it, or the state is changed
from outside. -/
inductive Turn (allowed : Prog Op ε Unit → σ → Prop) : σ → σ → Prop
  | request {p : Prog Op ε Unit} {s s' : σ} {r : Except ε Unit} (hp : S.starts p) (ha : allowed p s)
      (h : p.Alone S.toMachine s r s') : Turn allowed s s'
  | background {s s' : σ} (h : S.background s s') : Turn allowed s s'

/-- One program after the other. -/
abbrev Serial (allowed : Prog Op ε Unit → σ → Prop) : σ → σ → Prop := Relation.ReflTransGen (S.Turn allowed)

variable {S} in
/-- What every turn keeps holds after any number of them. -/
theorem Serial.keeps {allowed : Prog Op ε Unit → σ → Prop} {s s' : σ} (h : S.Serial allowed s s')
    (inv : σ → Prop) (hs : inv s) (hturn : ∀ s s', inv s → S.Turn allowed s s' → inv s') : inv s' := by
  induction h with
  | refl => exact hs
  | tail _ hstep ih => exact hturn _ _ ih hstep

/-- A program that is run as a whole in one environment. -/
theorem serial_runAlone {allowed : Prog Op ε Unit → σ → Prop} {p : Prog Op ε Unit} {s : σ} (e : ω)
    (hp : S.starts p) (ha : allowed p s) : S.Serial allowed s (p.runAlone S.toMachine e s).2 :=
  .single (.request hp ha (p.alone_runAlone S.toMachine e s))

end System

/-- What a system keeps: an invariant of the shared state, a bound on the changes of one step, and
the facts that a program has to have made sure of before each of its operations. The operations
that a condition on the state does not allow are left out of account. -/
structure Contract (Op : Type → Type 1) (σ ω : Type) where
  inv : σ → Prop
  guar : σ → σ → Prop
  known : ∀ {β : Type}, Op β → σ → Prop
  allowed : ∀ {β : Type}, Op β → ω → σ → Prop
  refl : ∀ s, guar s s
  trans : ∀ {s s' s''}, guar s s' → guar s' s'' → guar s s''

namespace Contract

variable (C : Contract Op σ ω) (m : Machine Op ε σ ω)

/-- From a state on, a program comes to its operations only where the facts they need are known,
and ends with a postcondition, whatever guaranteed changes happen before each operation. -/
def Informed : ∀ {α : Type}, Prog Op ε α → (Except ε α → σ → Prop) → σ → Prop
  | _, .done r, Q, s => Q r s
  | _, .perform op k, Q, s => ∀ e s₁, C.guar s s₁ → C.inv s₁ → C.allowed op e s₁ →
      C.known op s₁ ∧ (C.inv (m.exec op e s₁).2 → C.guar s₁ (m.exec op e s₁).2 →
        Informed (k (m.exec op e s₁).1) Q (m.exec op e s₁).2)
  | _, .fork child k, Q, s => Informed child (fun _ _ => True) s ∧ Informed k Q s

/-- An operation keeps the contract wherever the facts it needs are known. -/
def Safe {β : Type} (op : Op β) : Prop :=
  ∀ e s, C.inv s → C.known op s → C.allowed op e s →
    C.inv (m.exec op e s).2 ∧ C.guar s (m.exec op e s).2

variable {C m}

/-- What an informed program ends with may be weakened. -/
theorem Informed.mono {p : Prog Op ε α} {Q R : Except ε α → σ → Prop} {s : σ}
    (h : C.Informed m p Q s) (hQR : ∀ r s', Q r s' → R r s') : C.Informed m p R s := by
  induction p generalizing s with
  | done r => exact hQR r s h
  | perform op k ih =>
    intro e s₁ hs hinv ha
    obtain ⟨hknown, hk⟩ := h e s₁ hs hinv ha
    exact ⟨hknown, fun hinv' hguar => ih _ (hk hinv' hguar) hQR⟩
  | fork child k _ ih => exact ⟨h.1, ih h.2 hQR⟩

/-- What a program knows it still knows after guaranteed changes. -/
theorem Informed.later {p : Prog Op ε α} {s s' : σ} (h : C.Informed m p (fun _ _ => True) s)
    (hs : C.guar s s') : C.Informed m p (fun _ _ => True) s' := by
  induction p generalizing s s' with
  | done r => trivial
  | perform op k ih => exact fun e s₁ hs₁ => h e s₁ (C.trans hs hs₁)
  | fork child k ihc ih => exact ⟨ihc h.1 hs, ih h.2 hs⟩

/-- A program that ends with each of two postconditions ends with both. -/
theorem Informed.and {p : Prog Op ε α} {Q R : Except ε α → σ → Prop} {s : σ} (hQ : C.Informed m p Q s)
    (hR : C.Informed m p R s) : C.Informed m p (fun r s' => Q r s' ∧ R r s') s := by
  induction p generalizing s with
  | done r => exact ⟨hQ, hR⟩
  | perform op k ih =>
    intro e s₁ hs hinv ha
    obtain ⟨hknown, hkQ⟩ := hQ e s₁ hs hinv ha
    exact ⟨hknown, fun hinv' hguar => ih _ (hkQ hinv' hguar) ((hR e s₁ hs hinv ha).2 hinv' hguar)⟩
  | fork child k _ ih => exact ⟨hQ.1, ih hQ.2 hR.2⟩

/-- A sequence is informed if its second part is so from where the first one ends. -/
theorem Informed.bind {p : Prog Op ε α} {f : α → Prog Op ε β} {Q : Except ε β → σ → Prop} {s : σ}
    (h : C.Informed m p (fun r s' => (∀ a, r = .ok a → C.Informed m (f a) Q s') ∧
      ∀ e, r = .error e → Q (.error e) s') s) : C.Informed m (p.bind f) Q s := by
  induction p generalizing s with
  | done r =>
    cases r with
    | ok a => exact h.1 a rfl
    | error e => exact h.2 e rfl
  | perform op k ih =>
    intro e s₁ hs hinv ha
    obtain ⟨hknown, hk⟩ := h e s₁ hs hinv ha
    exact ⟨hknown, fun hinv' hguar => ih _ (hk hinv' hguar)⟩
  | fork child k _ ih => exact ⟨h.1, ih h.2⟩

/-- A sequence of which only the facts between its parts matter. -/
theorem Informed.seq {p : Prog Op ε α} {f : α → Prog Op ε β} {s : σ} {P : α → σ → Prop}
    (h : C.Informed m p (fun r s' => ∀ a, r = .ok a → P a s') s)
    (hf : ∀ a s', P a s' → C.Informed m (f a) (fun _ _ => True) s') :
    C.Informed m (p.bind f) (fun _ _ => True) s :=
  Informed.bind (h.mono fun _ _ hr => ⟨fun a ha => hf a _ (hr a ha), fun _ _ => trivial⟩)

/-- An attempt is informed if its handler is so from where an error leaves the program. -/
theorem Informed.attempt {p : Prog Op ε α} {handler : ε → Prog Op ε α}
    {Q : Except ε α → σ → Prop} {s : σ}
    (h : C.Informed m p (fun r s' => (∀ a, r = .ok a → Q (.ok a) s') ∧
      ∀ e, r = .error e → C.Informed m (handler e) Q s') s) :
    C.Informed m (p.attempt handler) Q s := by
  induction p generalizing s with
  | done r =>
    cases r with
    | ok a => exact h.1 a rfl
    | error e => exact h.2 e rfl
  | perform op k ih =>
    intro e s₁ hs hinv ha
    obtain ⟨hknown, hk⟩ := h e s₁ hs hinv ha
    exact ⟨hknown, fun hinv' hguar => ih _ (hk hinv' hguar)⟩
  | fork child k _ ih => exact ⟨h.1, ih h.2⟩

/-- A program whose operations need no facts is informed from every state on. -/
theorem informed_of_all {p : Prog Op ε α} (h : p.All fun _ op => ∀ s, C.known op s) (s : σ) :
    C.Informed m p (fun _ _ => True) s := by
  induction p generalizing s with
  | done r => trivial
  | perform op k ih => exact fun e s₁ _ _ _ => ⟨h.1 s₁, fun _ _ => ih _ (h.2 _) _⟩
  | fork child k ihc ih => exact ⟨ihc h.1 s, ih h.2 s⟩

/-- Where no operation needs any facts, every program is informed. -/
theorem informed_of_forall (h : ∀ {β : Type} (op : Op β) s, C.known op s) (p : Prog Op ε α) (s : σ) :
    C.Informed m p (fun _ _ => True) s :=
  informed_of_all (all_of_forall (fun _ op => h op) p) s

/-! ## Programs of which only the operations matter -/

variable (C m) in
/-- From a state on, a program comes to its operations only where the facts they need are known. -/
abbrev Ready (p : Prog Op ε α) (s : σ) : Prop := C.Informed m p (fun _ _ => True) s

/-- A sequence is ready if both of its parts are. -/
theorem Ready.bind {p : Prog Op ε α} {f : α → Prog Op ε β} {s : σ} (h : C.Ready m p s)
    (hf : ∀ a s', C.Ready m (f a) s') : C.Ready m (p.bind f) s :=
  Informed.seq (P := fun _ _ => True) (h.mono fun _ _ _ _ _ => trivial) fun a s' _ => hf a s'

/-- An attempt is ready if the program and the handler are. -/
theorem Ready.attempt {p : Prog Op ε α} {handler : ε → Prog Op ε α} {s : σ} (h : C.Ready m p s)
    (hh : ∀ e s', C.Ready m (handler e) s') : C.Ready m (p.attempt handler) s :=
  Informed.attempt (h.mono fun _ s' _ => ⟨fun _ _ => trivial, fun e _ => hh e s'⟩)

/-- A fact that the guarantee preserves outlives a program. -/
theorem Ready.carry {F : σ → Prop} (hF : ∀ s s', C.guar s s' → F s → F s') {p : Prog Op ε α} {s : σ}
    (h : C.Ready m p s) (hs : F s) : C.Informed m p (fun _ => F) s := by
  induction p generalizing s with
  | done r => exact hs
  | perform op k ih =>
    intro e s₁ hguar hinv ha
    obtain ⟨hknown, hk⟩ := h e s₁ hguar hinv ha
    exact ⟨hknown, fun hinv' hguar' => ih _ (hk hinv' hguar') (hF _ _ hguar' (hF _ _ hguar hs))⟩
  | fork child k _ ih => exact ⟨h.1, ih h.2 hs⟩

/-- A program whose operations all rely on one fact, which the guarantee preserves, is ready where it holds. -/
theorem Ready.of_fact {F : σ → Prop} (hF : ∀ s s', C.guar s s' → F s → F s') {p : Prog Op ε α}
    (h : p.All fun _ op => ∀ s, F s → C.known op s) {s : σ} (hs : F s) : C.Ready m p s := by
  induction p generalizing s with
  | done r => exact trivial
  | perform op k ih =>
    intro e s₁ hguar _ _
    have hs₁ := hF _ _ hguar hs
    exact ⟨h.1 s₁ hs₁, fun _ hguar' => ih _ (h.2 _) (hF _ _ hguar' hs₁)⟩
  | fork child k ihc ih => exact ⟨ihc h.1 hs, ih h.2 hs⟩

/-- A sequence whose second part may rely on a fact that outlives the first one. -/
theorem Ready.bind_with {F : σ → Prop} (hF : ∀ s s', C.guar s s' → F s → F s') {p : Prog Op ε α}
    {f : α → Prog Op ε β} {s : σ} (hs : F s) (h : C.Ready m p s)
    (hf : ∀ a s', F s' → C.Ready m (f a) s') : C.Ready m (p.bind f) s :=
  Informed.seq (P := fun _ => F) ((h.carry hF hs).mono fun _ _ hs' _ _ => hs') hf

/-- An attempt whose handler may rely on a fact that outlives the program. -/
theorem Ready.attempt_with {F : σ → Prop} (hF : ∀ s s', C.guar s s' → F s → F s') {p : Prog Op ε α}
    {handler : ε → Prog Op ε α} {s : σ} (hs : F s) (h : C.Ready m p s)
    (hh : ∀ e s', F s' → C.Ready m (handler e) s') : C.Ready m (p.attempt handler) s :=
  Informed.attempt ((h.carry hF hs).mono fun _ s' hs' => ⟨fun _ _ => trivial, fun e _ => hh e s' hs'⟩)

/-- An operation, followed by a program that may use what its answer tells. -/
theorem Ready.call_bind {op : Op β} {f : β → Prog Op ε α} {s : σ}
    (hknown : ∀ s₁, C.guar s s₁ → C.inv s₁ → C.known op s₁)
    (hf : ∀ e s₁, C.guar s s₁ → C.inv s₁ → C.allowed op e s₁ → C.inv (m.exec op e s₁).2 →
      C.guar s₁ (m.exec op e s₁).2 → ∀ b, (m.exec op e s₁).1 = .ok b →
      C.Ready m (f b) (m.exec op e s₁).2) : C.Ready m ((call op).bind f) s := by
  intro e s₁ hs hinv ha
  refine ⟨hknown s₁ hs hinv, fun hinv' hguar => ?_⟩
  cases hr : (m.exec op e s₁).1 with
  | error err => exact trivial
  | ok b => exact hf e s₁ hs hinv ha hinv' hguar b hr

/-- An operation whose answer tells nothing. -/
theorem Ready.then {op : Op β} {f : β → Prog Op ε α} {s : σ}
    (hknown : ∀ s₁, C.guar s s₁ → C.inv s₁ → C.known op s₁)
    (hf : ∀ b s', C.guar s s' → C.inv s' → C.Ready m (f b) s') : C.Ready m ((call op).bind f) s :=
  .call_bind hknown fun _ _ hs _ _ hinv' hguar b _ => hf b _ (C.trans hs hguar) hinv'

/-- An operation is ready where it knows what it needs. -/
theorem Ready.call {op : Op β} {s : σ} (hknown : ∀ s₁, C.guar s s₁ → C.inv s₁ → C.known op s₁) :
    C.Ready m (Prog.call op) s := fun _ s₁ hs hinv _ => ⟨hknown s₁ hs hinv, fun _ _ => trivial⟩

/-- A decision made without any operation. -/
theorem Ready.done_bind {r : Except ε β} {f : β → Prog Op ε α} {s : σ}
    (hf : ∀ b, r = .ok b → C.Ready m (f b) s) : C.Ready m ((Prog.done r).bind f) s := by
  cases r with
  | error e => exact trivial
  | ok b => exact hf b rfl

/-- A condition that is required. -/
theorem Ready.require_bind {c : Prop} [Decidable c] {e : ε} {f : Unit → Prog Op ε α} {s : σ}
    (hf : c → C.Ready m (f ()) s) : C.Ready m ((Prog.require c e).bind f) s := by
  unfold Prog.require
  split
  · next hc => exact hf hc
  · exact trivial

/-- An option that has to have a value. -/
theorem Ready.orFail_bind {o : Option β} {e : ε} {f : β → Prog Op ε α} {s : σ}
    (hf : ∀ b, o = some b → C.Ready m (f b) s) : C.Ready m ((Prog.orFail o e).bind f) s := by
  cases o with
  | none => exact trivial
  | some b => exact hf b rfl

/-- A loop is ready if its body is. -/
theorem Ready.forEach {xs : List β} {body : β → Prog Op ε Unit} {s : σ}
    (h : ∀ x ∈ xs, ∀ s, C.Ready m (body x) s) : C.Ready m (Prog.forEach xs body) s := by
  induction xs generalizing s with
  | nil => exact trivial
  | cons x xs ih =>
    exact .bind (h x List.mem_cons_self s) fun _ _ => ih fun y hy => h y (List.mem_cons_of_mem _ hy)

/-- Programs that are started together are ready if each of them is. -/
theorem Ready.forkEach {xs : List β} {body : β → Prog Op ε Unit} {s : σ}
    (h : ∀ x ∈ xs, C.Ready m (body x) s) : C.Ready m (Prog.forkEach xs body) s := by
  induction xs with
  | nil => exact trivial
  | cons x xs ih =>
    exact ⟨h x List.mem_cons_self, ih fun y hy => h y (List.mem_cons_of_mem _ hy)⟩

/-- A program that is ready ends with what it ends with whatever its operations answer. -/
theorem Ready.yields {p : Prog Op ε α} {P : Except ε α → Prop} {s : σ} (h : C.Ready m p s)
    (hp : p.Yields P) : C.Informed m p (fun r _ => P r) s := by
  induction p generalizing s with
  | done r => exact hp
  | perform op k ih =>
    intro e s₁ hs hinv ha
    obtain ⟨hknown, hk⟩ := h e s₁ hs hinv ha
    exact ⟨hknown, fun hinv' hguar => ih _ (hk hinv' hguar) (hp _)⟩
  | fork child k _ ih => exact ⟨h.1, ih h.2 hp⟩

/-- What is sure under one contract is sure under another one that promises more and asks for the same facts. -/
theorem Informed.strengthen {D : Contract Op σ ω} {p : Prog Op ε α} {Q : Except ε α → σ → Prop} {s : σ}
    (h : C.Informed m p Q s) (hinv : ∀ s, D.inv s → C.inv s) (hguar : ∀ s s', D.guar s s' → C.guar s s')
    (hallowed : ∀ {β : Type} (op : Op β) e s, D.allowed op e s → C.allowed op e s)
    (hknown : ∀ {β : Type} (op : Op β) s, C.known op s → D.known op s) : D.Informed m p Q s := by
  induction p generalizing s with
  | done r => exact h
  | perform op k ih =>
    intro e s₁ hs hi ha
    obtain ⟨hk, hnext⟩ := h e s₁ (hguar _ _ hs) (hinv _ hi) (hallowed op e s₁ ha)
    exact ⟨hknown op s₁ hk, fun hi' hg => ih _ (hnext (hinv _ hi') (hguar _ _ hg))⟩
  | fork child k ihc ih => exact ⟨ihc h.1, ih h.2⟩

/-- What two contracts promise together, and what both ask for. -/
def both (C D : Contract Op σ ω) : Contract Op σ ω where
  inv s := C.inv s ∧ D.inv s
  guar s s' := C.guar s s' ∧ D.guar s s'
  known op s := C.known op s ∧ D.known op s
  allowed op e s := C.allowed op e s ∧ D.allowed op e s
  refl s := ⟨C.refl s, D.refl s⟩
  trans h h' := ⟨C.trans h.1 h'.1, D.trans h.2 h'.2⟩

/-- A program that makes sure of what each of two contracts asks for. -/
theorem Informed.both {D : Contract Op σ ω} {p : Prog Op ε α} {Q R : Except ε α → σ → Prop} {s : σ}
    (hC : C.Informed m p Q s) (hD : D.Informed m p R s) :
    (C.both D).Informed m p (fun r s' => Q r s' ∧ R r s') s := by
  induction p generalizing s with
  | done r => exact ⟨hC, hD⟩
  | perform op k ih =>
    intro e s₁ hs hinv ha
    obtain ⟨hknownC, hkC⟩ := hC e s₁ hs.1 hinv.1 ha.1
    obtain ⟨hknownD, hkD⟩ := hD e s₁ hs.2 hinv.2 ha.2
    exact ⟨⟨hknownC, hknownD⟩, fun hinv' hguar => ih _ (hkC hinv'.1 hguar.1) (hkD hinv'.2 hguar.2)⟩
  | fork child k ihc ih =>
    exact ⟨(ihc hC.1 hD.1).mono fun _ _ _ => trivial, ih hC.2 hD.2⟩

/-- What a system has to show once for its runs to keep a contract. -/
structure Holds (C : Contract Op σ ω) (S : System Op ε σ ω) : Prop where
  starts : ∀ {p}, S.starts p → ∀ s, C.inv s → C.Informed S.toMachine p (fun _ _ => True) s
  performs : ∀ {β : Type} (op : Op β), C.Safe S.toMachine op
  background : ∀ {s s'}, S.background s s' → C.inv s → C.inv s' ∧ C.guar s s'

/-- The invariant holds and the running programs of a configuration are informed. -/
def Sound (C : Contract Op σ ω) (S : System Op ε σ ω) (c : Config Op ε σ) : Prop :=
  C.inv c.world ∧ ∀ p ∈ c.threads, C.Informed S.toMachine p (fun _ _ => True) c.world

variable {S : System Op ε σ ω}

/-- One step keeps the invariant, stays within the guarantee, and leaves every running program informed. -/
theorem Holds.step (h : C.Holds S) {c c' : Config Op ε σ} (hc : C.Sound S c)
    (hstep : S.Step (fun op e c => C.allowed op e c.world) c c') :
    C.Sound S c' ∧ C.guar c.world c'.world := by
  obtain ⟨hinv, hthreads⟩ := hc
  cases hstep with
  | start hp =>
    refine ⟨⟨hinv, fun p hmem => ?_⟩, C.refl _⟩
    rcases List.mem_append.mp hmem with hold | hnew
    · exact hthreads p hold
    · rw [List.mem_singleton.mp hnew]
      exact h.starts hp _ hinv
  | @perform _ _ op _ e hi ha =>
    have hk := hthreads _ (List.mem_of_getElem? hi)
    obtain ⟨hknown, hnext⟩ := hk e c.world (C.refl _) hinv ha
    obtain ⟨hinv', hguar⟩ := h.performs op e c.world hinv hknown ha
    refine ⟨⟨hinv', fun p hmem => ?_⟩, hguar⟩
    rcases List.mem_or_eq_of_mem_set hmem with hold | rfl
    · exact (hthreads p hold).later hguar
    · exact hnext hinv' hguar
  | fork hi =>
    have hk := hthreads _ (List.mem_of_getElem? hi)
    refine ⟨⟨hinv, fun p hmem => ?_⟩, C.refl _⟩
    rcases List.mem_append.mp hmem with hold | hnew
    · rcases List.mem_or_eq_of_mem_set hold with hold | rfl
      · exact hthreads p hold
      · exact hk.2
    · rw [List.mem_singleton.mp hnew]
      exact hk.1
  | finish hi =>
    exact ⟨⟨hinv, fun p hmem => hthreads p (List.mem_of_mem_eraseIdx hmem)⟩, C.refl _⟩
  | background hs =>
    obtain ⟨hinv', hguar⟩ := h.background hs hinv
    exact ⟨⟨hinv', fun p hmem => (hthreads p hmem).later hguar⟩, hguar⟩

/-- A run whose operations are all allowed keeps the invariant in every state it reaches and
stays within the guarantee. -/
theorem Holds.run (h : C.Holds S) {c c' : Config Op ε σ} (hc : C.Sound S c)
    (hrun : S.Run (fun op e c => C.allowed op e c.world) c c') :
    C.Sound S c' ∧ C.guar c.world c'.world := by
  induction hrun with
  | refl => exact ⟨hc, C.refl _⟩
  | tail _ hstep ih =>
    obtain ⟨hsound, hguar⟩ := h.step ih.1 hstep
    exact ⟨hsound, C.trans ih.2 hguar⟩

end Contract

end Interleaving
