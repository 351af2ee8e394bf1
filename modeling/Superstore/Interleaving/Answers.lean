import Superstore.Interleaving.Runs

/-!
# What programs find out

A program that ends well gives what it has found out, with a fact about it, to the program that follows. One that
fails gives nothing, so that nothing has to be said of its failures. -/

namespace Interleaving

namespace Contract

variable {Op : Type → Type 1} {ε σ ω α β : Type} (C : Contract Op σ ω) (m : Machine Op ε σ ω)

/-- From a state on, a program is informed, and what it ends well with has a property. -/
abbrev Gives (p : Prog Op ε α) (P : α → σ → Prop) (s : σ) : Prop :=
  C.Informed m p (fun r s' => ∀ a, r = .ok a → P a s') s

variable {C m} {P : α → σ → Prop} {s : σ}

/-- An operation, followed by a program that may use what its answer tells. -/
theorem Gives.call_bind {op : Op β} {f : β → Prog Op ε α} (hknown : ∀ s₁, C.guar s s₁ → C.inv s₁ → C.known op s₁)
    (hf : ∀ e s₁, C.guar s s₁ → C.inv s₁ → C.allowed op e s₁ → C.inv (m.exec op e s₁).2 →
      C.guar s₁ (m.exec op e s₁).2 → ∀ b, (m.exec op e s₁).1 = .ok b → C.Gives m (f b) P (m.exec op e s₁).2) :
    C.Gives m ((Prog.call op).bind f) P s := by
  intro e s₁ hs hinv ha
  refine ⟨hknown s₁ hs hinv, fun hinv' hguar => ?_⟩
  cases hr : (m.exec op e s₁).1 with
  | error err => exact fun a hfail => by cases hfail
  | ok b => exact hf e s₁ hs hinv ha hinv' hguar b hr

/-- An operation whose answer tells nothing. -/
theorem Gives.then {op : Op β} {f : β → Prog Op ε α} (hknown : ∀ s₁, C.guar s s₁ → C.inv s₁ → C.known op s₁)
    (hf : ∀ b s', C.guar s s' → C.inv s' → C.Gives m (f b) P s') : C.Gives m ((Prog.call op).bind f) P s :=
  .call_bind hknown fun _ _ hs _ _ hinv' hguar b _ => hf b _ (C.trans hs hguar) hinv'

/-- An option that has to have a value. -/
theorem Gives.orFail_bind {o : Option β} {e : ε} {f : β → Prog Op ε α}
    (hf : ∀ b, o = some b → C.Gives m (f b) P s) :
    C.Gives m ((Prog.orFail o e).bind f) P s := by
  cases o with
  | none => exact fun a hfail => by cases hfail
  | some b => exact hf b rfl

/-- An option that is given where it has a value. -/
theorem Gives.orFail {o : Option α} {e : ε} (h : ∀ a, o = some a → P a s) : C.Gives m (Prog.orFail o e) P s := by
  cases o with
  | none => exact fun a hfail => by cases hfail
  | some b =>
    intro a ha
    obtain rfl := Except.ok.inj ha
    exact h _ rfl

/-- A check, which tells what it has checked. -/
theorem Gives.require_bind {c : Prop} [Decidable c] {e : ε} {f : Unit → Prog Op ε α}
    (hf : c → C.Gives m (f ()) P s) :
    C.Gives m ((Prog.require c e).bind f) P s := by
  unfold Prog.require
  split
  · next hc => exact hf hc
  · exact fun a hfail => by cases hfail

/-- A value that is returned is as promised. -/
theorem Gives.pure {a : α} (h : P a s) : C.Gives m (.done (.ok a)) P s := by
  intro b hb
  obtain rfl := Except.ok.inj hb
  exact h

/-- What the first program gives, the second one may use. -/
theorem Gives.bind {p : Prog Op ε β} {f : β → Prog Op ε α} {R : β → σ → Prop} (h : C.Gives m p R s)
    (hf : ∀ b s', R b s' → C.Gives m (f b) P s') : C.Gives m (p.bind f) P s :=
  Informed.bind (h.mono fun _ s' hr => ⟨fun b hb => hf b s' (hr b hb), fun _ _ _ hfail => by cases hfail⟩)

/-- What a program gives, one of which only the operations matter may use. -/
theorem Gives.ready {p : Prog Op ε β} {f : β → Prog Op ε α} {R : β → σ → Prop} (h : C.Gives m p R s)
    (hf : ∀ b s', R b s' → C.Ready m (f b) s') : C.Ready m (p.bind f) s := Informed.seq h hf

/-- Failures that are reported in other words. -/
theorem Gives.attempt {p : Prog Op ε α} {handler : ε → Prog Op ε α} (h : C.Gives m p P s)
    (hh : ∀ e s', C.Gives m (handler e) P s') : C.Gives m (p.attempt handler) P s :=
  Informed.attempt (h.mono fun _ s' hr => ⟨fun _ ha b hb => hr b (ha ▸ hb), fun e _ => hh e s'⟩)

end Contract

end Interleaving
