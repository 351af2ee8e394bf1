import Superstore.Requests.Effects

/-!
# Requests that are ready for their operations

Reads and checks tell a request something about the state: it may rely on it as far as the
guarantee of its contract preserves it.
-/

namespace Superstore

open Interleaving Relational.Tx Contract

variable {C : Contract Op World Env} {α β : Type} {s : World}

/-- A read tells what it has read. -/
theorem ready_read {f : Database → Except Error β} {k : β → Request α}
    (hread : ∀ s, C.known (.read f) s)
    (hk : ∀ s₁ b, C.guar s s₁ → C.inv s₁ → f s₁.db = .ok b → C.Ready machine (k b) s₁) :
    C.Ready machine ((call (.read f)).bind k) s := by
  refine .call_bind (fun s₁ _ _ => hread s₁) fun e s₁ hs hinv _ _ _ b hb => ?_
  have hsame : (machine.exec (.read f) e s₁).2 = s₁ := exec_read f e s₁
  rw [hsame]
  exact hk s₁ b hs hinv (exec_read_ok hb)

/-- A read of a value tells the value. -/
theorem ready_select {f : Database → β} {k : β → Request α}
    (hread : ∀ s, C.known (.read fun db => .ok (f db)) s)
    (hk : ∀ s₁, C.guar s s₁ → C.inv s₁ → C.Ready machine (k (f s₁.db)) s₁) :
    C.Ready machine ((select f).bind k) s :=
  ready_read hread fun s₁ b hs hinv hb => by
    cases hb
    exact hk s₁ hs hinv

/-- A read that finds a row tells the row. -/
theorem ready_selectOrThrow {f : Database → Option β} {err : Error} {k : β → Request α}
    (hread : ∀ s, C.known (.read fun db => fromOption (f db) err) s)
    (hk : ∀ s₁ b, C.guar s s₁ → C.inv s₁ → f s₁.db = some b → C.Ready machine (k b) s₁) :
    C.Ready machine ((selectOrThrow f err).bind k) s :=
  ready_read hread fun s₁ b hs hinv hb => hk s₁ b hs hinv (fromOption_eq_ok.mp hb)

/-- A check tells what it has checked. -/
theorem ready_check {c : Prop} [Decidable c] {err : Error} {k : Unit → Request α}
    (hk : c → C.Ready machine (k ()) s) : C.Ready machine ((check c err).bind k) s :=
  .done_bind fun _ hc => hk (ensure_eq_ok.mp hc)

/-- A decision tells what it has decided. -/
theorem ready_decided {x : Except Error β} {k : β → Request α}
    (hk : ∀ b, x = .ok b → C.Ready machine (k b) s) : C.Ready machine ((decided x).bind k) s :=
  .done_bind hk

/-- A program that may be left out is ready if its condition makes it so. -/
theorem ready_onlyIf {c : Prop} [Decidable c] {p : Request Unit}
    (h : c → C.Ready machine p s) : C.Ready machine (onlyIf c p) s := by
  unfold onlyIf
  split
  · next hc => exact h hc
  · exact trivial

/-- A program is ready whether or not its answer is used. -/
theorem ready_discard {p : Request α} (h : C.Ready machine p s) : C.Ready machine (discard p) s :=
  .bind h fun _ _ => trivial

/-- A transaction tells what its postcondition says about its answer. -/
theorem ready_transaction {op : Op β} {t : Env → Tx β} (hop : op.transaction = some t)
    {P : β → Database → Prop} {k : β → Request α}
    (hknown : ∀ s₁, C.guar s s₁ → C.inv s₁ → C.known op s₁)
    (ht : ∀ e s₁, C.guar s s₁ → C.inv s₁ → wp s₁.db (t e) P)
    (hk : ∀ s' b, C.guar s s' → C.inv s' → P b s'.db → C.Ready machine (k b) s') :
    C.Ready machine ((call op).bind k) s :=
  .call_bind hknown fun e s₁ hs hinv _ hinv' hguar b hb =>
    hk _ b (C.trans hs hguar) hinv' (ht e s₁ hs hinv b _ (exec_ok hop hb))

end Superstore
