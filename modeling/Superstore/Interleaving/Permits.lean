import Mathlib.Algebra.BigOperators.Group.List.Basic
import Mathlib.Algebra.Order.BigOperators.Group.List
import Mathlib.Algebra.Order.Ring.Int
import Mathlib.Data.List.InsertIdx
import Superstore.Interleaving.Runs

/-!
# Permits

Some operations cost a permit and others earn one, and each program spends what it has earned. A shared
quantity that grows only by what is spent then never exceeds its first value, however programs
interleave: what all of them hold is counted with it.

What a contract can say about one program holds for all of them at once. Who holds a permit is not of
this kind, since two programs that have read the same thing do not hold it twice.
-/

namespace Interleaving

variable {Op : Type → Type 1} {ε σ ω α β : Type}

/-- What is owed in a state, what each operation costs, given its answer, and the answers that it can give. -/
structure Permits (Op : Type → Type 1) (ε σ : Type) where
  debt : σ → ℤ
  cost : ∀ {β : Type}, Op β → Except ε β → ℤ
  answers : ∀ {β : Type}, Op β → Except ε β → Prop

namespace Permits

variable (P : Permits Op ε σ)

/-- A program that holds a number of permits never spends more than it holds. -/
def Covered : ∀ {α : Type}, ℤ → Prog Op ε α → Prop
  | _, n, .done _ => 0 ≤ n
  | _, n, .perform op k => 0 ≤ n ∧ ∀ r, P.answers op r → Covered (n - P.cost op r) (k r)
  | _, n, .fork child k => ∃ m, Covered m child ∧ Covered (n - m) k

variable {P} {n : ℤ}

/-- A program that is covered holds no negative number of permits. -/
theorem Covered.nonneg {p : Prog Op ε α} (h : P.Covered n p) : 0 ≤ n := by
  induction p generalizing n with
  | done r => exact h
  | perform op k ih => exact h.1
  | fork child k ihc ih =>
    obtain ⟨m, hchild, hk⟩ := h
    have hm := ihc hchild
    have hrest := ih hk
    omega

/-- Permits that are left over do no harm. -/
theorem Covered.mono {p : Prog Op ε α} {m : ℤ} (h : P.Covered n p) (hnm : n ≤ m) : P.Covered m p := by
  induction p generalizing n m with
  | done r => exact le_trans h hnm
  | perform op k ih => exact ⟨h.1.trans hnm, fun r hr => ih r (h.2 r hr) (sub_le_sub_right hnm _)⟩
  | fork child k _ ih =>
    obtain ⟨l, hchild, hk⟩ := h
    exact ⟨l, hchild, ih hk (sub_le_sub_right hnm _)⟩

/-- What a program needs does not grow when its operations can give fewer answers. -/
theorem Covered.of_answers {P' : Permits Op ε σ} (hcost : ∀ {β : Type} (op : Op β) r, P'.cost op r = P.cost op r)
    (hanswers : ∀ {β : Type} (op : Op β) r, P'.answers op r → P.answers op r) {p : Prog Op ε α}
    (h : P.Covered n p) : P'.Covered n p := by
  induction p generalizing n with
  | done r => exact h
  | perform op k ih =>
    refine ⟨h.1, fun r hr => ?_⟩
    rw [hcost]
    exact ih r (h.2 r (hanswers op r hr))
  | fork child k ihc ih =>
    obtain ⟨m, hchild, hk⟩ := h
    exact ⟨m, ihc hchild, ih hk⟩

/-- An operation, followed by a program that is covered by what is left. -/
theorem Covered.call_bind {op : Op β} {f : β → Prog Op ε α} (hn : 0 ≤ n)
    (hf : ∀ b, P.answers op (.ok b) → P.Covered (n - P.cost op (.ok b)) (f b))
    (herror : ∀ e, P.answers op (.error e) → P.cost op (.error e) ≤ n) :
    P.Covered n ((Prog.call op).bind f) := by
  refine ⟨hn, fun r hr => ?_⟩
  cases r with
  | ok b => exact hf b hr
  | error e =>
    have hcost := herror e hr
    exact Int.sub_nonneg.mpr hcost

/-- An operation that costs nothing, and whose answer may be used. -/
theorem Covered.answer_bind {op : Op β} {f : β → Prog Op ε α} (hn : 0 ≤ n) (hfree : ∀ r, P.cost op r = 0)
    (hf : ∀ b, P.answers op (.ok b) → P.Covered n (f b)) : P.Covered n ((Prog.call op).bind f) := by
  refine .call_bind hn (fun b hb => ?_) fun e _ => ?_
  · rw [hfree, sub_zero]
    exact hf b hb
  · rw [hfree]
    exact hn

/-- An operation that costs nothing. -/
theorem Covered.free_bind {op : Op β} {f : β → Prog Op ε α} (hn : 0 ≤ n) (hfree : ∀ r, P.cost op r = 0)
    (hf : ∀ b, P.Covered n (f b)) : P.Covered n ((Prog.call op).bind f) := .answer_bind hn hfree fun b _ => hf b

/-- A condition that is required. -/
theorem Covered.require_bind {c : Prop} [Decidable c] {e : ε} {f : Unit → Prog Op ε α} (hn : 0 ≤ n)
    (hf : P.Covered n (f ())) : P.Covered n ((Prog.require c e).bind f) := by
  unfold Prog.require
  split
  · exact hf
  · exact hn

/-- An option that has to have a value. -/
theorem Covered.orFail_bind {o : Option β} {e : ε} {f : β → Prog Op ε α} (hn : 0 ≤ n)
    (hf : ∀ b, o = some b → P.Covered n (f b)) : P.Covered n ((Prog.orFail o e).bind f) := by
  cases o with
  | none => exact hn
  | some b => exact hf b rfl

/-- A program whose operations all cost nothing is covered by anything. -/
theorem Covered.of_all {p : Prog Op ε α} (hn : 0 ≤ n) (h : p.All fun _ op => ∀ r, P.cost op r = 0) :
    P.Covered n p := by
  induction p generalizing n with
  | done r => exact hn
  | perform op k ih =>
    refine ⟨hn, fun r _ => ?_⟩
    rw [h.1 r, sub_zero]
    exact ih r hn (h.2 r)
  | fork child k ihc ih =>
    refine ⟨0, ihc le_rfl h.1, ?_⟩
    rw [sub_zero]
    exact ih hn h.2

/-- A covered program, followed by one whose operations all cost nothing. -/
theorem Covered.bind_free {p : Prog Op ε α} {f : α → Prog Op ε β} (h : P.Covered n p)
    (hf : ∀ a, (f a).All fun _ op => ∀ r, P.cost op r = 0) : P.Covered n (p.bind f) := by
  induction p generalizing n with
  | done r =>
    cases r with
    | ok a => exact .of_all h (hf a)
    | error e => exact h
  | perform op k ih => exact ⟨h.1, fun r hr => ih r (h.2 r hr) hf⟩
  | fork child k _ ih =>
    obtain ⟨m, hchild, hk⟩ := h
    exact ⟨m, hchild, ih hk hf⟩

/-- A covered program whose error is handled by a program whose operations all cost nothing. -/
theorem Covered.attempt_free {p : Prog Op ε α} {handler : ε → Prog Op ε α} (h : P.Covered n p)
    (hh : ∀ e, (handler e).All fun _ op => ∀ r, P.cost op r = 0) : P.Covered n (p.attempt handler) := by
  induction p generalizing n with
  | done r =>
    cases r with
    | ok a => exact h
    | error e => exact .of_all h (hh e)
  | perform op k ih => exact ⟨h.1, fun r hr => ih r (h.2 r hr) hh⟩
  | fork child k _ ih =>
    obtain ⟨m, hchild, hk⟩ := h
    exact ⟨m, hchild, ih hk hh⟩

/-! ## Runs -/

variable (P) in
/-- What a system has to show once for its runs to stay within what is owed at first. -/
structure Holds (S : System Op ε σ ω) (allowed : Condition Op ε σ ω) : Prop where
  starts : ∀ {p}, S.starts p → P.Covered 0 p
  performs : ∀ {β : Type} (op : Op β) (e : ω) (c : Config Op ε σ), allowed op e c →
    P.answers op (S.exec op e c.world).1 ∧
      P.debt (S.exec op e c.world).2 ≤ P.debt c.world + P.cost op (S.exec op e c.world).1
  background : ∀ {s s'}, S.background s s' → P.debt s' ≤ P.debt s

variable (P) in
/-- The running programs of a configuration, each with the permits that it holds. -/
structure Held (c : Config Op ε σ) (limit : ℤ) (held : List (ℤ × Prog Op ε Unit)) : Prop where
  threads : held.map Prod.snd = c.threads
  covered : ∀ h ∈ held, P.Covered h.1 h.2
  within : P.debt c.world + (held.map Prod.fst).sum ≤ limit

/-- A program that goes on with as many permits as it has left. -/
theorem Held.set {c : Config Op ε σ} {limit : ℤ} {held : List (ℤ × Prog Op ε Unit)} (h : P.Held c limit held)
    {i : ℕ} {p : Prog Op ε Unit} (hi : c.threads[i]? = some p) :
    ∃ n, P.Covered n p ∧ ∀ m q s limit', P.Covered m q → P.debt s + m + limit ≤ P.debt c.world + n + limit' →
      P.Held ⟨s, c.threads.set i q⟩ limit' (held.set i (m, q)) := by
  rw [← h.threads, List.getElem?_map] at hi
  obtain ⟨⟨n, p'⟩, hget, rfl⟩ := Option.map_eq_some_iff.mp hi
  refine ⟨n, h.covered _ (List.mem_of_getElem? hget), fun m q s limit' hq hdebt => ⟨?_, fun g hg => ?_, ?_⟩⟩
  · rw [List.map_set, h.threads]
  · rcases List.mem_or_eq_of_mem_set hg with hold | rfl
    · exact h.covered g hold
    · exact hq
  · obtain ⟨hlt, heq⟩ := List.getElem?_eq_some_iff.mp hget
    have hwithin := h.within
    rw [List.map_set, List.sum_set', dif_pos (by rwa [List.length_map]), List.getElem_map, heq]
    change P.debt s + _ ≤ limit'
    omega

/-- A program that is started or forked with permits of its own. -/
theorem Held.append {c : Config Op ε σ} {limit m : ℤ} {held : List (ℤ × Prog Op ε Unit)} {q : Prog Op ε Unit}
    (h : P.Held c (limit - m) held) (hq : P.Covered m q) :
    P.Held ⟨c.world, c.threads ++ [q]⟩ limit (held ++ [(m, q)]) := by
  refine ⟨by simp [h.threads], fun g hg => ?_, ?_⟩
  · rcases List.mem_append.mp hg with hold | hnew
    · exact h.covered g hold
    · rw [List.mem_singleton.mp hnew]
      exact hq
  · have hwithin := h.within
    simp only [List.map_append, List.sum_append, List.map_cons, List.map_nil, List.sum_singleton]
    omega

/-- A program that has finished gives up what it holds. -/
theorem Held.eraseIdx {c : Config Op ε σ} {limit : ℤ} {held : List (ℤ × Prog Op ε Unit)} (h : P.Held c limit held)
    {i : ℕ} {p : Prog Op ε Unit} (hi : c.threads[i]? = some p) :
    P.Held ⟨c.world, c.threads.eraseIdx i⟩ limit (held.eraseIdx i) := by
  refine ⟨by rw [← h.threads, List.eraseIdx_map], fun g hg => h.covered g (List.mem_of_mem_eraseIdx hg), ?_⟩
  rw [← h.threads, List.getElem?_map] at hi
  obtain ⟨g, hget, rfl⟩ := Option.map_eq_some_iff.mp hi
  obtain ⟨hlt, rfl⟩ := List.getElem?_eq_some_iff.mp hget
  have hnonneg := (h.covered _ (List.getElem_mem hlt)).nonneg
  have hsum := List.add_sum_eraseIdx (l := held.map Prod.fst) (by rwa [List.length_map])
    fun a _ => AddCommute.all _ a
  have hwithin := h.within
  rw [List.getElem_map, List.eraseIdx_map] at hsum
  simp only
  omega

/-- One step keeps what is owed and what is held within the limit. -/
theorem Holds.step {S : System Op ε σ ω} {allowed : Condition Op ε σ ω} (hS : P.Holds S allowed)
    {c c' : Config Op ε σ} {limit : ℤ} {held : List (ℤ × Prog Op ε Unit)} (h : P.Held c limit held)
    (hstep : S.Step allowed c c') : ∃ held', P.Held c' limit held' := by
  cases hstep with
  | start hp =>
    exact ⟨_, Held.append (by rwa [sub_zero]) (hS.starts hp)⟩
  | perform e hi ha =>
    obtain ⟨n, hcovered, hset⟩ := h.set hi
    obtain ⟨hanswer, hdebt⟩ := hS.performs _ e c ha
    exact ⟨_, hset _ _ _ limit (hcovered.2 _ hanswer) (by omega)⟩
  | fork hi =>
    obtain ⟨n, ⟨m, hchild, hk⟩, hset⟩ := h.set hi
    exact ⟨_, Held.append (hset (n - m) _ c.world (limit - m) hk (by omega)) hchild⟩
  | finish hi =>
    exact ⟨_, h.eraseIdx hi⟩
  | background hs =>
    have hdebt := hS.background hs
    have hwithin := h.within
    exact ⟨held, h.threads, h.covered, by simp only; omega⟩

/-- However programs interleave, what is owed stays within a limit that includes what all of them hold at first. -/
theorem Holds.run_within {S : System Op ε σ ω} {allowed : Condition Op ε σ ω} (hS : P.Holds S allowed)
    {c c' : Config Op ε σ} {limit : ℤ} (hheld : ∃ held, P.Held c limit held) (hrun : S.Run allowed c c') :
    P.debt c'.world ≤ limit := by
  have hheld' : ∃ held, P.Held c' limit held := by
    induction hrun with
    | refl => exact hheld
    | tail _ hstep ih =>
      obtain ⟨held, h⟩ := ih
      exact hS.step h hstep
  obtain ⟨held, h⟩ := hheld'
  have hwithin := h.within
  have hnonneg : 0 ≤ (held.map Prod.fst).sum := by
    refine List.sum_nonneg fun n hn => ?_
    obtain ⟨g, hg, rfl⟩ := List.mem_map.mp hn
    exact (h.covered g hg).nonneg
  omega

/-- What is owed never exceeds what was owed before any program was started. -/
theorem Holds.run {S : System Op ε σ ω} {allowed : Condition Op ε σ ω} (hS : P.Holds S allowed) {s : σ}
    {c : Config Op ε σ} (hrun : S.Run allowed ⟨s, []⟩ c) : P.debt c.world ≤ P.debt s :=
  hS.run_within ⟨[], rfl, nofun, by simp⟩ hrun

/-- Where each of the programs that are running needs at most a number of permits, what is owed grows by no
more than these. -/
theorem Holds.run_under_way {S : System Op ε σ ω} {allowed : Condition Op ε σ ω} (hS : P.Holds S allowed)
    {c c' : Config Op ε σ} (hc : ∀ p ∈ c.threads, P.Covered n p) (hrun : S.Run allowed c c') :
    P.debt c'.world ≤ P.debt c.world + c.threads.length * n := by
  refine hS.run_within ⟨c.threads.map fun p => (n, p), ?_, fun h hmem => ?_, ?_⟩ hrun
  · rw [List.map_map]
    exact List.map_id _
  · obtain ⟨p, hp, rfl⟩ := List.mem_map.mp hmem
    exact hc p hp
  · rw [List.map_map]
    simp [Function.comp_def]

/-- Where every program that starts needs at most a number of permits whatever its operations answer, so does
every program that is running. -/
theorem Covered.under_way {S : System Op ε σ ω} {allowed : Condition Op ε σ ω} {s : σ} {c : Config Op ε σ}
    (hcost : ∀ {β : Type} (op : Op β) r, 0 ≤ P.cost op r) (hanswers : ∀ {β : Type} (op : Op β) r, P.answers op r)
    (hstart : ∀ p, S.starts p → P.Covered n p) (hrun : S.Run allowed ⟨s, []⟩ c) :
    ∀ p ∈ c.threads, P.Covered n p := by
  refine System.Run.threads S hrun nofun hstart (fun {β op k} h r => ?_) fun h => ?_
  · have hrest := h.2 r (hanswers op r)
    exact hrest.mono (sub_le_self _ (hcost op r))
  · obtain ⟨m, hchild, hk⟩ := h
    have hm := hchild.nonneg
    have hrest := hk.nonneg
    exact ⟨hchild.mono (by omega), hk.mono (by omega)⟩

end Permits

end Interleaving
