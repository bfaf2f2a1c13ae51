import Mathlib.Tactic.Lemma
import Talkback.Monitor.Bench

/-!
Runs of a monitor are interleavings of turns.

The state of a shared object changes only when a call holding the lock takes a turn that
finishes; waiting, waking, expiring and moving the clock leave it alone. `Spec.Reachable`
collects the states that turns reach from a start, taken by any calls in any order, which is
every interleaving of the critical sections. The scheduler of a `Timeline` is one of them:
the state it leaves is reachable from the state it starts in, and every reply a thread gets
is a reply its call can get there (`Spec.Answers`): what one of its turns gives at a
reachable state, or, when such a turn would wait, its answer for running out of time. A law
proved of every turn at every reachable state therefore holds of every run.
-/

namespace Talkback.Monitor

variable {σ γ ρ κ : Type}

namespace Spec

variable (spec : Spec σ γ ρ κ)

/-- The states reached from `init` when calls take finishing turns in any order. -/
inductive Reachable (init : σ) : σ → Prop where
  | init : Reachable init init
  | turn {s s' : σ} {c : γ} {r : ρ} {signals : List (Signal κ)} :
      Reachable init s → spec.turn c s = .finish r s' signals → Reachable init s'

/-- A reply call `c` can get once the object is in state `s`: the result of one of its turns
at a state reached from `s`, or, where such a turn would wait, its answer for running out of
time. -/
def Answers (s : σ) (c : γ) (r : ρ) : Prop :=
  ∃ u, spec.Reachable s u ∧
    ((∃ u' signals, spec.turn c u = .finish r u' signals) ∨
      ∃ k, spec.turn c u = .wait k ∧ r = spec.lapse c)

variable {spec}

theorem Reachable.trans {s u v : σ} (h₁ : spec.Reachable s u) (h₂ : spec.Reachable u v) :
    spec.Reachable s v := by
  induction h₂ with
  | init => exact h₁
  | turn _ hturn ih => exact .turn ih hturn

/-- A state kept by every turn is the only one reachable from it. -/
theorem Reachable.eq_of_stable {s u : σ}
    (hs : ∀ c r s' signals, spec.turn c s = .finish r s' signals → s' = s)
    (h : spec.Reachable s u) : u = s := by
  induction h with
  | init => rfl
  | turn _ hturn ih => subst ih; exact hs _ _ _ _ hturn

theorem Answers.of_reachable {s u : σ} {c : γ} {r : ρ} (hsu : spec.Reachable s u)
    (h : spec.Answers u c r) : spec.Answers s c r := by
  obtain ⟨v, huv, hv⟩ := h
  exact ⟨v, hsu.trans huv, hv⟩

end Spec

namespace Timeline

variable (spec : Spec σ γ ρ κ)

/-- `t'` is `t` after some turns: its state is reached from the state of `t`, and each of its
finished threads had finished alike in `t` or got a reply its call can get from there. -/
structure Follows (t t' : Timeline σ γ ρ κ) : Prop where
  reach : spec.Reachable t.state t'.state
  replies : ∀ (i : Nat) (th : Thread γ ρ κ) (r : ρ), t'.threads[i]? = some th →
    th.phase = .finished r →
    (∃ th₀, t.threads[i]? = some th₀ ∧ th₀.call = th.call ∧ th₀.phase = .finished r) ∨
      spec.Answers t.state th.call r

variable {spec}

namespace Follows

theorem refl (t : Timeline σ γ ρ κ) : Follows spec t t :=
  ⟨.init, fun _ th _ hth hfin => .inl ⟨th, hth, rfl, hfin⟩⟩

/-- Changing the clock or the queue of waiters is no turn at all. -/
theorem same {t t' : Timeline σ γ ρ κ} (hs : t'.state = t.state)
    (hth : t'.threads = t.threads) : Follows spec t t' := by
  refine ⟨hs ▸ .init, fun i th r hi hfin => .inl ⟨th, ?_, rfl, hfin⟩⟩
  rwa [hth] at hi

theorem trans {t t' t'' : Timeline σ γ ρ κ} (h₁ : Follows spec t t') (h₂ : Follows spec t' t'') :
    Follows spec t t'' := by
  refine ⟨h₁.reach.trans h₂.reach, fun i th r hi hfin => ?_⟩
  rcases h₂.replies i th r hi hfin with ⟨th₁, hi₁, hcall, hfin₁⟩ | hans
  · rcases h₁.replies i th₁ r hi₁ hfin₁ with ⟨th₀, hi₀, hcall₀, hfin₀⟩ | hans
    · exact .inl ⟨th₀, hi₀, hcall₀.trans hcall, hfin₀⟩
    · exact .inr (hcall ▸ hans)
  · exact .inr (hans.of_reachable h₁.reach)

/-- One thread, keeping its call, moves on while the state moves to a reachable one; if the
thread finishes, its reply is one its call can get. -/
theorem set {t t' : Timeline σ γ ρ κ} {i : Nat} {th : Thread γ ρ κ} (th' : Thread γ ρ κ)
    (hi : t.threads[i]? = some th) (hcall : th'.call = th.call)
    (hs : spec.Reachable t.state t'.state) (hth : t'.threads = t.threads.setIfInBounds i th')
    (hr : ∀ r, th'.phase = .finished r → spec.Answers t.state th.call r) :
    Follows spec t t' := by
  refine ⟨hs, fun j th₂ r hj hfin => ?_⟩
  rw [hth, Array.getElem?_setIfInBounds] at hj
  by_cases hij : i = j
  · subst hij
    have hlt : i < t.threads.size := (Array.getElem?_eq_some_iff.1 hi).1
    simp only [hlt, if_true, Option.some.injEq] at hj
    subst hj
    exact .inr (hcall ▸ hr r hfin)
  · simp only [hij, if_false] at hj
    exact .inl ⟨th₂, hj, rfl, hfin⟩

end Follows

theorem follows_take (t : Timeline σ γ ρ κ) (i : Nat) : Follows spec t (t.take spec i).1 := by
  unfold take
  cases hi : t.threads[i]? with
  | none => exact .refl t
  | some th =>
    dsimp only
    cases hturn : spec.turn th.call t.state with
    | finish r s signals =>
      dsimp only
      refine Follows.set { th with phase := .finished r } hi rfl (.turn .init hturn) rfl
        fun r' hr' => ?_
      cases hr'
      exact ⟨t.state, .init, .inl ⟨s, signals, hturn⟩⟩
    | wait c =>
      dsimp only
      exact Follows.set { th with phase := .waiting c } hi rfl .init rfl fun r hr => by cases hr

theorem follows_takeAll (t : Timeline σ γ ρ κ) (ids : List Nat) :
    Follows spec t (t.takeAll spec ids).1 := by
  induction ids generalizing t with
  | nil => exact .refl t
  | cons i rest ih => exact (follows_take t i).trans (ih _)

theorem follows_withdraw (t : Timeline σ γ ρ κ) (i : Nat) : Follows spec t (t.withdraw i) :=
  .same rfl rfl

variable [BEq κ]

theorem follows_deliver (fuel : Nat) (t : Timeline σ γ ρ κ) (signals : List (Signal κ)) :
    Follows spec t (deliver spec fuel t signals) := by
  fun_induction deliver spec fuel t signals with
  | case1 t _ => exact .refl t
  | case2 _ t => exact .refl t
  | case3 fuel t c rest _ ih => exact ih
  | case4 fuel t c rest i _ t' more ht' ih =>
    have h₀ : Follows spec t { t with queue := t.queue.erase i } := .same rfl rfl
    have h := h₀.trans (follows_take _ i)
    rw [ht'] at h
    exact h.trans ih
  | case5 fuel t c rest woken t' more ht' ih =>
    have h₀ : Follows spec t { t with queue := t.queue.filter (!t.waitsOn c ·) } := .same rfl rfl
    have h := h₀.trans (follows_takeAll _ woken)
    rw [ht'] at h
    exact h.trans ih

theorem follows_settle (t : Timeline σ γ ρ κ) (signals : List (Signal κ)) :
    Follows spec t (t.settle spec signals) :=
  follows_deliver _ _ _

/-- A new thread is ready, not finished, so starting it is its first turn and what that sets
off. -/
theorem follows_start (t : Timeline σ γ ρ κ) (call : γ) (timeout : Option Nat) :
    Follows spec t (t.start spec call timeout).1 := by
  let t0 : Timeline σ γ ρ κ :=
    { t with threads := t.threads.push ⟨call, timeout.map (t.clock + ·), .ready⟩ }
  have h0 : Follows spec t t0 := by
    refine ⟨.init, fun i th r hi hfin => .inl ⟨th, ?_, rfl, hfin⟩⟩
    simp only [t0, Array.getElem?_push] at hi
    split at hi
    · cases hi; cases hfin
    · exact hi
  exact h0.trans ((follows_take t0 _).trans (follows_settle _ _))

/-- At its deadline a waiter takes one last turn; if that turn would wait too, the waiter
gives its answer for running out of time and the state stays. -/
theorem follows_expire (t : Timeline σ γ ρ κ) (i : Nat) :
    Follows spec t (t.expire spec i) := by
  unfold expire
  cases hi : t.threads[i]? with
  | none => exact .refl t
  | some th =>
    dsimp only
    cases hturn : spec.turn th.call t.state with
    | finish r s signals =>
      dsimp only
      have h : Follows spec t
          { t with state := s, threads := t.threads.setIfInBounds i { th with phase := .finished r } } :=
        Follows.set { th with phase := .finished r } hi rfl (.turn .init hturn) rfl fun r' hr' => by
          cases hr'
          exact ⟨t.state, .init, .inl ⟨s, signals, hturn⟩⟩
      exact h.trans (follows_settle _ _)
    | wait c =>
      dsimp only
      refine Follows.set { th with phase := .finished (spec.lapse th.call) } hi rfl .init rfl
        fun r' hr' => ?_
      cases hr'
      exact ⟨t.state, .init, .inr ⟨c, hturn, rfl⟩⟩

theorem follows_advanceBy (fuel : Nat) (t : Timeline σ γ ρ κ) (limit : Nat) :
    Follows spec t (advanceBy spec fuel t limit) := by
  induction fuel generalizing t with
  | zero => exact .same rfl rfl
  | succ fuel ih =>
    unfold advanceBy
    split
    · exact .same rfl rfl
    · rename_i i d _
      have h : Follows spec t { t with clock := max t.clock d, queue := t.queue.erase i } :=
        .same rfl rfl
      exact (h.trans (follows_expire _ i)).trans (ih _)

theorem follows_advance (t : Timeline σ γ ρ κ) (limit : Nat) :
    Follows spec t (t.advance spec limit) :=
  follows_advanceBy _ _ _

theorem follows_await (t : Timeline σ γ ρ κ) (i : Nat) : Follows spec t (t.await spec i) := by
  unfold await
  split
  · exact follows_advance _ _
  · exact .refl t

end Timeline

namespace Bench

variable [BEq κ] {spec : Spec σ γ ρ κ}

/-- A step of a bench script is an interleaving of turns. -/
theorem follows_step {b b' : Bench σ γ ρ κ} {s : Step γ} {o : Outcome ρ}
    (h : b.step spec s = .ok (b', o)) : Timeline.Follows spec b.timeline b'.timeline := by
  cases s with
  | call job timeout =>
    cases job with
    | error reason => cases h; exact .refl _
    | ok c =>
      have hstart : Timeline.Follows spec b.timeline (b.timeline.start spec c timeout).1 :=
        Timeline.follows_start _ _ _
      simp only [step] at h
      split at h
      · cases h; exact hstart.trans (Timeline.follows_withdraw _ _)
      · split at h <;> (cases h; exact hstart.trans (Timeline.follows_await _ _))
  | spawn job timeout =>
    cases job with
    | error reason => cases h; exact .refl _
    | ok c => cases h; exact Timeline.follows_start _ _ _
  | join =>
    simp only [step] at h
    split at h
    · cases h
    · rename_i hd rest _
      cases hd with
      | thread i => split at h <;> (cases h; exact Timeline.follows_await _ _)
      | refused reason => split at h <;> (cases h; exact .refl _)
  | sleep ms => cases h; exact Timeline.follows_advance _ _

/-- **Scripts are interleavings.** Whatever calls a script makes, on the main thread or on
spawned ones, and however it joins and pauses, the state it ends in is reached from the state
it starts in by turns, and every reply a thread has got is one its call can get. -/
theorem follows_runSteps {b b' : Bench σ γ ρ κ} {steps : List (Step γ)}
    {reports : List (Report σ ρ)} (h : b.runSteps spec steps = .ok (b', reports)) :
    Timeline.Follows spec b.timeline b'.timeline := by
  induction steps generalizing b reports with
  | nil => cases h; exact .refl _
  | cons s rest ih =>
    cases hs : b.step spec s with
    | error e => simp [runSteps, hs, bind, Except.bind] at h
    | ok p =>
      obtain ⟨b₁, o⟩ := p
      simp only [runSteps, hs, bind, Except.bind] at h
      cases hr : b₁.runSteps spec rest with
      | error e => simp [hr] at h
      | ok q =>
        simp only [hr, pure, Except.pure, Except.ok.injEq, Prod.mk.injEq] at h
        obtain ⟨rfl, -⟩ := h
        exact (follows_step hs).trans (ih hr)

end Bench

end Talkback.Monitor
