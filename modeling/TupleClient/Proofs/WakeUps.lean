import Mathlib.Data.Nat.Notation
import Mathlib.Logic.Relation
import TupleClient.Cancellation

/-!
# No wake-up is lost

Waiters and cancellers of one token go on independently, one step at a time: a waiter registers,
looks at the flag, sleeps and goes on when it is woken, and a canceller raises the flag and then
wakes everyone who is registered. Once a canceller has finished, no waiter sleeps that has not been
woken: one that looked before the flag was raised had registered before the wake-up, and one that
looks later sees the flag. All copies of a handle stand for the same token, so it does not matter
through which of them one waits or cancels.

## Main definitions

* `Canceller` — how far a call that cancels has come
* `Shared`, `Shared.Step` — a token with those who cancel it, and one step of one of them
* `Shared.Sound` — what holds after any steps
* `Concurrent`, `Concurrent.Step` — tokens with handles, and one step

## Main results

* `Shared.Sound.step` — a step keeps what holds
* `Concurrent.Step.follows` — a step is one step at most of each token
* `Concurrent.run_cancel`, `Concurrent.run_poll` — cancelling and looking are runs of such steps
* `Concurrent.run_informed` — no wake-up is lost
* `Concurrent.run_finishes` — a waiter that looks after a cancellation finishes
-/

namespace TupleClient

namespace Waiter

/-- A waiter has been woken or has finished. -/
def IsInformed : Waiter → Prop
  | idle => False
  | registered woken => woken = true
  | parked woken => woken = true
  | finished => True

/-- After a wake-up nobody sleeps who has not been woken. -/
theorem wake_ne_parked (w : Waiter) : w.wake ≠ parked false := by
  cases w <;> simp [wake]

theorem isInformed_register {w : Waiter} (h : w.register.IsInformed) : w.IsInformed := by
  cases w <;> simp_all [register, IsInformed]

theorem register_eq_parked {w : Waiter} (h : w.register = parked false) : w = parked false := by
  cases w <;> simp_all [register]

/-- A waiter learns of a raised flag only. -/
theorem isInformed_look {raised : Bool} {w : Waiter} (h : (w.look raised).IsInformed) :
    raised = true ∨ w.IsInformed := by
  cases raised
  · cases w <;> simp_all [look, IsInformed]
  · exact .inl rfl

/-- A waiter that sees the flag raised does not go to sleep. -/
theorem look_eq_parked {w : Waiter} (h : w.look true = parked false) : w = parked false := by
  cases w <;> simp_all [look]

/-- A waiter goes on only if it has been woken. -/
theorem isInformed_resume {w : Waiter} (h : w.resume.IsInformed) : w.IsInformed := by
  cases w with
  | parked woken => cases woken <;> simp_all [resume, IsInformed]
  | _ => simp_all [resume, IsInformed]

theorem resume_eq_parked {w : Waiter} (h : w.resume = parked false) : w = parked false := by
  cases w with
  | parked woken => cases woken <;> simp_all [resume]
  | _ => simp_all [resume]

/-- A waiter that looks when the flag is raised and everyone has been woken finishes. -/
theorem isFinished_of_ne_parked {w : Waiter} (awake : w ≠ parked false) :
    ((w.register.look true).resume).isFinished = true := by
  cases w with
  | parked woken =>
    obtain rfl : woken = true := by simpa using awake
    rfl
  | _ => rfl

end Waiter

/-- How far a call that cancels a token has come. -/
inductive Canceller where
  /-- It has not done anything yet. -/
  | called
  /-- It has raised the flag and has still to wake. -/
  | raised
  | finished
deriving DecidableEq

/-- The token with one of its waiters changed. -/
def Token.change (t : Token) (position : ℕ) (f : Waiter → Waiter) : Token :=
  { t with waiters := t.waiters.modify position f }

/-- Whoever waits for the changed token waited for it before, or is the waiter that was changed. -/
theorem Token.mem_change {t : Token} {position : ℕ} {f : Waiter → Waiter} {w : Waiter}
    (member : w ∈ (t.change position f).waiters) :
    w ∈ t.waiters ∨ ∃ v ∈ t.waiters, w = f v := by
  obtain ⟨j, lt, rfl⟩ := List.mem_iff_getElem.mp member
  simp only [change, List.length_modify] at lt
  simp only [change, List.getElem_modify]
  split
  · exact .inr ⟨t.waiters[j], List.getElem_mem lt, rfl⟩
  · exact .inl (List.getElem_mem lt)

/-- A token, and the calls that cancel it. -/
structure Shared where
  token : Token := {}
  cancellers : List Canceller := []

namespace Shared

/-! ## One token -/

/-- One step of a waiter or of a canceller. Any number of them may come. To look and to go to sleep
is one step, as a waiter that is registered is woken in between as well. -/
inductive Step : Shared → Shared → Prop
  | wait {t cs} : Step ⟨t, cs⟩ ⟨t.wait, cs⟩
  | register {t cs} (position : ℕ) : Step ⟨t, cs⟩ ⟨t.change position .register, cs⟩
  | look {t cs} (position : ℕ) : Step ⟨t, cs⟩ ⟨t.change position (.look t.raised), cs⟩
  | resume {t cs} (position : ℕ) : Step ⟨t, cs⟩ ⟨t.change position .resume, cs⟩
  | call {t cs} : Step ⟨t, cs⟩ ⟨t, cs ++ [.called]⟩
  | raise {t before after} :
      Step ⟨t, before ++ .called :: after⟩ ⟨t.raise, before ++ .raised :: after⟩
  | wake {t before after} :
      Step ⟨t, before ++ .raised :: after⟩ ⟨t.wakeAll, before ++ .finished :: after⟩

/-- The flag is raised before anyone is woken, whoever knows of a cancellation can see it, and after
a wake-up nobody sleeps without having been woken. -/
structure Sound (s : Shared) : Prop where
  raised : ∀ c ∈ s.cancellers, c ≠ .called → s.token.raised = true
  informed : ∀ w ∈ s.token.waiters, w.IsInformed → s.token.raised = true
  woken : .finished ∈ s.cancellers → .parked false ∉ s.token.waiters

namespace Sound

variable {s s' : Shared} {t : Token} {cs : List Canceller}

/-- Nobody waits for a new token, and nobody cancels it. -/
theorem empty : Sound {} := by
  constructor <;> simp

/-- A waiter may take a step in which it neither learns of a cancellation that has not come nor goes
to sleep after one has. -/
theorem change (h : Sound ⟨t, cs⟩) (position : ℕ) {f : Waiter → Waiter}
    (learns : ∀ w, (f w).IsInformed → t.raised = true ∨ w.IsInformed)
    (sleeps : ∀ w, t.raised = true → f w = .parked false → w = .parked false) :
    Sound ⟨t.change position f, cs⟩ where
  raised := h.raised
  informed w member known := by
    obtain unchanged | ⟨v, before, rfl⟩ := Token.mem_change member
    · exact h.informed w unchanged known
    · obtain raised | known := learns v known
      · exact raised
      · exact h.informed v before known
  woken ended asleep := by
    -- Once a call has finished the flag is raised, and who looks at it then stays awake.
    have raised : t.raised = true := h.raised _ ended (by decide)
    obtain unchanged | ⟨v, before, changed⟩ := Token.mem_change asleep
    · exact h.woken ended unchanged
    · exact h.woken ended (sleeps v raised changed.symm ▸ before)

theorem wait (h : Sound ⟨t, cs⟩) : Sound ⟨t.wait, cs⟩ where
  raised := h.raised
  informed w member known := by
    obtain member | rfl : w ∈ t.waiters ∨ w = .idle := by simpa [Token.wait] using member
    · exact h.informed w member known
    · exact known.elim
  woken ended asleep := by
    obtain asleep : .parked false ∈ t.waiters := by simpa [Token.wait] using asleep
    exact h.woken ended asleep

theorem call (h : Sound ⟨t, cs⟩) : Sound ⟨t, cs ++ [.called]⟩ where
  raised c member acted := by
    obtain member | rfl : c ∈ cs ∨ c = .called := by simpa using member
    · exact h.raised c member acted
    · exact absurd rfl acted
  informed := h.informed
  woken ended := h.woken (by simpa using ended)

theorem raise {before after : List Canceller} (h : Sound ⟨t, before ++ .called :: after⟩) :
    Sound ⟨t.raise, before ++ .raised :: after⟩ where
  raised _ _ _ := rfl
  informed _ _ _ := rfl
  woken ended := h.woken (by simpa using ended)

theorem wake {before after : List Canceller} (h : Sound ⟨t, before ++ .raised :: after⟩) :
    Sound ⟨t.wakeAll, before ++ .finished :: after⟩ := by
  -- Whoever wakes has raised the flag before, so nobody learns of anything too early.
  have raised : t.raised = true := h.raised .raised (by simp) (by decide)
  constructor
  · exact fun _ _ _ => raised
  · exact fun _ _ _ => raised
  · intro _ asleep
    obtain ⟨w, -, woken⟩ := List.mem_map.mp asleep
    exact w.wake_ne_parked woken

/-- Every step keeps what holds. -/
theorem step (h : Sound s) (step : Step s s') : Sound s' := by
  cases step with
  | wait => exact h.wait
  | register position =>
    exact h.change position (fun w known => .inr (Waiter.isInformed_register known))
      fun w _ => Waiter.register_eq_parked
  | look position =>
    exact h.change position (fun w => Waiter.isInformed_look)
      fun w raised asleep => Waiter.look_eq_parked (raised ▸ asleep)
  | resume position =>
    exact h.change position (fun w known => .inr (Waiter.isInformed_resume known))
      fun w _ => Waiter.resume_eq_parked
  | call => exact h.call
  | raise => exact h.raise
  | wake => exact h.wake

/-- What holds at first holds after any steps. -/
theorem run (h : Sound s) (run : Relation.ReflTransGen Step s s') : Sound s' := by
  induction run with
  | refl => exact h
  | tail _ last sound => exact sound.step last

/-- After a wake-up a waiter finishes when it looks next. -/
theorem poll_hasFinished (h : Sound ⟨t, cs⟩) (ended : .finished ∈ cs) {position : ℕ}
    (lt : position < t.waiters.length) : (t.poll position).hasFinished position = true := by
  have raised : t.raised = true := h.raised _ ended (by decide)
  have awake : t.waiters[position] ≠ .parked false := fun asleep =>
    h.woken ended (asleep ▸ List.getElem_mem lt)
  simpa [Token.hasFinished, Token.poll, raised, lt] using Waiter.isFinished_of_ne_parked awake

end Sound

theorem Step.raised {s s' : Shared} (step : Step s s') (raised : s.token.raised = true) :
    s'.token.raised = true := by
  cases step with
  | raise => rfl
  | _ => exact raised

/-- A raised flag stays raised. -/
theorem run_raised {s s' : Shared} (run : Relation.ReflTransGen Step s s')
    (raised : s.token.raised = true) : s'.token.raised = true := by
  induction run with
  | refl => exact raised
  | tail _ last raised => exact last.raised raised

end Shared

/-! ## Tokens and their handles -/

/-- The tokens with one of them changed. -/
def Tokens.change (s : Tokens) (i : ℕ) (f : Token → Token) : Tokens :=
  { s with tokens := s.tokens.modify i f }

/-- Tokens with their handles and waiters, and the calls that cancel one of them, each with the
number of its token. -/
structure Concurrent where
  tokens : Tokens := {}
  cancellers : List (ℕ × Canceller) := []

namespace Concurrent

/-- One step of one of those who hold handles, wait or cancel. -/
inductive Step : Concurrent → Concurrent → Prop
  | copy {ts cs} (handle : ℕ) : Step ⟨ts, cs⟩ ⟨ts.copy handle, cs⟩
  | wait {ts cs} (handle : ℕ) : Step ⟨ts, cs⟩ ⟨ts.wait handle, cs⟩
  | register {ts : Tokens} {cs} {waiter i position : ℕ}
      (waits : ts.waiters[waiter]? = some (i, position)) :
      Step ⟨ts, cs⟩ ⟨ts.change i (·.change position .register), cs⟩
  | look {ts : Tokens} {cs} {waiter i position : ℕ}
      (waits : ts.waiters[waiter]? = some (i, position)) :
      Step ⟨ts, cs⟩ ⟨ts.change i fun t => t.change position (.look t.raised), cs⟩
  | resume {ts : Tokens} {cs} {waiter i position : ℕ}
      (waits : ts.waiters[waiter]? = some (i, position)) :
      Step ⟨ts, cs⟩ ⟨ts.change i (·.change position .resume), cs⟩
  | call {ts : Tokens} {cs} {handle i : ℕ} (stands : ts.tokenOf? handle = some i) :
      Step ⟨ts, cs⟩ ⟨ts, cs ++ [(i, .called)]⟩
  | raise {ts before after i} :
      Step ⟨ts, before ++ (i, .called) :: after⟩
        ⟨ts.change i .raise, before ++ (i, .raised) :: after⟩
  | wake {ts before after i} :
      Step ⟨ts, before ++ (i, .raised) :: after⟩
        ⟨ts.change i .wakeAll, before ++ (i, .finished) :: after⟩

/-- The calls that cancel the token with a number. -/
def cancellersOf (i : ℕ) (cs : List (ℕ × Canceller)) : List Canceller :=
  (cs.filter (·.1 = i)).map (·.2)

variable {s s' : Concurrent} {ts : Tokens} {cs before after : List (ℕ × Canceller)} {i j : ℕ}

theorem mem_cancellersOf {c : Canceller} : c ∈ cancellersOf i cs ↔ (i, c) ∈ cs := by
  simp [cancellersOf]

theorem cancellersOf_append :
    cancellersOf i (before ++ after) = cancellersOf i before ++ cancellersOf i after := by
  simp [cancellersOf]

theorem cancellersOf_cons {c : Canceller} :
    cancellersOf i ((j, c) :: cs) =
      if j = i then c :: cancellersOf i cs else cancellersOf i cs := by
  by_cases h : j = i <;> simp [cancellersOf, h]

/-- A token with a number is still there in the other state, and it and the calls that cancel it
have only taken steps of their own. -/
def Follows (s s' : Concurrent) (i : ℕ) : Prop :=
  ∀ t, s.tokens.tokens[i]? = some t → ∃ t', s'.tokens.tokens[i]? = some t' ∧
    Relation.ReflTransGen Shared.Step ⟨t, cancellersOf i s.cancellers⟩
      ⟨t', cancellersOf i s'.cancellers⟩

theorem Follows.trans {s₁ s₂ s₃ : Concurrent} (first : Follows s₁ s₂ i) (second : Follows s₂ s₃ i) :
    Follows s₁ s₃ i := by
  intro t here
  obtain ⟨t', here', run⟩ := first t here
  obtain ⟨t'', here'', run'⟩ := second t' here'
  exact ⟨t'', here'', run.trans run'⟩

/-- Who changes one token only, and calls for it only, takes no step of another token. -/
theorem Follows.of_modify {f : Token → Token}
    (tokens : s'.tokens.tokens = s.tokens.tokens.modify j f)
    (others : ∀ i, j ≠ i → cancellersOf i s'.cancellers = cancellersOf i s.cancellers)
    (step : ∀ t, Shared.Step ⟨t, cancellersOf j s.cancellers⟩ ⟨f t, cancellersOf j s'.cancellers⟩) :
    Follows s s' i := by
  intro t here
  rw [tokens, List.getElem?_modify, here]
  -- The changed token takes the step, and any other one with its calls is as before.
  by_cases same : j = i
  · subst same
    exact ⟨f t, by simp, .single (step t)⟩
  · exact ⟨t, by simp [same], by rw [others i same]⟩

/-- A step of those who act on tokens is at most one step of each of the tokens. -/
theorem Step.follows (step : Step s s') (i : ℕ) : Follows s s' i := by
  cases step with
  | copy handle =>
    intro t here
    refine ⟨t, ?_, .refl⟩
    unfold Tokens.copy
    split <;> exact here
  | wait handle =>
    unfold Tokens.wait
    split
    · exact fun t here => ⟨t, here, .refl⟩
    · exact .of_modify rfl (fun _ _ => rfl) fun _ => .wait
  | register => exact .of_modify rfl (fun _ _ => rfl) fun _ => .register _
  | look => exact .of_modify rfl (fun _ _ => rfl) fun _ => .look _
  | resume => exact .of_modify rfl (fun _ _ => rfl) fun _ => .resume _
  | @call ts cs handle j stands =>
    intro t here
    refine ⟨t, here, ?_⟩
    -- The new call is seen by its own token only.
    rw [cancellersOf_append, cancellersOf_cons]
    by_cases same : j = i
    · rw [if_pos same]
      exact .single .call
    · simp only [if_neg same, cancellersOf, List.filter_nil, List.map_nil, List.append_nil]
      exact .refl
  | raise =>
    refine .of_modify rfl (fun i ne => ?_) fun t => ?_
    · simp only [cancellersOf_append, cancellersOf_cons, if_neg ne]
    · simp only [cancellersOf_append, cancellersOf_cons, if_pos]
      exact .raise
  | wake =>
    refine .of_modify rfl (fun i ne => ?_) fun t => ?_
    · simp only [cancellersOf_append, cancellersOf_cons, if_neg ne]
    · simp only [cancellersOf_append, cancellersOf_cons, if_pos]
      exact .wake

/-- No step makes a token or takes one away. -/
theorem Step.length_tokens (step : Step s s') :
    s'.tokens.tokens.length = s.tokens.tokens.length := by
  cases step with
  | copy handle => unfold Tokens.copy; split <;> rfl
  | wait handle => unfold Tokens.wait; split <;> simp
  | call => rfl
  | _ => simp [Tokens.change]

theorem run_follows (run : Relation.ReflTransGen Step s s') (i : ℕ) : Follows s s' i := by
  induction run with
  | refl => exact fun t here => ⟨t, here, .refl⟩
  | tail _ last follows => exact follows.trans (last.follows i)

theorem run_length_tokens (run : Relation.ReflTransGen Step s s') :
    s'.tokens.tokens.length = s.tokens.tokens.length := by
  induction run with
  | refl => rfl
  | tail _ last same => exact last.length_tokens.trans same

/-- Every token of a run that began with new ones is as it would be alone. -/
theorem run_sound (new : ∀ t ∈ ts.tokens, t = {}) (run : Relation.ReflTransGen Step ⟨ts, []⟩ s)
    {t : Token} (here : s.tokens.tokens[i]? = some t) :
    Shared.Sound ⟨t, cancellersOf i s.cancellers⟩ := by
  obtain ⟨lt, -⟩ := List.getElem?_eq_some_iff.mp here
  -- No token was made on the way, so this one was there at first and has only taken its own steps.
  rw [run_length_tokens run] at lt
  obtain ⟨t', here', alone⟩ := run_follows run i ts.tokens[i] (List.getElem?_eq_getElem lt)
  obtain rfl : t' = t := by simpa [here'] using here
  rw [new _ (List.getElem_mem lt)] at alone
  exact Shared.Sound.empty.run alone

/-- Cancelling through a handle is such a run. -/
theorem run_cancel {handle : ℕ} (stands : ts.tokenOf? handle = some i) :
    Relation.ReflTransGen Step ⟨ts, cs⟩ ⟨ts.cancel handle, cs ++ [(i, .finished)]⟩ := by
  have cancelled : ts.cancel handle = (ts.change i .raise).change i .wakeAll := by
    simp only [Tokens.cancel, stands, Tokens.change, List.modify_modify_eq]
    rfl
  rw [cancelled]
  exact .tail (.tail (.single (.call stands)) .raise) .wake

/-- A waiter's next look is such a run. -/
theorem run_poll (waiter : ℕ) :
    Relation.ReflTransGen Step ⟨ts, cs⟩ ⟨ts.poll waiter, cs⟩ := by
  match waits : ts.waiters[waiter]? with
  | none =>
    rw [Tokens.poll, waits]
  | some (i, position) =>
    -- Three changes of one waiter are one change by all three in turn.
    have polled : ts.poll waiter =
        (((ts.change i (·.change position .register)).change i
          fun t => t.change position (.look t.raised)).change i (·.change position .resume)) := by
      simp only [Tokens.poll, waits, Tokens.change, List.modify_modify_eq]
      congr 2
      funext t
      simp [Token.poll, Token.change, List.modify_modify_eq]
      rfl
    rw [polled]
    exact .tail (.tail (.single (.register waits)) (.look waits)) (.resume waits)

/-- A waiter for a token finishes when it looks next, once a call that cancels the token has
finished. -/
theorem run_finishes (new : ∀ t ∈ ts.tokens, t = {}) (run : Relation.ReflTransGen Step ⟨ts, []⟩ s)
    {t : Token} (here : s.tokens.tokens[i]? = some t) (ended : (i, .finished) ∈ s.cancellers)
    {position : ℕ} (lt : position < t.waiters.length) :
    (t.poll position).hasFinished position = true :=
  (run_sound new run here).poll_hasFinished (mem_cancellersOf.mpr ended) lt

/-- No wake-up is lost: once a call that cancels a token has finished, no waiter for the token
sleeps without having been woken. A waiter for it finishes only when its flag is raised, and the
flag stays raised. A whole call that cancels the token through one of its handles is such a run, and
so is a whole look of a waiter; after the former nobody sleeps without having been woken. -/
theorem run_informed (new : ∀ t ∈ ts.tokens, t = {}) (run : Relation.ReflTransGen Step ⟨ts, []⟩ s)
    {t : Token} (here : s.tokens.tokens[i]? = some t) :
    ((i, .finished) ∈ s.cancellers → .parked false ∉ t.waiters) ∧
      (.finished ∈ t.waiters → t.raised = true) ∧
      (t.raised = true → ∀ s', Relation.ReflTransGen Step s s' →
        ∃ t', s'.tokens.tokens[i]? = some t' ∧ t'.raised = true) ∧
      (∀ handle, s.tokens.tokenOf? handle = some i →
        Relation.ReflTransGen Step s
          ⟨s.tokens.cancel handle, s.cancellers ++ [(i, .finished)]⟩ ∧
        ∃ t', (s.tokens.cancel handle).tokens[i]? = some t' ∧ t'.raised = true ∧
          .parked false ∉ t'.waiters) ∧
      ∀ waiter, Relation.ReflTransGen Step s ⟨s.tokens.poll waiter, s.cancellers⟩ := by
  have sound := run_sound new run here
  refine ⟨fun ended => ?_, fun known => ?_, fun raised s' later => ?_, fun handle stands => ?_,
    run_poll⟩
  · exact sound.woken (mem_cancellersOf.mpr ended)
  · exact sound.informed _ known trivial
  · obtain ⟨t', here', alone⟩ := run_follows later i t here
    exact ⟨t', here', Shared.run_raised alone raised⟩
  · have whole : Relation.ReflTransGen Step s
        ⟨s.tokens.cancel handle, s.cancellers ++ [(i, .finished)]⟩ := run_cancel stands
    have there : (s.tokens.cancel handle).tokens[i]? = some t.cancel := by
      simp [Tokens.cancel, stands, here]
    have after := run_sound new (run.trans whole) there
    exact ⟨whole, t.cancel, there, rfl, after.woken (mem_cancellersOf.mpr (by simp))⟩

/-- Two waiters that hold copies of one handle, after someone has cancelled the token through the
second copy. -/
def copies : Concurrent :=
  ⟨⟨[⟨true, [.parked true, .finished]⟩], [0, 0], [(0, 0), (0, 1)]⟩, [(0, .finished)]⟩

/-- The first waiter sleeps before the flag is raised. The second one registers after that, and
looks after the wake-up. -/
theorem run_copies : Relation.ReflTransGen Step ⟨.single, []⟩ copies := by
  have asleep : Relation.ReflTransGen Step ⟨.single, []⟩
      ⟨⟨[⟨false, [.parked false]⟩], [0, 0], [(0, 0)]⟩, []⟩ :=
    .tail (.tail (.tail (.single (.wait 0)) (.copy 0)) (@Step.register _ _ 0 0 0 rfl))
      (@Step.look _ _ 0 0 0 rfl)
  have raised : Relation.ReflTransGen Step ⟨.single, []⟩
      ⟨⟨[⟨true, [.parked false, .registered false]⟩], [0, 0], [(0, 0), (0, 1)]⟩, [(0, .raised)]⟩ :=
    .tail (.tail (.tail (.tail asleep (@Step.call _ _ 1 0 rfl)) (@Step.raise _ [] [] 0)) (.wait 1))
      (@Step.register _ _ 1 0 1 rfl)
  exact .tail (.tail raised (@Step.wake _ [] [] 0)) (@Step.look _ _ 1 0 1 rfl)

theorem run_informed_copies :
    Relation.ReflTransGen Step ⟨.single, []⟩ copies ∧
      (0, .finished) ∈ copies.cancellers ∧ .parked false ∉ [Waiter.parked true, .finished] ∧
      ∀ s', Relation.ReflTransGen Step copies s' →
        ∃ t', s'.tokens.tokens[0]? = some t' ∧ t'.raised = true := by
  have new : ∀ t ∈ Tokens.single.tokens, t = {} := by simp [Tokens.single]
  have here : copies.tokens.tokens[0]? = some ⟨true, [.parked true, .finished]⟩ := rfl
  have ended : (0, .finished) ∈ copies.cancellers := by simp [copies]
  obtain ⟨woken, known, kept, -⟩ := run_informed new run_copies here
  exact ⟨run_copies, ended, woken ended, kept (known (by simp))⟩

end Concurrent

end TupleClient
