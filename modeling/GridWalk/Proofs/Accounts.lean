import GridWalk.Proofs.Announcements

/-!
# `GridWalk.Proofs.Accounts`: observers that keep accounts

Most observers keep an account: a state of their own that changes with each event, in a way that
depends on nothing else. `Observer.Keeps` says so of an observer whose account lies on top of a
monad. The rest of what it does is an observer in that monad, which may keep further accounts. So
several accounts are taken off one after the other, and none disturbs another.

* `Run.events`: the events of a run, in their order.
* `Run.account`: what an account holds after all events of a run.
* `Observer.Keeps.both` and `Observer.Keeps.onlyIf`: observers that are put together.
* `Observer.Keeps.ofText_run`: a run under an observer that keeps an account.
* `Run.told_eq`: an observer is told the events of the run and nothing else.
-/

set_option autoImplicit false

namespace GridWalk

namespace Run

/-- The events of a run, in their order. Only a run that is completed has any. -/
def events : Run → List Event
  | completed a _ => a.journeys.flatMap a.events
  | _ => []

/-- What an account holds after all events of a run, if it held `s` before. -/
def account {σ : Type} (keep : Arena → σ → Event → σ) (s : σ) : Run → σ
  | completed a _ => (a.journeys.flatMap a.events).foldl (keep a) s
  | _ => s

/-- An account that does not look at the arena is a fold over the events. -/
theorem account_eq_foldl {σ : Type} (keep : σ → Event → σ) (s : σ) (r : Run) :
    r.account (fun _ => keep) s = r.events.foldl keep s := by
  cases r <;> rfl

/-- An account that nothing changes. -/
theorem account_unchanged {σ : Type} (s : σ) (r : Run) : r.account (fun _ s _ => s) s = s := by
  cases r with
  | unreadable e => rfl
  | rejected refusal => rfl
  | completed a outcomes =>
    rw [account]
    induction a.journeys.flatMap a.events with
    | nil => rfl
    | cons e es ih => exact ih

end Run

namespace Observer

variable {m : Type → Type} [Monad m] {σ : Type} {keep : Arena → σ → Event → σ} {rest : Observer m}
  {observe : Observer (StateT σ m)}

/-- The observer changes its account by `keep`, and besides that it does what `rest` does. -/
def Keeps (keep : Arena → σ → Event → σ) (rest : Observer m) (observe : Observer (StateT σ m)) :
    Prop :=
  ∀ a e s, (observe a e).run s = do
    rest a e
    return ((), keep a s e)

/-- One observer gets each event before the other. -/
def both (first second : Observer m) : Observer m :=
  fun a e => do
    first a e
    second a e

/-- The observer, or nobody if the condition fails. -/
def onlyIf (c : Prop) [Decidable c] (observe : Observer m) : Observer m :=
  if c then observe else silent

/-- Nobody is nobody under any condition. -/
@[simp]
theorem onlyIf_silent (c : Prop) [Decidable c] : (silent : Observer m).onlyIf c = silent :=
  ite_self _

section
variable [LawfulMonad m]

/-- Nobody in front of an observer can be left out. -/
@[simp]
theorem both_silent (second : Observer m) : (silent : Observer m).both second = second := by
  funext a e
  exact pure_bind () fun _ => second a e

/-- Two rows of observers are one row. -/
theorem all_append (xs ys : List (Observer m)) : all (xs ++ ys) = (all xs).both (all ys) := by
  funext a e
  simp [all, both]

/-- A row of at most one observer. -/
theorem all_ite (c : Prop) [Decidable c] (plain : Observer m) :
    all (if c then [plain] else []) = plain.onlyIf c := by
  funext a e
  unfold onlyIf
  split <;> simp [all, silent]

end

namespace Keeps

variable [LawfulMonad m]

/-- Of two observers, the first changes the account before the second does. -/
theorem both {keep' : Arena → σ → Event → σ} {rest' : Observer m}
    {observe' : Observer (StateT σ m)} (h : Keeps keep rest observe)
    (h' : Keeps keep' rest' observe') :
    Keeps (fun a s e => keep' a (keep a s e) e) (rest.both rest') (observe.both observe') := by
  intro a e s
  simp [Observer.both, h a e s, h' a e (keep a s e)]

/-- Without the observer the account stays as it is. -/
theorem onlyIf (h : Keeps keep rest observe) (c : Prop) [Decidable c] :
    Keeps (fun a s e => if c then keep a s e else s) (rest.onlyIf c) (observe.onlyIf c) := by
  intro a e s
  unfold Observer.onlyIf
  split
  · exact h a e s
  · simp [silent]

/-- The events of one journey go through the account one after the other. -/
theorem announce_journey_run (h : Keeps keep rest observe) (log : Record → m Unit) (a : Arena)
    (j : Journey) (s : σ) :
    (a.announce ⟨observe, fun r => log r⟩ j).run s = do
      a.announce ⟨rest, log⟩ j
      return ((), (a.events j).foldl (keep a) s) := by
  simp [Arena.announce, Arena.run_forM (h a)]

/-- The events of several journeys go through the account journey by journey. -/
theorem forM_announce_run (h : Keeps keep rest observe) (log : Record → m Unit) (a : Arena)
    (js : List Journey) (s : σ) :
    (forM js (Arena.announce ⟨observe, fun r => log r⟩ a)).run s = do
      forM js (Arena.announce ⟨rest, log⟩ a)
      return ((), (js.flatMap a.events).foldl (keep a) s) := by
  rw [Arena.run_forM (h.announce_journey_run log a), List.foldl_flatMap]

/-- The announcements of a text leave the account of its run behind. -/
theorem announce_run (h : Keeps keep rest observe) (log : Record → m Unit) (text : String)
    (s : σ) :
    (Run.announce ⟨observe, fun r => log r⟩ text).run s = do
      Run.announce ⟨rest, log⟩ text
      return ((), (run text).account keep s) := by
  -- The two ways to be rejected have no events, and then the account stays as it was.
  rw [Run.announce, Run.announce, Run.run_eq]
  cases Document.read text with
  | error e => simp [Run.account]
  | ok d =>
    dsimp only
    cases d.check with
    | error r => simp [Run.account]
    | ok a => simp [Run.account, h.forM_announce_run log a]

/-- A run under an observer that keeps an account is the run under the rest of it, and the account
of the run. -/
theorem ofText_run (h : Keeps keep rest observe) (log : Record → m Unit) (text : String) (s : σ) :
    (Run.ofText ⟨observe, fun r => log r⟩ text).run s = do
      let r ← Run.ofText ⟨rest, log⟩ text
      return (r, (run text).account keep s) := by
  simp [Run.ofText_eq, h.announce_run log text s]

end Keeps

end Observer

namespace Run

/-- A run under an observer that does nothing but keep an account. -/
theorem ofText_watching_run {σ : Type} {keep : Arena → σ → Event → σ}
    {observe : Observer (StateM σ)}
    (h : ∀ a e s, (observe a e).run s = ((), keep a s e)) (text : String) (s : σ) :
    (ofText (Hooks.watching observe) text).run s = (run text, (run text).account keep s) := by
  have hkeeps : Observer.Keeps keep (Observer.silent : Observer Id) observe := h
  exact hkeeps.ofText_run (fun _ => pure ()) text s

/-- An observer that remembers all that it is told. -/
def listener : Observer (StateM (List Event)) :=
  fun _ event => modify (· ++ [event])

/-- What an observer is told when the text is run. -/
def told (text : String) : List Event :=
  ((ofText (Hooks.watching listener) text).run []).2

/-- An observer is told the events of the run and nothing else. -/
theorem told_eq (text : String) : told text = (run text).events := by
  have hlistener : ∀ (a : Arena) e s, (listener a e).run s = ((), s ++ [e]) := fun _ _ _ => rfl
  rw [told, ofText_watching_run hlistener, account_eq_foldl (fun s e => s ++ [e]),
    List.foldl_append_eq_append, ← List.flatMap_def]
  exact List.flatMap_singleton' _

end Run

end GridWalk
