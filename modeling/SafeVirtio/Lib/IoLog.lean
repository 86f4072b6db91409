import Mathlib.Logic.Basic

/-!
# Programs that talk to a device, and monitors of their accesses

A driver reaches its device only through accesses (register reads and writes) whose answers it
does not control: any value, or an error.  `Io A R ε α` is such a program, with accesses `A`,
answers `R` and errors `ε`.  Run against an `Oracle`, which answers each access knowing every
access made before it, the program ends in an `Outcome` (a value, an error returned to its
caller, or a panic) and leaves the log of the accesses it made, each with its answer.  A
statement over every oracle is a statement over every behaviour of the device.

An ordering requirement on the accesses is a monitor: a step function over log entries that
refuses an entry out of place.  `Triple step P p Q` says that from every monitor state
satisfying `P` the monitor accepts the log of every run of `p`, ending in a state where `Q` holds
of the run's outcome.  The rules below (one per combinator, one for sequencing, one for
weakening) prove such triples by following the program's own structure; with a monitor that
accepts everything, a triple is a plain postcondition on the outcome.

What a program returns, when it returns, is often all a later proof needs: `Returns p P` says
that every value `p` returns satisfies `P`, and its rules follow the combinators as the triples'
do, with no monitor and no assertion for errors and panics.  Against one device the converse
is wanted too, that the program does return: `Yields p o a` says that against `o` it returns
`a` after any history.
-/

namespace IoLog

/-- How a run ends: with a value, with an error returned to the caller, or in a panic (which
also stands for a loop that never exits). -/
inductive Outcome (ε α : Type) where
  | ok (a : α)
  | error (e : ε)
  | panic
  deriving DecidableEq, Repr

/-- Whether a run ended in a panic. -/
def Outcome.isPanic {ε α : Type} : Outcome ε α → Bool
  | .panic => true
  | _ => false

/-- A device: the answer to each access, given the accesses made before it. -/
abbrev Oracle (A R ε : Type) := List A → A → Except ε R

/-- A program: against an oracle and the accesses made before it, its outcome and the log of
the accesses it makes, each with its answer. -/
def Io (A R ε α : Type) : Type := Oracle A R ε → List A → Outcome ε α × List (A × Except ε R)

namespace Io

variable {A R ε α β : Type}

/-- Return a value without touching the device. -/
protected def pure (a : α) : Io A R ε α := fun _ _ ↦ (.ok a, [])

/-- Run `p`, then `f` on its value against the history extended by `p`'s accesses; an error or
a panic of `p` ends the run. -/
protected def bind (p : Io A R ε α) (f : α → Io A R ε β) : Io A R ε β := fun o h ↦
  match p o h with
  | (.ok a, log) =>
    let r := f a o (h ++ log.map Prod.fst)
    (r.1, log ++ r.2)
  | (.error e, log) => (.error e, log)
  | (.panic, log) => (.panic, log)

instance : Monad (Io A R ε) where
  pure := Io.pure
  bind := Io.bind

/-- One access; an error answer becomes the program's error, as Rust's `?` makes it. -/
def access (a : A) : Io A R ε R := fun o h ↦
  match o h a with
  | .ok r => (.ok r, [(a, .ok r)])
  | .error e => (.error e, [(a, .error e)])

/-- Return an error without touching the device. -/
def throw (e : ε) : Io A R ε α := fun _ _ ↦ (.error e, [])

/-- Panic without touching the device. -/
def panic : Io A R ε α := fun _ _ ↦ (.panic, [])

/-- `p` with its error handed over as a value: a `Result` bound without `?`. -/
def attempt (p : Io A R ε α) : Io A R ε (Except ε α) := fun o h ↦
  match p o h with
  | (.ok a, log) => (.ok (.ok a), log)
  | (.error e, log) => (.ok (.error e), log)
  | (.panic, log) => (.panic, log)

/-- A result computed without the device: `none` is a panic, `error` is returned. -/
def ofOption : Option (Except ε α) → Io A R ε α
  | some (.ok a) => Io.pure a
  | some (.error e) => throw e
  | none => panic

/-- `p`, running `cleanup` before an error of `p` is returned: what Rust's drop of an owned
value does on an early return. -/
def onError (p : Io A R ε α) (cleanup : Io A R ε Unit) : Io A R ε α :=
  Io.bind (attempt p) fun
    | .ok a => Io.pure a
    | .error e => Io.bind cleanup fun _ ↦ throw e

/-- `p?` inside a method that returns its state along with its result: an error of `p` is
returned with the state `s` reached so far, as `?` leaves the mutations of `&mut self` made
before it. -/
def question {σ β : Type} (p : Io A R ε α) (s : σ) (k : α → Io A R ε (Except ε β × σ)) :
    Io A R ε (Except ε β × σ) :=
  Io.bind (attempt p) fun
    | .ok a => k a
    | .error e => Io.pure (.error e, s)

@[simp]
theorem bind_eq (p : Io A R ε α) (f : α → Io A R ε β) : p >>= f = Io.bind p f := rfl

@[simp]
theorem pure_eq (a : α) : (pure a : Io A R ε α) = Io.pure a := rfl

/-! ### Running a program -/

/-- Run a program against an oracle, after the accesses `h`. -/
def run (p : Io A R ε α) (o : Oracle A R ε) (h : List A) : Outcome ε α × List (A × Except ε R) :=
  p o h

@[simp]
theorem run_pure (a : α) (o : Oracle A R ε) (h : List A) : (Io.pure a).run o h = (.ok a, []) :=
  rfl

@[simp]
theorem run_throw (e : ε) (o : Oracle A R ε) (h : List A) :
    (throw e : Io A R ε α).run o h = (.error e, []) := rfl

@[simp]
theorem run_panic (o : Oracle A R ε) (h : List A) : (panic : Io A R ε α).run o h = (.panic, []) :=
  rfl

theorem run_bind (p : Io A R ε α) (f : α → Io A R ε β) (o : Oracle A R ε) (h : List A) :
    (Io.bind p f).run o h = match p.run o h with
      | (.ok a, log) =>
        let r := (f a).run o (h ++ log.map Prod.fst)
        (r.1, log ++ r.2)
      | (.error e, log) => (.error e, log)
      | (.panic, log) => (.panic, log) := rfl

theorem run_access (a : A) (o : Oracle A R ε) (h : List A) :
    (access a).run o h = match o h a with
      | .ok r => (.ok r, [(a, .ok r)])
      | .error e => (.error e, [(a, .error e)]) := rfl

theorem run_attempt (p : Io A R ε α) (o : Oracle A R ε) (h : List A) :
    (attempt p).run o h = match p.run o h with
      | (.ok a, log) => (.ok (.ok a), log)
      | (.error e, log) => (.ok (.error e), log)
      | (.panic, log) => (.panic, log) := rfl

theorem run_question {σ β : Type} (p : Io A R ε α) (s : σ) (k : α → Io A R ε (Except ε β × σ))
    (o : Oracle A R ε) (h : List A) :
    (question p s k).run o h = match p.run o h with
      | (.ok a, log) =>
        let r := (k a).run o (h ++ log.map Prod.fst)
        (r.1, log ++ r.2)
      | (.error e, log) => (.ok (.error e, s), log)
      | (.panic, log) => (.panic, log) := by
  rcases hp : p.run o h with ⟨_ | _ | _, log⟩ <;> simp [question, run_bind, run_attempt, hp]

theorem run_ite {c : Prop} [Decidable c] (p q : Io A R ε α) (o : Oracle A R ε) (h : List A) :
    (if c then p else q).run o h = if c then p.run o h else q.run o h := by
  split <;> rfl

end Io

/-! ## Monitors -/

/-- Run a monitor over a log: `none` once it refuses an entry. -/
def Monitor.run {σ E : Type} (step : σ → E → Option σ) : σ → List E → Option σ
  | s, [] => some s
  | s, e :: l => (step s e).bind fun s' ↦ run step s' l

@[simp]
theorem Monitor.run_nil {σ E : Type} (step : σ → E → Option σ) (s : σ) :
    Monitor.run step s [] = some s := rfl

@[simp]
theorem Monitor.run_cons {σ E : Type} (step : σ → E → Option σ) (s : σ) (e : E) (l : List E) :
    Monitor.run step s (e :: l) = (step s e).bind fun s' ↦ Monitor.run step s' l := rfl

theorem Monitor.run_append {σ E : Type} (step : σ → E → Option σ) :
    ∀ (s : σ) (l₁ l₂ : List E),
      Monitor.run step s (l₁ ++ l₂) = (Monitor.run step s l₁).bind fun s' ↦ Monitor.run step s' l₂
  | s, [], l₂ => rfl
  | s, e :: l₁, l₂ => by
    cases h : step s e with
    | none => simp [h]
    | some s' => simp [h, Monitor.run_append step s' l₁ l₂]

/-! ## Triples -/

section Triple

variable {σ A R ε α β : Type}

/-- From every monitor state satisfying `P`, against every oracle and history, the monitor
accepts the log of `p` and ends in a state where `Q` holds of `p`'s outcome. -/
def Triple (step : σ → A × Except ε R → Option σ) (P : σ → Prop) (p : Io A R ε α)
    (Q : Outcome ε α → σ → Prop) : Prop :=
  ∀ o h s, P s → ∃ s', Monitor.run step s (p.run o h).2 = some s' ∧ Q (p.run o h).1 s'

variable {step : σ → A × Except ε R → Option σ} {P P' : σ → Prop}
  {Q Q' : Outcome ε α → σ → Prop}

theorem Triple.conseq {p : Io A R ε α} (hp : Triple step P' p Q') (hP : ∀ s, P s → P' s)
    (hQ : ∀ r s, Q' r s → Q r s) : Triple step P p Q := by
  intro o h s hs
  obtain ⟨s', hrun, hq⟩ := hp o h s (hP s hs)
  exact ⟨s', hrun, hQ _ _ hq⟩

theorem Triple.pure {a : α} (hQ : ∀ s, P s → Q (.ok a) s) : Triple step P (pure a) Q :=
  fun _ _ s hs ↦ ⟨s, rfl, hQ s hs⟩

theorem Triple.throw {e : ε} (hQ : ∀ s, P s → Q (.error e) s) : Triple step P (Io.throw e) Q :=
  fun _ _ s hs ↦ ⟨s, rfl, hQ s hs⟩

theorem Triple.panic (hQ : ∀ s, P s → Q .panic s) : Triple step P (Io.panic : Io A R ε α) Q :=
  fun _ _ s hs ↦ ⟨s, rfl, hQ s hs⟩

theorem Triple.access {a : A} {Q : Outcome ε R → σ → Prop}
    (h : ∀ s, P s → ∀ r : Except ε R, ∃ s', step s (a, r) = some s' ∧
      Q (match r with | .ok v => .ok v | .error e => .error e) s') :
    Triple step P (Io.access a) Q := by
  intro o hist s hs
  obtain ⟨s', hstep, hq⟩ := h s hs (o hist a)
  refine ⟨s', ?_, ?_⟩
  · cases hr : o hist a <;> simp_all [Io.run_access]
  · cases hr : o hist a <;> simp_all [Io.run_access]

/-- Sequencing: the middle assertion `R` holds after `p`; an error or a panic of `p` has to
satisfy the final postcondition already. -/
theorem Triple.bind {p : Io A R ε α} {f : α → Io A R ε β} {Rm : Outcome ε α → σ → Prop}
    {Q : Outcome ε β → σ → Prop} (hp : Triple step P p Rm)
    (hf : ∀ a, Triple step (Rm (.ok a)) (f a) Q)
    (herr : ∀ e s, Rm (.error e) s → Q (.error e) s) (hpanic : ∀ s, Rm .panic s → Q .panic s) :
    Triple step P (p >>= f) Q := by
  intro o h s hs
  obtain ⟨s₁, hrun₁, hr⟩ := hp o h s hs
  simp only [Io.bind_eq, Io.run_bind]
  split
  · next a log heq =>
    rw [heq] at hrun₁ hr
    obtain ⟨s₂, hrun₂, hq⟩ := hf a o (h ++ log.map Prod.fst) s₁ hr
    exact ⟨s₂, by rw [Monitor.run_append, hrun₁, Option.bind_some, hrun₂], hq⟩
  · next e log heq =>
    rw [heq] at hrun₁ hr
    exact ⟨s₁, hrun₁, herr e s₁ hr⟩
  · next log heq =>
    rw [heq] at hrun₁ hr
    exact ⟨s₁, hrun₁, hpanic s₁ hr⟩

theorem Triple.attempt {p : Io A R ε α} {Q : Outcome ε (Except ε α) → σ → Prop}
    (hp : Triple step P p fun r s ↦ match r with
      | .ok a => Q (.ok (.ok a)) s
      | .error e => Q (.ok (.error e)) s
      | .panic => Q .panic s) :
    Triple step P (Io.attempt p) Q := by
  intro o h s hs
  obtain ⟨s', hrun, hq⟩ := hp o h s hs
  refine ⟨s', ?_, ?_⟩ <;> simp only [Io.run_attempt] <;> split <;> simp_all

/-- The cleanup of `onError` runs only after an error of `p`, which the whole returns unless the
cleanup fails or panics itself. -/
theorem Triple.onError {p : Io A R ε α} {cleanup : Io A R ε Unit} {Rm : Outcome ε α → σ → Prop}
    (hp : Triple step P p Rm) (hok : ∀ a s, Rm (.ok a) s → Q (.ok a) s)
    (hpanic : ∀ s, Rm .panic s → Q .panic s)
    (hclean : ∀ e, Triple step (Rm (.error e)) cleanup fun r s ↦ match r with
      | .ok _ => Q (.error e) s
      | .error e' => Q (.error e') s
      | .panic => Q .panic s) :
    Triple step P (Io.onError p cleanup) Q := by
  have hatt : Triple step P (Io.attempt p) fun r s ↦ match r with
      | .ok (.ok a) => Rm (.ok a) s
      | .ok (.error e) => Rm (.error e) s
      | .error _ => False
      | .panic => Rm .panic s :=
    Triple.attempt (hp.conseq (fun _ h ↦ h) fun r _ h ↦ by cases r <;> exact h)
  refine Triple.bind hatt (fun r ↦ ?_) (fun _ _ h ↦ False.elim h) hpanic
  rcases r with e | a
  · exact Triple.bind (hclean e) (fun _ ↦ Triple.throw fun _ h ↦ h) (fun _ _ h ↦ h) fun _ h ↦ h
  · exact Triple.pure (hok a)

end Triple

/-! ## What a program returns -/

section Returns

variable {A R ε α β : Type}

/-- Every value `p` returns satisfies `P`, whatever the device answers. -/
def Returns (p : Io A R ε α) (P : α → Prop) : Prop :=
  ∀ o h a log, p.run o h = (.ok a, log) → P a

variable {P : α → Prop} {Q : β → Prop}

theorem Returns.of_forall {p : Io A R ε α} (h : ∀ a, P a) : Returns p P :=
  fun _ _ a _ _ ↦ h a

theorem Returns.mono {p : Io A R ε α} {P' : α → Prop} (hp : Returns p P) (h : ∀ a, P a → P' a) :
    Returns p P' :=
  fun o hist a log hrun ↦ h a (hp o hist a log hrun)

theorem Returns.pure {a : α} (h : P a) : Returns (pure a : Io A R ε α) P := by
  intro _ _ b _ hrun
  cases hrun
  exact h

theorem Returns.throw {e : ε} : Returns (Io.throw e : Io A R ε α) P := by
  intro _ _ _ _ hrun
  cases hrun

theorem Returns.panic : Returns (Io.panic : Io A R ε α) P := by
  intro _ _ _ _ hrun
  cases hrun

theorem Returns.ofOption {x : Option (Except ε α)} (h : ∀ a, x = some (.ok a) → P a) :
    Returns (Io.ofOption x : Io A R ε α) P := by
  rcases x with _ | _ | a
  · intro _ _ _ _ hrun
    cases hrun
  · exact Returns.throw
  · exact Returns.pure (h a rfl)

theorem Returns.ite {c : Prop} [Decidable c] {p q : Io A R ε α} (hp : c → Returns p P)
    (hq : ¬c → Returns q P) : Returns (if c then p else q) P := by
  by_cases hc : c
  · rw [if_pos hc]; exact hp hc
  · rw [if_neg hc]; exact hq hc

theorem Returns.bind {p : Io A R ε α} {f : α → Io A R ε β} (hp : Returns p P)
    (hf : ∀ a, P a → Returns (f a) Q) : Returns (p >>= f) Q := by
  intro o h b log hrun
  simp only [Io.bind_eq, Io.run_bind] at hrun
  split at hrun
  · next a log₁ heq =>
    have hb : ((f a).run o (h ++ log₁.map Prod.fst)).1 = .ok b := congrArg Prod.fst hrun
    exact hf a (hp o h a log₁ heq) o _ b _ (Prod.ext hb rfl)
  · cases hrun
  · cases hrun

/-- A program that goes on from whatever a first one returned returns what the rest returns:
the first program's value constrains nothing. -/
theorem Returns.bind_any {p : Io A R ε α} {f : α → Io A R ε β} (hf : ∀ a, Returns (f a) Q) :
    Returns (p >>= f) Q :=
  Returns.bind (P := fun _ ↦ True) (Returns.of_forall fun _ ↦ trivial) fun a _ ↦ hf a

theorem Returns.onError {p : Io A R ε α} {cleanup : Io A R ε Unit} (hp : Returns p P) :
    Returns (Io.onError p cleanup) P := by
  intro o h a log hrun
  simp only [Io.onError, Io.run_bind, Io.run_attempt] at hrun
  rcases hpr : p.run o h with ⟨_ | _ | _, log₁⟩ <;> rw [hpr] at hrun
  · exact hp o h _ log₁ (by rw [hpr]; cases hrun; rfl)
  · rcases hc : cleanup.run o (h ++ log₁.map Prod.fst) with ⟨_ | _ | _, _⟩ <;>
      simp [hc, Io.run_bind] at hrun
  · cases hrun

end Returns

/-! ## What a program yields -/

section Yields

variable {A R ε α β : Type} {o : Oracle A R ε}

/-- `p` returns `a` against the oracle `o`, whatever the accesses made before it: against that
device the program ends, and ends well. -/
def Yields (p : Io A R ε α) (o : Oracle A R ε) (a : α) : Prop :=
  ∀ h, ∃ log, p.run o h = (.ok a, log)

theorem Yields.pure (a : α) : Yields (Io.pure a : Io A R ε α) o a :=
  fun _ ↦ ⟨[], rfl⟩

theorem Yields.bind {p : Io A R ε α} {f : α → Io A R ε β} {a : α} {b : β} (hp : Yields p o a)
    (hf : Yields (f a) o b) : Yields (Io.bind p f) o b := by
  intro h
  obtain ⟨log₁, h₁⟩ := hp h
  obtain ⟨log₂, h₂⟩ := hf (h ++ log₁.map Prod.fst)
  refine ⟨log₁ ++ log₂, ?_⟩
  rw [Io.run_bind, h₁]
  simp [h₂]

end Yields

end IoLog
