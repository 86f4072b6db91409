import SafeVirtio.Lib.IoLog

/-!
# Programs against a device with state

An oracle answers each access knowing every access made before it.  A register file is an
oracle of a special kind: its answers follow from a state that each access updates, so a history
matters only through the state it leaves.  `Device.Runs d p s r s'` says that after every
history that left the device `d` in `s`, the program `p` ends with `r` and leaves the device in
`s'`.  Its rules follow the combinators, as the triples' do, and compute a program's effect on
the device one access at a time.
-/

namespace IoLog

/-- A device whose answers follow from a state that each access updates. -/
structure Device (σ A R : Type) where
  answer : σ → A → R
  apply : σ → A → σ

namespace Device

variable {σ A R ε α β : Type} (d : Device σ A R)

/-- The state the device reaches from `s` through the accesses `h`. -/
def after (s : σ) (h : List A) : σ := h.foldl d.apply s

/-- The device started in `s₀`, as an oracle: each access is answered in the state the accesses
before it left, and none fails. -/
def oracle (s₀ : σ) : Oracle A R ε := fun h a ↦ .ok (d.answer (d.after s₀ h) a)

/-- After every history that left the device in `s`, `p` ends with `r` and leaves the device in
`s'`. -/
def Runs (p : Io A R ε α) (s : σ) (r : Outcome ε α) (s' : σ) : Prop :=
  ∀ s₀ h, d.after s₀ h = s →
    ∃ log, p.run (d.oracle s₀) h = (r, log) ∧ d.after s (log.map Prod.fst) = s'

variable {d}

@[simp]
theorem after_append (s : σ) (h₁ h₂ : List A) : d.after s (h₁ ++ h₂) = d.after (d.after s h₁) h₂ :=
  List.foldl_append

theorem Runs.pure (a : α) (s : σ) : d.Runs (pure a : Io A R ε α) s (.ok a) s :=
  fun _ _ _ ↦ ⟨[], rfl, rfl⟩

theorem Runs.throw (e : ε) (s : σ) : d.Runs (Io.throw e : Io A R ε α) s (.error e) s :=
  fun _ _ _ ↦ ⟨[], rfl, rfl⟩

theorem Runs.access (a : A) (s : σ) :
    d.Runs (Io.access a : Io A R ε R) s (.ok (d.answer s a)) (d.apply s a) := by
  intro s₀ h hs
  refine ⟨[(a, .ok (d.answer s a))], ?_, rfl⟩
  simp [Io.run_access, oracle, hs]

theorem Runs.bind {p : Io A R ε α} {f : α → Io A R ε β} {s s₁ s₂ : σ} {a : α}
    {r : Outcome ε β} (hp : d.Runs p s (.ok a) s₁) (hf : d.Runs (f a) s₁ r s₂) :
    d.Runs (p >>= f) s r s₂ := by
  intro s₀ h hs
  obtain ⟨log₁, hrun₁, hs₁⟩ := hp s₀ h hs
  have hmid : d.after s₀ (h ++ log₁.map Prod.fst) = s₁ := by
    rw [after_append, hs, hs₁]
  obtain ⟨log₂, hrun₂, hs₂⟩ := hf s₀ _ hmid
  refine ⟨log₁ ++ log₂, ?_, ?_⟩
  · simp [Io.run_bind, hrun₁, hrun₂]
  · rw [List.map_append, after_append, hs₁, hs₂]

theorem Runs.attempt_ok {p : Io A R ε α} {s s' : σ} {a : α} (hp : d.Runs p s (.ok a) s') :
    d.Runs (Io.attempt p) s (.ok (.ok a)) s' := by
  intro s₀ h hs
  obtain ⟨log, hrun, hs'⟩ := hp s₀ h hs
  exact ⟨log, by simp [Io.run_attempt, hrun], hs'⟩

end Device

end IoLog
