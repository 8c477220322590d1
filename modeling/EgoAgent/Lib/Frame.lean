import EgoAgent.Lib.Effect

/-!
Effects that leave a part of the state alone.
-/

namespace EgoAgent.Effect

variable {σ τ α β ε : Type} {view : σ → τ}

/-- Whatever it returns, the effect leaves what `view` shows alone. -/
def Preserves (view : σ → τ) (effect : Effect σ ε α) : Prop :=
  ∀ state, view (effect state).2 = view state

theorem preserves_check (verdict : Except ε α) : Preserves view (check verdict : Effect σ ε α) :=
  fun _ => rfl

theorem preserves_pure (item : α) : Preserves view (pure item : Effect σ ε α) := fun _ => rfl

theorem preserves_write {update : σ → σ} (kept : ∀ state, view (update state) = view state) :
    Preserves view (write update : Effect σ ε Unit) := kept

theorem preserves_bind {first : Effect σ ε α} {next : α → Effect σ ε β}
    (firstKeeps : Preserves view first) (nextKeeps : ∀ item, Preserves view (next item)) :
    Preserves view (first >>= next) := by
  intro state
  rw [bind_apply]
  have here := firstKeeps state
  rcases outcome : first state with ⟨error | item, middle⟩
  · rw [outcome] at here
    exact here
  · rw [outcome] at here
    exact (nextKeeps item middle).trans here

theorem preserves_read : Preserves view (read : Effect σ ε σ) := fun _ => rfl

theorem preserves_transaction {effect : Effect σ ε α} (keeps : Preserves view effect) :
    Preserves view (transaction effect) := by
  intro state
  unfold transaction
  have here := keeps state
  rcases outcome : effect state with ⟨error | item, later⟩
  · rfl
  · rw [outcome] at here
    exact here

end EgoAgent.Effect
