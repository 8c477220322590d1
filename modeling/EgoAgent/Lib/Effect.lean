import Mathlib

/-!
Raising computations, with and without state.

`Except` models code that only checks.  `Effect` models a method of an object:
when it raises, whatever it wrote before stays written, so that leaving the
state alone on failure is a property to prove and not one of the monad.
`transaction` is the rolling-back combinator of a store.
-/

namespace EgoAgent

/-! ### Checks -/

section Check

variable {ε α β : Type}

def raiseIf (wrong : Prop) [Decidable wrong] (error : ε) : Except ε Unit :=
  if wrong then .error error else .ok ()

/-- The content of an optional value, or an error. -/
def expect (error : ε) : Option α → Except ε α
  | none => .error error
  | some item => .ok item

theorem bind_eq_ok (check : Except ε α) (next : α → Except ε β) (result : β) :
    (check >>= next) = .ok result ↔ ∃ item, check = .ok item ∧ next item = .ok result := by
  cases check with
  | error error =>
      constructor
      · intro computed; cases computed
      · rintro ⟨_, impossible, _⟩; cases impossible
  | ok item =>
      constructor
      · intro computed; exact ⟨item, rfl, computed⟩
      · rintro ⟨_, ⟨⟩, computed⟩; exact computed

theorem forM_eq_ok {check : α → Except ε Unit} {items : List α}
    (checked : items.forM check = .ok ()) : ∀ item ∈ items, check item = .ok () := by
  induction items with
  | nil =>
      intro item member
      cases member
  | cons first rest ih =>
      obtain ⟨_, ofFirst, ofRest⟩ := (bind_eq_ok _ _ _).mp checked
      exact List.forall_mem_cons.mpr ⟨ofFirst, ih ofRest⟩

theorem forM_ok {check : α → Except ε Unit} {items : List α}
    (passes : ∀ item ∈ items, check item = .ok ()) : items.forM check = .ok () := by
  induction items with
  | nil => rfl
  | cons first rest ih =>
      obtain ⟨ofFirst, ofRest⟩ := List.forall_mem_cons.mp passes
      exact (bind_eq_ok _ _ _).mpr ⟨(), ofFirst, ih ofRest⟩

theorem raiseIf_eq_ok (wrong : Prop) [Decidable wrong] (error : ε) (done : Unit) :
    raiseIf wrong error = .ok done ↔ ¬ wrong := by
  by_cases holds : wrong <;> simp [raiseIf, holds]

theorem raiseIf_bind_eq_ok (wrong : Prop) [Decidable wrong] (error : ε) (next : Unit → Except ε β)
    (result : β) :
    (raiseIf wrong error >>= next) = .ok result ↔ ¬ wrong ∧ next () = .ok result := by
  rw [bind_eq_ok]
  constructor
  · rintro ⟨⟨⟩, passed, computed⟩
    exact ⟨(raiseIf_eq_ok wrong error ()).mp passed, computed⟩
  · rintro ⟨right, computed⟩
    exact ⟨(), (raiseIf_eq_ok wrong error ()).mpr right, computed⟩

theorem ok_bind (item : α) (next : α → Except ε β) : (Except.ok item >>= next) = next item := rfl

theorem raiseIf_bind_of_not {wrong : Prop} [Decidable wrong] (passed : ¬ wrong) (error : ε)
    (next : Unit → Except ε β) : (raiseIf wrong error >>= next) = next () := by
  unfold raiseIf
  rw [if_neg passed, ok_bind]

theorem expect_eq_ok (error : ε) (content : Option α) (item : α) :
    expect error content = .ok item ↔ content = some item := by
  cases content <;> simp [expect]

/-- Two optional values that are needed together. -/
theorem expect_pair_eq_ok (error : ε) (left : Option α) (right : Option β) (pair : α × β) :
    expect error (left.bind fun first => right.map fun second => (first, second)) = .ok pair ↔
      left = some pair.1 ∧ right = some pair.2 := by
  rw [expect_eq_ok]
  cases left <;> cases right <;> simp [Prod.ext_iff]

end Check

/-! ### Effects on a state -/

def Effect (σ ε α : Type) := σ → Except ε α × σ

namespace Effect

variable {σ τ ε α β : Type}

instance : Monad (Effect σ ε) where
  pure item := fun state => (.ok item, state)
  bind first next := fun state =>
    match first state with
    | (.ok item, later) => next item later
    | (.error error, later) => (.error error, later)

def check (verdict : Except ε α) : Effect σ ε α := fun state => (verdict, state)

def read : Effect σ ε σ := fun state => (.ok state, state)

def write (update : σ → σ) : Effect σ ε Unit := fun state => (.ok (), update state)

/-- An effect on a part of the state. -/
def within (get : τ → σ) (put : σ → τ → τ) (effect : Effect σ ε α) : Effect τ ε α := fun state =>
  ((effect (get state)).1, put (effect (get state)).2 state)

/-- An effect that leaves no trace when it raises. -/
def transaction (effect : Effect σ ε α) : Effect σ ε α := fun state =>
  match effect state with
  | (.ok item, later) => (.ok item, later)
  | (.error error, _) => (.error error, state)

theorem pure_apply (item : α) (state : σ) :
    (pure item : Effect σ ε α) state = (.ok item, state) := rfl

theorem bind_apply (first : Effect σ ε α) (next : α → Effect σ ε β) (state : σ) :
    (first >>= next) state =
      match first state with
      | (.ok item, later) => next item later
      | (.error error, later) => (.error error, later) := rfl

theorem bind_eq_ok (first : Effect σ ε α) (next : α → Effect σ ε β) (state final : σ)
    (result : β) :
    (first >>= next) state = (.ok result, final) ↔
      ∃ item middle, first state = (.ok item, middle) ∧
        next item middle = (.ok result, final) := by
  rw [bind_apply]
  constructor
  · intro computed
    rcases outcome : first state with ⟨_ | item, middle⟩
    · rw [outcome] at computed; cases computed
    · rw [outcome] at computed; exact ⟨item, middle, rfl, computed⟩
  · rintro ⟨item, middle, firstEq, nextEq⟩
    rw [firstEq]; exact nextEq

theorem bind_eq_error (first : Effect σ ε α) (next : α → Effect σ ε β) (state final : σ)
    (error : ε) :
    (first >>= next) state = (.error error, final) ↔
      first state = (.error error, final) ∨
        ∃ item middle, first state = (.ok item, middle) ∧
          next item middle = (.error error, final) := by
  rw [bind_apply]
  constructor
  · intro computed
    rcases outcome : first state with ⟨failure | item, middle⟩
    · rw [outcome] at computed
      simp only [Prod.mk.injEq, Except.error.injEq] at computed
      obtain ⟨rfl, rfl⟩ := computed
      exact .inl rfl
    · rw [outcome] at computed; exact .inr ⟨item, middle, rfl, computed⟩
  · rintro (firstEq | ⟨item, middle, firstEq, nextEq⟩)
    · rw [firstEq]
    · rw [firstEq]; exact nextEq

theorem check_bind_apply (verdict : Except ε α) (next : α → Effect σ ε β) (state : σ) :
    (check verdict >>= next) state =
      match verdict with
      | .ok item => next item state
      | .error error => (.error error, state) := by
  cases verdict <;> rfl

theorem check_ok_bind (item : α) (next : α → Effect σ ε β) (state : σ) :
    (check (.ok item) >>= next) state = next item state := rfl

theorem check_bind_eq_ok (verdict : Except ε α) (next : α → Effect σ ε β) (state final : σ)
    (result : β) :
    (check verdict >>= next) state = (.ok result, final) ↔
      ∃ item, verdict = .ok item ∧ next item state = (.ok result, final) := by
  rw [bind_eq_ok]
  constructor
  · rintro ⟨item, middle, checked, computed⟩
    simp only [check, Prod.mk.injEq] at checked
    obtain ⟨passed, rfl⟩ := checked
    exact ⟨item, passed, computed⟩
  · rintro ⟨item, passed, computed⟩
    exact ⟨item, state, by rw [check, passed], computed⟩

theorem check_bind_eq_error (verdict : Except ε α) (next : α → Effect σ ε β) (state final : σ)
    (error : ε) :
    (check verdict >>= next) state = (.error error, final) ↔
      (verdict = .error error ∧ final = state) ∨
        ∃ item, verdict = .ok item ∧ next item state = (.error error, final) := by
  rw [check_bind_apply]
  cases verdict with
  | error failure => simp [eq_comm]
  | ok item => simp

theorem raiseIf_bind_eq_ok (wrong : Prop) [Decidable wrong] (error : ε)
    (next : Unit → Effect σ ε β) (state final : σ) (result : β) :
    (check (raiseIf wrong error) >>= next) state = (.ok result, final) ↔
      ¬ wrong ∧ next () state = (.ok result, final) := by
  rw [check_bind_eq_ok]
  constructor
  · rintro ⟨⟨⟩, passed, computed⟩
    exact ⟨(raiseIf_eq_ok wrong error ()).mp passed, computed⟩
  · rintro ⟨right, computed⟩
    exact ⟨(), (raiseIf_eq_ok wrong error ()).mpr right, computed⟩

theorem read_bind (next : σ → Effect σ ε β) (state : σ) :
    (read >>= next) state = next state state := rfl

theorem write_bind (update : σ → σ) (next : Unit → Effect σ ε β) (state : σ) :
    (write update >>= next) state = next () (update state) := rfl

theorem within_bind_eq_ok (get : τ → σ) (put : σ → τ → τ) (effect : Effect σ ε α)
    (next : α → Effect τ ε β) (state final : τ) (result : β) :
    (within get put effect >>= next) state = (.ok result, final) ↔
      ∃ item part, effect (get state) = (.ok item, part) ∧
        next item (put part state) = (.ok result, final) := by
  rw [bind_eq_ok]
  constructor
  · rintro ⟨item, middle, ran, computed⟩
    simp only [within, Prod.mk.injEq] at ran
    obtain ⟨returned, rfl⟩ := ran
    exact ⟨item, (effect (get state)).2, by rw [← returned], computed⟩
  · rintro ⟨item, part, ran, computed⟩
    exact ⟨item, put part state, by rw [within, ran], computed⟩

/-! ### All or nothing -/

/-- Started in `state`, the effect leaves what `view` shows alone whenever it raises. -/
def Keeps (view : σ → τ) (effect : Effect σ ε α) (state : σ) : Prop :=
  ∀ error final, effect state = (.error error, final) → view final = view state

/-- Started in `state`, the effect leaves the state alone whenever it raises. -/
def Atomic (effect : Effect σ ε α) (state : σ) : Prop := Keeps id effect state

section Keeps

variable {view : σ → τ} {state : σ}

theorem keeps_check_bind (verdict : Except ε α) (next : α → Effect σ ε β)
    (rest : ∀ item, verdict = .ok item → Keeps view (next item) state) :
    Keeps view (check verdict >>= next) state := by
  intro error final computed
  rw [check_bind_apply] at computed
  cases verdict with
  | error failure =>
      simp only [Prod.mk.injEq] at computed
      rw [computed.2]
  | ok item => exact rest item rfl error final computed

theorem keeps_read_bind (next : σ → Effect σ ε β) (rest : Keeps view (next state) state) :
    Keeps view (read >>= next) state :=
  rest

/-- An effect that returns keeps everything. -/
theorem keeps_of_returns {effect : Effect σ ε α}
    (returns : ∃ item final, effect state = (.ok item, final)) : Keeps view effect state := by
  obtain ⟨item, final, returned⟩ := returns
  intro error other computed
  rw [returned] at computed
  cases computed

variable {next : α → Effect σ ε β}

/-- Two effects in a row: the second starts from what the first wrote. -/
theorem keeps_bind {first : Effect σ ε α} (firstKeeps : Keeps view first state)
    (rest : ∀ item middle, first state = (.ok item, middle) →
      ∀ error final, next item middle = (.error error, final) → view final = view state) :
    Keeps view (first >>= next) state := by
  intro error final computed
  rcases (bind_eq_error _ _ _ _ _).mp computed with early | ⟨item, middle, firstEq, late⟩
  · exact firstKeeps error final early
  · exact rest item middle firstEq error final late

/-- A write that is followed only by steps that return needs no undoing. -/
theorem keeps_bind_of_returns {first : Effect σ ε α} (firstKeeps : Keeps view first state)
    (returns : ∀ item middle, first state = (.ok item, middle) →
      ∃ result final, next item middle = (.ok result, final)) :
    Keeps view (first >>= next) state := by
  refine keeps_bind firstKeeps fun item middle firstEq error final late => ?_
  obtain ⟨result, other, returned⟩ := returns item middle firstEq
  rw [returned] at late
  cases late

end Keeps

theorem atomic_transaction (effect : Effect σ ε α) (state : σ) :
    Atomic (transaction effect) state := by
  intro error final computed
  unfold transaction at computed
  split at computed
  · cases computed
  · cases computed; rfl

theorem transaction_eq_ok (effect : Effect σ ε α) (state final : σ) (item : α) :
    transaction effect state = (.ok item, final) ↔ effect state = (.ok item, final) := by
  unfold transaction
  rcases effect state with ⟨_ | _, _⟩ <;> simp

end Effect

end EgoAgent
