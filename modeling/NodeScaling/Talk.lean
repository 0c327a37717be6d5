/-!
Conversations with a remote party. A conversation either is over with a value or asks a question
and goes on by the answer. What is asked and what comes of it are thereby kept apart from who
answers: `run` holds a conversation with a party that answers from a state, and logs the
questions in their order.
-/
namespace NodeScaling

/-- A conversation that asks questions from `Q`, is answered from `A` and ends with a value. -/
inductive Talk (Q A : Type) (α : Type) where
  | done (value : α)
  | ask (query : Q) (next : A → Talk Q A α)

structure Held (σ Q α : Type) where
  value : α
  asked : List Q
  state : σ

namespace Talk
variable {Q A Q₂ A₂ α β σ : Type}

def bind : Talk Q A α → (α → Talk Q A β) → Talk Q A β
  | done value, f => f value
  | ask query next, f => ask query fun answer => (next answer).bind f

instance : Monad (Talk Q A) where
  pure := done
  bind := bind

def question (query : Q) : Talk Q A A :=
  ask query done

def mapValue (f : α → β) (t : Talk Q A α) : Talk Q A β :=
  t.bind fun value => done (f value)

def andThen {ε : Type} (t : Talk Q A (Except ε α)) (f : α → Talk Q A (Except ε β)) :
    Talk Q A (Except ε β) :=
  t.bind fun
    | .ok value => f value
    | .error e => done (.error e)

def run (answer : σ → Q → A × σ) : Talk Q A α → σ → Held σ Q α
  | done value, state => ⟨value, [], state⟩
  | ask query next, state =>
    let (reply, state) := answer state query
    let rest := run answer (next reply) state
    { rest with asked := query :: rest.asked }

/-- The same conversation where each question is put through another conversation. -/
def through (via : Q → Talk Q₂ A₂ A) : Talk Q A α → Talk Q₂ A₂ α
  | done value => done value
  | ask query next => (via query).bind fun answer => through via (next answer)

@[simp] theorem done_bind (value : α) (f : α → Talk Q A β) : (done value).bind f = f value := rfl

@[simp] theorem ask_bind (query : Q) (next : A → Talk Q A α) (f : α → Talk Q A β) :
    (ask query next).bind f = ask query fun answer => (next answer).bind f := rfl

@[simp] theorem run_done (answer : σ → Q → A × σ) (value : α) (state : σ) :
    run answer (done value) state = ⟨value, [], state⟩ := rfl

@[simp] theorem run_ask (answer : σ → Q → A × σ) (query : Q) (next : A → Talk Q A α) (state : σ) :
    run answer (ask query next) state =
      let rest := run answer (next (answer state query).1) (answer state query).2
      { rest with asked := query :: rest.asked } := rfl

theorem run_bind (answer : σ → Q → A × σ) (t : Talk Q A α) (f : α → Talk Q A β) (state : σ) :
    run answer (t.bind f) state =
      let first := run answer t state
      let second := run answer (f first.value) first.state
      { second with asked := first.asked ++ second.asked } := by
  induction t generalizing state with
  | done value => rfl
  | ask query next ih => simp [bind, run, ih]

theorem mapValue_mapValue {γ : Type} (f : α → β) (g : β → γ) (t : Talk Q A α) :
    (t.mapValue f).mapValue g = t.mapValue fun value => g (f value) := by
  induction t with
  | done value => rfl
  | ask query next ih =>
    simp only [mapValue, ask_bind] at ih ⊢
    simp only [ih]

theorem run_mapValue (answer : σ → Q → A × σ) (f : α → β) (t : Talk Q A α) (state : σ) :
    run answer (t.mapValue f) state =
      let held := run answer t state
      ⟨f held.value, held.asked, held.state⟩ := by
  rw [mapValue, run_bind]
  simp

end Talk

end NodeScaling
