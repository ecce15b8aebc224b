/-!
Programs over an interface of calls. A program is a value: it is done, or it makes a call and goes
on with the reply. What the calls do is chosen when the program is run.
-/

namespace DatabaseLifecycle

/-- Calls, each with the type of its reply. -/
structure Interface where
  /-- The calls. -/
  Call : Type
  /-- The replies to a call. -/
  Reply : Call → Type

/-- A program that makes calls and ends with a value. -/
inductive Program (calls : Interface) (α : Type) where
  /-- The program has ended. -/
  | done (value : α)
  /-- The program makes a call and goes on with its reply. -/
  | ask (call : calls.Call) (next : calls.Reply call → Program calls α)

namespace Program

variable {calls : Interface} {α β : Type}

/-- The first program, then the one chosen by its value. -/
def bind : Program calls α → (α → Program calls β) → Program calls β
  | done value, next => next value
  | ask call rest, next => ask call fun reply => (rest reply).bind next

instance : Monad (Program calls) where
  pure := done
  bind := bind

/-- The program that makes one call. -/
def call (call : calls.Call) : Program calls (calls.Reply call) := ask call done

/-- A program that is done goes on at once. -/
@[simp] theorem done_bind (value : α) (next : α → Program calls β) :
    (done value >>= next) = next value := rfl

/-- A program that asks goes on after the reply. -/
@[simp] theorem ask_bind (asked : calls.Call) (rest : calls.Reply asked → Program calls α)
    (next : α → Program calls β) :
    (ask asked rest >>= next) = ask asked fun reply => rest reply >>= next := rfl

/-- Going on with nothing to do changes nothing. -/
theorem bind_done (program : Program calls α) : program >>= done = program := by
  -- Both sides make the same calls and end with the same value.
  induction program with
  | done value => rfl
  | ask asked rest step => simp only [ask_bind, step]

/-- It does not matter how three programs in a row are grouped. -/
theorem bind_bind {γ : Type} (program : Program calls α) (second : α → Program calls β)
    (third : β → Program calls γ) :
    (program >>= second) >>= third = program >>= fun value => second value >>= third := by
  induction program with
  | done value => rfl
  | ask asked rest step => simp only [ask_bind, step]

instance : LawfulMonad (Program calls) := LawfulMonad.mk' _
  bind_done (fun _ _ => rfl) bind_bind

/-- What answers calls from a state that each call may change. -/
abbrev Handler (calls : Interface) (σ : Type) : Type :=
  (call : calls.Call) → σ → calls.Reply call × σ

/-- The value of a program, and the state after it, when its calls are answered by a handler. -/
def run {σ : Type} (handle : Handler calls σ) : Program calls α → σ → α × σ
  | done value, state => (value, state)
  | ask call next, state => run handle (next (handle call state).1) (handle call state).2

/-- A program that is done leaves the state alone. -/
@[simp] theorem run_done {σ : Type} (handle : Handler calls σ) (value : α) (state : σ) :
    (done value).run handle state = (value, state) := rfl

/-- The handler answers the first call, and the rest runs on. -/
@[simp] theorem run_ask {σ : Type} (handle : Handler calls σ) (asked : calls.Call)
    (next : calls.Reply asked → Program calls α) (state : σ) :
    (ask asked next).run handle state
      = (next (handle asked state).1).run handle (handle asked state).2 := rfl

/-- One call is answered by the handler. -/
@[simp] theorem run_call {σ : Type} (handle : Handler calls σ) (asked : calls.Call) (state : σ) :
    (call asked).run handle state = handle asked state := rfl

/-- Two programs in a row run in a row. -/
@[simp] theorem run_bind {σ : Type} (handle : Handler calls σ) (program : Program calls α)
    (next : α → Program calls β) (state : σ) :
    (program >>= next).run handle state
      = (next (program.run handle state).1).run handle (program.run handle state).2 := by
  induction program generalizing state with
  | done value => rfl
  | ask asked rest step => simp only [ask_bind, run_ask, step]

/-- The value of a program when each call is answered by an action. -/
def interpret {m : Type → Type} [Monad m] (answer : (call : calls.Call) → m (calls.Reply call)) :
    Program calls α → m α
  | done value => pure value
  | ask call next => answer call >>= fun reply => (next reply).interpret answer

end Program

end DatabaseLifecycle
