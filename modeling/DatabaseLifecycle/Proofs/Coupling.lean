import DatabaseLifecycle.Proofs.Transcript

/-!
Coupled programs: they make calls that count as the same, go on alike after replies that count as the
same, and end alike. Where such calls get such replies, nobody can tell their runs apart.
-/

namespace DatabaseLifecycle

/-- What counts as the same in two runs. -/
structure Coupling (calls : Interface) where
  /-- Two calls do. -/
  call : calls.Call → calls.Call → Prop
  /-- The replies to two calls do. -/
  reply : (first second : calls.Call) → calls.Reply first → calls.Reply second → Prop

namespace Coupling

variable {calls : Interface} {σ τ : Type}

/-- Two handlers reply in the same way to calls that count as the same, and what they may tell apart after
that does not show. -/
def HeldBy (coupling : Coupling calls) (handle : Program.Handler calls σ)
    (other : Program.Handler calls τ) (hidden : σ → τ → Prop) : Prop :=
  ∀ first second, coupling.call first second → ∀ state another, hidden state another →
    coupling.reply first second (handle first state).1 (other second another).1
      ∧ hidden (handle first state).2 (other second another).2

end Coupling

namespace Program

variable {calls : Interface} {coupling : Coupling calls} {α β γ δ σ τ : Type}

/-- Two programs that are the same but for what does not count. -/
def Coupled (coupling : Coupling calls) (ends : α → β → Prop) :
    Program calls α → Program calls β → Prop
  | done first, done second => ends first second
  | ask asked next, ask other later =>
    coupling.call asked other ∧ ∀ reply answer, coupling.reply asked other reply answer →
      (next reply).Coupled coupling ends (later answer)
  | done _, ask _ _ | ask _ _, done _ => False

/-- Programs that go on from coupled ends are coupled. -/
theorem Coupled.bind {ends : α → β → Prop} {later : γ → δ → Prop} {first : Program calls α}
    {second : Program calls β} {next : α → Program calls γ} {after : β → Program calls δ}
    (coupled : first.Coupled coupling ends second)
    (follows : ∀ value other, ends value other → (next value).Coupled coupling later (after other)) :
    (first >>= next).Coupled coupling later (second >>= after) := by
  -- Both programs make their calls side by side until they end together.
  induction first generalizing second with
  | done value =>
    cases second with
    | done other => exact follows value other coupled
    | ask other later => exact coupled.elim
  | ask asked rest bound =>
    cases second with
    | done other => exact coupled.elim
    | ask other later =>
      exact ⟨coupled.1, fun reply answer same => bound reply (coupled.2 reply answer same)⟩

/-- A program that is not touched by what does not count is coupled with itself. -/
theorem coupled_self {program : Program calls α} {allowed : calls.Call → Prop}
    (makes : program.MakesOnly allowed) (counts : ∀ call, allowed call → coupling.call call call)
    (agree : ∀ call, allowed call → ∀ reply answer, coupling.reply call call reply answer →
      reply = answer) : program.Coupled coupling Eq program := by
  induction program with
  | done value => rfl
  | ask asked next coupled =>
    refine ⟨counts asked makes.1, fun reply answer same => ?_⟩
    obtain rfl := agree asked makes.1 reply answer same
    exact coupled reply (makes.2 reply)

variable {ends : α → β → Prop} {first : Program calls α} {second : Program calls β}
  {handle : Handler calls σ} {other : Handler calls τ} {hidden : σ → τ → Prop} {state : σ}
  {another : τ}

/-- Coupled programs end alike. -/
theorem Coupled.run (coupled : first.Coupled coupling ends second)
    (held : coupling.HeldBy handle other hidden) (unseen : hidden state another) :
    ends (first.run handle state).1 (second.run other another).1 := by
  -- The calls come in the same order, and what is hidden stays hidden behind each reply.
  induction first generalizing second state another with
  | done value =>
    cases second with
    | done value => exact coupled
    | ask asked next => exact coupled.elim
  | ask asked next ended =>
    cases second with
    | done value => exact coupled.elim
    | ask following later =>
      obtain ⟨replied, still⟩ := held asked following coupled.1 state another unseen
      rw [run_ask, run_ask]
      exact ended _ (coupled.2 _ _ replied) still

/-- Who sees only what counts sees the same calls of coupled programs. -/
theorem Coupled.calls_eq {ω : Type} {view : calls.Call → ω}
    (sees : ∀ call following, coupling.call call following → view call = view following)
    (coupled : first.Coupled coupling ends second) (held : coupling.HeldBy handle other hidden)
    (unseen : hidden state another) :
    (first.transcript handle state).map (view ·.call)
      = (second.transcript other another).map (view ·.call) := by
  -- Again call by call, as the replies of both runs are alike.
  induction first generalizing second state another with
  | done value =>
    cases second with
    | done value => rfl
    | ask asked next => exact coupled.elim
  | ask asked next same =>
    cases second with
    | done value => exact coupled.elim
    | ask following later =>
      obtain ⟨replied, still⟩ := held asked following coupled.1 state another unseen
      have rest := same _ (coupled.2 _ _ replied) still
      rw [transcript, transcript, List.map_cons, List.map_cons, rest, sees _ _ coupled.1]

end Program

end DatabaseLifecycle
