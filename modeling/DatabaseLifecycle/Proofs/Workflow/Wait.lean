import DatabaseLifecycle.Poll
import DatabaseLifecycle.Proofs.Workflow.Exchanges

/-!
Waits that repeat one call: how many replies they take, what passes in between, and how the last
reply alone decides.
-/

namespace DatabaseLifecycle

/-- The greatest number of attempts of a wait. -/
def Budget.limit (budget : Budget) : Nat := max 1 budget.maxAttempts

/-- The first attempt and those that may follow it fill the budget. -/
theorem Budget.retries_add_one (budget : Budget) : budget.retries + 1 = budget.limit := by
  -- A budget of no attempts at all still allows the first one.
  unfold retries limit
  omega

/-- The replies that a wait takes: none but the last settles it, and there are no more than the
limit. -/
inductive Taken {α : Type} (settles : α → Bool) : Nat → List α → Prop where
  | settled {limit : Nat} {reply : α} (settling : settles reply = true) :
      Taken settles (limit + 1) [reply]
  | spent {reply : α} : Taken settles 1 [reply]
  | again {limit : Nat} {reply : α} {replies : List α} (unsettled : settles reply = false)
      (rest : Taken settles limit replies) : Taken settles (limit + 1) (reply :: replies)

/-- The replies that a wait takes if there is something to wait for, and none otherwise. -/
inductive TakenFor {α ρ : Type} (settles : α → Bool) (limit : Nat) : Option ρ → List α → Prop where
  | absent : TakenFor settles limit none []
  | present {subject : ρ} {replies : List α} (taken : Taken settles limit replies) :
      TakenFor settles limit (some subject) replies

/-- The first answer of a sequence that settles a wait stands at this place, counted from one. -/
def FirstSettling {α : Type} (settles : α → Bool) (answers : Nat → α) : Nat → Prop
  | 0 => False
  | place + 1 =>
    settles (answers place) = true ∧ ∀ earlier < place, settles (answers earlier) = false

/-- The replies are the first answers of a sequence. -/
def Follows {α : Type} (answers : Nat → α) (replies : List α) : Prop :=
  ∀ place reply, replies[place]? = some reply → answers place = reply

section Taken

variable {α : Type} {settles : α → Bool} {limit : Nat} {replies : List α} {answers : Nat → α}

/-- Replies that follow a sequence leave the rest of them to its later answers. -/
theorem Follows.tail {reply : α} (follows : Follows answers (reply :: replies)) :
    answers 0 = reply ∧ Follows (fun place => answers (place + 1)) replies :=
  ⟨follows 0 reply rfl, fun place other found => follows (place + 1) other found⟩

/-- Replies that follow a sequence are its first answers. -/
theorem Follows.eq_map_range (follows : Follows answers replies) :
    replies = (List.range replies.length).map answers := by
  -- The first reply is the first answer; the others follow the sequence one place later.
  induction replies generalizing answers with
  | nil => rfl
  | cons reply rest same =>
    obtain ⟨first, later⟩ := follows.tail
    rw [List.length_cons, List.range_succ_eq_map, List.map_cons, List.map_map, first]
    exact congrArg (reply :: ·) (same later)

/-- The last of the replies is the answer at their number. -/
theorem Follows.getLast?_eq (follows : Follows answers replies) (more : replies ≠ []) :
    replies.getLast? = some (answers (replies.length - 1)) := by
  -- The last reply stands at the last place, and there the sequence agrees with the replies.
  have last := List.getLast?_eq_some_getLast more
  rw [List.getLast?_eq_getElem?] at last ⊢
  rw [last, follows _ _ last]

/-- What is read off replies that follow a sequence is what is read off its answers. -/
theorem Follows.map {β : Type} (follows : Follows answers replies) (read : α → β) :
    Follows (fun place => read (answers place)) (replies.map read) := by
  intro place result found
  rw [List.getElem?_map] at found
  obtain ⟨reply, listed, rfl⟩ := Option.map_eq_some_iff.mp found
  exact congrArg read (follows place reply listed)

/-- An answer that does not settle the wait moves the first that does to an earlier place. -/
theorem firstSettling_tail (unsettled : settles (answers 0) = false) (place : Nat) :
    FirstSettling settles answers (place + 1) ↔
      FirstSettling settles (fun later => answers (later + 1)) place := by
  cases place with
  | zero =>
    -- The first answer cannot be the settling one, and no answer stands before it.
    simp [FirstSettling, unsettled]
  | succ place =>
    -- The answers before the settling one are the dropped one and those before it in the tail.
    simp only [FirstSettling]
    refine and_congr_right fun _ => ⟨fun none earlier below => none _ (by omega), ?_⟩
    intro none earlier below
    cases earlier with
    | zero => exact unsettled
    | succ earlier => exact none earlier (by omega)

/-- A wait makes at least one attempt. -/
theorem Taken.ne_nil (taken : Taken settles limit replies) : replies ≠ [] := by
  cases taken <;> simp

/-- A wait keeps to its limit. -/
theorem Taken.length_le (taken : Taken settles limit replies) : replies.length ≤ limit := by
  -- Every attempt that another one follows takes one from the limit.
  induction taken with
  | settled _ => simp
  | spent => simp
  | again _ _ bounded => simpa using bounded

/-- A wait ends at the first settling answer or at its limit, whichever comes first. -/
theorem Taken.length_of_first (taken : Taken settles limit replies)
    (follows : Follows answers replies) {place : Nat}
    (first : FirstSettling settles answers place) : replies.length = min place limit := by
  -- Each unsettling reply shortens the sequence, the limit and the distance by one.
  induction taken generalizing answers place with
  | @settled limit reply settling =>
    -- The only reply settles the wait, so no later answer can be the first to do so.
    obtain ⟨same, _⟩ := follows.tail
    cases place with
    | zero => exact first.elim
    | succ place =>
      cases place with
      | zero => simp
      | succ place =>
        have early := first.2 0 (by omega)
        rw [same, settling] at early
        contradiction
  | spent =>
    -- With a limit of one, the place of the settling answer makes no difference.
    cases place with
    | zero => exact first.elim
    | succ place => simp
  | @again limit reply replies unsettled rest counted =>
    obtain ⟨same, later⟩ := follows.tail
    cases place with
    | zero => exact first.elim
    | succ place =>
      rw [firstSettling_tail (by rw [same]; exact unsettled)] at first
      rw [List.length_cons, counted later first]
      omega

/-- A wait that no answer settles uses up its limit. -/
theorem Taken.length_of_none (taken : Taken settles limit replies)
    (follows : Follows answers replies)
    (none : ∀ place, settles (answers place) = false) : replies.length = limit := by
  -- The sequence never settles the wait, so only the limit can end it.
  induction taken generalizing answers with
  | @settled limit reply settling =>
    have contrary := none 0
    rw [follows.tail.1, settling] at contrary
    contradiction
  | spent => rfl
  | again _ _ counted =>
    rw [List.length_cons, counted follows.tail.2 fun place => none (place + 1)]

/-- The last reply of a wait settles it exactly when some answer within the limit does. -/
theorem Taken.last_settles_iff (taken : Taken settles limit replies)
    (follows : Follows answers replies) :
    (∃ last, replies.getLast? = some last ∧ settles last = true) ↔
      ∃ place ≤ limit, FirstSettling settles answers place := by
  -- The first answer either settles the wait at once or can be dropped on both sides.
  induction taken generalizing answers with
  | @settled limit reply settling =>
    -- The first reply settles the wait, and it is the first answer.
    have same := follows.tail.1
    refine iff_of_true ⟨reply, rfl, settling⟩ ⟨1, by omega, ?_, by simp⟩
    rw [same]
    exact settling
  | @spent reply =>
    -- Only the first answer is within a limit of one, and it is the only reply.
    have same := follows.tail.1
    constructor
    · rintro ⟨last, found, settling⟩
      obtain rfl : reply = last := by simpa using found
      exact ⟨1, Nat.le_refl 1, by rw [same]; exact settling, by simp⟩
    · rintro ⟨place, bounded, first⟩
      cases place with
      | zero => exact first.elim
      | succ place =>
        obtain rfl : place = 0 := by omega
        exact ⟨reply, rfl, by rw [← same]; exact first.1⟩
  | @again limit reply replies unsettled rest equivalent =>
    -- The first reply is not the last one, and its answer settles nothing.
    obtain ⟨same, later⟩ := follows.tail
    have unsettling : settles (answers 0) = false := by rw [same]; exact unsettled
    rw [List.getLast?_cons, List.getLast?_eq_some_getLast rest.ne_nil, Option.getD_some,
      ← List.getLast?_eq_some_getLast rest.ne_nil, equivalent later]
    constructor
    · rintro ⟨place, bounded, first⟩
      exact ⟨place + 1, by omega, (firstSettling_tail unsettling place).mpr first⟩
    · rintro ⟨place, bounded, first⟩
      cases place with
      | zero => exact first.elim
      | succ place =>
        exact ⟨place, by omega, (firstSettling_tail unsettling place).mp first⟩

/-- A wait whose last reply does not settle it has used up its limit. -/
theorem Taken.length_of_unsettled (taken : Taken settles limit replies)
    (unsettled : ∀ last, replies.getLast? = some last → settles last = false) :
    replies.length = limit := by
  -- A wait that ends early ends with a settling reply.
  induction taken with
  | @settled limit reply settling =>
    have contrary := unsettled reply rfl
    rw [settling] at contrary
    contradiction
  | spent => rfl
  | @again limit reply replies _ rest counted =>
    rw [List.length_cons, counted fun last found => unsettled last ?_]
    rw [List.getLast?_cons, found, Option.getD_some]

/-- A wait that ends short of its limit ends at the first settling answer. -/
theorem Taken.first_of_short (taken : Taken settles limit replies)
    (follows : Follows answers replies) (short : replies.length < limit) :
    FirstSettling settles answers replies.length := by
  have last := List.getLast?_eq_some_getLast taken.ne_nil
  cases settling : settles (replies.getLast taken.ne_nil) with
  | false =>
    -- If the last reply did not settle the wait, the limit would be used up.
    have spent : replies.length = limit := taken.length_of_unsettled fun other found => by
      rw [last] at found
      rw [← Option.some_inj.mp found, settling]
    omega
  | true =>
    obtain ⟨place, bounded, first⟩ := (taken.last_settles_iff follows).mp ⟨_, last, settling⟩
    have count : replies.length = place := by
      rw [taken.length_of_first follows first]
      omega
    rwa [count]

/-- A wait that takes what is read off some answers takes these answers. -/
theorem Taken.of_map {β : Type} {read : β → α} {given : List β}
    (taken : Taken settles limit (given.map read)) : Taken (settles ∘ read) limit given := by
  -- The answers are taken one by one, as what is read off them is.
  induction given generalizing limit with
  | nil => exact absurd rfl taken.ne_nil
  | cons answer rest taking =>
    cases rest with
    | nil =>
      cases taken with
      | settled settling => exact .settled settling
      | spent => exact .spent
      | again _ none => exact absurd rfl none.ne_nil
    | cons second others =>
      cases taken with
      | again unsettled later => exact .again unsettled (taking later)

/-- With something to wait for, the replies are those of a wait. -/
theorem TakenFor.taken {ρ : Type} {subject : ρ}
    (waited : TakenFor settles limit (some subject) replies) : Taken settles limit replies := by
  cases waited with
  | present taken => exact taken

/-- Whether or not there is something to wait for, the limit is kept to. -/
theorem TakenFor.length_le {ρ : Type} {subject : Option ρ}
    (waited : TakenFor settles limit subject replies) : replies.length ≤ limit := by
  cases waited with
  | absent => exact Nat.zero_le _
  | present taken => exact taken.length_le

end Taken

section Alternating

variable {calls : Interface} {asked between : calls.Call} {passed : calls.Reply between}

/-- The exchanges of a call that got these replies, with another call between each two. -/
def Exchange.alternating (asked between : calls.Call) (passed : calls.Reply between)
    (replies : List (calls.Reply asked)) : List (Exchange calls) :=
  (replies.map fun reply => ⟨asked, reply⟩).intersperse ⟨between, passed⟩

/-- Between two attempts there is one other call. -/
theorem Exchange.alternating_cons {reply : calls.Reply asked} {replies : List (calls.Reply asked)}
    (more : replies ≠ []) :
    alternating asked between passed (reply :: replies) =
      ⟨asked, reply⟩ :: ⟨between, passed⟩ :: alternating asked between passed replies := by
  cases replies with
  | nil => contradiction
  | cons second rest => rfl

/-- The replies that a handler gives to a call that is made again and again are its answers to it. -/
theorem Exchange.follows_of_gives {σ : Type} {handle : Program.Handler calls σ}
    {replies : List (calls.Reply asked)} {rest : List (Exchange calls)} {state : σ}
    (gives : handle.Gives state (alternating asked between passed replies ++ rest)) :
    Follows (handle.replies asked between state) replies := by
  -- Each further attempt starts from the state that the attempt and the call before it left.
  induction replies generalizing state with
  | nil => intro place reply found; simp at found
  | cons reply others follows =>
    intro place other found
    cases others with
    | nil =>
      -- After a single attempt the other exchanges say nothing about the wait.
      cases place with
      | zero =>
        obtain rfl : reply = other := by simpa using found
        exact gives.1
      | succ place => simp at found
    | cons second others =>
      -- Between two attempts lies exactly the call that the answers have in between.
      rw [alternating_cons (by simp)] at gives
      obtain ⟨given, _, later⟩ := gives
      cases place with
      | zero =>
        obtain rfl : reply = other := by simpa using found
        exact given
      | succ place => exact follows later place other found

end Alternating

namespace Workflow

variable {σ : Type}

/-- An attempt that makes one call: its reply leads to the next state and to a verdict. -/
def once (asked : Call) (next : σ → asked.Reply → σ) (verdict : asked.Reply → Except Error Unit)
    (state : σ) : Workflow (σ × Except Error Unit) := do
  let reply ← call asked
  return (next state reply, verdict reply)

/-- Whether a reply ends a wait: by success, or by a cause that no further attempt can mend. -/
def settles {α : Type} (retryable : Error → Bool) (verdict : α → Except Error Unit) (reply : α) :
    Bool :=
  match verdict reply with
  | .ok () => true
  | .error error => !retryable error

/-- The exchanges of a call that got these replies, with a pause between each two. -/
def spaced (asked : Call) (interval : Nat) (replies : List asked.Reply) : Exchanges :=
  (replies.map fun reply => ⟨asked, reply⟩).intersperse ⟨.sleep interval, ()⟩

/-- Between two attempts there is one pause. -/
theorem spaced_cons {asked : Call} {interval : Nat} {reply : asked.Reply}
    {replies : List asked.Reply} (more : replies ≠ []) :
    spaced asked interval (reply :: replies) =
      ⟨asked, reply⟩ :: ⟨.sleep interval, ()⟩ :: spaced asked interval replies :=
  Exchange.alternating_cons more

/-- Of a wait for the cluster, the cluster sees its attempts and not its pauses. -/
theorem ofStore_spaced {asked : Call} (store : asked.isStoreCall = true) (interval : Nat)
    (replies : List asked.Reply) :
    (spaced asked interval replies).ofStore = replies.map fun reply => ⟨asked, reply⟩ := by
  -- Dropping the pauses undoes the spacing.
  induction replies with
  | nil => rfl
  | cons reply rest kept =>
    cases rest with
    | nil => simp [spaced, store]
    | cons second rest =>
      rw [spaced_cons (by simp), Exchanges.ofStore_cons, if_pos store, Exchanges.ofStore_cons,
        if_neg (by simp [Call.isStoreCall]), kept]
      rfl

/-- The replies that a handler gives to spaced attempts are its answers to the repeated call. -/
theorem follows_of_gives {τ : Type} {handle : Program.Handler Call.interface τ} {asked : Call}
    {interval : Nat} {replies : List asked.Reply} {rest : Exchanges} {state : τ}
    (gives : handle.Gives state (spaced asked interval replies ++ rest)) :
    Follows (handle.replies asked (.sleep interval) state) replies :=
  Exchange.follows_of_gives gives

/-- The exchanges of a wait are spaced attempts, each with the state that the one before left. -/
theorem runs_attempts {asked : Call} {next : σ → asked.Reply → σ}
    {verdict : asked.Reply → Except Error Unit} {interval : Nat} {retryable : Error → Bool}
    {retries : Nat} {state last : σ} {outcome : Except Error Unit} {exchanges : Exchanges}
    (runs : (Poll.attempts (sleep interval) retryable (once asked next verdict) retries
      state).Runs exchanges (last, outcome)) :
    ∃ replies, Taken (settles retryable verdict) (retries + 1) replies
      ∧ exchanges = spaced asked interval replies ∧ last = replies.foldl next state
      ∧ replies.getLast?.map verdict = some outcome := by
  -- The induction follows the retries that are left; the reply decides which branch is taken.
  induction retries generalizing state exchanges with
  | zero =>
    -- The last attempt decides, whatever its verdict.
    simp only [Poll.attempts, once, runs_call_bind, Program.runs_pure] at runs
    obtain ⟨reply, _, rfl, rfl, ended⟩ := runs
    obtain ⟨rfl, rfl⟩ := Prod.mk.inj ended
    exact ⟨[reply], .spent, rfl, rfl, rfl⟩
  | succ retries continued =>
    simp only [Poll.attempts, once, bind_assoc, pure_bind, runs_call_bind] at runs
    obtain ⟨reply, rest, rfl, runs⟩ := runs
    cases decided : verdict reply with
    | ok value =>
      -- A success ends the wait at once.
      simp only [decided, Program.runs_pure] at runs
      obtain ⟨rfl, ended⟩ := runs
      obtain ⟨rfl, rfl⟩ := Prod.mk.inj ended
      exact ⟨[reply], .settled (by simp [settles, decided]), rfl, rfl, by simp [decided]⟩
    | error error =>
      simp only [decided] at runs
      cases retrying : retryable error with
      | false =>
        -- So does a cause that no further attempt can mend.
        simp only [retrying, Bool.false_eq_true, if_false, Program.runs_pure] at runs
        obtain ⟨rfl, ended⟩ := runs
        obtain ⟨rfl, rfl⟩ := Prod.mk.inj ended
        exact ⟨[reply], .settled (by simp [settles, decided, retrying]), rfl, rfl,
          by simp [decided]⟩
      | true =>
        -- Any other cause is followed by a pause and by the attempts that are left.
        simp only [retrying, if_true, runs_sleep_bind] at runs
        obtain ⟨later, rfl, runs⟩ := runs
        obtain ⟨replies, taken, rfl, rfl, decided_last⟩ := continued runs
        refine ⟨reply :: replies, .again (by simp [settles, decided, retrying]) taken,
          (spaced_cons taken.ne_nil).symm, rfl, ?_⟩
        rw [List.getLast?_cons, List.getLast?_eq_some_getLast taken.ne_nil, Option.getD_some,
          ← List.getLast?_eq_some_getLast taken.ne_nil]
        exact decided_last

end Workflow

end DatabaseLifecycle
