import LoanGateway.Proofs.Retry.Execution
import LoanGateway.Retry.Loop
import Mathlib.Logic.Relation

/-!
# Loops do what executions say

The loop of an operation, turn by turn, comes to the end of its execution. The number of the attempt
never overflows, however many turns are allowed, and the counts over a series of loops are exact as long
as a word holds the attempts that were made in all.

- `Loop.Counts`: what has been counted before a turn.
- `turn_ended`, `turn_again`: what a turn does that is the last one, and one that is not.
- `EndsAs`, `endsAs_execute`: the turns of a loop come to the end of its execution.
- `IsTurn`, `turn_ne_overflow`: the number of the attempt does not overflow.
- `Serves`, `exists_serves`: a series of loops, and its counts.
- `loops_meet_specification`: the main statement.
-/

namespace LoanGateway.Retry

theorem increment_of_lt {counter : Counter} {n : UInt32} (room : n.toNat + 1 < UInt32.size) :
    increment counter n = .ok (n + 1) := if_pos room

theorem toNat_succ {n : UInt32} (room : n.toNat + 1 < UInt32.size) : (n + 1).toNat = n.toNat + 1 := by
  rw [UInt32.toNat_add]
  exact Nat.mod_eq_of_lt room

/-- Every loop is counted once at most as recovered or failed, and it has made an attempt. -/
def Stats.InOrder (b : Stats) : Prop := b.recovered + b.failed ≤ b.attempts

variable {σ α : Type} {most : UInt32} {wait : Nat → Duration}
  {operation : σ → Except SignInError α × σ} {base : Stats} {l : Loop σ} {t : σ}

theorem Stats.InOrder.add (order : base.InOrder) (e : Execution σ α) : (base.add e).InOrder := by
  unfold Stats.InOrder at order ⊢
  have one : 1 ≤ e.attempts := Nat.succ_pos _
  unfold Stats.add
  split
  · split <;> dsimp only <;> omega
  · dsimp only
    omega

/-! ## Turns -/

/-- Before a turn there was one wait for each attempt, and only the attempts have been counted. -/
structure Loop.Counts (base : Stats) (l : Loop σ) : Prop where
  attempt : l.attempt.toNat = l.waits.length
  attempts : l.tally.attempts.toNat = base.attempts + l.waits.length
  recovered : l.tally.recovered.toNat = base.recovered
  failed : l.tally.failed.toNat = base.failed

section Turns

variable (wait) (counts : l.Counts base)
  (room : base.attempts + l.waits.length + 1 < UInt32.size)

include counts room

theorem Loop.Counts.room_attempts : l.tally.attempts.toNat + 1 < UInt32.size := by
  rw [counts.attempts]
  exact room

/-- A turn that succeeds ends the loop. -/
theorem turn_ok {a : α} (order : base.InOrder) (makes : operation l.state = (.ok a, t)) :
    ∃ tally, turn most wait operation l = .ok (.ended (.ok a) ⟨l.attempt, t, l.waits, tally⟩) ∧
      tally.stats = base.add (⟨.ok a, t, l.waits⟩ : Execution σ α) := by
  have attempts := counts.room_attempts room
  have counted : (l.tally.attempts + 1).toNat = base.attempts + (l.waits.length + 1) := by
    rw [toNat_succ attempts, counts.attempts]
    rfl
  have first : 0 < l.attempt ↔ l.waits.isEmpty = false := by
    rw [UInt32.lt_iff_toNat_lt, counts.attempt]
    simp [List.length_pos_iff]
  by_cases again : 0 < l.attempt
  · have recovered : l.tally.recovered.toNat + 1 < UInt32.size := by
      rw [counts.recovered]
      unfold Stats.InOrder at order
      omega
    refine ⟨{ l.tally with
      attempts := l.tally.attempts + 1, recovered := l.tally.recovered + 1 }, ?_, ?_⟩
    · unfold turn
      simp only [increment_of_lt attempts, makes, bind, Except.bind]
      rw [if_pos again, increment_of_lt recovered]
      rfl
    · rw [Tally.stats, counted, toNat_succ recovered, counts.recovered, counts.failed]
      simp [Stats.add, Execution.attempts, first.mp again]
  · refine ⟨{ l.tally with attempts := l.tally.attempts + 1 }, ?_, ?_⟩
    · unfold turn
      simp only [increment_of_lt attempts, makes, bind, Except.bind]
      rw [if_neg again]
      rfl
    · have alone : l.waits.isEmpty = true := by simpa using mt first.mpr again
      rw [Tally.stats, counted, counts.recovered, counts.failed]
      simp [Stats.add, Execution.attempts, alone]

/-- A turn that fails ends the loop if the failure is lasting or no more turns are allowed. -/
theorem turn_fail {e : SignInError} (order : base.InOrder)
    (makes : operation l.state = (.error e, t))
    (ends : ¬ e.isTransient = true ∨ l.attempt.toNat + 1 = most.toNat) :
    ∃ tally, turn most wait operation l = .ok (.ended (.error e) ⟨l.attempt, t, l.waits, tally⟩) ∧
      tally.stats = base.add (⟨.error e, t, l.waits⟩ : Execution σ α) := by
  have attempts := counts.room_attempts room
  have failed : l.tally.failed.toNat + 1 < UInt32.size := by
    rw [counts.failed]
    unfold Stats.InOrder at order
    omega
  refine ⟨{ l.tally with
    attempts := l.tally.attempts + 1, failed := l.tally.failed + 1 }, ?_, ?_⟩
  · unfold turn
    simp only [increment_of_lt attempts, makes, bind, Except.bind]
    by_cases transient : e.isTransient = true
    · have last : l.attempt.toNat + 1 = most.toNat := ends.resolve_left (not_not_intro transient)
      have attempt : l.attempt.toNat + 1 < UInt32.size := by
        rw [last]
        exact most.toNat_lt_size
      have spent : most ≤ l.attempt + 1 := by
        rw [UInt32.le_iff_toNat_le, toNat_succ attempt, last]
      rw [if_pos transient, increment_of_lt attempt]
      dsimp only
      rw [if_pos spent, Loop.fail, increment_of_lt failed]
      rfl
    · rw [if_neg transient, Loop.fail, increment_of_lt failed]
      rfl
  · rw [Tally.stats, toNat_succ attempts, toNat_succ failed, counts.attempts, counts.recovered,
      counts.failed]
    rfl

/-- The last turn of a loop. -/
theorem turn_ended (order : base.InOrder)
    (ends : IsFinal (operation l.state).1 ∨ l.attempt.toNat + 1 = most.toNat) :
    ∃ tally, turn most wait operation l =
        .ok (.ended (operation l.state).1 ⟨l.attempt, (operation l.state).2, l.waits, tally⟩) ∧
      tally.stats = base.add ⟨(operation l.state).1, (operation l.state).2, l.waits⟩ := by
  rcases makes : operation l.state with ⟨outcome, t⟩
  rw [makes] at ends
  cases outcome with
  | ok a => exact turn_ok wait counts room order makes
  | error e => exact turn_fail wait counts room order makes (ends.imp_left isFinal_error_iff.mp)

/-- A turn before others. -/
theorem turn_again {e : SignInError} (allowed : l.attempt.toNat + 1 < most.toNat)
    (makes : operation l.state = (.error e, t)) (transient : e.isTransient = true) :
    ∃ m, turn most wait operation l = .ok (.again m) ∧ m.state = t ∧
      m.waits = l.waits ++ [wait l.attempt.toNat] ∧ m.Counts base := by
  have attempts := counts.room_attempts room
  have attempt : l.attempt.toNat + 1 < UInt32.size := Nat.lt_trans allowed most.toNat_lt_size
  have next : ¬ most ≤ l.attempt + 1 := by
    rw [UInt32.le_iff_toNat_le, toNat_succ attempt]
    omega
  refine ⟨⟨l.attempt + 1, t, l.waits ++ [wait l.attempt.toNat],
    { l.tally with attempts := l.tally.attempts + 1 }⟩, ?_, rfl, rfl, ?_, ?_, ?_, ?_⟩
  · unfold turn
    simp only [increment_of_lt attempts, makes, bind, Except.bind]
    rw [if_pos transient, increment_of_lt attempt]
    dsimp only
    rw [if_neg next]
    rfl
  · rw [List.length_append, List.length_singleton, ← counts.attempt]
    exact toNat_succ attempt
  · rw [List.length_append, List.length_singleton, toNat_succ attempts, counts.attempts]
    rfl
  · exact counts.recovered
  · exact counts.failed

end Turns

/-! ## Whole loops -/

section Loops

variable (most : UInt32) (wait : Nat → Duration) (operation : σ → Except SignInError α × σ)

/-- A turn after which another one follows. -/
def Follows (l m : Loop σ) : Prop := turn most wait operation l = .ok (.again m)

/-- The turns of a loop come to the end of an execution and leave a tally. -/
def EndsAs (l : Loop σ) (e : Execution σ α) (tally : Tally) : Prop :=
  ∃ k attempt, Relation.ReflTransGen (Follows most wait operation) l k ∧
    turn most wait operation k = .ok (.ended e.outcome ⟨attempt, e.state, e.waits, tally⟩)

end Loops

/-- No turn follows the last one. -/
theorem eq_of_ended {outcome : Except SignInError α} {k m : Loop σ}
    (ended : turn most wait operation l = .ok (.ended outcome m))
    (turns : Relation.ReflTransGen (Follows most wait operation) l k) : l = k := by
  rcases turns.cases_head with same | ⟨_, follows, _⟩
  · exact same
  · exact nomatch ended.symm.trans follows

/-- A loop has one end. -/
theorem EndsAs.eq {e f : Execution σ α} {tally other : Tally}
    (ends : EndsAs most wait operation l e tally) (also : EndsAs most wait operation l f other) :
    e = f ∧ tally = other := by
  obtain ⟨_, _, _⟩ := e
  obtain ⟨_, _, _⟩ := f
  obtain ⟨k, n, turns, ended⟩ := ends
  obtain ⟨j, m, others, another⟩ := also
  have unique : Relator.RightUnique (Follows most wait operation) := by
    intro l a b first second
    exact Turned.again.inj (Except.ok.inj (first.symm.trans second))
  have same : k = j := by
    rcases Relation.ReflTransGen.total_of_right_unique unique turns others with forth | back
    · exact eq_of_ended ended forth
    · exact (eq_of_ended another back).symm
  subst same
  obtain ⟨rfl, loop⟩ := Turned.ended.inj (Except.ok.inj (ended.symm.trans another))
  obtain ⟨_, rfl, rfl, rfl⟩ := Loop.mk.inj loop
  exact ⟨rfl, rfl⟩

/-- An execution with earlier attempts in front and the waits after them. -/
def Execution.behind (e : Execution σ α) (earlier : List Duration) : Execution σ α :=
  ⟨e.outcome, e.state, earlier ++ e.waits⟩

theorem Execution.behind_after (e : Execution σ α) (earlier : List Duration) (wait : Duration) :
    (e.after wait).behind earlier = e.behind (earlier ++ [wait]) := by
  show (⟨e.outcome, e.state, earlier ++ wait :: e.waits⟩ : Execution σ α) = _
  rw [List.append_cons]
  rfl

/-- A loop whose next turn is the last one. -/
theorem endsAs_of_last (wait : Nat → Duration) (counts : l.Counts base) (order : base.InOrder)
    (room : base.attempts + l.waits.length + 1 < UInt32.size)
    (ends : IsFinal (operation l.state).1 ∨ l.attempt.toNat + 1 = most.toNat) :
    let e := Execution.behind ⟨(operation l.state).1, (operation l.state).2, []⟩ l.waits
    ∃ tally, EndsAs most wait operation l e tally ∧ tally.stats = base.add e := by
  obtain ⟨tally, ended, stats⟩ := turn_ended wait counts room order ends
  rw [Execution.behind, List.append_nil]
  exact ⟨tally, ⟨l, l.attempt, .refl, ended⟩, stats⟩

/-- The turns from a number on do what the attempts from this number on do. -/
theorem endsAs_executeFrom (wait : Nat → Duration) (order : base.InOrder) (more : Nat) (l : Loop σ)
    (counts : l.Counts base) (allowed : l.attempt.toNat + more + 1 = most.toNat)
    (room : base.attempts + l.waits.length +
      (executeFrom wait operation more l.attempt.toNat l.state).attempts < UInt32.size) :
    let e := (executeFrom wait operation more l.attempt.toNat l.state).behind l.waits
    ∃ tally, EndsAs most wait operation l e tally ∧ tally.stats = base.add e := by
  induction more generalizing l with
  | zero => exact endsAs_of_last wait counts order room (.inr allowed)
  | succ more ih =>
    by_cases final : IsFinal (operation l.state).1
    · rw [executeFrom_of_isFinal final] at room ⊢
      exact endsAs_of_last wait counts order room (.inl final)
    · obtain ⟨e, failed, transient⟩ := transient_of_not_isFinal final
      have makes : operation l.state = (.error e, (operation l.state).2) := Prod.ext failed rfl
      rw [executeFrom_of_transient makes transient, attempts_after] at room
      rw [executeFrom_of_transient makes transient, Execution.behind_after]
      have another : l.attempt.toNat + 1 < most.toNat := by omega
      obtain ⟨m, again, state, waits, next⟩ :=
        turn_again wait counts (by omega) another makes transient
      have waited : m.waits.length = l.waits.length + 1 := by
        rw [waits, List.length_append]
        rfl
      have attempt : m.attempt.toNat = l.attempt.toNat + 1 := by
        rw [next.attempt, counts.attempt, waited]
      have rest := ih m next (by omega) (by rw [attempt, state, waited]; omega)
      rw [attempt, state, waits] at rest
      obtain ⟨tally, ⟨k, n, turns, ended⟩, stats⟩ := rest
      exact ⟨tally, ⟨k, n, .head again turns, ended⟩, stats⟩

theorem Policy.toNat_most {policy : Policy} (fits : policy.maxAttempts < UInt32.size) :
    policy.most.toNat = policy.attempts := by
  have small : policy.attempts < UInt32.size := max_lt fits (by decide)
  exact UInt32.toNat_ofNat_of_lt' small

/-- A loop comes to the end of its execution, which is added to the counts. -/
theorem endsAs_execute {policy : Policy} (fits : policy.maxAttempts < UInt32.size)
    (wait : Nat → Duration) (operation : σ → Except SignInError α × σ) (s : σ) {before : Tally}
    (order : before.stats.InOrder)
    (room : before.stats.attempts + (execute policy.attempts wait operation s).attempts < UInt32.size) :
    let e := execute policy.attempts wait operation s
    ∃ after, EndsAs policy.most wait operation (.start s before) e after ∧
      after.stats = before.stats.add e := by
  have counts : (Loop.start s before).Counts before.stats := ⟨rfl, rfl, rfl, rfl⟩
  have some_allowed : 1 ≤ policy.attempts := le_max_right ..
  have allowed : (0 : UInt32).toNat + (policy.attempts - 1) + 1 = policy.most.toNat := by
    rw [UInt32.toNat_zero, Policy.toNat_most fits]
    omega
  exact endsAs_executeFrom wait order (policy.attempts - 1) (.start s before) counts allowed room

/-! ## The number of the attempt -/

/-- An overflow names the counter, which holds the last word. -/
theorem counter_of_overflow {counter other : Counter} {n : UInt32}
    (overflow : increment counter n = .error other) : other = counter ∧ UInt32.size ≤ n.toNat + 1 := by
  unfold increment at overflow
  split at overflow
  · exact nomatch overflow
  · next full => exact ⟨(Except.error.inj overflow).symm, Nat.le_of_not_lt full⟩

/-- What a turn can be: the last one, one before a turn that is allowed, or one in which a counter
overflows. -/
inductive IsTurn (most : UInt32) (l : Loop σ) : Except Counter (Turned σ α) → Prop
  | ended (outcome : Except SignInError α) (m : Loop σ) : IsTurn most l (.ok (.ended outcome m))
  | again {m : Loop σ} (below : m.attempt < most) : IsTurn most l (.ok (.again m))
  | overflow {counter : Counter} (full : counter = .attempt → UInt32.size ≤ l.attempt.toNat + 1) :
      IsTurn most l (.error counter)

/-- A counter over a series of loops goes on, or it overflows. -/
theorem isTurn_bind {counter : Counter} {n : UInt32}
    {next : UInt32 → Except Counter (Turned σ α)} (other : counter ≠ .attempt)
    (goes_on : ∀ m, IsTurn most l (next m)) :
    IsTurn most l (increment counter n >>= next) := by
  cases counted : increment counter n with
  | ok m => exact goes_on m
  | error c =>
    obtain ⟨rfl, _⟩ := counter_of_overflow counted
    exact .overflow fun same => absurd same other

theorem isTurn_fail (m : Loop σ) (e : SignInError) :
    IsTurn most l (m.fail e : Except Counter (Turned σ α)) :=
  isTurn_bind nofun fun _ => .ended ..

theorem isTurn_turn (most : UInt32) (wait : Nat → Duration)
    (operation : σ → Except SignInError α × σ) (l : Loop σ) :
    IsTurn most l (turn most wait operation l) := by
  refine isTurn_bind nofun fun attempts => ?_
  rcases operation l.state with ⟨outcome, t⟩
  cases outcome with
  | ok a =>
    dsimp only
    split
    · exact isTurn_bind nofun fun _ => .ended ..
    · exact .ended ..
  | error e =>
    dsimp only
    split
    · cases counted : increment .attempt l.attempt with
      | error c => exact .overflow fun _ => (counter_of_overflow counted).2
      | ok next =>
        show IsTurn most l (if most ≤ next then _ else _)
        split
        · exact isTurn_fail ..
        · next unspent => exact .again (UInt32.not_le.mp unspent)
    · exact isTurn_fail ..

/-- The number of the attempt never overflows. -/
theorem turn_ne_overflow (some_allowed : 0 < most) {s : σ} {tally : Tally}
    (turns : Relation.ReflTransGen (Follows most wait operation) (.start s tally) l) :
    turn most wait operation l ≠ .error .attempt := by
  intro overflow
  have below : l.attempt < most := by
    cases turns with
    | refl => exact some_allowed
    | @tail k _ _ last =>
      have turned := isTurn_turn most wait operation k
      rw [last] at turned
      cases turned with
      | again below => exact below
  have turned := isTurn_turn most wait operation l
  rw [overflow] at turned
  cases turned with
  | overflow full =>
    have full := full rfl
    have := UInt32.lt_iff_toNat_lt.mp below
    have := most.toNat_lt_size
    omega

/-! ## Series of loops -/

/-- An operation to be repeated, with what it starts from and the times to wait. -/
structure Job where
  {σ : Type}
  {α : Type}
  operation : σ → Except SignInError α × σ
  start : σ
  wait : Nat → Duration

/-- The attempts at a job that a policy allows. -/
def Job.execution (policy : Policy) (job : Job) : Execution job.σ job.α :=
  execute policy.attempts job.wait job.operation job.start

/-- One loop after another comes to the end of its execution, and each one goes on with the tally that
the one before it has left. -/
inductive Serves (policy : Policy) : Tally → List Job → Tally → Prop
  | nil (tally : Tally) : Serves policy tally [] tally
  | cons {job : Job} {jobs : List Job} {before between after : Tally}
      (ends : EndsAs policy.most job.wait job.operation (.start job.start before)
        (job.execution policy) between)
      (rest : Serves policy between jobs after) : Serves policy before (job :: jobs) after

namespace Execution

/-- Whether an execution failed. -/
def isFailed (e : Execution σ α) : Bool :=
  match e.outcome with
  | .ok _ => false
  | .error _ => true

/-- Whether an execution succeeded after a failed attempt. -/
def isRecovered (e : Execution σ α) : Bool := !e.isFailed && 1 < e.attempts

end Execution

/-- The attempts that a policy makes at some jobs in all. -/
def allAttempts (policy : Policy) : List Job → Nat
  | [] => 0
  | job :: jobs => (job.execution policy).attempts + allAttempts policy jobs

/-- What an execution adds to each count. -/
theorem Stats.add_eq (b : Stats) (e : Execution σ α) :
    b.add e = ⟨b.attempts + e.attempts, b.recovered + e.isRecovered.toNat,
      b.failed + e.isFailed.toNat⟩ := by
  obtain ⟨outcome, t, waits⟩ := e
  cases outcome with
  | ok a =>
    cases waits <;>
      simp [Stats.add, Execution.isRecovered, Execution.isFailed, Execution.attempts]
  | error d => rfl

/-- A series of loops goes on to its end, and the counts are exact. -/
theorem exists_serves {policy : Policy} (fits : policy.maxAttempts < UInt32.size) (jobs : List Job)
    {before : Tally} (order : before.stats.InOrder)
    (room : before.stats.attempts + allAttempts policy jobs < UInt32.size) :
    ∃ after, Serves policy before jobs after ∧
      after.stats = ⟨before.stats.attempts + allAttempts policy jobs,
        before.stats.recovered + jobs.countP fun job => (job.execution policy).isRecovered,
        before.stats.failed + jobs.countP fun job => (job.execution policy).isFailed⟩ := by
  induction jobs generalizing before with
  | nil => exact ⟨before, .nil before, rfl⟩
  | cons job jobs ih =>
    unfold allAttempts at room ⊢
    have enough : before.stats.attempts + (job.execution policy).attempts < UInt32.size := by omega
    obtain ⟨between, ends, stats⟩ :=
      endsAs_execute fits job.wait job.operation job.start order enough
    have ordered : between.stats.InOrder := stats ▸ order.add _
    rw [Stats.add_eq] at stats
    have left : between.stats.attempts + allAttempts policy jobs < UInt32.size := by
      rw [stats]
      show _ + (job.execution policy).attempts + _ < _
      omega
    obtain ⟨after, rest, counted⟩ := ih ordered left
    refine ⟨after, .cons ends rest, ?_⟩
    have one (b : Bool) : b.toNat = if b = true then 1 else 0 := by cases b <;> rfl
    rw [counted, stats, List.countP_cons, List.countP_cons, ← one, ← one, ← Nat.add_assoc,
      Nat.add_comm (jobs.countP _), Nat.add_comm (jobs.countP _), ← Nat.add_assoc, ← Nat.add_assoc]
    rfl

/-- An execution makes as many attempts as needed: it ends with the first one whose outcome is final,
or with the last one allowed, and it waits between them. If one attempt is allowed, it is the operation
itself. As long as the counts have room for it, its loop comes to this end and to no other, and the
number of the attempt never overflows. Over a series of loops with fewer attempts than there are words,
the counts are those of the attempts, of the executions that failed, and of those that succeeded after a
failed attempt. -/
theorem loops_meet_specification (policy : Policy) (fits : policy.maxAttempts < UInt32.size) :
    (∀ {σ α : Type} (wait : Nat → Duration) (operation : σ → Except SignInError α × σ) (s : σ),
      (∃ last, IsLast operation s policy.attempts last ∧
        (∀ other, IsLast operation s policy.attempts other → other = last) ∧
        execute policy.attempts wait operation s =
          ⟨outcomeAt operation s last, stateAt operation s (last + 1),
            (List.range last).map wait⟩) ∧
      (policy.attempts = 1 →
        execute policy.attempts wait operation s = ⟨(operation s).1, (operation s).2, []⟩) ∧
      (∀ tally : Tally, tally.stats.InOrder →
        tally.stats.attempts + (execute policy.attempts wait operation s).attempts < UInt32.size →
        ∃ after, EndsAs policy.most wait operation (.start s tally)
            (execute policy.attempts wait operation s) after ∧
          ∀ e other, EndsAs policy.most wait operation (.start s tally) e other →
            e = execute policy.attempts wait operation s ∧ other = after) ∧
      ∀ tally l, Relation.ReflTransGen (Follows policy.most wait operation) (.start s tally) l →
        turn policy.most wait operation l ≠ .error .attempt) ∧
    ∀ jobs, allAttempts policy jobs < UInt32.size →
      ∃ tally, Serves policy .zero jobs tally ∧
        tally.attempts.toNat = allAttempts policy jobs ∧
        tally.failed.toNat = (jobs.countP fun job => (job.execution policy).isFailed) ∧
        tally.recovered.toNat = jobs.countP fun job => (job.execution policy).isRecovered := by
  have some_allowed : 0 < policy.attempts := Nat.lt_of_lt_of_le Nat.one_pos (le_max_right ..)
  have most_pos : 0 < policy.most := by
    rw [UInt32.lt_iff_toNat_lt, Policy.toNat_most fits]
    exact some_allowed
  refine ⟨fun wait operation s => ⟨?_, ?_, ?_, ?_⟩, fun jobs room => ?_⟩
  · obtain ⟨last, is, same⟩ := exists_isLast wait operation s some_allowed
    exact ⟨last, is, fun other also => is.eq also, same⟩
  · intro single
    rw [single]
    exact executeFrom_zero wait operation 0 s
  · intro tally order room
    obtain ⟨after, ends, _⟩ := endsAs_execute fits wait operation s order room
    exact ⟨after, ends, fun e other also => also.eq ends⟩
  · exact fun tally l turns => turn_ne_overflow most_pos turns
  · have order : Tally.zero.stats.InOrder := Nat.le_refl 0
    have left : Tally.zero.stats.attempts + allAttempts policy jobs < UInt32.size := by
      show 0 + _ < _
      rw [Nat.zero_add]
      exact room
    obtain ⟨tally, serves, counted⟩ := exists_serves fits jobs order left
    obtain ⟨attempts, recovered, failed⟩ := Stats.mk.inj counted
    exact ⟨tally, serves, attempts.trans (Nat.zero_add _), failed.trans (Nat.zero_add _),
      recovered.trans (Nat.zero_add _)⟩

end LoanGateway.Retry

namespace LoanGateway

namespace Sample

/-- A policy with as many attempts as a word holds. -/
def tireless : Retry.Policy := ⟨4294967295, ⟨0⟩, ⟨0⟩, 1, 0⟩

/-- An operation whose first call meets a lost connection. -/
def shaky : Retry.Job where
  operation n := (if n = 0 then .error (.sessionRefused (.transport (.connectionFailed "")))
    else .ok n, n + 1)
  start := 0
  wait _ := ⟨5⟩

/-- An operation that is refused. -/
def barred : Retry.Job where
  operation n := ((.error (.sessionRefused (.refused 403 "")) : Except SignInError Nat), n + 1)
  start := 0
  wait _ := ⟨5⟩

end Sample

namespace Retry

/-- One execution succeeds after a failed attempt and one fails at once: three attempts in all. -/
theorem loops_of_shaky_and_barred :
    Sample.tireless.maxAttempts < UInt32.size ∧
      allAttempts Sample.tireless [Sample.shaky, Sample.barred] < UInt32.size ∧
      ∃ tally, Serves Sample.tireless .zero [Sample.shaky, Sample.barred] tally ∧
        tally.attempts.toNat = 3 ∧ tally.failed.toNat = 1 ∧ tally.recovered.toNat = 1 := by
  have fits : Sample.tireless.maxAttempts < UInt32.size := by decide
  have all : allAttempts Sample.tireless [Sample.shaky, Sample.barred] = 3 := by rfl
  have room : allAttempts Sample.tireless [Sample.shaky, Sample.barred] < UInt32.size := by
    rw [all]
    decide
  obtain ⟨_, series⟩ := loops_meet_specification Sample.tireless fits
  obtain ⟨tally, serves, attempts, failed, recovered⟩ := series _ room
  exact ⟨fits, room, tally, serves, attempts.trans all, failed.trans rfl, recovered.trans rfl⟩

end Retry

end LoanGateway
