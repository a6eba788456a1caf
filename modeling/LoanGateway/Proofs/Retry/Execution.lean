import LoanGateway.Retry.Execution
import Mathlib.Data.List.Range
import Mathlib.Logic.Function.Iterate

/-!
# Which attempt counts

An operation is repeated until an outcome is final, as often as allowed. So the attempts are those of
the operation called again and again, and the one that counts is the first with a final outcome, or else
the last one allowed.

- `SignInError.MayPass`: the failures after which another attempt may go better.
- `Retry.IsFinal`: the outcomes after which no other attempt is made.
- `Retry.stateAt`, `Retry.outcomeAt`: the operation called again and again.
- `Retry.IsLast`: the attempt that counts.
- `Retry.exists_isLast`: an execution is that of this attempt.
- `Retry.size_executeFrom_le`: what an execution adds to a size, attempt by attempt.
-/

namespace LoanGateway

/-! ## Failures that may pass -/

/-- Exchanges may go better after a lost connection, an answer that came too late, and a status that
says so. -/
inductive ExchangeFailure.MayPass : ExchangeFailure → Prop
  | connection (reason : String) : MayPass (.transport (.connectionFailed reason))
  | timeout (limit : Duration) : MayPass (.transport (.timeout limit))
  | busy (body : String) : MayPass (.refused 429 body)
  | server {status : Nat} (body : String) (least : 500 ≤ status) : MayPass (.refused status body)

theorem ExchangeFailure.isTransient_iff {failure : ExchangeFailure} :
    failure.isTransient = true ↔ failure.MayPass := by
  constructor
  · intro transient
    cases failure with
    | refused status body =>
      have cases : 500 ≤ status ∨ status = 429 := by simpa [isTransient] using transient
      rcases cases with least | rfl
      · exact .server body least
      · exact .busy body
    | transport fault =>
      cases fault with
      | connectionFailed reason => exact .connection reason
      | timeout limit => exact .timeout limit
      | tooManyRedirects | requestFailed | invalidResponse => cases transient
  · intro passes
    cases passes with
    | connection | timeout | busy => rfl
    | server body least => simp [isTransient, least]

/-- A handshake may go better after such an exchange. -/
inductive SignInError.MayPass : SignInError → Prop
  | session {cause : ExchangeFailure} (passes : cause.MayPass) : MayPass (.sessionRefused cause)
  | token {cause : ExchangeFailure} (passes : cause.MayPass) : MayPass (.tokenRefused cause)

theorem SignInError.isTransient_iff {e : SignInError} : e.isTransient = true ↔ e.MayPass := by
  constructor
  · intro transient
    cases e with
    | sessionRefused cause => exact .session (ExchangeFailure.isTransient_iff.mp transient)
    | tokenRefused cause => exact .token (ExchangeFailure.isTransient_iff.mp transient)
    | cookieMissing | tokenMissing => cases transient
  · intro passes
    cases passes with
    | session passes | token passes => exact ExchangeFailure.isTransient_iff.mpr passes

namespace Retry

variable {σ α : Type}

/-- The outcomes after which no other attempt is made. -/
inductive IsFinal : Except SignInError α → Prop
  | ok (a : α) : IsFinal (.ok a)
  | error {e : SignInError} (lasting : ¬ e.MayPass) : IsFinal (.error e)

theorem isFinal_error_iff {e : SignInError} :
    IsFinal (.error e : Except SignInError α) ↔ ¬ e.isTransient = true := by
  rw [SignInError.isTransient_iff]
  constructor
  · rintro ⟨⟩
    assumption
  · exact .error

/-- Whatever is not final is a transient failure. -/
theorem transient_of_not_isFinal {outcome : Except SignInError α} (open_ended : ¬ IsFinal outcome) :
    ∃ e, outcome = .error e ∧ e.isTransient = true := by
  cases outcome with
  | ok a => exact absurd (.ok a) open_ended
  | error e => exact ⟨e, rfl, not_not.mp (mt isFinal_error_iff.mpr open_ended)⟩

theorem executeFrom_of_isFinal {wait : Nat → Duration} {operation : σ → Except SignInError α × σ}
    {more attempt : Nat} {s : σ} (final : IsFinal (operation s).1) :
    executeFrom wait operation more attempt s = ⟨(operation s).1, (operation s).2, []⟩ := by
  refine executeFrom_of_final rfl fun e failed => ?_
  rw [failed] at final
  exact isFinal_error_iff.mp final

/-! ## Calling again and again -/

section Attempts

variable (operation : σ → Except SignInError α × σ)

/-- What an operation leaves behind that is called some times. -/
def stateAt (s : σ) (n : Nat) : σ := (fun s => (operation s).2)^[n] s

/-- The outcome of an operation that was called some times before. -/
def outcomeAt (s : σ) (n : Nat) : Except SignInError α := (operation (stateAt operation s n)).1

/-- The number of the attempt that counts when at most `most` attempts may be made: the first one whose
outcome is final, or else the last one. Numbers begin with zero. -/
structure IsLast (s : σ) (most last : Nat) : Prop where
  lt : last < most
  earlier : ∀ n < last, ¬ IsFinal (outcomeAt operation s n)
  ends : IsFinal (outcomeAt operation s last) ∨ last + 1 = most

end Attempts

variable {operation : σ → Except SignInError α × σ} {s : σ} {most last : Nat}

theorem stateAt_succ (operation : σ → Except SignInError α × σ) (s : σ) (n : Nat) :
    stateAt operation s (n + 1) = stateAt operation (operation s).2 n :=
  Function.iterate_succ_apply _ n s

theorem outcomeAt_succ (operation : σ → Except SignInError α × σ) (s : σ) (n : Nat) :
    outcomeAt operation s (n + 1) = outcomeAt operation (operation s).2 n := by
  rw [outcomeAt, stateAt_succ]
  rfl

/-- There is only one attempt that counts. -/
theorem IsLast.eq {other : Nat} (h : IsLast operation s most last)
    (k : IsLast operation s most other) : other = last := by
  rcases Nat.lt_trichotomy other last with before | same | behind
  · rcases k.ends with final | all
    · exact absurd final (h.earlier other before)
    · have := h.lt
      omega
  · exact same
  · rcases h.ends with final | all
    · exact absurd final (k.earlier last behind)
    · have := k.lt
      omega

/-- The attempt that counts after a first one that does not. -/
theorem IsLast.succ (open_ended : ¬ IsFinal (operation s).1)
    (h : IsLast operation (operation s).2 most last) : IsLast operation s (most + 1) (last + 1) where
  lt := Nat.succ_lt_succ h.lt
  earlier n lt := by
    cases n with
    | zero => exact open_ended
    | succ n =>
      rw [outcomeAt_succ]
      exact h.earlier n (Nat.lt_of_succ_lt_succ lt)
  ends := by
    rw [outcomeAt_succ]
    exact h.ends.imp_right (congrArg (· + 1))

/-- Attempts from a number on are those up to the one that counts. -/
theorem executeFrom_eq (wait : Nat → Duration) (operation : σ → Except SignInError α × σ)
    (more attempt : Nat) (s : σ) :
    ∃ last, IsLast operation s (more + 1) last ∧
      executeFrom wait operation more attempt s =
        ⟨outcomeAt operation s last, stateAt operation s (last + 1),
          (List.range' attempt last).map wait⟩ := by
  induction more generalizing attempt s with
  | zero => exact ⟨0, ⟨Nat.one_pos, nofun, .inr rfl⟩, rfl⟩
  | succ more ih =>
    by_cases final : IsFinal (operation s).1
    · exact ⟨0, ⟨Nat.succ_pos _, nofun, .inl final⟩, executeFrom_of_isFinal final⟩
    · obtain ⟨e, failed, transient⟩ := transient_of_not_isFinal final
      have makes : operation s = (.error e, (operation s).2) := Prod.ext failed rfl
      obtain ⟨last, is, same⟩ := ih (attempt + 1) (operation s).2
      refine ⟨last + 1, is.succ final, ?_⟩
      rw [executeFrom_of_transient makes transient, same, outcomeAt_succ, stateAt_succ,
        List.range'_succ, List.map_cons]
      rfl

/-- An execution is that of the attempt that counts. -/
theorem exists_isLast (wait : Nat → Duration) (operation : σ → Except SignInError α × σ) (s : σ)
    (some_allowed : 0 < most) :
    ∃ last, IsLast operation s most last ∧
      execute most wait operation s =
        ⟨outcomeAt operation s last, stateAt operation s (last + 1),
          (List.range last).map wait⟩ := by
  obtain ⟨more, rfl⟩ := Nat.exists_eq_add_one_of_ne_zero (Nat.ne_of_gt some_allowed)
  simp only [List.range_eq_range']
  exact executeFrom_eq wait operation more 0 s

/-- If an attempt adds no more than some amount to a size, then an execution adds no more than that
amount for each of its attempts. -/
theorem size_executeFrom_le (size : σ → Nat) {amount : Nat}
    (adds : ∀ s, size (operation s).2 ≤ size s + amount) (wait : Nat → Duration)
    (more attempt : Nat) (s : σ) :
    size (executeFrom wait operation more attempt s).state ≤
      size s + (executeFrom wait operation more attempt s).attempts * amount := by
  have single (s : σ) : size (operation s).2 ≤ size s + 1 * amount := by
    rw [Nat.one_mul]
    exact adds s
  induction more generalizing attempt s with
  | zero => exact single s
  | succ more ih =>
    by_cases final : IsFinal (operation s).1
    · rw [executeFrom_of_isFinal final]
      exact single s
    · obtain ⟨e, failed, transient⟩ := transient_of_not_isFinal final
      have makes : operation s = (.error e, (operation s).2) := Prod.ext failed rfl
      rw [executeFrom_of_transient makes transient, attempts_after, Nat.succ_mul]
      have first := adds s
      have others := ih (attempt + 1) (operation s).2
      show size (executeFrom wait operation more (attempt + 1) (operation s).2).state ≤ _
      omega

end Retry

end LoanGateway
