import LoanGateway.Proofs.Client.Moves
import LoanGateway.Proofs.Client.Traffic
import LoanGateway.Proofs.Session.Alone

/-!
# An operation with nobody else

An operation that finds nobody at the gate and is not disturbed has the result that the client
gives, and sends the same requests to the identity provider and to the backend.

- `Client.carryOut`, `Client.perform_of_errand`: what a client makes of an errand.
- `Errands.perform_alone`: the main statement.
-/

namespace LoanGateway

namespace Client

variable {σ α : Type} [TokenSource σ]

/-- Carries out an errand with one exchange. -/
def carryOut (c : Client σ) (errand : Errand α) :
    Except GatewayError (Outcome α) × Client σ :=
  match (TokenSource.obtain c.source).1 with
  | .error e => (.error (.authentication e), c.asked)
  | .ok token =>
    let (reply, wire) := c.wire.send (errand.request.withBearer token)
    (errand.finish reply, { c.asked with wire }.heed reply)

/-- What is sent is the request of the errand. -/
theorem send_of_sending {c : Client σ} {method : Method} {path : String} {body : Payload}
    {resource : Resource} {outcome : Response → Outcome α} {errand : Errand α}
    (h : Errand.sending c.settings method path body resource outcome = .ok errand) :
    ((c.send method path body resource).1.map outcome, (c.send method path body resource).2) =
      c.carryOut errand := by
  unfold Errand.sending at h
  unfold send
  cases written : (Request.new method (c.settings.urlFor path).text).json body with
  | error fault =>
    simp only [written] at h
    cases h
  | ok request =>
    simp only [written] at h
    cases h
    simp only [exchange_eq, carryOut]
    cases (TokenSource.obtain c.source).1 <;> rfl

/-- What cannot be written is not sent. -/
theorem send_of_unwritable {c : Client σ} {method : Method} {path : String} {body : Payload}
    {resource : Resource} {outcome : Response → Outcome α} {e : GatewayError}
    (h : Errand.sending c.settings method path body resource outcome = .error e) :
    c.send method path body resource = (.error e, c) := by
  unfold Errand.sending at h
  unfold send
  cases written : (Request.new method (c.settings.urlFor path).text).json body with
  | error fault =>
    simp only [written] at h
    cases h
    rfl
  | ok request =>
    simp only [written] at h
    cases h

/-- A client carries out the errand of an operation. -/
theorem perform_of_errand {c : Client σ} {operation : Operation α} {errand : Errand α}
    (h : operation.errand? c.settings = some (.ok errand)) :
    c.perform operation = c.carryOut errand := by
  cases operation with
  | get path resource decode =>
    cases h
    simp only [perform, get, exchange_eq, carryOut]
    cases (TokenSource.obtain c.source).1 <;> rfl
  | post path body resource =>
    rw [← send_of_sending (Option.some.inj h)]
    simp only [perform, post]
    cases (c.send .post path body resource).1 <;> rfl
  | put path body resource =>
    rw [← send_of_sending (Option.some.inj h)]
    simp only [perform, put]
    cases (c.send .put path body resource).1 <;> rfl
  | token => cases h
  | submit bundle => cases h
  | submitFor bundle resource => cases h

/-- A client has nothing to do for an operation that cannot be written. -/
theorem perform_of_unwritable {c : Client σ} {operation : Operation α} {e : GatewayError}
    (h : operation.errand? c.settings = some (.error e)) : c.perform operation = (.error e, c) := by
  cases operation with
  | get path resource decode => cases h
  | post path body resource =>
    simp only [perform, post, send_of_unwritable (Option.some.inj h)]
    rfl
  | put path body resource =>
    simp only [perform, put, send_of_unwritable (Option.some.inj h)]
    rfl
  | token => cases h
  | submit bundle => cases h
  | submitFor bundle resource => cases h

end Client

namespace Errands

variable {α : Type} {backend : BackendSettings} {identity : IdentitySettings}

/-- The requests sent to the backend so far. -/
def requests (s : Errands α) : List Request := s.log.filterMap Event.request?

/-- Moves of which each follows from the one before. -/
theorem run_of_steps {s t u : Errands α} {move : Move α} (step : Step backend identity s move t)
    (rest : ∃ moves, t.run? backend identity moves = some u) :
    ∃ moves, s.run? backend identity moves = some u := by
  obtain ⟨moves, run⟩ := rest
  exact ⟨move :: moves, run?_cons_eq_some_iff.mpr ⟨t, step, run⟩⟩

/-- What a call does alone, it does under an operation. -/
theorem run_of_path {s u : Errands α} {number : Nat} {calls : Calls}
    (path : Calls.Path identity (Calls.IsOf number) s.calls calls)
    (rest : ∃ moves, { s with calls }.run? backend identity moves = some u) :
    ∃ moves, s.run? backend identity moves = some u := by
  obtain ⟨actions, own, run⟩ := path
  induction actions generalizing s with
  | nil =>
    cases run
    exact rest
  | cons action later ih =>
    obtain ⟨next, first, run⟩ := Calls.run?_cons_eq_some_iff.mp run
    have session : Step backend identity s (.session action) { s with calls := next } := by
      refine .session first fun call drops => ?_
      rcases own action (List.mem_cons_self ..) with eq | ⟨_, eq⟩ <;> cases eq.symm.trans drops
    exact run_of_steps session
      (ih (s := { s with calls := next }) rest
        (fun a mem => own a (List.mem_cons_of_mem _ mem)) run)

/-- An operation whose call got a token sends its request, gets an answer and heeds it. -/
theorem ends_of_token {s : Errands α} {number : Nat} {errand : Errand α} {token : String}
    (asking : s.progress number = .asking errand)
    (ends : s.calls.outcome? number = some (.ok token)) (reply : Reply) :
    ∃ t, (∃ moves, s.run? backend identity moves = some t) ∧
      t.result? number = some (errand.finish reply) ∧ t.calls = (s.heed reply).calls ∧
      (∀ other, other ≠ number → t.progress other = s.progress other) ∧
      t.requests = s.requests ++ [errand.request.withBearer token] := by
  have send : Step backend identity s (.send number) _ := .send asking ends
  have answer : Step backend identity _ (.answer number reply) _ :=
    .answer (progress_place_self (s.record (.sent number (errand.request.withBearer token))) number
      (.sent errand token))
  have conclude : Step backend identity _ (.conclude number) _ :=
    .conclude (progress_place_self
      (((s.record (.sent number (errand.request.withBearer token))).place number
        (.sent errand token)).record (.answered number reply)) number
      (.answered errand token reply))
  refine ⟨_, run_of_steps send (run_of_steps answer (run_of_steps conclude ⟨[], rfl⟩)), ?_, ?_, ?_,
    ?_⟩
  · simp [result?]
  · simp only [calls_place, heed]
    split <;> rfl
  · intro other ne
    simp [ne]
  · simp only [requests, record, log_place, log_heed, List.filterMap_append]
    exact List.append_nil _

/-- An operation has the result that a client gives. The two have the same memory afterwards, and
the same requests were sent. -/
structure Performed (s : Errands α) (number : Nat) (c : Client Authenticator)
    (performed : Except GatewayError (Outcome α) × Client Authenticator) (t : Errands α) :
    Prop where
  result : t.result? number = some performed.1
  memory : t.calls.memory = performed.2.source.memory
  now : t.calls.now = performed.2.source.now
  gate : t.calls.gate = []
  others : ∀ other, other ≠ number → t.progress other = s.progress other
  asked : ∃ requests, performed.2.source.wire.sent = c.source.wire.sent ++ requests ∧
    t.calls.requests = s.calls.requests ++ requests
  sent : ∃ requests, performed.2.wire.sent = c.wire.sent ++ requests ∧
    t.requests = s.requests ++ requests

/-- What heeding an answer means for the calls, it means for the authenticator of a client. -/
theorem heed_agrees {s : Errands α} {c : Client Authenticator} (reply : Reply)
    (memory : s.calls.memory = c.source.memory) (now : s.calls.now = c.source.now) :
    (s.heed reply).calls.memory = (c.heed reply).source.memory ∧
      (s.heed reply).calls.now = (c.heed reply).source.now ∧
      (s.heed reply).calls.gate = s.calls.gate ∧ (s.heed reply).calls.requests = s.calls.requests ∧
      (c.heed reply).source.wire = c.source.wire := by
  unfold heed Client.heed
  split
  · refine ⟨?_, now, rfl, rfl, rfl⟩
    show s.calls.memory.invalidate = c.source.memory.invalidate
    rw [memory]
  · exact ⟨memory, now, rfl, rfl, rfl⟩

/-- An operation that finds nobody at the gate and is not disturbed does what a client does. -/
theorem perform_alone {c : Client Authenticator} {operation : Operation α} {s : Errands α}
    {number : Nat} (own : (operation.errand? c.settings).isSome = true)
    (absent : s.progress number = .absent) (new : s.calls.stage number = .absent)
    (free : s.calls.gate = []) (memory : s.calls.memory = c.source.memory)
    (now : s.calls.now = c.source.now) :
    ∃ t, (∃ moves, s.run? c.settings c.source.settings moves = some t) ∧
      Performed s number c (c.perform operation) t := by
  obtain ⟨written, errands⟩ := Option.isSome_iff_exists.mp own
  cases written with
  | error e =>
    have skip : Step c.settings c.source.settings s (.start number operation) _ :=
      .skip absent errands
    rw [Client.perform_of_unwritable errands]
    refine ⟨_, run_of_steps skip ⟨[], rfl⟩, ?_, memory, now, free, ?_, ?_, ?_⟩
    · simp [result?]
    · exact fun _ ne => progress_place_of_ne _ _ _ _ ne
    · exact ⟨[], (List.append_nil _).symm, (List.append_nil _).symm⟩
    · exact ⟨[], (List.append_nil _).symm, (List.append_nil _).symm⟩
  | ok errand =>
    have begins : Calls.Step c.source.settings s.calls (.begin number) _ := .begin new
    have start : Step c.settings c.source.settings s (.start number operation) _ :=
      .start absent errands begins
    -- the call under the operation does what the authenticator of the client does
    obtain ⟨requests, calls, sent, path, ended⟩ := Calls.obtain_alone (a := c.source)
      (Calls.stage_place_self s.calls number .arrived) free memory now
    have asking : ({ s with calls }.place number (.asking errand)).progress number =
      .asking errand := progress_place_self ..
    have ends : calls.outcome? number = some (TokenSource.obtain c.source).1 := by
      simp only [Calls.outcome?, ended.stage]
      rfl
    have clock : calls.now = c.source.obtain.2.now := by
      rw [ended.now, Authenticator.now_obtain]
      exact now
    rw [Client.perform_of_errand errands, Client.carryOut]
    cases obtained : (TokenSource.obtain c.source).1 with
    | error e =>
      rw [obtained] at ends
      refine ⟨_, run_of_steps start (run_of_path path (run_of_steps (.fail asking ends) ⟨[], rfl⟩)),
        ?_, ended.memory, clock, ended.gate, ?_, ⟨requests, sent, ended.requests⟩, ?_⟩
      · simp [result?]
      · intro other ne
        rw [progress_place_of_ne _ _ _ _ ne]
        exact progress_place_of_ne _ _ _ _ ne
      · exact ⟨[], (List.append_nil _).symm, (List.append_nil _).symm⟩
    | ok token =>
      rw [obtained] at ends
      obtain ⟨t, run, result, same, others, sends⟩ :=
        ends_of_token (s := { s with calls }.place number (.asking errand)) asking ends
          (c.wire.send (errand.request.withBearer token)).1
      obtain ⟨heeded, later, gate, asks, wire⟩ :=
        heed_agrees (s := { s with calls }.place number (.asking errand))
          (c := { c.asked with wire := (c.wire.send (errand.request.withBearer token)).2 })
          (c.wire.send (errand.request.withBearer token)).1 ended.memory clock
      rw [← same] at heeded later gate asks
      refine ⟨t, run_of_steps start (run_of_path path run), result, heeded, later,
        gate.trans ended.gate, ?_, ⟨requests, ?_, asks.trans ended.requests⟩, ?_⟩
      · intro other ne
        rw [others other ne]
        exact progress_place_of_ne _ _ _ _ ne
      · dsimp only
        rw [wire]
        exact sent
      · exact ⟨[_], by dsimp only; rw [Client.wire_heed]; rfl, sends⟩

end Errands

end LoanGateway
