import LoanGateway.Client.Operation

/-!
# What operations do to a client

Whatever an operation is about, it does one of four things to the source of tokens and to the wire:
nothing, a call for a token, an exchange with a token whose answer is heeded, or a submission with a
token whose answer is not.

- `Client.token_eq`, `Client.exchange_eq`: the calls for a token and the exchanges as equations.
- `Client.Traffic`, `Client.traffic_perform`: what operations do.
-/

namespace LoanGateway

/-- Whether an operation hands in a bundle. -/
def Operation.isSubmission {α : Type} : Operation α → Bool
  | submit _ | submitFor _ _ => true
  | _ => false

namespace Client

variable {σ α : Type} [TokenSource σ]

/-! ## What operations do -/

/-- The client after a call for a token. -/
def asked (c : Client σ) : Client σ := { c with source := (TokenSource.obtain c.source).2 }

/-- What an operation does to the source of tokens and to the wire. -/
inductive Traffic (c : Client σ) : Bool → Client σ → Prop
  | nothing (submission : Bool) : Traffic c submission c
  | asked (submission : Bool) : Traffic c submission c.asked
  | exchanged {token : String} {request : Request}
      (obtained : (TokenSource.obtain c.source).1 = .ok token)
      (carries : request.bearer = some token) :
      Traffic c false
        (heed { c.asked with wire := (c.wire.send request).2 } (c.wire.send request).1)
  | submitted {token : String} {request : Request}
      (obtained : (TokenSource.obtain c.source).1 = .ok token)
      (carries : request.bearer = some token) :
      Traffic c true { c.asked with wire := (c.wire.send request).2 }

@[simp] theorem wire_heed (c : Client σ) (reply : Reply) : (c.heed reply).wire = c.wire := by
  unfold heed
  split <;> rfl

theorem token_eq (c : Client σ) :
    c.token =
      match (TokenSource.obtain c.source).1 with
      | .ok token => (.ok token, c.asked)
      | .error e => (.error (.authentication e), c.asked) := by
  unfold token asked
  split
  all_goals
    rename_i obtained
    rw [obtained]

theorem exchange_eq (c : Client σ) (request : Request) (phrases : List String) :
    c.exchange request phrases =
      match (TokenSource.obtain c.source).1 with
      | .error e => (.error (.authentication e), c.asked)
      | .ok token =>
        (accept phrases (c.wire.send (request.withBearer token)).1,
          heed { c.asked with wire := (c.wire.send (request.withBearer token)).2 }
            (c.wire.send (request.withBearer token)).1) := by
  unfold exchange
  rw [token_eq]
  cases (TokenSource.obtain c.source).1 <;> rfl

theorem traffic_exchange (c : Client σ) (request : Request) (phrases : List String) :
    Traffic c false (c.exchange request phrases).2 := by
  rw [exchange_eq]
  split
  · exact .asked false
  · rename_i obtained
    exact .exchanged obtained rfl

theorem traffic_send (c : Client σ) (method : Method) (path : String) (body : Payload)
    (resource : Resource) : Traffic c false (c.send method path body resource).2 := by
  unfold send
  split
  · exact .nothing false
  · exact traffic_exchange ..

theorem traffic_submitFor (c : Client σ) (bundle : Bundle) (resource : Resource)
    (direct : c.desk = .direct) : Traffic c true (c.submitFor bundle resource).2 := by
  unfold submitFor
  split
  · exact .nothing true
  · rename_i filled
    rw [token_eq]
    cases obtained : (TokenSource.obtain c.source).1 with
    | error e => exact .asked true
    | ok token =>
      have carries : (bundle.submission c.settings token).bearer = some token := rfl
      have submitted := Traffic.submitted obtained carries
      obtain ⟨settings, wire, source, desk⟩ := c
      subst direct
      simp only [asked, Desk.submit, Bundle.submit, if_neg filled] at submitted ⊢
      exact submitted

theorem traffic_perform (c : Client σ) (operation : Operation α) (direct : c.desk = .direct) :
    Traffic c operation.isSubmission (c.perform operation).2 := by
  cases operation with
  | token =>
    have same : (c.perform (.token : Operation α)).2 = c.asked := by
      show c.token.2 = _
      rw [token_eq]
      split <;> rfl
    rw [same]
    exact .asked false
  | get path resource decode => exact traffic_exchange ..
  | post path body resource => exact traffic_send ..
  | put path body resource => exact traffic_send ..
  | submit bundle => exact traffic_submitFor _ _ _ direct
  | submitFor bundle resource => exact traffic_submitFor _ _ _ direct

end Client

end LoanGateway
