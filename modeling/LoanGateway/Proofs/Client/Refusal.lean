import LoanGateway.Proofs.Client.Moves
import LoanGateway.Proofs.Client.Traffic
import LoanGateway.Proofs.Session.Attempts

/-!
# When the backend refuses a token

A client whose tokens rest on an authenticator forgets a token that the backend does not accept, so
that the next operation with a request does a handshake first. The exception is a token that went
with a bundle: it stays in the cache and goes with the next request as long as it is fresh.

- `Client.authenticator_perform`: what becomes of the authenticator when a request is sent.
- `Client.Refused`: an operation whose token the backend does not accept.
- `Client.Forgets`, `Client.Keeps`: what becomes of the token.
- `Client.refused_token_is_forgotten_iff`: the main statement.
-/

namespace LoanGateway

namespace Client

variable {σ α : Type} [TokenSource σ]

/-! ## Clients over an authenticator -/

section

variable [RestsOnAuthenticator σ]

/-- The authenticator that the tokens of a client come from. -/
def authenticator (c : Client σ) : Authenticator := RestsOnAuthenticator.authenticator c.source

theorem authenticator_heed (c : Client σ) (reply : Reply) :
    (c.heed reply).authenticator =
      if reply.refusesToken then c.authenticator.invalidate else c.authenticator := by
  unfold heed
  split
  · exact RestsOnAuthenticator.invalidate c.source
  · rfl

/-- A request takes a token, and only a refusal of a request without a bundle drops it again. -/
theorem authenticator_perform {c : Client σ} {operation : Operation α} {request : Request}
    (direct : c.desk = .direct)
    (sent : (c.perform operation).2.wire.sent = c.wire.sent ++ [request]) :
    ∃ token after, request.bearer = some token ∧ Attempts c.authenticator (.ok token) after ∧
      (c.perform operation).2.authenticator =
        if !operation.isSubmission && (c.wire.send request).1.refusesToken then after.invalidate
        else after := by
  have traffic := c.traffic_perform operation direct
  have attempts := RestsOnAuthenticator.attempts c.source
  have own {other : Request} (same : c.wire.sent ++ [other] = c.wire.sent ++ [request]) :
      other = request := by simpa using same
  generalize operation.isSubmission = submission, (c.perform operation).2 = after at *
  cases traffic with
  | nothing => simp at sent
  | asked => simp [asked] at sent
  | exchanged obtained carries =>
    rw [obtained] at attempts
    rw [wire_heed] at sent
    cases own sent
    exact ⟨_, _, carries, attempts, authenticator_heed ..⟩
  | submitted obtained carries =>
    rw [obtained] at attempts
    cases own sent
    exact ⟨_, _, carries, attempts, rfl⟩

/-! ## Refused tokens -/

/-- The operation sends a request with the token, and the backend does not accept it. -/
structure Refused (c : Client σ) (operation : Operation α) (token : String) : Prop where
  sent : ∃ request, (c.perform operation).2.wire.sent = c.wire.sent ++ [request] ∧
    request.bearer = some token
  answered : ∃ response, c.wire.replies.head? = some (.ok response) ∧ response.status = 401

/-- A client that remembers what another one does, and perhaps later. It may get any answers. -/
structure Continues (c d : Client σ) : Prop where
  memory : d.authenticator.memory = c.authenticator.memory
  direct : d.desk = .direct

/-- Nothing is cached, and the token of the next request is that of a fresh handshake. -/
structure Forgets (c : Client σ) : Prop where
  empty : c.authenticator.memory.cache.entry = none
  renews : ∀ {β : Type} (d : Client σ) (next : Operation β) (request : Request) (token : String),
    c.Continues d → (d.perform next).2.wire.sent = d.wire.sent ++ [request] →
      request.bearer = some token →
      Handshake.Bought d.authenticator.settings token d.authenticator.wire
        (d.perform next).2.authenticator.wire

/-- The token is cached, and as long as it is fresh it goes with the next request without a
handshake. -/
def Keeps (c : Client σ) (token : String) : Prop :=
  ∃ fetched, c.authenticator.memory.cache.entry = some ⟨token, fetched⟩ ∧
    ∀ {β : Type} (d : Client σ) (next : Operation β) (request : Request),
      c.Continues d →
      d.authenticator.now.nanos - fetched.nanos < c.authenticator.memory.cache.ttl.nanos →
      (d.perform next).2.wire.sent = d.wire.sent ++ [request] →
      request.bearer = some token ∧
        (d.perform next).2.authenticator.wire = d.authenticator.wire

/-- With nothing in the cache, a request needs a handshake. -/
theorem forgets_of_empty {c : Client σ} (empty : c.authenticator.memory.cache.entry = none) :
    c.Forgets where
  empty := empty
  renews d next request token continues sent carries := by
    obtain ⟨given, after, bearer, attempts, ends⟩ := authenticator_perform continues.direct sent
    cases bearer.symm.trans carries
    have stale : d.authenticator.memory.cache.valid? d.authenticator.now = none := by
      rw [continues.memory, TokenCache.valid?, empty]
      rfl
    have bought := attempts.bought rfl stale
    rw [ends]
    split <;> exact bought

/-- What is in the cache is used. -/
theorem keeps_of_entry {c : Client σ} {token : String} {fetched : Instant}
    (entry : c.authenticator.memory.cache.entry = some ⟨token, fetched⟩) : c.Keeps token := by
  refine ⟨fetched, entry, fun d next request continues young sent => ?_⟩
  obtain ⟨given, after, bearer, attempts, ends⟩ := authenticator_perform continues.direct sent
  rw [← continues.memory] at entry young
  obtain ⟨same, still⟩ := attempts.served (TokenCache.valid?_of_entry entry young)
  cases same
  refine ⟨bearer, ?_⟩
  rw [ends, still]
  split <;> rfl

/-- The token of a refused operation is forgotten unless the operation is a submission, and then it
is kept. -/
theorem forgets_iff {c : Client σ} {operation : Operation α} {token : String}
    (direct : c.desk = .direct) (refused : c.Refused operation token) :
    ((c.perform operation).2.Forgets ↔ operation.isSubmission = false) ∧
      (operation.isSubmission = true → (c.perform operation).2.Keeps token) := by
  obtain ⟨⟨request, sent, carries⟩, response, head, status⟩ := refused
  obtain ⟨given, after, bearer, attempts, ends⟩ := authenticator_perform direct sent
  cases bearer.symm.trans carries
  have refuses : (c.wire.send request).1.refusesToken = true := by
    simp [Wire.send, head, Reply.refusesToken, status]
  obtain ⟨fetched, entry⟩ := attempts.kept rfl
  rw [refuses, Bool.and_true] at ends
  cases submission : operation.isSubmission with
  | false =>
    rw [submission] at ends
    -- the answer was heeded
    have empty : (c.perform operation).2.authenticator.memory.cache.entry = none := by
      rw [ends]
      rfl
    exact ⟨iff_of_true (forgets_of_empty empty) rfl, nofun⟩
  | true =>
    rw [submission] at ends
    -- nobody looked at the status
    have kept : (c.perform operation).2.authenticator.memory.cache.entry =
        some ⟨token, fetched⟩ := by
      rw [ends]
      exact entry
    refine ⟨iff_of_false (fun forgets => ?_) nofun, fun _ => keeps_of_entry kept⟩
    cases kept.symm.trans forgets.empty

end

end Client

/-! ## A sample -/

namespace Sample

/-- A bundle with one message. -/
def bundle : Bundle :=
  .ofMessages [.facilityCode
    { facility := "F1"
      lenderType := "BANK"
      code := "A"
      effective := ⟨2025, 1, 1, by decide⟩
      additional := [] }]

/-- A client that has got a token. The backend has yet to answer. -/
def client (replies : List Reply) : Client Authenticator where
  settings := backend
  wire := .ofReplies replies
  source :=
    { Authenticator.new settings [] with
      memory := (Memory.empty settings.tokenTtl).commit ⟨0⟩ (.ok "abc") }
  desk := .direct

end Sample

namespace Client

/-! ## The main statement -/

/-- When the backend refuses a token, the client forgets it unless it went with a bundle, whether
attempts of the authenticator are repeated or not. A token that went with a bundle is kept. -/
theorem refused_token_is_forgotten_iff (α : Type) :
    (∀ (c : Client Authenticator) (operation : Operation α) (token : String),
        c.desk = .direct → c.Refused operation token →
          ((c.perform operation).2.Forgets ↔ operation.isSubmission = false) ∧
            (operation.isSubmission = true → (c.perform operation).2.Keeps token)) ∧
      ∀ (c : Client (Retrying Authenticator)) (operation : Operation α) (token : String),
        c.desk = .direct → c.Refused operation token →
          ((c.perform operation).2.Forgets ↔ operation.isSubmission = false) ∧
            (operation.isSubmission = true → (c.perform operation).2.Keeps token) := by
  constructor
  · intro c operation token direct refused
    exact forgets_iff direct refused
  · intro c operation token direct refused
    exact forgets_iff direct refused

/-- A reading is refused, and the client forgets the token. -/
theorem refused_reading_is_forgotten :
    let client := Sample.client [.ok (.new 401 "Unauthorized")]
    let reading : Operation Json := .get "Deal" .deal some
    client.desk = .direct ∧ client.Refused reading "abc" ∧ (client.perform reading).2.Forgets := by
  intro client reading
  have refused : client.Refused reading "abc" := ⟨⟨_, rfl, rfl⟩, _, rfl, rfl⟩
  obtain ⟨forgets, _⟩ := (refused_token_is_forgotten_iff Json).1 client reading "abc" rfl refused
  exact ⟨rfl, refused, forgets.mpr rfl⟩

/-- A submission is refused, and the client does not forget the token. -/
theorem refused_submission_is_not_forgotten :
    ¬ ∀ (c : Client Authenticator) (operation : Operation Json) (token : String),
      c.desk = .direct → c.Refused operation token → (c.perform operation).2.Forgets := by
  intro always
  have refused : (Sample.client [.ok (.new 401 "Unauthorized")]).Refused
      (.submit Sample.bundle : Operation Json) "abc" := ⟨⟨_, rfl, rfl⟩, _, rfl, rfl⟩
  have empty := (always _ _ _ rfl refused).empty
  have kept : ((Sample.client [.ok (.new 401 "Unauthorized")]).perform
      (.submit Sample.bundle : Operation Json)).2.authenticator.memory.cache.entry =
        some ⟨"abc", ⟨0⟩⟩ := rfl
  cases kept.symm.trans empty

end Client

end LoanGateway
