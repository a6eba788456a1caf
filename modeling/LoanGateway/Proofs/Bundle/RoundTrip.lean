import LoanGateway.Proofs.Bundle.Messages

/-!
# Written bundles are read back

A bundle comes back from its text as it was, without its queue, exactly if its amounts are numbers,
the years of its dates have at most four digits and no further attribute of a message takes the name
of one of its members.

- `Bundle.IsProper`: what holds of every bundle that a program can hold.
- `Bundle.IsWritable`: the three conditions.
- `Bundle.IsReread`, `Bundle.ofText_text_iff`: what is read from the text of a bundle.
- `Bundle.text_roundTrip_iff`: when that is the bundle, and when it is equal to it.
-/

namespace LoanGateway

open Json

namespace Message

/-- What is read from a list of written messages. -/
theorem listOfDraft_eq_ok_iff {ms ms' : List Message} {room : Nat}
    (canonical : ∀ m ∈ ms, (Json.object m.additional).IsCanonical)
    (fits : (Json.array (ms.map toJson)).depth ≤ room + 2) :
    listOfDraft (room + 2) (.ofJson (.array (ms.map toJson))) = .ok ms' ↔
      List.Forall₂ (fun m m' => m.IsWritable ∧ m.IsReread m') ms ms' := by
  have inside : ∀ m ∈ ms, m.toJson.depth ≤ room + 1 := fun m mem =>
    depth_array_le_iff.mp fits m.toJson (List.mem_map_of_mem mem)
  have each : ∀ m ∈ ms, ∀ m', ofDraft (room + 1) (.ofJson m.toJson) = .ok m' ↔
      m.IsWritable ∧ m.IsReread m' := fun m mem m' =>
    ofDraft_eq_ok_iff (canonical m mem) (inside m mem)
  rw [← forall₂_congr_mem each, Draft.ofJson, Draft.ofItems_eq_map, List.map_map, listOfDraft,
    bind_eq_ok_iff]
  simp only [mapM_eq_ok_iff, List.forall₂_map_left_iff]
  exact ⟨by rintro ⟨_, all, ⟨⟩⟩; exact all, fun all => ⟨_, all, rfl⟩⟩

end Message

namespace Bundle

/-- A bundle as programs hold it. -/
structure IsProper (b : Bundle) : Prop where
  initialStatus : b.initialStatus < 4294967296
  additional : ∀ m ∈ b.messages, (Json.object m.additional).IsProper

/-- The dates of a bundle and of its messages. -/
def dates (b : Bundle) : List Date := b.postingDate.toList ++ b.messages.flatMap Message.dates

/-- A bundle of which nothing is lost in writing, apart from the queue. -/
structure IsWritable (b : Bundle) : Prop where
  messages : ∀ m ∈ b.messages, m.IsWritable
  dates : ∀ d ∈ b.dates, 0 ≤ d.year ∧ d.year ≤ 9999

/-- The second bundle is the first one without its queue and with its dates as they are read from
their texts. -/
def IsReread (b b' : Bundle) : Prop :=
  ∃ postingDate messages,
    Option.Rel (fun d d' => Date.parse d.text = .ok d') b.postingDate postingDate ∧
      List.Forall₂ (fun m m' => m.IsWritable ∧ m.IsReread m') b.messages messages ∧
        { b with postingDate, messages, queue := none } = b'

variable {b b' : Bundle}

theorem readPostingDate_eq_ok_iff {d : Date} {d? : Option Date} :
    readPostingDate (.string (some d.text)) = .ok d? ↔
      ∃ d', Date.parse d.text = .ok d' ∧ some d' = d? := by
  have read : Draft.readOptional Draft.readText (.string (some d.text)) = .ok (some d.text) := rfl
  rw [readPostingDate, read]
  cases parsed : Date.parse d.text <;>
    simp [bind, Except.bind, parsed, Except.mapError, Except.map]

/-- What is read from the members that a bundle is written with. -/
theorem ofObject_eq_ok_iff {room status : Nat} {portfolio initiator : String} {asApiUser : Bool}
    {d? : Option Date} {list : Draft} (small : status < 4294967296) :
    ofObject room
        ([("PortfolioIdentifier", .string (some portfolio)),
          ("InitialBundleStatusCode", .number (some (.natural status))),
          ("InitiatingUserName", .string (some initiator)),
          ("UseAPIUserIndicator", .bool asApiUser)] ++
          (d?.toList.map fun d => ("PostingDate", .string (some d.text))) ++
          [("BundleMessageList", list)]) true = .ok b' ↔
      ∃ postingDate messages, Option.Rel (fun d d' => Date.parse d.text = .ok d') d? postingDate ∧
        Message.listOfDraft room list = .ok messages ∧
          ⟨portfolio, status, initiator, asApiUser, postingDate, messages, none⟩ = b' := by
  have text (s : String) : Draft.readText (.string (some s)) = .ok s := rfl
  have flag (b : Bool) : Draft.readBool (.bool b) = .ok b := rfl
  have code : readStatus (.number (some (.natural status))) = .ok status := by
    rw [readStatus, Draft.readNatural, if_pos small]
  rw [ofObject]
  -- the checks come first, so what is read below has been read before
  cases d? with
  | none =>
    calc _ ↔ (∃ ms, Message.listOfDraft room list = .ok ms) ∧
          ∃ ms, Message.listOfDraft room list = .ok ms ∧
            ⟨portfolio, status, initiator, asApiUser, none, ms, none⟩ = b' := by
          simp [-bind_pure_comp, -Bool.exists_bool, checkMembers, check?, accepts, map_eq_ok_iff,
            bind_eq_ok_iff, readField_cons, List.lookup_cons, pure, Except.pure, text, flag, code]
      _ ↔ _ := by
          constructor
          · rintro ⟨_, ms, read, rfl⟩
            exact ⟨none, ms, .none, read, rfl⟩
          · rintro ⟨_, ms, ⟨⟩, read, rfl⟩
            exact ⟨⟨_, read⟩, ms, read, rfl⟩
  | some d =>
    calc _ ↔ (∃ d', Date.parse d.text = .ok d') ∧ (∃ ms, Message.listOfDraft room list = .ok ms) ∧
          ∃ d', Date.parse d.text = .ok d' ∧ ∃ ms, Message.listOfDraft room list = .ok ms ∧
            ⟨portfolio, status, initiator, asApiUser, some d', ms, none⟩ = b' := by
          simp [-bind_pure_comp, -Bool.exists_bool, checkMembers, check?, accepts, map_eq_ok_iff,
            bind_eq_ok_iff, readField_cons, List.lookup_cons, pure, Except.pure, text, flag, code,
            readPostingDate_eq_ok_iff]
      _ ↔ _ := by
          constructor
          · rintro ⟨_, _, d', parsed, ms, read, rfl⟩
            exact ⟨some d', ms, .some parsed, read, rfl⟩
          · rintro ⟨_, ms, ⟨parsed⟩, read, rfl⟩
            exact ⟨⟨_, parsed⟩, ⟨_, read⟩, _, parsed, ms, read, rfl⟩

theorem ofJson_object (members : List (String × Json)) :
    ofJson (.object members) =
      ofObject 126 (members.map fun a => (a.1, Draft.ofJson a.2)) true := by
  have limit : nestingLimit = 126 + 1 := rfl
  rw [ofJson, Draft.ofJson, limit, ofDraft, Draft.ofMembers_eq_map, Draft.namedMembers,
    List.map_map]
  rfl

/-- What is read from a written bundle. -/
theorem ofJson_eq_ok_iff (proper : b.IsProper) (fits : b.toJson.depth ≤ nestingLimit) :
    ofJson b.toJson = .ok b' ↔ b.IsReread b' := by
  have canonical : ∀ m ∈ b.messages, (Json.object m.additional).IsCanonical :=
    fun m mem => (proper.additional m mem).canonical
  have inside : (Json.array (b.messages.map Message.toJson)).depth ≤ 126 := by
    refine depth_object_le_iff.mp fits ("BundleMessageList", _) ?_
    exact List.mem_append_right _ (List.mem_singleton.mpr rfl)
  have list {ms : List Message} :
      Message.listOfDraft 126 (.ofJson (.array (b.messages.map Message.toJson))) = .ok ms ↔
        List.Forall₂ (fun m m' => m.IsWritable ∧ m.IsReread m') b.messages ms :=
    Message.listOfDraft_eq_ok_iff canonical inside
  unfold IsReread
  rw [toJson, ofJson_object, ← exists_congr fun d? => exists_congr fun ms => and_congr_right fun _ =>
    and_congr_left fun _ => list, ← ofObject_eq_ok_iff proper.initialStatus]
  cases b.postingDate <;> rfl

/-- The numbers of a written bundle are in range. -/
theorem numbers_isProper (proper : b.IsProper) : ∀ n ∈ b.toJson.numbers, n.IsProper := by
  intro n mem
  obtain ⟨a, mem_a, mem_n⟩ := mem_numbers_object.mp mem
  rcases List.mem_append.mp mem_a with mem_a | mem_a
  · rcases List.mem_append.mp mem_a with mem_a | mem_a
    · have status : Number.IsProper (.natural b.initialStatus) :=
        Nat.lt_trans proper.initialStatus (by decide)
      simp only [List.mem_cons, List.not_mem_nil, or_false] at mem_a
      rcases mem_a with rfl | rfl | rfl | rfl <;> simp [numbers] at mem_n
      exact mem_n ▸ status
    · obtain ⟨d, _, rfl⟩ := List.mem_map.mp mem_a
      exact absurd mem_n List.not_mem_nil
  · obtain rfl := List.mem_singleton.mp mem_a
    obtain ⟨v, mem_v, mem_n⟩ := mem_numbers_array.mp mem_n
    obtain ⟨m, mem_m, rfl⟩ := List.mem_map.mp mem_v
    exact Message.numbers_isProper (proper.additional m mem_m).numbers n mem_n

/-- What is read from the text of a bundle. -/
theorem ofText_text_iff (proper : b.IsProper) (fits : b.toJson.depth ≤ nestingLimit)
    (fractions : ∀ x, .real x ∈ b.toJson.numbers → (Number.real x).ReadsBack) :
    ofText b.text = .ok b' ↔ b.IsReread b' := by
  have back := readsBack_of_isProper (numbers_isProper proper) fractions
  rw [ofText, text, readDocument_text _ back]
  exact ofJson_eq_ok_iff proper fits

/-- A bundle is itself after reading, but for its queue, if nothing of it is lost in writing. -/
theorem isReread_self_iff : b.IsReread { b with queue := none } ↔ b.IsWritable := by
  have posting : Option.Rel (fun d d' => Date.parse d.text = .ok d') b.postingDate b.postingDate ↔
      ∀ d ∈ b.postingDate.toList, 0 ≤ d.year ∧ d.year ≤ 9999 := by
    simp only [← Date.parse_text_iff]
    cases b.postingDate with
    | none => exact ⟨fun _ => List.forall_mem_nil _, fun _ => .none⟩
    | some d =>
      rw [Option.toList_some, List.forall_mem_singleton]
      exact ⟨fun | .some parsed => parsed, fun parsed => .some parsed⟩
  have messages : List.Forall₂ (fun m m' => m.IsWritable ∧ m.IsReread m') b.messages b.messages ↔
      (∀ m ∈ b.messages, m.IsWritable) ∧
        ∀ d ∈ b.messages.flatMap Message.dates, 0 ≤ d.year ∧ d.year ≤ 9999 := by
    simp only [List.forall₂_same, Message.isReread_self_iff, List.mem_flatMap]
    constructor
    · intro all
      exact ⟨fun m mem => (all m mem).1, fun d ⟨m, mem, inside⟩ => (all m mem).2 d inside⟩
    · rintro ⟨writable, days⟩ m mem
      exact ⟨writable m mem, fun d inside => days d ⟨m, mem, inside⟩⟩
  constructor
  · rintro ⟨postingDate, ms, first, others, same⟩
    obtain rfl : postingDate = b.postingDate := congrArg Bundle.postingDate same
    obtain rfl : ms = b.messages := congrArg Bundle.messages same
    obtain ⟨writable, days⟩ := messages.mp others
    exact ⟨writable, List.forall_mem_append.mpr ⟨posting.mp first, days⟩⟩
  · rintro ⟨writable, all⟩
    obtain ⟨first, days⟩ := List.forall_mem_append.mp all
    exact ⟨_, _, posting.mpr first, messages.mpr ⟨writable, days⟩, rfl⟩

/-- If what is read is equal to the bundle without its queue, it is that bundle. -/
theorem IsReread.eq_of_agrees (reread : b.IsReread b')
    (same : b'.agrees { b with queue := none } = true) : b' = { b with queue := none } := by
  have all {ms ms' : List Message}
      (each : List.Forall₂ (fun m m' => m.IsWritable ∧ m.IsReread m') ms ms')
      (agree : (ms'.zip ms).all (fun p => p.1.agrees p.2) = true) : ms' = ms := by
    induction each with
    | nil => rfl
    | cons first _ ih =>
      rw [List.zip_cons_cons, List.all_cons, Bool.and_eq_true] at agree
      rw [first.2.eq_of_agrees agree.1, ih agree.2]
  obtain ⟨postingDate, ms, _, others, rfl⟩ := reread
  simp only [agrees, Bool.and_eq_true, beq_iff_eq] at same
  obtain ⟨⟨⟨⟨_, first⟩, _⟩, agree⟩, _⟩ := same
  rw [first, all others agree]

/-- A bundle of numbers is equal to itself. -/
theorem agrees_self (proper : b.IsProper) (writable : b.IsWritable) : b.agrees b = true := by
  have each : (b.messages.zip b.messages).all (fun p => p.1.agrees p.2) = true := by
    rw [List.zip, List.zipWith_self, List.all_map, List.all_eq_true]
    intro m mem
    exact Message.agrees_self (writable.messages m mem).amounts (proper.additional m mem).numbers
  simp [agrees, each]

/-- Writing a bundle and reading it back gives the bundle without its queue if and only if its
amounts are numbers, the years of its dates have at most four digits and no further attribute takes
the name of a member of its message. That is also when what is read is equal to that bundle. -/
theorem text_roundTrip_iff (proper : b.IsProper) (fits : b.toJson.depth ≤ nestingLimit)
    (fractions : ∀ x, .real x ∈ b.toJson.numbers → (Number.real x).ReadsBack) :
    (ofText b.text = .ok { b with queue := none } ↔ b.IsWritable) ∧
      ((∃ b', ofText b.text = .ok b' ∧ b'.agrees { b with queue := none } = true) ↔
        b.IsWritable) := by
  have read {b' : Bundle} : ofText b.text = .ok b' ↔ b.IsReread b' :=
    ofText_text_iff proper fits fractions
  have itself : ofText b.text = .ok { b with queue := none } ↔ b.IsWritable :=
    read.trans isReread_self_iff
  refine ⟨itself, ?_, ?_⟩
  · rintro ⟨b', got, same⟩
    -- only dates can come back as other ones, and dates are equal only if they are the same
    rw [(read.mp got).eq_of_agrees same] at got
    exact itself.mp got
  · intro writable
    exact ⟨_, itself.mpr writable, agrees_self ⟨proper.1, proper.2⟩ ⟨writable.1, writable.2⟩⟩

end Bundle

namespace Sample

/-- A loan with attributes of its own and a change of a code, for a queue. -/
def drawdown : Bundle where
  portfolio := "E1"
  initialStatus := 3
  initiator := "APIUKEF"
  asApiUser := false
  postingDate := some ⟨2024, 2, 29, by decide⟩
  messages :=
    [.newLoan {
      facility := "0000000001"
      borrower := "00000007"
      currency := "GBP"
      amount := 250000.5
      effective := ⟨2024, 3, 1, by decide⟩
      maturity := ⟨9999, 12, 31, by decide⟩
      additional :=
        [("Grace", .number (.negative 5)),
          ("Team", .object [("Lead", .null), ("Size", .number (.natural 4))])] },
    .facilityCode {
      facility := "0000000001"
      lenderType := "100"
      code := "C"
      effective := ⟨2024, 3, 1, by decide⟩
      additional := [] }]
  queue := some "12"

end Sample

namespace Bundle

/-- A bundle with an amount, dates, further attributes and a queue is read back without the queue. -/
theorem drawdown_reads_back :
    Sample.drawdown.IsProper ∧ Sample.drawdown.toJson.depth ≤ nestingLimit ∧
      (∀ x, .real x ∈ Sample.drawdown.toJson.numbers → (Number.real x).ReadsBack) ∧
        ofText Sample.drawdown.text = .ok { Sample.drawdown with queue := none } := by
  have proper : Sample.drawdown.IsProper := by
    refine ⟨by decide, List.forall_mem_cons.mpr ⟨⟨?_, ?_⟩, List.forall_mem_singleton.mpr ⟨?_, ?_⟩⟩⟩
    · exact ⟨by decide, trivial, ⟨by decide, trivial, trivial, trivial⟩, trivial⟩
    · exact List.forall_mem_cons.mpr ⟨by decide, List.forall_mem_singleton.mpr (by decide)⟩
    · exact ⟨List.Pairwise.nil, trivial⟩
    · exact List.forall_mem_nil _
  have fits : Sample.drawdown.toJson.depth ≤ nestingLimit := by decide
  have fractions : ∀ x, .real x ∈ Sample.drawdown.toJson.numbers → (Number.real x).ReadsBack := by
    have all : Sample.drawdown.toJson.numbers =
        [.natural 3, .real 250000.5, .negative 5, .natural 4] := rfl
    intro x mem
    obtain rfl : x = 250000.5 := by simpa [all] using mem
    have written : (Number.real 250000.5).text = "250000.5".toList := by decide +kernel
    exact ⟨⟨false, "250000".toList, "5".toList, none⟩, by rw [written]; rfl, rfl⟩
  have writable : Sample.drawdown.IsWritable := by
    refine ⟨List.forall_mem_cons.mpr ⟨⟨?_, ?_⟩, List.forall_mem_singleton.mpr ⟨?_, ?_⟩⟩, ?_⟩
    all_goals decide
  exact ⟨proper, fits, fractions, (text_roundTrip_iff proper fits fractions).1.mpr writable⟩

end Bundle

end LoanGateway
