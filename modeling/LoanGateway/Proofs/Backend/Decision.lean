import LoanGateway.Proofs.Backend.Bodies

/-!
# The decision table of verdicts

A verdict is decided by the status, by what the body stands for and, for one status, by whether a
phrase occurs in a text. Phrases are only looked for: it does not matter in what order they are given
or how often, and more of them can only turn a bad request into an absent resource.

- `Backend.Holds`: a text with one of some phrases in it.
- `Backend.Decides`: the decision table.
- `Backend.Decides.congr`, `Backend.Decides.mono`: what of the phrases counts.
- `Backend.verdict_by_table`: the main statement.
-/

namespace LoanGateway.Backend

variable {phrases others : List String} {raw s : String} {status : Nat} {e : GatewayError}

/-! ## Phrases -/

/-- One of the phrases stands somewhere in the text. -/
def Holds (phrases : List String) (s : String) : Prop :=
  ∃ phrase ∈ phrases, phrase.toList <:+: s.toList

theorem mentions_iff_holds : mentions s phrases = true ↔ Holds phrases s := by
  rw [mentions, List.any_eq_true]
  exact exists_congr fun phrase => and_congr_right fun _ => Text.occursIn_iff

/-- More phrases occur in more texts. -/
theorem Holds.mono (holds : Holds phrases s) (more : phrases ⊆ others) : Holds others s := by
  obtain ⟨phrase, mem, occurs⟩ := holds
  exact ⟨phrase, more mem, occurs⟩

/-- A phrase that contains another one occurs in no other texts. -/
theorem Holds.of_longer (holds : Holds others s)
    (longer : ∀ other ∈ others, ∃ phrase ∈ phrases, phrase.toList <:+: other.toList) :
    Holds phrases s := by
  obtain ⟨other, mem, occurs⟩ := holds
  obtain ⟨phrase, mem, contained⟩ := longer other mem
  exact ⟨phrase, mem, contained.trans occurs⟩

/-! ## The table -/

/-- The error of an answer with a status and a body. -/
inductive Decides (phrases : List String) (raw : String) : Nat → GatewayError → Prop
  | null (is : Body.IsFrom raw .null) :
      Decides phrases raw 200 (.notFound (some "backend returned null"))
  | unexpected {body : Body} (is : Body.IsFrom raw body) (not_null : body ≠ .null) :
      Decides phrases raw 200 (.internal unexpectedAnswer)
  | absent {s : String} (is : Body.IsFrom raw (.text s)) (holds : Holds phrases s) :
      Decides phrases raw 400 (.notFound (some s))
  | bad {body : Body} (is : Body.IsFrom raw body)
      (none_holds : ∀ s, body = .text s → ¬ Holds phrases s) :
      Decides phrases raw 400 (.badRequest body.words)
  | fault {status : Nat} (not_ok : status ≠ 200) (not_bad : status ≠ 400) :
      Decides phrases raw status (.internal ("backend responded with status " ++ toString status))

theorem badRequestVerdict_of_holds (holds : Holds phrases s) :
    badRequestVerdict phrases (.text s) = .notFound (some s) := by
  rw [badRequestVerdict, if_pos (mentions_iff_holds.mpr holds)]

theorem badRequestVerdict_of_not_holds {body : Body}
    (none_holds : ∀ s, body = .text s → ¬ Holds phrases s) :
    badRequestVerdict phrases body = .badRequest body.words := by
  cases body with
  | null => rfl
  | structured value => rfl
  | text s =>
    have unmentioned : ¬ mentions s phrases = true := by
      rw [mentions_iff_holds]
      exact none_holds s rfl
    rw [badRequestVerdict, if_neg unmentioned]
    rfl

theorem Decides.verdict_eq (decides : Decides phrases raw status e) :
    verdict status raw phrases = e := by
  unfold verdict
  cases decides with
  | null is =>
    rw [Body.read_eq_iff_isFrom.mpr is]
    rfl
  | @unexpected body is not_null =>
    rw [Body.read_eq_iff_isFrom.mpr is]
    cases body with
    | null => exact absurd rfl not_null
    | text | structured => rfl
  | absent is holds =>
    rw [Body.read_eq_iff_isFrom.mpr is]
    exact badRequestVerdict_of_holds holds
  | bad is none_holds =>
    rw [Body.read_eq_iff_isFrom.mpr is]
    exact badRequestVerdict_of_not_holds none_holds
  | fault not_ok not_bad =>
    split
    · exact absurd rfl not_ok
    · exact absurd rfl not_ok
    · exact absurd rfl not_bad
    · rfl

/-- Every answer is in the table. -/
theorem exists_decides (phrases : List String) (raw : String) (status : Nat) :
    ∃ e, Decides phrases raw status e := by
  have is := Body.isFrom_read raw
  by_cases ok : status = 200
  · subst ok
    by_cases null : Body.read raw = .null
    · rw [null] at is
      exact ⟨_, .null is⟩
    · exact ⟨_, .unexpected is null⟩
  by_cases bad : status = 400
  · subst bad
    by_cases absent : ∃ s, Body.read raw = .text s ∧ Holds phrases s
    · obtain ⟨s, text, holds⟩ := absent
      rw [text] at is
      exact ⟨_, .absent is holds⟩
    · exact ⟨_, .bad is fun s text holds => absent ⟨s, text, holds⟩⟩
  exact ⟨_, .fault ok bad⟩

/-- The verdict is the error of the table. -/
theorem verdict_eq_iff_decides : verdict status raw phrases = e ↔ Decides phrases raw status e := by
  constructor
  · rintro rfl
    obtain ⟨e, decides⟩ := exists_decides phrases raw status
    rw [decides.verdict_eq]
    exact decides
  · exact Decides.verdict_eq

/-- A resource is absent by `null`, or by a text with a phrase in it. -/
theorem decides_notFound_iff :
    (∃ detail, Decides phrases raw status (.notFound detail)) ↔
      status = 200 ∧ Body.IsFrom raw .null ∨
        status = 400 ∧ ∃ s, Body.IsFrom raw (.text s) ∧ Holds phrases s := by
  constructor
  · rintro ⟨detail, decides⟩
    cases decides with
    | null is => exact .inl ⟨rfl, is⟩
    | absent is holds => exact .inr ⟨rfl, _, is, holds⟩
  · rintro (⟨rfl, is⟩ | ⟨rfl, s, is, holds⟩)
    · exact ⟨_, .null is⟩
    · exact ⟨_, .absent is holds⟩

/-- A request is bad by its status, unless the resource is absent. -/
theorem decides_badRequest_iff :
    (∃ detail, Decides phrases raw status (.badRequest detail)) ↔
      status = 400 ∧ ¬ ∃ s, Body.IsFrom raw (.text s) ∧ Holds phrases s := by
  constructor
  · rintro ⟨detail, decides⟩
    cases decides with
    | bad is none_holds =>
      refine ⟨rfl, ?_⟩
      rintro ⟨s, is_text, holds⟩
      exact none_holds s (is.unique is_text) holds
  · rintro ⟨rfl, none_holds⟩
    have is := Body.isFrom_read raw
    refine ⟨_, .bad is fun s text holds => none_holds ⟨s, ?_, holds⟩⟩
    rwa [text] at is

/-- No answer is about signing in. -/
theorem not_decides_authentication (error : SignInError) :
    ¬ Decides phrases raw status (.authentication error) := by
  intro decides
  cases decides

/-! ## Sets of phrases -/

/-- Phrases that occur in the same texts give the same error. -/
theorem Decides.congr (decides : Decides phrases raw status e)
    (same : ∀ s, Holds phrases s ↔ Holds others s) : Decides others raw status e := by
  cases decides with
  | null is => exact .null is
  | unexpected is not_null => exact .unexpected is not_null
  | absent is holds => exact .absent is ((same _).mp holds)
  | bad is none_holds => exact .bad is fun s text holds => none_holds s text ((same s).mpr holds)
  | fault not_ok not_bad => exact .fault not_ok not_bad

/-- Phrases that occur in more texts give the same error, or what was a bad request is absent. -/
theorem Decides.mono (decides : Decides phrases raw status e)
    (more : ∀ s, Holds phrases s → Holds others s) :
    Decides others raw status e ∨
      ∃ detail, e = .badRequest detail ∧ Decides others raw status (.notFound (some detail)) := by
  cases decides with
  | null is => exact .inl (.null is)
  | unexpected is not_null => exact .inl (.unexpected is not_null)
  | absent is holds => exact .inl (.absent is (more _ holds))
  | fault not_ok not_bad => exact .inl (.fault not_ok not_bad)
  | @bad body is none_holds =>
    by_cases found : ∃ s, body = .text s ∧ Holds others s
    · obtain ⟨s, rfl, holds⟩ := found
      exact .inr ⟨s, rfl, .absent is holds⟩
    · exact .inl (.bad is fun s text holds => found ⟨s, text, holds⟩)

/-! ## The main statement -/

/-- The verdict on an answer is what the table says. Of the phrases only their set counts. More of
them leave a verdict as it is, or they turn a bad request into an absent resource with the same
detail, and phrases that contain one that was there before change nothing. -/
theorem verdict_by_table :
    (∀ (status : Nat) (raw : String) (phrases : List String) (e : GatewayError),
        verdict status raw phrases = e ↔ Decides phrases raw status e) ∧
      (∀ phrases others : List String, (∀ phrase, phrase ∈ phrases ↔ phrase ∈ others) →
        ∀ status raw, verdict status raw phrases = verdict status raw others) ∧
      (∀ phrases others : List String, phrases ⊆ others → ∀ status raw,
        verdict status raw others = verdict status raw phrases ∨
          ∃ detail, verdict status raw phrases = .badRequest detail ∧
            verdict status raw others = .notFound (some detail)) ∧
      ∀ phrases others : List String, phrases ⊆ others →
        (∀ other ∈ others, ∃ phrase ∈ phrases, phrase.toList <:+: other.toList) →
        ∀ status raw, verdict status raw others = verdict status raw phrases := by
  refine ⟨fun _ _ _ _ => verdict_eq_iff_decides, ?_, ?_, ?_⟩
  · intro phrases others same status raw
    obtain ⟨e, decides⟩ := exists_decides others raw status
    rw [decides.verdict_eq]
    refine (decides.congr fun s => ⟨?_, ?_⟩).verdict_eq
    · exact fun holds => holds.mono fun phrase mem => (same phrase).mpr mem
    · exact fun holds => holds.mono fun phrase mem => (same phrase).mp mem
  · intro phrases others more status raw
    obtain ⟨e, decides⟩ := exists_decides phrases raw status
    rw [decides.verdict_eq]
    rcases decides.mono fun s holds => holds.mono more with same | ⟨detail, bad, absent⟩
    · exact .inl same.verdict_eq
    · exact .inr ⟨detail, bad, absent.verdict_eq⟩
  · intro phrases others more longer status raw
    obtain ⟨e, decides⟩ := exists_decides phrases raw status
    rw [decides.verdict_eq]
    exact (decides.congr fun s =>
      ⟨fun holds => holds.mono more, fun holds => holds.of_longer longer⟩).verdict_eq

end LoanGateway.Backend

namespace LoanGateway.Sample

/-- A body with a structure, in which a phrase stands. -/
def refusedLoan : String :=
  "\x7b\"loan\" : [7, -12.50e1], \"error\" : \"it does n\\u006Ft exist\"\x7d"

end LoanGateway.Sample

namespace LoanGateway.Backend

/-- A loan is unknown in other words than expected, until those words are a phrase too. After that it
does not matter how the phrases are listed, nor whether longer ones are. In a body with a structure
the same words tell of a bad request, and the detail is what the body holds, written anew. -/
theorem unknown_loan_by_phrases :
    let raw := "Loan does not exist"
    let phrases := ["does not exist", "not found"]
    (∃ detail, verdict 400 raw ["not found"] = .badRequest detail ∧
        verdict 400 raw phrases = .notFound (some detail)) ∧
      verdict 400 raw ["not found", "does not exist", "not found"] = .notFound (some raw) ∧
      verdict 400 raw ("Loan does not exist" :: phrases) = .notFound (some raw) ∧
      verdict 400 Sample.refusedLoan phrases =
        .badRequest "\x7b\"error\":\"it does not exist\",\"loan\":[7,-125.0]\x7d" := by
  intro raw phrases
  obtain ⟨table, sets, more, longer⟩ := verdict_by_table
  have read : Body.read "Loan does not exist" = .text "Loan does not exist" := rfl
  have plain : Body.IsFrom raw (.text raw) := Body.read_eq_iff_isFrom.mp read
  have bad : verdict 400 raw ["not found"] = .badRequest raw := by
    refine (table _ _ _ _).mpr (.bad plain fun s text holds => ?_)
    cases text
    exact absurd (mentions_iff_holds.mpr holds) (by decide)
  have absent : verdict 400 raw phrases = .notFound (some raw) :=
    (table _ _ _ _).mpr (.absent plain (mentions_iff_holds.mp (by decide)))
  refine ⟨?_, ?_, ?_, ?_⟩
  · rcases more ["not found"] phrases (by simp [phrases]) 400 raw with same | changed
    · rw [bad, absent] at same
      cases same
    · exact changed
  · rw [← absent]
    exact sets _ _ (by simp [phrases, or_comm]) 400 raw
  · rw [← absent]
    refine longer _ _ (List.subset_cons_self _ _) (List.forall_mem_cons.mpr ⟨?_, ?_⟩) 400 raw
    · exact ⟨"does not exist", List.mem_cons_self, Text.occursIn_iff.mp (by decide)⟩
    · exact fun phrase mem => ⟨phrase, mem, List.infix_refl _⟩
  · have words : (Body.read Sample.refusedLoan).words =
        "\x7b\"error\":\"it does not exist\",\"loan\":[7,-125.0]\x7d" := by decide +kernel
    have structured : (Body.read Sample.refusedLoan).value?.isSome = true := by decide +kernel
    rw [← words]
    refine (table _ _ _ _).mpr (.bad (Body.isFrom_read _) fun s text => ?_)
    rw [text] at structured
    exact nomatch structured

end LoanGateway.Backend
