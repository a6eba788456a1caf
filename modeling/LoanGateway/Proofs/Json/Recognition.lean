import LoanGateway.Proofs.Json.Lexemes
import LoanGateway.Proofs.Json.Structure

/-!
# Texts are read by the grammar

A text of the grammar is read to its end and as its draft, and no other text is. A reader of values is
as exact within its limits: it takes the texts of values that nest no deeper than allowed.

- `HasTokens`, `ReadsAs`, `ReadsInside`: the tokens of a part, and what they are read as.
- `exists_tokens_of_spells`: every part of a text has tokens that are read as it.
- `exists_spells_of_read`: what is read is spelled.
- `ofText_eq_iff_isText`: the texts that are read to their end.
- `parse?_eq_some_iff_isText`: the texts that have a value.
-/

namespace LoanGateway.Json

open NumberLiteral

/-! ## What may follow a number -/

/-- What follows a value within an array or object does not go on with a number. -/
theorem ends_cons {c : Char} {rest : List Char}
    (mark : c = ',' ∨ c = ']' ∨ c = '\x7d') : Ends (c :: rest) := by
  rcases mark with rfl | rfl | rfl
  all_goals exact ⟨rfl, by simp, by simp, by simp⟩

/-- Nor do blanks in front of what follows. -/
theorem ends_append {spaces rest : List Char} (are : IsSpaces spaces) (ends : Ends rest) :
    Ends (spaces ++ rest) := by
  cases spaces with
  | nil => exact ends
  | cons c spaces =>
    have space : isSpace c = true := are c List.mem_cons_self
    simp only [isSpace, Bool.or_eq_true, beq_iff_eq] at space
    rcases space with ((rfl | rfl) | rfl) | rfl
    all_goals exact ⟨rfl, by simp, by simp, by simp⟩

/-! ## The tokens of a text -/

/-- The text gives these tokens, whatever follows that does not go on with a number. -/
def HasTokens (s : List Char) (ts : List Token) : Prop :=
  ∀ {rest : List Char}, Ends rest → tokens (s ++ rest) = ts ++ tokens rest

namespace HasTokens

variable {s s' spaces : List Char} {ts ts' : List Token}

theorem spaces_append (are : IsSpaces spaces) (has : HasTokens s ts) :
    HasTokens (spaces ++ s) ts := by
  intro rest ends
  rw [List.append_assoc, tokens_spaces are, has ends]

theorem append_spaces (are : IsSpaces spaces) (has : HasTokens s ts) :
    HasTokens (s ++ spaces) ts := by
  intro rest ends
  rw [List.append_assoc, has (ends_append are ends), tokens_spaces are]

/-- What stands between a mark that opens and a mark that closes. -/
theorem enclosed {left right : Char} {opens closes : Token} (opening : mark? left = some opens)
    (closing : mark? right = some closes) (follows : right = ']' ∨ right = '\x7d')
    (has : HasTokens s ts) : HasTokens (left :: (s ++ [right])) (opens :: (ts ++ [closes])) := by
  intro rest ends
  have follows : Ends (right :: rest) := ends_cons (.inr follows)
  have inside := has follows
  rw [tokens_mark closing] at inside
  rw [List.cons_append, tokens_mark opening, List.append_assoc, List.singleton_append, inside]
  simp

/-- What stands before and behind a comma. -/
theorem comma (first : HasTokens s ts) (second : HasTokens s' ts') :
    HasTokens (s ++ ',' :: s') (ts ++ .comma :: ts') := by
  intro rest ends
  rw [List.append_assoc, List.cons_append, first (ends_cons (.inl rfl)), tokens_mark rfl,
    second ends, List.append_assoc, List.cons_append]

/-- A name, a colon and a value. -/
theorem member {name : Option String} {before key between : List Char}
    (before_are : IsSpaces before) (key_is : SpellsString name key)
    (between_are : IsSpaces between) (has : HasTokens s ts) :
    HasTokens (before ++ (key ++ (between ++ ':' :: s))) (.string name :: .colon :: ts) := by
  refine spaces_append before_are fun {rest} ends => ?_
  rw [List.append_assoc, tokens_of_spellsString key_is, List.append_assoc, tokens_spaces between_are,
    List.cons_append, tokens_mark rfl, has ends]
  rfl

end HasTokens

/-! ## What tokens are read as -/

/-- The tokens begin with something else than a given token. -/
def BeginsBeside (token : Token) (ts : List Token) : Prop :=
  ∃ first rest, ts = first :: rest ∧ first ≠ token

/-- Tokens that are read as a draft, if there is fuel for them, whatever follows. They do not begin
by closing an array. -/
structure ReadsAs (ts : List Token) (d : Draft) : Prop where
  begins : BeginsBeside .closeArray ts
  read : ∀ {fuel : Nat} {rest : List Token}, 2 * ts.length ≤ fuel + 1 →
    readValue fuel (ts ++ rest) = (d, some rest)

/-- Tokens that are read as the parts of an array or object up to its end, if there is fuel for them.
What has no parts is closed at once. -/
inductive ReadsInside {α : Type} (read : Nat → List Token → List α × Option (List Token))
    (close : Token) : List Token → List α → Prop
  | nothing : ReadsInside read close [] []
  | something {ts : List Token} {parts : List α} (begins : BeginsBeside close ts)
      (reads : ∀ {fuel : Nat} {rest : List Token}, 2 * ts.length ≤ fuel →
        read fuel (ts ++ close :: rest) = (parts, some rest)) :
      ReadsInside read close ts parts

variable {ts own : List Token} {d : Draft}

theorem BeginsBeside.length_pos {token : Token} (begins : BeginsBeside token ts) :
    0 < ts.length := by
  obtain ⟨first, rest, rfl, _⟩ := begins
  exact Nat.succ_pos _

/-- A value of a single token. -/
theorem readsAs_token {token : Token} (goes : token ≠ .closeArray)
    (read : ∀ fuel rest, readValue (fuel + 1) (token :: rest) = (d, some rest)) :
    ReadsAs [token] d where
  begins := ⟨token, [], rfl, goes⟩
  read {fuel rest} enough := by
    obtain ⟨fuel, rfl⟩ : ∃ f, fuel = f + 1 :=
      ⟨fuel - 1, by simp only [List.length_singleton] at enough; omega⟩
    exact read fuel rest

/-- An array that is not closed at once has items. -/
theorem readValue_openArray {fuel : Nat} (begins : BeginsBeside .closeArray ts) :
    readValue (fuel + 1) (.openArray :: ts) =
      (.array (readItems fuel ts).1 (readItems fuel ts).2.isSome, (readItems fuel ts).2) := by
  obtain ⟨first, rest, rfl, goes⟩ := begins
  cases first <;> first | rfl | exact absurd rfl goes

/-- An object that is not closed at once has members. -/
theorem readValue_openObject {fuel : Nat} (begins : BeginsBeside .closeObject ts) :
    readValue (fuel + 1) (.openObject :: ts) =
      (.object (readMembers fuel ts).1 (readMembers fuel ts).2.isSome,
        (readMembers fuel ts).2) := by
  obtain ⟨first, rest, rfl, goes⟩ := begins
  cases first <;> first | rfl | exact absurd rfl goes

theorem BeginsBeside.append {token : Token} (begins : BeginsBeside token ts) (more : List Token) :
    BeginsBeside token (ts ++ more) := by
  obtain ⟨first, rest, rfl, goes⟩ := begins
  exact ⟨first, rest ++ more, rfl, goes⟩

theorem readsAs_array {items : List Draft} (inside : ReadsInside readItems .closeArray ts items) :
    ReadsAs (.openArray :: (ts ++ [.closeArray])) (.array items true) where
  begins := ⟨.openArray, _, rfl, nofun⟩
  read {fuel rest} enough := by
    simp only [List.length_append, List.length_cons, List.length_nil] at enough
    obtain ⟨fuel, rfl⟩ : ∃ f, fuel = f + 1 := ⟨fuel - 1, by omega⟩
    cases inside with
    | nothing => rfl
    | something begins reads =>
      rw [List.cons_append, List.append_assoc, List.singleton_append,
        readValue_openArray (begins.append _), reads (by omega)]
      rfl

theorem readsAs_object {members : List (Option String × Draft)}
    (inside : ReadsInside readMembers .closeObject ts members) :
    ReadsAs (.openObject :: (ts ++ [.closeObject])) (.object members true) where
  begins := ⟨.openObject, _, rfl, nofun⟩
  read {fuel rest} enough := by
    simp only [List.length_append, List.length_cons, List.length_nil] at enough
    obtain ⟨fuel, rfl⟩ : ∃ f, fuel = f + 1 := ⟨fuel - 1, by omega⟩
    cases inside with
    | nothing => rfl
    | something begins reads =>
      rw [List.cons_append, List.append_assoc, List.singleton_append,
        readValue_openObject (begins.append _), reads (by omega)]
      rfl

theorem readsInside_lastItem (reads : ReadsAs ts d) :
    ReadsInside readItems .closeArray ts [d] := by
  refine .something reads.begins fun {fuel rest} enough => ?_
  have pos := reads.begins.length_pos
  obtain ⟨fuel, rfl⟩ : ∃ f, fuel = f + 1 := ⟨fuel - 1, by omega⟩
  rw [readItems, reads.read enough]

theorem readsInside_item {more : List Token} {items : List Draft} (reads : ReadsAs ts d)
    (rest : ReadsInside readItems .closeArray more items) (any : items ≠ []) :
    ReadsInside readItems .closeArray (ts ++ .comma :: more) (d :: items) := by
  refine .something (reads.begins.append _) fun {fuel rest'} enough => ?_
  cases rest with
  | nothing => exact absurd rfl any
  | something _ others =>
    simp only [List.length_append, List.length_cons] at enough
    obtain ⟨fuel, rfl⟩ : ∃ f, fuel = f + 1 := ⟨fuel - 1, by omega⟩
    rw [List.append_assoc, List.cons_append, readItems, reads.read (by omega)]
    dsimp only
    rw [others (by omega)]

theorem readsInside_lastMember {name : Option String} (reads : ReadsAs own d) :
    ReadsInside readMembers .closeObject (.string name :: .colon :: own) [(name, d)] := by
  refine .something ⟨_, _, rfl, nofun⟩ fun {fuel rest} enough => ?_
  simp only [List.length_cons] at enough
  obtain ⟨fuel, rfl⟩ : ∃ f, fuel = f + 1 := ⟨fuel - 1, by omega⟩
  rw [List.cons_append, List.cons_append, readMembers, reads.read (by omega)]

theorem readsInside_member {name : Option String} {more : List Token}
    {members : List (Option String × Draft)} (reads : ReadsAs own d)
    (rest : ReadsInside readMembers .closeObject more members) (any : members ≠ []) :
    ReadsInside readMembers .closeObject (.string name :: .colon :: own ++ .comma :: more)
      ((name, d) :: members) := by
  refine .something ⟨_, _, rfl, nofun⟩ fun {fuel rest'} enough => ?_
  cases rest with
  | nothing => exact absurd rfl any
  | something _ others =>
    rw [List.cons_append, List.cons_append] at enough ⊢
    simp only [List.length_append, List.length_cons] at enough
    obtain ⟨fuel, rfl⟩ : ∃ f, fuel = f + 1 := ⟨fuel - 1, by omega⟩
    rw [List.cons_append, List.cons_append, List.append_assoc, List.cons_append, readMembers,
      reads.read (by omega)]
    dsimp only
    rw [others (by omega)]

/-! ## What is spelled is read -/

/-- Tokens that are read as a part of a text. -/
def Part.IsReadFrom : Part → List Token → Prop
  | .value d, ts | .padded d, ts => ReadsAs ts d
  | .member m, ts => ∃ own, ts = .string m.1 :: .colon :: own ∧ ReadsAs own m.2
  | .items ds, ts => ReadsInside readItems .closeArray ts ds
  | .members ms, ts => ReadsInside readMembers .closeObject ts ms

/-- Every part of a text has tokens, and they are read as the part. -/
theorem exists_tokens_of_spells {part : Part} {s : List Char} (spelled : Spells part s) :
    ∃ ts, HasTokens s ts ∧ part.IsReadFrom ts := by
  induction spelled with
  | null => exact ⟨[.null], fun _ => tokens_word rfl rfl rfl, readsAs_token nofun fun _ _ => rfl⟩
  | bool b => exact ⟨[.bool b], fun _ => tokens_bool b, readsAs_token nofun fun _ _ => rfl⟩
  | number literal_is =>
    exact ⟨[.number _], tokens_of_spellsNumber literal_is, readsAs_token nofun fun _ _ => rfl⟩
  | string string_is =>
    exact ⟨[.string _], fun _ => tokens_of_spellsString string_is,
      readsAs_token nofun fun _ _ => rfl⟩
  | array _ ih =>
    obtain ⟨ts, has, reads⟩ := ih
    exact ⟨_, has.enclosed rfl rfl (.inl rfl), readsAs_array reads⟩
  | object _ ih =>
    obtain ⟨ts, has, reads⟩ := ih
    exact ⟨_, has.enclosed rfl rfl (.inr rfl), readsAs_object reads⟩
  | padded before_are _ after_are ih =>
    obtain ⟨ts, has, reads⟩ := ih
    exact ⟨ts, HasTokens.spaces_append before_are (HasTokens.append_spaces after_are has), reads⟩
  | member before_are key_is between_are _ ih =>
    obtain ⟨ts, has, reads⟩ := ih
    exact ⟨_, has.member before_are key_is between_are, ts, rfl, reads⟩
  | noItems are | noMembers are =>
    exact ⟨[], fun _ => tokens_spaces are, .nothing⟩
  | lastItem _ ih =>
    obtain ⟨ts, has, reads⟩ := ih
    exact ⟨ts, has, readsInside_lastItem reads⟩
  | item _ _ ih ihRest =>
    obtain ⟨ts, has, reads⟩ := ih
    obtain ⟨more, hasMore, readsMore⟩ := ihRest
    exact ⟨_, has.comma hasMore, readsInside_item reads readsMore (by simp)⟩
  | lastMember _ ih =>
    obtain ⟨_, has, own, rfl, reads⟩ := ih
    exact ⟨_, has, readsInside_lastMember reads⟩
  | moreMembers _ _ ih ihRest =>
    obtain ⟨_, has, own, rfl, reads⟩ := ih
    obtain ⟨more, hasMore, readsMore⟩ := ihRest
    exact ⟨_, has.comma hasMore, readsInside_member reads readsMore (by simp)⟩

/-! ## What is read is spelled -/

/-- What was read as a value is spelled at the front, behind blanks. -/
def ValueSpelled (fuel : Nat) : Prop :=
  ∀ {s d rest}, readValue fuel (tokens s) = (d, some rest) →
    ∃ before t r, s = before ++ (t ++ r) ∧ IsSpaces before ∧ Spells (.value d) t ∧ tokens r = rest

/-- What was read as items is spelled up to the end of their array. -/
def ItemsSpelled (fuel : Nat) : Prop :=
  ∀ {s items rest}, readItems fuel (tokens s) = (items, some rest) →
    ∃ t r, s = t ++ ']' :: r ∧ items ≠ [] ∧ Spells (.items items) t ∧ tokens r = rest

/-- What was read as members is spelled up to the end of their object. -/
def MembersSpelled (fuel : Nat) : Prop :=
  ∀ {s members rest}, readMembers fuel (tokens s) = (members, some rest) →
    ∃ t r, s = t ++ '\x7d' :: r ∧ members ≠ [] ∧ Spells (.members members) t ∧ tokens r = rest

theorem valueSpelled_succ {fuel : Nat} (ofItems : ItemsSpelled fuel)
    (ofMembers : MembersSpelled fuel) : ValueSpelled (fuel + 1) := by
  intro s d rest h
  generalize read : tokens s = ts at h
  unfold readValue at h
  split at h
  · cases h
    obtain ⟨before, _, r, rfl, are, ⟨⟩, more⟩ := exists_spells_of_tokens read nofun
    exact ⟨before, _, r, rfl, are, .null, more⟩
  · cases h
    obtain ⟨before, _, r, rfl, are, ⟨⟩, more⟩ := exists_spells_of_tokens read nofun
    exact ⟨before, _, r, rfl, are, .bool _, more⟩
  · cases h
    obtain ⟨before, t, r, rfl, are, spelled, more⟩ := exists_spells_of_tokens read nofun
    cases spelled with
    | number literal_is => exact ⟨before, t, r, rfl, are, .number literal_is, more⟩
  · cases h
    obtain ⟨before, t, r, rfl, are, spelled, more⟩ := exists_spells_of_tokens read nofun
    cases spelled with
    | string string_is => exact ⟨before, t, r, rfl, are, .string string_is, more⟩
  · cases h
    obtain ⟨before, _, r, rfl, are, ⟨⟩, closes⟩ := exists_spells_of_tokens read nofun
    obtain ⟨blanks, _, r, rfl, blanks_are, ⟨⟩, more⟩ := exists_spells_of_tokens closes nofun
    exact ⟨before, '[' :: (blanks ++ [']']), r, by simp, are, .array (.noItems blanks_are), more⟩
  · obtain ⟨before, _, r, rfl, are, ⟨⟩, rfl⟩ := exists_spells_of_tokens read nofun
    cases inside : readItems fuel (tokens r) with
    | mk items left =>
      rw [inside] at h
      cases h
      obtain ⟨t, r, rfl, _, spelled, more⟩ := ofItems inside
      exact ⟨before, '[' :: (t ++ [']']), r, by simp, are, .array spelled, more⟩
  · cases h
    obtain ⟨before, _, r, rfl, are, ⟨⟩, closes⟩ := exists_spells_of_tokens read nofun
    obtain ⟨blanks, _, r, rfl, blanks_are, ⟨⟩, more⟩ := exists_spells_of_tokens closes nofun
    exact ⟨before, '\x7b' :: (blanks ++ ['\x7d']), r, by simp, are,
      .object (.noMembers blanks_are), more⟩
  · obtain ⟨before, _, r, rfl, are, ⟨⟩, rfl⟩ := exists_spells_of_tokens read nofun
    cases inside : readMembers fuel (tokens r) with
    | mk members left =>
      rw [inside] at h
      cases h
      obtain ⟨t, r, rfl, _, spelled, more⟩ := ofMembers inside
      exact ⟨before, '\x7b' :: (t ++ ['\x7d']), r, by simp, are, .object spelled, more⟩
  · cases h

/-- A value and the mark behind it. -/
theorem ValueSpelled.padded {fuel : Nat} (ofValue : ValueSpelled fuel) {s : List Char} {d : Draft}
    {token : Token} {ts : List Token} (h : readValue fuel (tokens s) = (d, some (token :: ts)))
    (readable : token ≠ .unreadable) :
    ∃ t mark r, s = t ++ (mark ++ r) ∧ Spells (.padded d) t ∧ token.Spells mark ∧
      tokens r = ts := by
  obtain ⟨before, t, r, rfl, before_are, value, read⟩ := ofValue h
  obtain ⟨after, mark, r, rfl, after_are, is, more⟩ := exists_spells_of_tokens read readable
  exact ⟨before ++ (t ++ after), mark, r, by simp, .padded before_are value after_are, is, more⟩

theorem itemsSpelled_succ {fuel : Nat} (ofValue : ValueSpelled fuel) (ofItems : ItemsSpelled fuel) :
    ItemsSpelled (fuel + 1) := by
  intro s items rest h
  unfold readItems at h
  split at h
  · rename_i read
    obtain ⟨t, _, r, rfl, item, ⟨⟩, rfl⟩ := ofValue.padded read nofun
    cases inside : readItems fuel (tokens r) with
    | mk others left =>
      rw [inside] at h
      cases h
      obtain ⟨u, r, rfl, any, spelled, more⟩ := ofItems inside
      obtain ⟨next, others, rfl⟩ := List.exists_cons_of_ne_nil any
      exact ⟨t ++ ',' :: u, r, by simp, List.cons_ne_nil _ _, .item item spelled, more⟩
  · rename_i read
    cases h
    obtain ⟨t, _, r, rfl, item, ⟨⟩, more⟩ := ofValue.padded read nofun
    exact ⟨t, r, rfl, List.cons_ne_nil _ _, .lastItem item, more⟩
  · cases h

theorem membersSpelled_succ {fuel : Nat} (ofValue : ValueSpelled fuel)
    (ofMembers : MembersSpelled fuel) : MembersSpelled (fuel + 1) := by
  intro s members rest h
  generalize begins : tokens s = ts at h
  unfold readMembers at h
  split at h
  · obtain ⟨before, key, r, rfl, before_are, spelled, colon⟩ :=
      exists_spells_of_tokens begins nofun
    cases spelled with
    | string key_is =>
      obtain ⟨between, _, r, rfl, between_are, ⟨⟩, rfl⟩ := exists_spells_of_tokens colon nofun
      have named {d : Draft} {t : List Char} (value : Spells (.padded d) t) :=
        Spells.member before_are key_is between_are value
      split at h
      · rename_i read
        obtain ⟨t, _, r, rfl, value, ⟨⟩, rfl⟩ := ofValue.padded read nofun
        cases inside : readMembers fuel (tokens r) with
        | mk others left =>
          rw [inside] at h
          cases h
          obtain ⟨u, r, rfl, any, spelled, more⟩ := ofMembers inside
          obtain ⟨next, others, rfl⟩ := List.exists_cons_of_ne_nil any
          exact ⟨_, r, by simp, List.cons_ne_nil _ _, .moreMembers (named value) spelled, more⟩
      · rename_i read
        cases h
        obtain ⟨t, _, r, rfl, value, ⟨⟩, more⟩ := ofValue.padded read nofun
        exact ⟨_, r, by simp, List.cons_ne_nil _ _, .lastMember (named value), more⟩
      · cases h
  · cases h
  · cases h

/-- Whatever the fuel, what was read is spelled. -/
theorem exists_spells_of_read (fuel : Nat) :
    ValueSpelled fuel ∧ ItemsSpelled fuel ∧ MembersSpelled fuel := by
  -- each of the three reads the others with less fuel, so they go together
  induction fuel with
  | zero => exact ⟨nofun, nofun, nofun⟩
  | succ fuel ih =>
    obtain ⟨ofValue, ofItems, ofMembers⟩ := ih
    exact ⟨valueSpelled_succ ofItems ofMembers, itemsSpelled_succ ofValue ofItems,
      membersSpelled_succ ofValue ofMembers⟩

/-! ## Whole texts -/

/-- A text is read to its end exactly if it is one of the grammar. -/
theorem ofText_eq_iff_isText {text : String} {d : Draft} :
    Document.ofText text = ⟨d, true⟩ ↔ IsText d text := by
  unfold Document.ofText
  constructor
  · intro h
    dsimp only at h
    split at h
    · rename_i read
      cases h
      obtain ⟨before, t, after, whole, before_are, spelled, more⟩ :=
        (exists_spells_of_read _).1 read
      unfold IsText
      rw [whole]
      exact .padded before_are spelled (tokens_eq_nil_iff.mp more)
    · cases h
  · intro spelled
    obtain ⟨ts, has, reads⟩ := exists_tokens_of_spells spelled
    have all := has ends_nil
    rw [List.append_nil, tokens_nil] at all
    have read : readValue (2 * (ts ++ []).length + 2) (ts ++ []) = (d, some []) :=
      ReadsAs.read reads (by rw [List.append_nil]; omega)
    rw [all]
    dsimp only
    rw [read]

/-- A text has one draft. -/
theorem IsText.unique {text : String} {d d' : Draft} (is : IsText d text) (is' : IsText d' text) :
    d = d' := by
  have read : Document.ofText text = ⟨d, true⟩ := ofText_eq_iff_isText.mpr is
  have read' : Document.ofText text = ⟨d', true⟩ := ofText_eq_iff_isText.mpr is'
  exact congrArg Document.root (read.symm.trans read')

/-- The texts of a value: those of the grammar, unless the value nests too deep. -/
theorem parse?_eq_some_iff_isText {text : String} {v : Json} :
    parse? text = some v ↔ IsText (.ofJson v) text ∧ v.depth ≤ nestingLimit := by
  rw [parse?_eq_some_iff, ofText_eq_iff_isText]

end LoanGateway.Json
