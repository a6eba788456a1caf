import LoanGateway.Bundle.Request
import LoanGateway.Json.Reader

/-!
# Read bundles

- `FieldType`: what the fields of messages hold, with a reader for each.
- `MessageKind.fields`: the fields of a kind, in order. All of them are required.
- `Message.ofMembers`: the message of a kind with given members. What is no field of the kind is
  kept as a further attribute.
- `Message.ofDraft`, `Bundle.ofDraft`: messages and bundles of a JSON text.
-/

namespace LoanGateway

open Json

/-- What a field of a message holds. A code is an object around a text. -/
inductive FieldType
  | text
  | amount
  | date
  | code (inner : String)
  deriving DecidableEq

namespace FieldType

/-- The values of a field. -/
abbrev Value : FieldType → Type
  | text => String
  | amount => Float
  | date => Date
  | code _ => String

def readText : Json → Decoded String
  | .string s => .ok s
  | _ => .error .invalidType

def readAmount : Json → Decoded Float
  | .number n => .ok n.toFloat
  | _ => .error .invalidType

def readDate : Json → Decoded Date
  | .string s => (Date.parse s).mapError .date
  | _ => .error .invalidType

/-- Reads a code: an object with the inner field, of which other members are ignored, or an array
with nothing but the text. -/
def readCode (inner : String) : Json → Decoded String
  | .object members => do
    checkMembers (fun name => if name = inner then some (accepts readText) else none)
      (fun _ => .ok ()) [] members
    readField members inner readText
  | .array [] => .error .invalidLength
  | .array (first :: rest) => do
    let s ← readText first
    if rest.isEmpty then return s else throw .invalidLength
  | _ => .error .invalidType

/-- Reads a value of the type. -/
def read : (type : FieldType) → Json → Decoded type.Value
  | text => readText
  | amount => readAmount
  | date => readDate
  | code inner => readCode inner

end FieldType

namespace MessageKind

/-- The fields of messages of the kind, in order. -/
def fields : MessageKind → List (String × FieldType)
  | newLoan =>
    [("FacilityIdentifier", .text), ("BorrowerPartyIdentifier", .text),
      ("Currency", .code "CurrencyCode"), ("LoanAmount", .amount), ("EffectiveDate", .date),
      ("MaturityDate", .date)]
  | facilityAmount =>
    [("FacilityIdentifier", .text), ("LenderType", .code "LenderTypeCode"),
      ("FacilityTransactionType", .code "TypeCode"), ("EffectiveDate", .date),
      ("AmountAmount", .amount)]
  | facilityCode =>
    [("FacilityIdentifier", .text), ("LenderType", .code "LenderTypeCode"),
      ("FacilityTransactionCodeValue", .code "FacilityTransactionCodeValueCode"),
      ("EffectiveDate", .date)]
  | loanAdvance =>
    [("LoanIdentifier", .text), ("TransactionType", .code "TypeCode"), ("EffectiveDate", .date),
      ("LoanAdvanceAmount", .amount)]
  | feeAmount =>
    [("FacilityIdentifier", .text), ("LenderType", .code "LenderTypeCode"),
      ("SegmentIdentifier", .text), ("EffectiveDate", .date), ("FeeAmount", .amount)]

/-- Whether a member is a field of the kind. -/
def hasField (k : MessageKind) (name : String) : Bool := (k.fields.lookup name).isSome

/-- The members that are no fields of the kind, in the order of their names; of equal names the
last one counts. -/
def additional (k : MessageKind) (members : List (String × Json)) : Attributes :=
  sortMembers (canonicalMembers (members.filter fun (name, _) => !k.hasField name))

end MessageKind

namespace Message

/-- The message of a kind with the given members. A fault of a field counts before a field that is
missing. -/
def ofMembers (k : MessageKind) (members : List (String × Json)) : Decoded Message := do
  checkMembers (fun name => (k.fields.lookup name).map fun type => accepts type.read)
    (fun _ => .ok ()) [] members
  let text (name : String) : Decoded String := readField members name FieldType.readText
  let amount (name : String) : Decoded Float := readField members name FieldType.readAmount
  let date (name : String) : Decoded Date := readField members name FieldType.readDate
  let code (name inner : String) : Decoded String :=
    readField members name (FieldType.readCode inner)
  let additional := k.additional members
  match k with
  | .newLoan =>
    return .newLoan {
      facility := ← text "FacilityIdentifier"
      borrower := ← text "BorrowerPartyIdentifier"
      currency := ← code "Currency" "CurrencyCode"
      amount := ← amount "LoanAmount"
      effective := ← date "EffectiveDate"
      maturity := ← date "MaturityDate"
      additional }
  | .facilityAmount =>
    return .facilityAmount {
      facility := ← text "FacilityIdentifier"
      lenderType := ← code "LenderType" "LenderTypeCode"
      transactionType := ← code "FacilityTransactionType" "TypeCode"
      effective := ← date "EffectiveDate"
      amount := ← amount "AmountAmount"
      additional }
  | .facilityCode =>
    return .facilityCode {
      facility := ← text "FacilityIdentifier"
      lenderType := ← code "LenderType" "LenderTypeCode"
      code := ← code "FacilityTransactionCodeValue" "FacilityTransactionCodeValueCode"
      effective := ← date "EffectiveDate"
      additional }
  | .loanAdvance =>
    return .loanAdvance {
      loan := ← text "LoanIdentifier"
      transactionType := ← code "TransactionType" "TypeCode"
      effective := ← date "EffectiveDate"
      amount := ← amount "LoanAdvanceAmount"
      additional }
  | .feeAmount =>
    return .feeAmount {
      facility := ← text "FacilityIdentifier"
      lenderType := ← code "LenderType" "LenderTypeCode"
      segment := ← text "SegmentIdentifier"
      effective := ← date "EffectiveDate"
      amount := ← amount "FeeAmount"
      additional }

/-- The kind that a value names. -/
def readKind (d : Draft) : Decoded MessageKind := do
  let name ← d.readText
  match MessageKind.ofName? name with
  | some k => return k
  | none => throw (.unknownVariant name (MessageKind.all.map (·.name)))

/-- Takes the kind out of the members and reads the values of the others. The kind is looked at when
it is met, so a fault of it counts before one of a later member. -/
def splitKind (room : Nat) :
    Option MessageKind → List (String × Draft) →
      Decoded (Option MessageKind × List (String × Json))
  | kind?, [] => .ok (kind?, [])
  | kind?, (name, d) :: rest =>
    if name = kindField then
      if kind?.isSome then .error (.duplicateField kindField)
      else do
        let k ← readKind d
        splitKind room (some k) rest
    else do
      let v ← d.readJson room
      let (kind?, members) ← splitKind room kind? rest
      return (kind?, (name, v) :: members)

/-- The message of an object. The whole object is read before any of its fields is. -/
def ofObject (room : Nat) (members : List (String × Draft)) (closed : Bool) :
    Decoded Message := do
  let (kind?, members) ← splitKind room none members
  if !closed then throw .malformed
  match kind? with
  | some k => ofMembers k members
  | none => throw (.missingField kindField)

/-- An array is no message, but the kind is looked for in it first. -/
def ofArray (room : Nat) (closed : Bool) : List Draft → Decoded Message
  | [] => .error (if closed then .missingField kindField else .malformed)
  | first :: rest => do
    let _ ← readKind first
    rest.forM (accepts (Draft.readJson room))
    throw (if closed then .invalidType else .malformed)

/-- The message of a value, which nests at most `room` deep. -/
def ofDraft : Nat → Draft → Decoded Message
  | room + 1, .object members closed => ofObject room (Draft.namedMembers members) closed
  | room + 1, .array items closed => ofArray room closed items
  | 0, .object _ _ | 0, .array _ _ => .error .malformed
  | _, d => .error d.mismatch

/-- The message of a JSON value. -/
def ofJson (v : Json) : Decoded Message := ofDraft nestingLimit (Draft.ofJson v)

/-- The message of a text. -/
def ofText (text : String) : Decoded Message := readDocument (ofDraft nestingLimit) text

/-- The messages of a list. -/
def listOfDraft : Nat → Draft → Decoded (List Message)
  | room + 1, .array items closed => do
    let messages ← items.mapM (ofDraft room)
    if closed then return messages else throw .malformed
  | 0, .array _ _ => .error .malformed
  | _, d => .error d.mismatch

end Message

namespace Bundle

/-- Reads a date that may be absent. -/
def readPostingDate (d : Draft) : Decoded (Option Date) := do
  match ← Draft.readOptional Draft.readText d with
  | some s => ((Date.parse s).mapError .date).map some
  | none => return none

/-- Reads the status that the bundle starts with. -/
def readStatus : Draft → Decoded Nat := Draft.readNatural 4294967296

/-- The check of a field of the envelope. -/
def check? (room : Nat) (name : String) : Option (Draft → Decoded Unit) :=
  match name with
  | "PortfolioIdentifier" | "InitiatingUserName" => some (accepts Draft.readText)
  | "InitialBundleStatusCode" => some (accepts readStatus)
  | "UseAPIUserIndicator" => some (accepts Draft.readBool)
  | "PostingDate" => some (accepts readPostingDate)
  | "BundleMessageList" => some (accepts (Message.listOfDraft room))
  | _ => none

/-- The bundle of an object. Members that are no fields are skipped, and the posting date may be
missing. -/
def ofObject (room : Nat) (members : List (String × Draft)) (closed : Bool) : Decoded Bundle := do
  checkMembers (check? room) Draft.skip [] members
  if !closed then throw .malformed
  let portfolio ← readField members "PortfolioIdentifier" Draft.readText
  let initialStatus ← readField members "InitialBundleStatusCode" readStatus
  let initiator ← readField members "InitiatingUserName" Draft.readText
  let asApiUser ← readField members "UseAPIUserIndicator" Draft.readBool
  let postingDate ← match members.lookup "PostingDate" with
    | some d => readPostingDate d
    | none => pure none
  let messages ← readField members "BundleMessageList" (Message.listOfDraft room)
  return { portfolio, initialStatus, initiator, asApiUser, postingDate, messages, queue := none }

/-- The bundle of an array with the fields in their order. -/
def ofArray (room : Nat) (items : List Draft) (closed : Bool) : Decoded Bundle := do
  let (portfolio, items) ← Draft.readItem closed Draft.readText items
  let (initialStatus, items) ← Draft.readItem closed readStatus items
  let (initiator, items) ← Draft.readItem closed Draft.readText items
  let (asApiUser, items) ← Draft.readItem closed Draft.readBool items
  let (postingDate, items) ← Draft.readItem closed readPostingDate items
  let (messages, items) ← Draft.readItem closed (Message.listOfDraft room) items
  Draft.readEnd closed items
  return { portfolio, initialStatus, initiator, asApiUser, postingDate, messages, queue := none }

/-- The bundle of a value, which nests at most `room` deep. -/
def ofDraft : Nat → Draft → Decoded Bundle
  | room + 1, .object members closed => ofObject room (Draft.namedMembers members) closed
  | room + 1, .array items closed => ofArray room items closed
  | 0, .object _ _ | 0, .array _ _ => .error .malformed
  | _, d => .error d.mismatch

/-- The bundle of a JSON value. -/
def ofJson (v : Json) : Decoded Bundle := ofDraft nestingLimit (Draft.ofJson v)

/-- The bundle of a text. -/
def ofText (text : String) : Decoded Bundle := readDocument (ofDraft nestingLimit) text

/-- The messages of a text, in the usual envelope. -/
def ofMessagesText (text : String) : Decoded Bundle :=
  (readDocument (Message.listOfDraft nestingLimit) text).map ofMessages

/-- The message of a text, alone in the usual envelope. -/
def ofMessageText (text : String) : Decoded Bundle :=
  (Message.ofText text).map fun m => ofMessages [m]

end Bundle

end LoanGateway
