import LoanGateway.Bundle.Request
import LoanGateway.Calendar.DateText
import LoanGateway.Json.Printer

/-!
# Written bundles

- `Message.toJson`: the object of a message: its kind, its own fields and its further attributes.
- `Bundle.toJson`: the object of a bundle. The posting date is left out when there is none, and the
  queue always.
- `Bundle.text`: the text of a bundle.
-/

namespace LoanGateway

namespace Message

def textMember (name value : String) : String × Json := (name, .string value)

def dateMember (name : String) (d : Date) : String × Json := (name, .string d.text)

def amountMember (name : String) (x : Float) : String × Json := (name, Json.ofFloat x)

/-- Codes are written as objects with a single field. -/
def codeMember (name inner value : String) : String × Json :=
  (name, .object [(inner, .string value)])

/-- The fields that messages of the kind have, in their order. -/
def ownMembers : Message → List (String × Json)
  | newLoan m =>
    [textMember "FacilityIdentifier" m.facility,
      textMember "BorrowerPartyIdentifier" m.borrower,
      codeMember "Currency" "CurrencyCode" m.currency,
      amountMember "LoanAmount" m.amount,
      dateMember "EffectiveDate" m.effective,
      dateMember "MaturityDate" m.maturity]
  | facilityAmount m =>
    [textMember "FacilityIdentifier" m.facility,
      codeMember "LenderType" "LenderTypeCode" m.lenderType,
      codeMember "FacilityTransactionType" "TypeCode" m.transactionType,
      dateMember "EffectiveDate" m.effective,
      amountMember "AmountAmount" m.amount]
  | facilityCode m =>
    [textMember "FacilityIdentifier" m.facility,
      codeMember "LenderType" "LenderTypeCode" m.lenderType,
      codeMember "FacilityTransactionCodeValue" "FacilityTransactionCodeValueCode" m.code,
      dateMember "EffectiveDate" m.effective]
  | loanAdvance m =>
    [textMember "LoanIdentifier" m.loan,
      codeMember "TransactionType" "TypeCode" m.transactionType,
      dateMember "EffectiveDate" m.effective,
      amountMember "LoanAdvanceAmount" m.amount]
  | feeAmount m =>
    [textMember "FacilityIdentifier" m.facility,
      codeMember "LenderType" "LenderTypeCode" m.lenderType,
      textMember "SegmentIdentifier" m.segment,
      dateMember "EffectiveDate" m.effective,
      amountMember "FeeAmount" m.amount]

/-- The object of a message. -/
def toJson (m : Message) : Json :=
  .object (textMember kindField m.kind.name :: m.ownMembers ++ m.additional)

/-- The text of a message. -/
def text (m : Message) : String := m.toJson.text

end Message

namespace Bundle

/-- The object of a bundle. -/
def toJson (b : Bundle) : Json :=
  .object <|
    [("PortfolioIdentifier", .string b.portfolio),
      ("InitialBundleStatusCode", .number (.natural b.initialStatus)),
      ("InitiatingUserName", .string b.initiator),
      ("UseAPIUserIndicator", .bool b.asApiUser)] ++
    (b.postingDate.toList.map fun d => ("PostingDate", .string d.text)) ++
    [("BundleMessageList", .array (b.messages.map Message.toJson))]

/-- The text of a bundle. -/
def text (b : Bundle) : String := b.toJson.text

end Bundle

end LoanGateway
