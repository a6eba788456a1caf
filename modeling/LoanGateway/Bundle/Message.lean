import LoanGateway.Backend.Resource
import LoanGateway.Calendar.Date
import LoanGateway.Json.Value

/-!
# Bundle messages

A message is one change that a bundle asks for.

- `MessageKind`: the five kinds of messages, with the names that the backend knows them by.
- `Message`: a message of one of the kinds. Each carries further attributes that are sent as they
  are.
- `Message.resource`: the resource that a message is about.
- `Message.agrees`: equality of messages; amounts are compared as numbers.
-/

namespace LoanGateway

/-- The kinds of messages. -/
inductive MessageKind
  | newLoan
  | facilityAmount
  | facilityCode
  | loanAdvance
  | feeAmount
  deriving DecidableEq

namespace MessageKind

def all : List MessageKind := [newLoan, facilityAmount, facilityCode, loanAdvance, feeAmount]

/-- The name that the backend knows the kind by. -/
def name : MessageKind → String
  | newLoan => "NewLoanRequest"
  | facilityAmount => "FacilityAmountTransaction"
  | facilityCode => "FacilityCodeValueTransaction"
  | loanAdvance => "LoanAdvanceTransaction"
  | feeAmount => "FacilityFeeAmountTransaction"

/-- The kind of a name. -/
def ofName? (name : String) : Option MessageKind := all.find? (·.name == name)

@[simp] theorem ofName?_name (k : MessageKind) : ofName? k.name = some k := by
  cases k <;> rfl

/-- The resource whose absence a message of the kind would meet. -/
def resource : MessageKind → Resource
  | loanAdvance => .loan
  | feeAmount => .facilityFee
  | newLoan | facilityAmount | facilityCode => .facility

end MessageKind

/-- Attributes by name: in the order of their names, no name twice, the values canonical. -/
abbrev Attributes := List (String × Json)

/-- A new loan drawn on a facility. -/
structure NewLoan where
  facility : String
  borrower : String
  currency : String
  amount : Float
  effective : Date
  maturity : Date
  additional : Attributes

/-- A change to the amount of a facility. -/
structure FacilityAmount where
  facility : String
  lenderType : String
  transactionType : String
  effective : Date
  amount : Float
  additional : Attributes

/-- A change to a coded attribute of a facility. -/
structure FacilityCode where
  facility : String
  lenderType : String
  code : String
  effective : Date
  additional : Attributes

/-- An advance on an existing loan. -/
structure LoanAdvance where
  loan : String
  transactionType : String
  effective : Date
  amount : Float
  additional : Attributes

/-- A change to the amount of a facility's fee. -/
structure FeeAmount where
  facility : String
  lenderType : String
  segment : String
  effective : Date
  amount : Float
  additional : Attributes

/-- One change that a bundle asks for. -/
inductive Message
  | newLoan (message : NewLoan)
  | facilityAmount (message : FacilityAmount)
  | facilityCode (message : FacilityCode)
  | loanAdvance (message : LoanAdvance)
  | feeAmount (message : FeeAmount)

namespace Message

/-- The member that names the kind of a message. -/
def kindField : String := "$type"

def kind : Message → MessageKind
  | newLoan _ => .newLoan
  | facilityAmount _ => .facilityAmount
  | facilityCode _ => .facilityCode
  | loanAdvance _ => .loanAdvance
  | feeAmount _ => .feeAmount

/-- The resource that the message is about. -/
def resource (m : Message) : Resource := m.kind.resource

/-- The attributes beside those of the kind. -/
def additional : Message → Attributes
  | newLoan m => m.additional
  | facilityAmount m => m.additional
  | facilityCode m => m.additional
  | loanAdvance m => m.additional
  | feeAmount m => m.additional

/-- Whether two messages are equal. -/
def agrees : Message → Message → Bool
  | newLoan a, newLoan b =>
    a.facility == b.facility && a.borrower == b.borrower && a.currency == b.currency &&
      a.amount == b.amount && a.effective == b.effective && a.maturity == b.maturity &&
      Json.agreeMembers a.additional b.additional
  | facilityAmount a, facilityAmount b =>
    a.facility == b.facility && a.lenderType == b.lenderType &&
      a.transactionType == b.transactionType && a.effective == b.effective &&
      a.amount == b.amount && Json.agreeMembers a.additional b.additional
  | facilityCode a, facilityCode b =>
    a.facility == b.facility && a.lenderType == b.lenderType && a.code == b.code &&
      a.effective == b.effective && Json.agreeMembers a.additional b.additional
  | loanAdvance a, loanAdvance b =>
    a.loan == b.loan && a.transactionType == b.transactionType && a.effective == b.effective &&
      a.amount == b.amount && Json.agreeMembers a.additional b.additional
  | feeAmount a, feeAmount b =>
    a.facility == b.facility && a.lenderType == b.lenderType && a.segment == b.segment &&
      a.effective == b.effective && a.amount == b.amount &&
      Json.agreeMembers a.additional b.additional
  | _, _ => false

end Message

end LoanGateway
