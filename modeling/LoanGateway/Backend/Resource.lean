/-!
# Resources of the backend

- `Resource`: what a request is about.
- `Resource.absencePhrases`: the texts by which the backend says, in a bad request, that the
  resource does not exist.
-/

namespace LoanGateway

/-- What a request to the backend is about. -/
inductive Resource
  | deal
  | facility
  | loan
  | bundle
  | party
  | facilityFee
  | facilityCovenant
  | facilityInvestor
  | facilityGuarantee
  deriving DecidableEq

namespace Resource

def all : List Resource :=
  [deal, facility, loan, bundle, party, facilityFee, facilityCovenant, facilityInvestor,
    facilityGuarantee]

def name : Resource → String
  | deal => "deal"
  | facility => "facility"
  | loan => "loan"
  | bundle => "bundle"
  | party => "party"
  | facilityFee => "facility_fee"
  | facilityCovenant => "facility_covenant"
  | facilityInvestor => "facility_investor"
  | facilityGuarantee => "facility_guarantee"

/-- The resource of a name. -/
def ofName? (name : String) : Option Resource := all.find? (·.name == name)

@[simp] theorem ofName?_name (r : Resource) : ofName? r.name = some r := by
  cases r <;> rfl

/-- The first wording in use for a resource that is absent or hidden. -/
def notFoundText (noun : String) : String :=
  "The " ++ noun ++ " not found or the user does not have access to it"

/-- The second wording in use. -/
def doesNotExistText (noun : String) : String :=
  noun ++ " does not exist or user does not have access to it"

/-- The texts that mean the resource does not exist. What belongs to a facility is also absent when
its facility is. -/
def absencePhrases : Resource → List String
  | deal => [notFoundText "deal", doesNotExistText "Deal"]
  | facility => [doesNotExistText "Facility", notFoundText "facility"]
  | loan => [doesNotExistText "Loan"]
  | bundle => [doesNotExistText "BundleInformation", doesNotExistText "Bundle"]
  | party => [doesNotExistText "Party", notFoundText "party"]
  | facilityFee => [doesNotExistText "Facility", doesNotExistText "Fee"]
  | facilityCovenant => [doesNotExistText "Facility", doesNotExistText "Covenant"]
  | facilityInvestor => [doesNotExistText "Facility", doesNotExistText "Investor"]
  | facilityGuarantee => [doesNotExistText "Facility", doesNotExistText "Guarantee"]

end Resource

end LoanGateway
