namespace GroupAccess

inductive StoreFailure
  | notFound
  /-- A uniqueness constraint, by name, refused a write. -/
  | conflict (constraint : String)
  | exhausted
  | database (text : String)
  deriving DecidableEq, Repr

namespace StoreFailure

def message : StoreFailure → String
  | .notFound => "Record not found"
  | .conflict constraint => s!"Unique constraint violated: {constraint}"
  | .exhausted => "No remaining uses"
  | .database text => s!"Database error: {text}"

/-- What a relational database reports, as far as a store tells it apart. -/
inductive Report
  | rowNotFound
  | uniqueViolation (constraint : Option String)
  | otherViolation (text : String)
  | protocol (text : String)

/-- Only a missing row and a violated uniqueness are failures of their own. -/
def ofReport : Report → StoreFailure
  | .rowNotFound => .notFound
  | .uniqueViolation constraint => .conflict (constraint.getD "unique")
  | .otherViolation text => .database s!"error returned from database: {text}"
  | .protocol text => .database s!"encountered unexpected or invalid data: {text}"

end StoreFailure

end GroupAccess
