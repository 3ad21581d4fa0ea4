namespace GroupAccess

inductive Permission
  | manageMembers
  | manageTasks
  | review
  | comment
  | administer
  deriving DecidableEq, Repr

def Permission.all : List Permission :=
  [.manageMembers, .manageTasks, .review, .comment, .administer]

/-- A tuple of permissions. Two roles with equal tuples are the same role. -/
structure Role where
  manageMembers : Bool := false
  manageTasks : Bool := false
  review : Bool := false
  comment : Bool := false
  admin : Int := 0
  deriving DecidableEq, Repr

namespace Role

def adminMax : Int := 1

def none : Role := {}

def full : Role :=
  { manageMembers := true, manageTasks := true, review := true, comment := true, admin := adminMax }

/-- What an ordinary member may do. -/
def member : Role := { comment := true }

def isAdmin (r : Role) : Bool := 0 < r.admin

/-- A positive administrative level stands for the full role. -/
def effective (r : Role) : Role := if r.isAdmin then full else r

def allows (r : Role) : Permission → Bool
  | .manageMembers => r.manageMembers
  | .manageTasks => r.manageTasks
  | .review => r.review
  | .comment => r.comment
  | .administer => r.isAdmin

/-- Whether `r` holds every permission and at least the level of `s`, both in effect. -/
def covers (r s : Role) : Bool :=
  let r := r.effective
  let s := s.effective
  (r.manageMembers || !s.manageMembers) && (r.manageTasks || !s.manageTasks) &&
    (r.review || !s.review) && (r.comment || !s.comment) && s.admin ≤ r.admin

/-- What a positive level stands for has a positive level itself. -/
@[simp] theorem effective_effective (r : Role) : r.effective.effective = r.effective := by
  by_cases h : r.isAdmin = true
  · rw [effective, effective, if_pos h]
    rfl
  · rw [effective, effective, if_neg h, if_neg h]

theorem covers_effective (r s : Role) : r.covers s.effective = r.covers s := by
  simp only [covers, effective_effective]

/-- Whoever covers a role holds each of its permissions. -/
theorem allows_of_covers {r s : Role} (h : r.covers s = true) {p : Permission}
    (hp : s.effective.allows p = true) : r.effective.allows p = true := by
  simp only [covers, Bool.and_eq_true, decide_eq_true_eq] at h
  obtain ⟨⟨⟨⟨hmm, hmt⟩, hr⟩, hc⟩, ha⟩ := h
  cases p with
  | manageMembers => simpa [allows, show s.effective.manageMembers = true from hp] using hmm
  | manageTasks => simpa [allows, show s.effective.manageTasks = true from hp] using hmt
  | review => simpa [allows, show s.effective.review = true from hp] using hr
  | comment => simpa [allows, show s.effective.comment = true from hp] using hc
  | administer =>
    have hs : 0 < s.effective.admin := of_decide_eq_true hp
    exact decide_eq_true (Int.lt_of_lt_of_le hs ha)

end Role

end GroupAccess
