import GroupAccess.Store.Failure

namespace GroupAccess

inductive Refusal
  | badCredentials
  | passwordTooWeak
  | passwordTooLong (limit : Nat)
  | emailInvalid
  | emailAlreadyInUse
  | tokenInvalid
  | badTokenKind (text : String)
  | inviteExhausted
  | inviteNotFound
  | alreadyInGroup
  | badInviteLimit
  | conflict (what : String)
  | groupNameInvalid
  | groupNameTaken
  | groupNotFound
  | notAMember
  | forbidden (what : String)
  | internal (text : String)
  deriving DecidableEq, Repr

namespace Refusal

/-- A short stable name, also the label of counters. -/
def label : Refusal → String
  | .badCredentials => "bad_credentials"
  | .passwordTooWeak => "password_too_weak"
  | .passwordTooLong _ => "password_too_long"
  | .emailInvalid => "email_invalid"
  | .emailAlreadyInUse => "email_already_in_use"
  | .tokenInvalid => "token_invalid"
  | .badTokenKind _ => "bad_token_kind"
  | .inviteExhausted => "invite_exhausted"
  | .inviteNotFound => "invite_not_found"
  | .alreadyInGroup => "already_in_group"
  | .badInviteLimit => "bad_invite_limit"
  | .conflict _ => "conflict"
  | .groupNameInvalid => "group_name_invalid"
  | .groupNameTaken => "group_name_taken"
  | .groupNotFound => "group_not_found"
  | .notAMember => "not_a_member"
  | .forbidden _ => "forbidden"
  | .internal _ => "internal_error"

/-- The refusal of a label, with the text or limit that it carries. -/
def ofLabel? (label text : String) (limit : Nat) : Option Refusal :=
  [.badCredentials, .passwordTooWeak, .passwordTooLong limit, .emailInvalid, .emailAlreadyInUse,
    .tokenInvalid, .badTokenKind text, .inviteExhausted, .inviteNotFound, .alreadyInGroup,
    .badInviteLimit, .conflict text, .groupNameInvalid, .groupNameTaken, .groupNotFound,
    .notAMember, .forbidden text, .internal text].find? fun e => e.label = label

def message : Refusal → String
  | .badCredentials => "Invalid credentials"
  | .passwordTooWeak => "Password is too weak"
  | .passwordTooLong limit => s!"Password exceeds {limit} bytes"
  | .emailInvalid => "Invalid email address"
  | .emailAlreadyInUse => "Email already in use"
  | .tokenInvalid => "Invalid token"
  | .badTokenKind text => s!"Unknown token kind: {text}"
  | .inviteExhausted => "Invite has no remaining uses"
  | .inviteNotFound => "Invite not found"
  | .alreadyInGroup => "User is already a member of this group"
  | .badInviteLimit => "Invite use limit must be positive"
  | .conflict what => s!"Conflicting update: {what}"
  | .groupNameInvalid => "Group name must not be blank"
  | .groupNameTaken => "Group name already taken"
  | .groupNotFound => "Group not found"
  | .notAMember => "User is not a member of this group"
  | .forbidden what => s!"Missing permission: {what}"
  | .internal text => s!"Internal server error: {text}"

theorem label_of_ofLabel? {name text : String} {limit : Nat} {e : Refusal}
    (h : ofLabel? name text limit = some e) : e.label = name := by
  unfold ofLabel? at h
  have hfound := List.find?_some h
  exact of_decide_eq_true hfound

/-- Labels tell all refusals apart, but for what they carry. -/
theorem ofLabel?_label (e : Refusal) : ∃ text limit, ofLabel? e.label text limit = some e := by
  cases e with
  | passwordTooLong limit => exact ⟨"", limit, rfl⟩
  | badTokenKind text => exact ⟨text, 0, rfl⟩
  | conflict what => exact ⟨what, 0, rfl⟩
  | forbidden what => exact ⟨what, 0, rfl⟩
  | internal text => exact ⟨text, 0, rfl⟩
  | _ => exact ⟨"", 0, rfl⟩

/-- A failure of the store that an operation does not expect is internal. -/
def ofStore (e : StoreFailure) : Refusal := .internal e.message

end Refusal

end GroupAccess
