import GroupAccess.Proofs.Program.Results
import GroupAccess.Proofs.Token.Presented

namespace GroupAccess

namespace Base64

/-- Different bytes have different texts. -/
theorem encode_inj {a : Alphabet} (ha : a.Reads) {bytes other : List UInt8} :
    encode a bytes = encode a other ↔ bytes = other := by
  constructor
  · intro h
    have hd := decode?_encode ha bytes
    rw [h, decode?_encode ha other] at hd
    exact (Option.some.inj hd).symm
  · rintro rfl
    rfl

end Base64

namespace Signed

/-- The text of a signed token. -/
def text (header claims signature : List Char) : String :=
  String.ofList (header ++ '.' :: (claims ++ '.' :: signature))

/-- What is signed: the first two segments as they are written. -/
def message (header claims : List Char) : List UInt8 :=
  utf8 (String.ofList (header ++ '.' :: claims))

theorem signature_eq (key : List UInt8) (header claims : List Char) :
    signature key header claims =
      Base64.encode Base64.urlSafe (Hmac.digest key (message header claims)) := rfl

theorem claims?_eq_some {segment : List Char} {c : Claims} (h : claims? segment = some c) :
    ∃ bytes, Base64.decode? Base64.urlSafe segment = some bytes ∧
      Json.decodeAll Claims.decode bytes = .ok c := by
  obtain ⟨bytes, hb, h⟩ := Option.bind_eq_some_iff.1 h
  obtain ⟨c', hc, h⟩ := Option.bind_eq_some_iff.1 h
  obtain ⟨-, -, h⟩ := Option.bind_eq_some_iff.1 h
  cases h
  refine ⟨bytes, hb, ?_⟩
  cases hd : Json.decodeAll Claims.decode bytes with
  | error e =>
    rw [hd] at hc
    cases hc
  | ok c' =>
    rw [hd] at hc
    cases hc
    rfl

variable {header claims signature : List Char}

/-- The segments of a signed token make up its text. -/
theorem text_of_presented {text : String}
    (h : Presented.ofText? text = some (.signed header claims signature)) :
    text = Signed.text header claims signature ∧ '.' ∉ header ∧ '.' ∉ claims := by
  obtain ⟨hmem, hjoin⟩ := Text.split_eq_cons_iff.1 (Presented.ofText?_signed_iff.1 h).1
  refine ⟨?_, hmem header (by simp), hmem claims (by simp)⟩
  rw [← String.toList_inj, ← hjoin, Signed.text, String.toList_ofList]
  rfl

/-- A text with two segments before its rest is that signed token or none. -/
theorem presented_text (hh : '.' ∉ header) (hc : '.' ∉ claims) {presented : Presented}
    (h : Presented.ofText? (text header claims signature) = some presented) :
    presented = .signed header claims signature := by
  have hcut : Text.split '.' (text header claims signature).toList =
      header :: claims :: Text.split '.' signature := by
    rw [text, String.toList_ofList, Text.split_append hh, Text.split_append hc]
  cases presented with
  | signed header' claims' signature' =>
    obtain ⟨hsplit, -⟩ := Presented.ofText?_signed_iff.1 h
    obtain ⟨hheader, hclaims, hrest⟩ : header = header' ∧ claims = claims' ∧
        Text.split '.' signature = [signature'] := by
      rw [hcut] at hsplit
      simpa using hsplit
    have hsignature : signature' = signature := (Text.split_eq_cons_iff.1 hrest).2
    rw [hheader, hclaims, hsignature]
  | secret s =>
    rw [Presented.ofText?_secret_iff.1 h, Secret.text, String.toList_ofList,
      Text.split_of_not_mem s.point_not_mem_chars] at hcut
    cases hcut

end Signed

/-- What the acceptance of a signed token for a use, at an instant and for a user, comes to. -/
structure Tokens.Bound (key : List UInt8) (now : Instant) (audience : Audience)
    (header claims signature : List Char) (user : UserId) : Prop where
  signature_eq : signature =
    Base64.encode Base64.urlSafe (Hmac.digest key (Signed.message header claims))
  claims_read : ∃ bytes c, Base64.decode? Base64.urlSafe claims = some bytes ∧
    Json.decodeAll Claims.decode bytes = .ok c ∧ c.audience = audience ∧
    c.notBefore ≤ now.seconds ∧ now.seconds ≤ c.expiry ∧
    Uuid.ofText? c.subject = some user.uuid

namespace Tokens

variable {policy : TokenPolicy} {now : Instant} {text : String}
  {header claims signature : List Char}

theorem bound_of_accepted {audience : Audience} {user : UserId}
    (h : acceptSigned policy now audience header claims signature = some user) :
    Bound policy.key now audience header claims signature user := by
  obtain ⟨c, hopen, haccept⟩ := Option.bind_eq_some_iff.1 h
  unfold Signed.open? at hopen
  split at hopen
  · rename_i hsound
    obtain ⟨bytes, hbytes, hc⟩ := Signed.claims?_eq_some hopen
    unfold accept at haccept
    split at haccept
    · rename_i hfits
      obtain ⟨uuid, huuid, rfl⟩ := Option.map_eq_some_iff.1 haccept
      exact ⟨hsound.2, bytes, c, hbytes, hc, hfits.2.2, hfits.1, hfits.2.1, huuid⟩
    · cases haccept
  · cases hopen

/-- With another signature a token is not accepted for anything. -/
theorem acceptSigned_forged (audience : Audience)
    (h : signature ≠ Signed.signature policy.key header claims) :
    acceptSigned policy now audience header claims signature = none := by
  cases ha : acceptSigned policy now audience header claims signature with
  | none => rfl
  | some user => exact absurd (bound_of_accepted ha).signature_eq h

theorem whileRegistered_yields (user : UserId) :
    Program.Yields (fun given => given = user) (whileRegistered user) := by
  refine .bind (.ask (.userExists user) _) fun found _ => ?_
  cases found with
  | false => exact .refused _
  | true => exact .done rfl

theorem issueSigned_yields (user : UserId) (audience : Audience) (lifetime : Span)
    (serial : Uuid) :
    Program.Yields (fun token => ∃ expiry, now.add? lifetime = some expiry ∧
        token = ⟨String.ofList (Signed.write policy.key
          (Tokens.claims now expiry user audience serial)), .signed, some expiry⟩)
      (issueSigned policy now user audience lifetime serial) := by
  refine .bind (.lift _) fun expiry he => .count _ (.done ⟨expiry, ?_, rfl⟩)
  unfold expiryAfter at he
  split at he
  · rename_i hadd
    cases he
    exact hadd
  · cases he

theorem resolve_yields (h : Presented.ofText? text = some (.signed header claims signature)) :
    Program.Yields
      (fun user => acceptSigned policy now .access header claims signature = some user)
      (resolve policy now text) := by
  simp only [resolve, h, Program.require, Program.bind_eq, Program.bind_ok]
  refine .bind (.require _ _) fun user hu => ?_
  exact (whileRegistered_yields user).mono fun given hg => hg ▸ hu

theorem refresh_yields (h : Presented.ofText? text = some (.signed header claims signature))
    (serial : Uuid) :
    Program.Yields (fun token => ∃ user expiry,
        acceptSigned policy now .refresh header claims signature = some user ∧
          now.add? policy.accessLifetime = some expiry ∧
          token = ⟨String.ofList (Signed.write policy.key
            (Tokens.claims now expiry user .access serial)), .signed, some expiry⟩)
      (refresh policy now text serial) := by
  simp only [refresh, h, Program.require, Program.bind_eq, Program.bind_ok]
  refine .bind (.require _ _) fun user hu => .bind (whileRegistered_yields user) fun given hg => ?_
  subst hg
  refine (issueSigned_yields given .access policy.accessLifetime serial).mono fun token ht => ?_
  obtain ⟨expiry, he, htoken⟩ := ht
  exact ⟨given, expiry, hu, he, htoken⟩

/-- With another signature, or with none, the text before it is an invalid token. -/
theorem refused_forged (hh : '.' ∉ header) (hc : '.' ∉ claims)
    (h : signature ≠ Signed.signature policy.key header claims) (now : Instant)
    (serial : Uuid) :
    resolve policy now (Signed.text header claims signature) = .done (.error .tokenInvalid) ∧
      refresh policy now (Signed.text header claims signature) serial =
        .done (.error .tokenInvalid) := by
  cases hr : Presented.ofText? (Signed.text header claims signature) with
  | none =>
    rw [resolve, refresh, hr]
    exact ⟨rfl, rfl⟩
  | some presented =>
    cases Signed.presented_text hh hc hr
    have hnone : ∀ audience, acceptSigned policy now audience header claims signature = none :=
      fun audience => acceptSigned_forged audience h
    simp only [resolve, refresh, hr, Program.require, Program.bind_eq, Program.bind_ok, hnone]
    exact ⟨rfl, rfl⟩

end Tokens

namespace Service

/-- One of the two operations that take a token accepts a text. -/
def Accepts (s : Service) (text : String) : Prop :=
  ∃ d : Draws, (∃ user, (s.perform (.resolveToken text) d).1 = .ok user) ∨
    ∃ token, (s.perform (.refresh text) d).1 = .ok token

/-- Both operations that take a token refuse a text as an invalid one. -/
def Refuses (s : Service) (text : String) : Prop :=
  ∀ d : Draws, (s.perform (.resolveToken text) d).1 = .error .tokenInvalid ∧
    (s.perform (.refresh text) d).1 = .error .tokenInvalid

variable {s : Service} {header claims signature : List Char}

theorem Refuses.not_accepts {text : String} (h : s.Refuses text) : ¬s.Accepts text := by
  rintro ⟨d, ⟨user, hu⟩ | ⟨token, ht⟩⟩
  · rw [(h d).1] at hu
    cases hu
  · rw [(h d).2] at ht
    cases ht

theorem refuses_forged (hh : '.' ∉ header) (hc : '.' ∉ claims)
    (h : signature ≠ Signed.signature s.policy.tokens.key header claims) :
    s.Refuses (Signed.text header claims signature) := by
  intro d
  obtain ⟨hresolve, hrefresh⟩ := Tokens.refused_forged hh hc h s.clock d.serial
  exact ⟨perform_resolveToken_refused hresolve d, perform_refresh_refused hrefresh⟩

/-- The signature of a text that is accepted is the one that the key gives. -/
theorem Accepts.signature_eq (hh : '.' ∉ header) (hc : '.' ∉ claims)
    (h : s.Accepts (Signed.text header claims signature)) :
    signature = Signed.signature s.policy.tokens.key header claims := by
  by_contra hne
  exact (refuses_forged hh hc hne).not_accepts h

end Service

/-- In whatever state the service is: a text that is accepted as a signed token has the signature
that the key gives to the text before it, and its claims are for this use, this time and this user.
With any other signature it is an invalid token. So no two signatures of one text are accepted, and
that of another key is accepted only if both keys give the text the same digest. -/
theorem signed_bound (s : Service) {text : String} {header claims signature : List Char}
    (hs : Presented.ofText? text = some (.signed header claims signature)) :
    text = Signed.text header claims signature ∧
    (∀ d user, (s.perform (.resolveToken text) d).1 = .ok user →
      Tokens.Bound s.policy.tokens.key s.clock .access header claims signature user) ∧
    (∀ d token, (s.perform (.refresh text) d).1 = .ok token → ∃ user expiry,
      Tokens.Bound s.policy.tokens.key s.clock .refresh header claims signature user ∧
        s.clock.add? s.policy.tokens.accessLifetime = some expiry ∧
        token = ⟨String.ofList (Signed.write s.policy.tokens.key
          (Tokens.claims s.clock expiry user .access d.serial)), .signed, some expiry⟩) ∧
    (∀ other, other ≠ Signed.signature s.policy.tokens.key header claims →
      s.Refuses (Signed.text header claims other)) ∧
    (∀ (s' : Service) other, s'.policy.tokens.key = s.policy.tokens.key → s.Accepts text →
      other ≠ signature → s'.Refuses (Signed.text header claims other)) ∧
    ∀ key, s.Accepts (Signed.text header claims (Signed.signature key header claims)) →
      Hmac.digest key (Signed.message header claims) =
        Hmac.digest s.policy.tokens.key (Signed.message header claims) := by
  obtain ⟨htext, hh, hc⟩ := Signed.text_of_presented hs
  refine ⟨htext, ?_, ?_, ?_, ?_, ?_⟩
  · intro d user hr
    have ha := Service.perform_yields (o := .resolveToken text)
      ((Tokens.resolve_yields hs).countingRefusal _) hr
    exact Tokens.bound_of_accepted ha
  · intro d token hr
    obtain ⟨user, expiry, ha, he, htoken⟩ := Service.perform_yields (o := .refresh text)
      ((Tokens.refresh_yields hs d.serial).countingRefusal _) hr
    exact ⟨user, expiry, Tokens.bound_of_accepted ha, he, htoken⟩
  · intro other hne
    exact Service.refuses_forged hh hc hne
  · intro s' other hk ha hne
    rw [htext] at ha
    rw [ha.signature_eq hh hc, ← hk] at hne
    exact Service.refuses_forged hh hc hne
  · intro key ha
    have hsame := ha.signature_eq hh hc
    rwa [Signed.signature_eq, Signed.signature_eq, Base64.encode_inj Base64.urlSafe_reads] at hsame

namespace Sample

/-- The claims of an access token of the member. -/
def admission : Claims := Tokens.claims clock clock member .access (draws 5).serial

def admissionClaims : List Char := Signed.segment admission.toJson

def admissionSignature : List Char :=
  Signed.signature policy.tokens.key (Signed.segment Signed.header) admissionClaims

theorem admission_accepted :
    ((entered policy.tokens).perform (.resolveToken
      (String.ofList (Signed.write policy.tokens.key admission))) (draws 6)).1 = .ok member := by
  have hbearer := (entered policy.tokens).tables.bearer?_write policy.tokens clock clock clock
    member .access .access (draws 5).serial
  rw [if_pos ⟨rfl, entered_registered policy.tokens, Int.le_refl _, Int.le_refl _⟩] at hbearer
  rw [(entered_idle _).perform_resolveToken, entered_policy, entered_clock]
  exact congrArg Tokens.answer hbearer

end Sample

open Sample in
/-- A token that is accepted, and the same token with one more digit at its end. -/
theorem signed_bound_sample :
    let text := String.ofList (Signed.write policy.tokens.key admission)
    let s := entered policy.tokens
    Presented.ofText? text = some (.signed (Signed.segment Signed.header) admissionClaims
      admissionSignature) ∧
      (s.perform (.resolveToken text) (draws 6)).1 = .ok member ∧
      Tokens.Bound policy.tokens.key clock .access (Signed.segment Signed.header) admissionClaims
        admissionSignature member ∧
      s.Refuses (Signed.text (Signed.segment Signed.header) admissionClaims
        (admissionSignature ++ ['A'])) := by
  intro text s
  have hs : Presented.ofText? text = some (.signed (Signed.segment Signed.header)
      admissionClaims admissionSignature) := Presented.ofText?_write policy.tokens.key admission
  obtain ⟨-, haccess, -, hforged, -⟩ := signed_bound s hs
  rw [entered_policy, entered_clock] at haccess
  rw [entered_policy] at hforged
  have hlonger : admissionSignature ++ ['A'] ≠ admissionSignature := by
    intro h
    have hlength := congrArg List.length h
    rw [List.length_append] at hlength
    exact absurd hlength (Nat.succ_ne_self _)
  exact ⟨hs, admission_accepted, haccess _ _ admission_accepted, hforged _ hlonger⟩

end GroupAccess
