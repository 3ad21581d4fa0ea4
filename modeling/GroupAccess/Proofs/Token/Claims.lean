import GroupAccess.Proofs.Codec.Base64
import GroupAccess.Proofs.Json.Record
import GroupAccess.Token.Signed

namespace GroupAccess

open Json

namespace Claims

/-- The times of some claims are within their bounds. -/
structure Bounded (c : Claims) : Prop where
  issued : timeBounds.contains c.issued = true
  notBefore : timeBounds.contains c.notBefore = true
  expiry : timeBounds.contains c.expiry = true

theorem decodeInt_draft {n : Int} (h : timeBounds.contains n = true) :
    decodeInt timeBounds (Json.int n).draft = .ok n := by
  simp only [draft, decodeInt, Numeral.int?_natAbs, if_pos h]

theorem decodeAudience_draft (a : Audience) :
    Audience.decode (Json.string a.name).draft = .ok a := by
  cases a <;> rfl

/-- The fields of some claims, in the order in which they are written. -/
def written (c : Claims) : Found :=
  [("sub", .string (some c.subject)), ("aud", (Json.string c.audience.name).draft),
    ("iat", (Json.int c.issued).draft), ("nbf", (Json.int c.notBefore).draft),
    ("exp", (Json.int c.expiry).draft), ("jti", .string (some c.serial))]

theorem toJson_draft (c : Claims) : c.toJson.draft = .object c.written.named := rfl

/-- The fields of some claims are known, and each passes its check. -/
theorem check_written {c : Claims} (h : c.Bounded) : ∀ p ∈ c.written,
    ∃ f, fields.find? (·.name == p.1) = some f ∧ f.check p.2 = .ok () := by
  have hcheck {α : Type} {name : String} {decode : Decoder α} {d : Draft} {a : α}
      (hd : decode d = .ok a) : (field name decode).check d = .ok () := by
    simp only [field, hd]
    rfl
  simp only [written, List.forall_mem_cons, List.not_mem_nil, false_implies, implies_true,
    and_true]
  exact ⟨⟨_, rfl, rfl⟩, ⟨_, rfl, hcheck (decodeAudience_draft _)⟩,
    ⟨_, rfl, hcheck (decodeInt_draft h.issued)⟩, ⟨_, rfl, hcheck (decodeInt_draft h.notBefore)⟩,
    ⟨_, rfl, hcheck (decodeInt_draft h.expiry)⟩, ⟨_, rfl, rfl⟩⟩

/-- Claims are read from their fields in any order and among other fields. -/
theorem decode_perm {c : Claims} (h : c.Bounded) {extra fs : List (Option String × Draft)}
    (hp : fs.Perm (c.written.named ++ extra))
    (he : ∀ x ∈ extra, ∃ name, x.1 = some name ∧ fields.find? (·.name == name) = none ∧
      x.2.whole = true) : decode (.object fs) = .ok c := by
  have hn : (c.written.map Prod.fst).Nodup := by
    simp only [written, List.map_cons, List.map_nil]
    decide
  obtain ⟨found, hfound, hl⟩ := Found.collectFields_perm hp hn (check_written h) he
  simp only [written, List.forall_mem_cons] at hl
  obtain ⟨hsub, haud, hiat, hnbf, hexp, hjti, -⟩ := hl
  have hsub : found.get "sub" decodeString = .ok c.subject := Found.get_of_lookup hsub rfl
  have haud := Found.get_of_lookup haud (decodeAudience_draft c.audience)
  have hiat := Found.get_of_lookup hiat (decodeInt_draft h.issued)
  have hnbf := Found.get_of_lookup hnbf (decodeInt_draft h.notBefore)
  have hexp := Found.get_of_lookup hexp (decodeInt_draft h.expiry)
  have hjti : found.get "jti" decodeString = .ok c.serial := Found.get_of_lookup hjti rfl
  refine bind_eq_ok.2 ⟨found, hfound, bind_eq_ok.2 ⟨_, hsub, bind_eq_ok.2 ⟨_, haud, ?_⟩⟩⟩
  refine bind_eq_ok.2 ⟨_, hiat, bind_eq_ok.2 ⟨_, hnbf, bind_eq_ok.2 ⟨_, hexp, ?_⟩⟩⟩
  exact bind_eq_ok.2 ⟨_, hjti, rfl⟩

theorem decode_draft {c : Claims} (h : c.Bounded) : decode c.toJson.draft = .ok c := by
  rw [toJson_draft]
  refine @decode_perm c h [] _ ?_ (by simp)
  rw [List.append_nil]

/-- The times of all claims that are read are within their bounds. -/
theorem bounded_of_decode {d : Draft} {c : Claims} (h : decode d = .ok c) : c.Bounded := by
  obtain ⟨found, h⟩ := of_decodeRecord h
  obtain ⟨subject, -, h⟩ := bind_eq_ok.1 h
  obtain ⟨audience, -, h⟩ := bind_eq_ok.1 h
  obtain ⟨issued, hi, h⟩ := bind_eq_ok.1 h
  obtain ⟨notBefore, hn, h⟩ := bind_eq_ok.1 h
  obtain ⟨expiry, he, h⟩ := bind_eq_ok.1 h
  obtain ⟨serial, -, h⟩ := bind_eq_ok.1 h
  cases h
  have hbounds {name : String} {n : Int}
      (hg : found.get name (decodeInt timeBounds) = .ok n) : timeBounds.contains n = true := by
    obtain ⟨d, hd⟩ := Found.of_get hg
    exact contains_of_decodeInt hd
  exact ⟨hbounds hi, hbounds hn, hbounds he⟩

end Claims

namespace Signed

theorem issuerIsSound_draft (c : Claims) : issuerIsSound c.toJson.draft = true := by
  simp [Claims.toJson, draft, namedDrafts, issuerIsSound]

/-- The claims that were written are read again. -/
theorem claims?_segment {c : Claims} (h : c.Bounded) : claims? (segment c.toJson) = some c := by
  have hi : issuerIsSound (Parser.parse (utf8 c.toJson.text)).1 = true := by
    rw [Parser.parse_text]
    exact issuerIsSound_draft c
  have hg : guard (issuerIsSound (Parser.parse (utf8 c.toJson.text)).1) = some () := if_pos hi
  rw [claims?, segment, Base64.decode?_encode Base64.urlSafe_reads, Option.bind_eq_bind,
    Option.bind_some, decodeAll_text (Claims.decode_draft h)]
  exact congrArg (fun g : Option Unit => g.bind fun _ => some c) hg

end Signed

/-- Claims whose times fit into 64 bits are read again from the text that is written for them, and
from its segment. All that is read as claims, from whatever bytes, are such claims. They are read
from every text of an object that has their fields, in any order and among fields of other names,
with blanks and escapes anywhere. -/
theorem claims_round_trip :
    (∀ c : Claims, c.Bounded →
      decodeAll Claims.decode (utf8 c.toJson.text) = .ok c ∧
      Base64.decode? Base64.urlSafe (Signed.segment c.toJson) = some (utf8 c.toJson.text) ∧
      Signed.claims? (Signed.segment c.toJson) = some c) ∧
    (∀ bytes c, decodeAll Claims.decode bytes = .ok c →
      c.Bounded ∧ decodeAll Claims.decode (utf8 c.toJson.text) = .ok c ∧
      Signed.claims? (Signed.segment c.toJson) = some c) ∧
    ∀ (c : Claims) (own extra fields : List (Option String × Draft)) (bytes blanks : List UInt8),
      c.Bounded → c.toJson.draft = .object own → fields.Perm (own ++ extra) →
      (∀ x ∈ extra, ∀ f ∈ Claims.fields, x.1 ≠ some f.name) →
      Spells (.object fields) bytes → Blank blanks →
      decodeAll Claims.decode (bytes ++ blanks) = .ok c := by
  have hread (c : Claims) (h : c.Bounded) : decodeAll Claims.decode (utf8 c.toJson.text) = .ok c ∧
      Signed.claims? (Signed.segment c.toJson) = some c :=
    ⟨decodeAll_text (Claims.decode_draft h), Signed.claims?_segment h⟩
  refine ⟨fun c h => ?_, fun bytes c h => ?_, ?_⟩
  · exact ⟨(hread c h).1, Base64.decode?_encode Base64.urlSafe_reads _, (hread c h).2⟩
  · have hc := Claims.bounded_of_decode (of_decodeAll h)
    exact ⟨hc, hread c hc⟩
  · intro c own extra fields bytes blanks h ho hp he hs hb
    cases ho
    refine hs.decodeAll hb (Claims.decode_perm h hp fun x hx => ?_)
    obtain ⟨⟨name, hname⟩, bs, hx'⟩ := hs.each x (hp.mem_iff.2 (List.mem_append_right _ hx))
    refine ⟨name, hname, List.find?_eq_none.2 fun f hf hb => ?_, hx'.whole⟩
    exact he x hx f hf (by rw [hname, beq_iff_eq.1 hb])

namespace Sample

/-- The times are as far apart as they can be, and the subject needs escapes. -/
def extremes : Claims where
  subject := "\"\\\n\u0001"
  audience := .refresh
  issued := -9223372036854775808
  notBefore := -1
  expiry := 9223372036854775807
  serial := "😀"

/-- The value of a field that claims do not have. -/
def remark : Json := .array [.null, .bool true]

/-- A text of the claims, from the last field to the first. -/
def disordered : String :=
  "\x7b\"x\":[null,true] ,\"jti\" : \"\\ud83D\\ude00\",\"exp\":9223372036854775807,\"nbf\":-1," ++
    "\"iat\":-9223372036854775808,\"aud\":\"refresh\",\"sub\":\"\\\"\\\\\\n\\u0001\"\x7d\n"

theorem blank_one {b : UInt8} (hb : Parser.isBlank b = true) : Blank [b] := by
  intro c hc
  rwa [List.mem_singleton.1 hc]

/-- The remark has a blank after it, and the last character is written as two surrogates. -/
theorem disordered_spelled : ∃ bytes, utf8 disordered = bytes ++ [0x0a] ∧
    Spells (.object (extremes.written.named ++ [(some "x", remark.draft)]).reverse) bytes := by
  have hleading : SpellsHex (((0xd * 16 + 8) * 16 + 3) * 16 + 0xd) [0x64, 0x38, 0x33, 0x44] :=
    .mk rfl rfl rfl rfl
  have htrailing : SpellsHex (((0xd * 16 + 0xe) * 16 + 0) * 16 + 0) [0x64, 0x65, 0x30, 0x30] :=
    .mk rfl rfl rfl rfl
  have hserial := SpellsString.mk (.cons (.pair hleading htrailing rfl rfl) .nil)
  have hblank : Blank [0x20] := blank_one rfl
  have hfields : SpellsFields (extremes.written.named ++ [(some "x", remark.draft)]).reverse _ :=
    .more (spellsName_quote "x") (spells_chars remark) hblank <|
    .more (.mk blank_nil (spellsString_quote "jti") hblank)
      (.blank (show Parser.isBlank 0x20 = true from rfl) (.string hserial)) blank_nil <|
    .more (spellsName_quote "exp") (spells_chars (.int _)) blank_nil <|
    .more (spellsName_quote "nbf") (spells_chars (.int _)) blank_nil <|
    .more (spellsName_quote "iat") (spells_chars (.int _)) blank_nil <|
    .more (spellsName_quote "aud") (spells_chars (.string _)) blank_nil <|
    .last (spellsName_quote "sub") (spells_chars (.string _)) blank_nil
  refine ⟨_, ?_, .object hfields⟩
  decide +kernel

end Sample

open Sample in
/-- The claims are read from their own text and from a disordered one. -/
theorem claims_round_trip_sample :
    extremes.Bounded ∧ Signed.claims? (Signed.segment extremes.toJson) = some extremes ∧
      decodeAll Claims.decode (utf8 disordered) = .ok extremes := by
  have hc : extremes.Bounded := ⟨by decide, by decide, by decide⟩
  obtain ⟨bytes, htext, hs⟩ := disordered_spelled
  refine ⟨hc, (claims_round_trip.1 extremes hc).2.2, ?_⟩
  rw [htext]
  refine claims_round_trip.2.2 extremes _ [(some "x", remark.draft)] _ _ _ hc rfl
    (List.reverse_perm _) ?_ hs (blank_one rfl)
  decide

end GroupAccess
