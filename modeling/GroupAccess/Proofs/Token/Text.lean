import GroupAccess.Proofs.Codec.Base64
import GroupAccess.Proofs.Codec.Uuid
import GroupAccess.Proofs.Token.Claims
import GroupAccess.Token.SecretRecord

namespace GroupAccess

open Json

namespace Secret

theorem ofBytes?_toList (s : Secret) : ofBytes? s.toList = some s := by
  have hs : s.toList.toArray = s.toArray := rfl
  rw [ofBytes?, dif_pos (hs ▸ s.size_toArray)]
  rfl

theorem ofChars?_chars (s : Secret) : ofChars? s.chars = some s := by
  rw [ofChars?, chars, Base64.decode?_encode Base64.urlSafe_reads]
  exact s.ofBytes?_toList

end Secret

namespace Signed

theorem segment_ne_nil (j : Json) : segment j ≠ [] := by
  refine Base64.encode_ne_nil ?_
  rw [text, utf8_ofList]
  exact (spells_chars j).ne_nil

theorem point_not_mem_segment (j : Json) : '.' ∉ segment j := Base64.point_not_mem_encode _

theorem point_not_mem_signature (key : List UInt8) (header claims : List Char) :
    '.' ∉ signature key header claims :=
  Base64.point_not_mem_encode _

theorem signature_ne_nil (key : List UInt8) (header claims : List Char) :
    signature key header claims ≠ [] :=
  Base64.encode_ne_nil (List.cons_ne_nil _ _)

end Signed

namespace Presented

theorem ofText?_secret (s : Secret) : ofText? s.text = some (.secret s) := by
  have hsplit : Text.split '.' s.chars = [s.chars] :=
    Text.split_of_not_mem (Base64.point_not_mem_encode _)
  rw [ofText?, Secret.text, String.toList_ofList, ofChars?, hsplit]
  simp only [s.ofChars?_chars, Option.map_some]

theorem ofText?_write (key : List UInt8) (c : Claims) :
    ofText? (String.ofList (Signed.write key c)) =
      some (.signed (Signed.segment Signed.header) (Signed.segment c.toJson)
        (Signed.signature key (Signed.segment Signed.header) (Signed.segment c.toJson))) := by
  have hsplit : Text.split '.' (Signed.write key c) =
      [Signed.segment Signed.header, Signed.segment c.toJson,
        Signed.signature key (Signed.segment Signed.header) (Signed.segment c.toJson)] := by
    rw [Signed.write, Text.split_append (Signed.point_not_mem_segment _),
      Text.split_append (Signed.point_not_mem_segment _),
      Text.split_of_not_mem (Signed.point_not_mem_signature _ _ _)]
  rw [ofText?, String.toList_ofList, ofChars?, hsplit]
  refine if_neg ?_
  rintro (h | h | h)
  · exact Signed.segment_ne_nil _ h
  · exact Signed.segment_ne_nil _ h
  · exact Signed.signature_ne_nil _ _ _ h

end Presented

namespace Signed

theorem headerIsSound_segment : headerIsSound (segment header) = true := by
  rw [headerIsSound, segment, Base64.decode?_encode Base64.urlSafe_reads, Option.bind_some,
    ofUtf8?_utf8]
  have hd : decodeHeader header.draft = .ok () := by
    simp [decodeHeader, header, draft, namedDrafts, decodeRecord, headerFields, collectFields,
      field, Found.get, decodeOption, decodeString, KeyHint.decodeName, decodeCase,
      List.lookup_cons, List.lookup_nil, Except.map, bind, Except.bind, pure, Except.pure]
  simp only [decodeAll_text hd]
  rfl

/-- A token is opened with the key that it was written with. -/
theorem open?_write (key : List UInt8) {c : Claims} (h : c.Bounded) :
    open? key (segment header) (segment c.toJson)
      (signature key (segment header) (segment c.toJson)) = some c := by
  rw [open?, if_pos ⟨headerIsSound_segment, rfl⟩, claims?_segment h]

end Signed

end GroupAccess
