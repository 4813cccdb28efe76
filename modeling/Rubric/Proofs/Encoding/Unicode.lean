import Rubric.Encoding.Basic
import Rubric.Proofs.Encoding.Utf16

/-! The encodings that have bytes for all characters. A text is read back from its bytes, and bytes
that are read are written again as they were, with a byte order mark in front if they had one. -/
namespace Rubric.Encoding

/-- The encodings that have bytes for all characters, whatever stands around them. -/
def unicode : List Encoding :=
  [.utf8, .utf16 .lowFirst, .utf16 .highFirst]

/-- Texts and the bytes that are well formed are two forms of the same. Every text has bytes, which
are read as it. Bytes that are read as a text are the ones that it has, and all bytes that are well
formed are read, but no others. -/
structure RoundTrips (encoding : Encoding) (WellFormed : Bytes → Prop) : Prop where
  written : ∀ t, ∃ bytes, encoding.encode? t = some bytes ∧ encoding.decode? bytes = some t
  kept : ∀ bytes t, encoding.decode? bytes = some t → encoding.encode? t = some bytes
  accepted : ∀ bytes, (∃ t, encoding.decode? bytes = some t) ↔ WellFormed bytes

variable {encoding : Encoding}

/-- An encoding of all characters gives each of them bytes of its own, whatever stands around it. -/
theorem exists_encode?_eq (h : encoding ∈ unicode) :
    ∃ bytesOf : Char → Bytes, ∀ t, encoding.encode? t = some (t.flatMap bytesOf) := by
  simp only [unicode, List.mem_cons, List.not_mem_nil, or_false] at h
  rcases h with rfl | rfl | rfl
  · exact ⟨Utf8.encodeChar, fun _ => rfl⟩
  · exact ⟨fun c => (Utf16.units c).flatMap Utf16.ByteOrder.lowFirst.bytes, fun _ => rfl⟩
  · exact ⟨fun c => (Utf16.units c).flatMap Utf16.ByteOrder.highFirst.bytes, fun _ => rfl⟩

/-- Bytes that are written are read as what they were written for, and nothing else is read. -/
theorem roundTrips_of_iff {WellFormed : Bytes → Prop} {encode : Text → Bytes}
    (hEncode : ∀ t, encoding.encode? t = some (encode t))
    (hDecode : ∀ bytes t, encoding.decode? bytes = some t ↔ encode t = bytes)
    (hWellFormed : ∀ bytes, (∃ t, encoding.decode? bytes = some t) ↔ WellFormed bytes) :
    encoding.RoundTrips WellFormed where
  written t := ⟨encode t, hEncode t, (hDecode _ t).mpr rfl⟩
  kept bytes t hRead := by rw [hEncode, (hDecode bytes t).mp hRead]
  accepted := hWellFormed

/-- UTF-8 and UTF-16 in both byte orders lose nothing. What UTF-8 reads are the bytes that are well
formed characters one behind the other, and what UTF-16 reads are bytes of even number among whose
units all surrogates stand in pairs. -/
theorem unicode_roundTrips :
    utf8.RoundTrips Utf8.WellFormed ∧
      ∀ order, (utf16 order).RoundTrips fun bytes =>
        Even bytes.length ∧ Utf16.Paired (Utf16.unitsIn order bytes) := by
  constructor
  · refine roundTrips_of_iff (fun _ => rfl) (fun _ _ => Utf8.decode?_eq_some_iff) fun bytes => ?_
    rw [Utf8.wellFormed_iff]
    exact exists_congr fun _ => Utf8.decode?_eq_some_iff
  · intro order
    exact roundTrips_of_iff (fun _ => rfl) (fun _ _ => Utf16.decode?_eq_some_iff)
      fun _ => Utf16.exists_decode?_eq_iff

example : (utf16 .highFirst).decode? [0xFE, 0xFF, 0xD8, 0x3D, 0xDE, 0x00] =
    some ['\uFEFF', Char.ofNat 0x1F600] := by
  decide

end Rubric.Encoding
