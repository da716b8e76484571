import Pagecraft.Text.Basic

/-! The UTF-8 form of a text. Main statement: what was encoded is read back. -/
namespace Pagecraft

def Text.utf8 (t : Text) : Bytes := t.flatMap String.utf8EncodeChar

def Text.ofUtf8? (bytes : Bytes) : Option Text := bytes.toByteArray.utf8Decode?.map Array.toList

@[simp] theorem Text.ofUtf8?_utf8 (t : Text) : Text.ofUtf8? t.utf8 = some t := by
  have : t.utf8.toByteArray = List.utf8Encode t := rfl
  simp [Text.ofUtf8?, this, List.utf8Decode?_utf8Encode]

theorem Text.eq_utf8_of_ofUtf8? {bytes : Bytes} {t : Text} (h : Text.ofUtf8? bytes = some t) :
    bytes = t.utf8 := by
  obtain ⟨chars, decoded, rfl⟩ := Option.map_eq_some_iff.mp h
  have whole : (chars.toList.utf8Encode : ByteArray) = bytes.toByteArray := by
    have := ByteArray.utf8Encode_get_utf8Decode? (h := by rw [decoded]; rfl)
    simpa only [decoded, Option.get_some] using this
  exact List.toByteArray_inj.mp whole.symm

theorem Text.ofUtf8?_eq_none_iff {bytes : Bytes} :
    Text.ofUtf8? bytes = none ↔ ∀ t : Text, t.utf8 ≠ bytes := by
  constructor
  · rintro none t rfl
    rw [Text.ofUtf8?_utf8] at none
    cases none
  · intro other
    cases read : Text.ofUtf8? bytes with
    | none => rfl
    | some t => exact absurd (Text.eq_utf8_of_ofUtf8? read).symm (other t)

def Text.byteCount (t : Text) : Nat := t.utf8.length

end Pagecraft
