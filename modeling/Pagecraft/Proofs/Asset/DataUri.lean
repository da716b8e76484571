import Pagecraft.Asset.DataUri
import Pagecraft.Proofs.Text.Cut
import Pagecraft.Proofs.Text.Sextets

/-! Reading data URIs back. The payload stands after the first comma, so a data URI gives its bytes
back unless its media type brings a comma of its own. Nothing but the base64 form of bytes, with
blanks around it, is read as a payload. -/
namespace Pagecraft

theorem Except.mapError_eq_ok_iff {ε δ α : Type} {f : ε → δ} {x : Except ε α} {a : α} :
    x.mapError f = .ok a ↔ x = .ok a := by
  cases x <;> simp [Except.mapError]

namespace Base64

theorem not_isBlank_of_mem_encode {bytes : Bytes} {c : Char} (mem : c ∈ encode bytes) :
    ¬isBlank c :=
  forall_mem_encode (p := fun c => ¬isBlank c) (by decide) (by decide) bytes c mem

theorem semicolon_not_mem_encode (bytes : Bytes) : ';' ∉ encode bytes := fun mem =>
  forall_mem_encode (p := fun c => c ≠ ';') (by decide) (by decide) bytes _ mem rfl

end Base64

namespace DataUri

theorem decode_of_not_mem {uri : Text} (h : ',' ∉ uri) : decode uri = .error .missingSeparator := by
  rw [decode, Text.cut?_of_not_mem h]

theorem decode_append_cons {header : Text} (h : ',' ∉ header) (payload : Text) :
    decode (header ++ ',' :: payload) =
      (Base64.decode payload.trim).mapError .invalidPayload := by
  rw [decode, Text.cut?_append_cons h]

theorem encode_eq (mediaType : Text) (bytes : Bytes) :
    encode mediaType bytes =
      ("data:".toList ++ mediaType ++ ";base64".toList) ++ ',' :: Base64.encode bytes := by
  have mark : ";base64,".toList = ";base64".toList ++ [','] := by decide
  unfold encode
  rw [mark]
  simp only [List.append_assoc, List.singleton_append]

theorem decode_encode {mediaType : Text} (h : ',' ∉ mediaType) (bytes : Bytes) :
    decode (encode mediaType bytes) = .ok bytes := by
  have header : ',' ∉ "data:".toList ++ mediaType ++ ";base64".toList := by
    simp [h]
  have whole : (Base64.encode bytes).trim = Base64.encode bytes :=
    Text.trim_eq_self fun _ => Base64.not_isBlank_of_mem_encode
  rw [encode_eq, decode_append_cons header, whole, Base64.decode_encode]
  rfl

/-- A comma in the media type leaves a semicolon in the payload, which base64 does not know. -/
theorem decode_encode_of_mem {mediaType : Text} (h : ',' ∈ mediaType) (bytes : Bytes) :
    ∃ cause, decode (encode mediaType bytes) = .error (.invalidPayload cause) := by
  obtain ⟨front, back, rfl, first⟩ := List.eq_append_cons_of_mem h
  have header : ',' ∉ "data:".toList ++ front := by
    simp [first]
  have split : encode (front ++ ',' :: back) bytes =
      ("data:".toList ++ front) ++ ',' :: (back ++ ";base64,".toList ++ Base64.encode bytes) := by
    unfold encode
    simp only [List.append_assoc, List.cons_append]
  have semicolon : ';' ∈ Text.trim (back ++ ";base64,".toList ++ Base64.encode bytes) := by
    apply Text.mem_trim
    · exact List.mem_append_left _ (List.mem_append_right back (by decide))
    · decide
  obtain ⟨cause, failed⟩ := Base64.decode_of_mem semicolon Base64.semicolon_not_mem_encode
  refine ⟨cause, ?_⟩
  rw [split, decode_append_cons header, failed]
  rfl

theorem decode_encode_eq_ok_iff {mediaType : Text} {bytes decoded : Bytes} :
    decode (encode mediaType bytes) = .ok decoded ↔ ',' ∉ mediaType ∧ decoded = bytes := by
  by_cases comma : ',' ∈ mediaType
  · obtain ⟨cause, failed⟩ := decode_encode_of_mem comma bytes
    simp [failed, comma]
  · rw [decode_encode comma]
    simp [comma, eq_comm]

/-- That the base64 form of bytes, between blanks, is all that follows the first comma. -/
def Carries (uri : Text) (bytes : Bytes) : Prop :=
  ∃ header before after : Text,
    uri = header ++ ',' :: (before ++ Base64.standard bytes ++ after) ∧
      ',' ∉ header ∧ before.allBlank ∧ after.allBlank

theorem decode_eq_ok_iff {uri : Text} {bytes : Bytes} :
    decode uri = .ok bytes ↔ Carries uri bytes := by
  constructor
  · intro h
    by_cases comma : ',' ∈ uri
    · obtain ⟨header, payload, rfl, first⟩ := List.eq_append_cons_of_mem comma
      rw [decode_append_cons first, Except.mapError_eq_ok_iff, Base64.decode_eq_ok_iff,
        Base64.encode_eq_standard] at h
      obtain ⟨before, after, whole, front, back⟩ := Text.exists_trim payload
      rw [h] at whole
      exact ⟨header, before, after, congrArg (fun t => header ++ ',' :: t) whole, first, front, back⟩
    · rw [decode_of_not_mem comma] at h
      cases h
  · rintro ⟨header, before, after, rfl, first, front, back⟩
    rw [← Base64.encode_eq_standard, decode_append_cons first, Except.mapError_eq_ok_iff,
      Text.trim_between front (fun _ => Base64.not_isBlank_of_mem_encode) back,
      Base64.decode_encode]

theorem decode_eq_missingSeparator_iff {uri : Text} :
    decode uri = .error .missingSeparator ↔ ',' ∉ uri := by
  refine ⟨fun failed comma => ?_, decode_of_not_mem⟩
  obtain ⟨header, payload, rfl, first⟩ := List.eq_append_cons_of_mem comma
  rw [decode_append_cons first] at failed
  cases read : Base64.decode (Text.trim payload) <;> simp [read, Except.mapError] at failed

theorem decode_eq_invalidPayload_iff {uri : Text} :
    (∃ cause, decode uri = .error (.invalidPayload cause)) ↔
      ',' ∈ uri ∧ ∀ bytes, ¬Carries uri bytes := by
  simp only [← decode_eq_ok_iff]
  cases result : decode uri with
  | ok bytes => simp
  | error e =>
    cases e with
    | missingSeparator => simp [decode_eq_missingSeparator_iff.mp result]
    | invalidPayload cause =>
      have comma : ',' ∈ uri := by
        by_contra absent
        rw [decode_of_not_mem absent] at result
        cases result
      simp [comma]

/-- A data URI is its media type and the base64 form of its bytes in a fixed frame. A text is read as
bytes exactly if it carries them; otherwise there is no comma, or the payload is at fault. So bytes
are read back from their data URI exactly if there is no comma in the media type. -/
theorem decode_iff_carries :
    (∀ uri bytes, decode uri = .ok bytes ↔ Carries uri bytes) ∧
    (∀ uri, decode uri = .error .missingSeparator ↔ ',' ∉ uri) ∧
    (∀ uri, (∃ cause, decode uri = .error (.invalidPayload cause)) ↔
      ',' ∈ uri ∧ ∀ bytes, ¬Carries uri bytes) ∧
    ∀ mediaType bytes,
      encode mediaType bytes =
        "data:".toList ++ mediaType ++ ";base64,".toList ++ Base64.standard bytes ∧
      (decode (encode mediaType bytes) = .ok bytes ↔ ',' ∉ mediaType) ∧
      ((∃ cause, decode (encode mediaType bytes) = .error (.invalidPayload cause)) ↔
        ',' ∈ mediaType) := by
  refine ⟨fun _ _ => decode_eq_ok_iff, fun _ => decode_eq_missingSeparator_iff,
    fun _ => decode_eq_invalidPayload_iff, fun mediaType bytes => ⟨?_, ?_, ?_, ?_⟩⟩
  · unfold encode
    rw [Base64.encode_eq_standard]
  · simp [decode_encode_eq_ok_iff]
  · rintro ⟨cause, failed⟩
    by_contra free
    rw [decode_encode free] at failed
    cases failed
  · exact fun comma => decode_encode_of_mem comma bytes

end DataUri
end Pagecraft
