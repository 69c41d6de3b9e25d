import Mathlib.Data.String.Basic
/-!
# Texts and their bytes

Texts are put in order character by character, and so in order by code point. In UTF-8 that is the
order of the bytes as well (`lt_iff_bytes_lt`): the encodings of two characters differ before one of
them ends, and where they differ first the greater character has the greater byte.
-/

namespace ResourceInspector.Text

open String (utf8EncodeChar)

/-- The bytes of a text in UTF-8. -/
def bytes (s : String) : List UInt8 :=
  s.toByteArray.data.toList

theorem bytes_ofList (chars : List Char) :
    bytes (String.ofList chars) = chars.flatMap utf8EncodeChar := by
  rw [bytes, String.toByteArray_ofList]
  induction chars with
  | nil => rfl
  | cons c chars ih =>
    rw [List.utf8Encode_cons, List.flatMap_cons, ← ih]
    simp [List.utf8Encode]

theorem ofNat_lt_ofNat_iff {m n : Nat} (hm : m < 256) (hn : n < 256) :
    UInt8.ofNat m < UInt8.ofNat n ↔ m < n := by
  rw [UInt8.lt_iff_toNat_lt, UInt8.toNat_ofNat_of_lt' hm, UInt8.toNat_ofNat_of_lt' hn]

theorem ofNat_eq_ofNat_iff {m n : Nat} (hm : m < 256) (hn : n < 256) :
    UInt8.ofNat m = UInt8.ofNat n ↔ m = n := by
  rw [← UInt8.toNat_inj, UInt8.toNat_ofNat_of_lt' hm, UInt8.toNat_ofNat_of_lt' hn]

/-- Of two characters the lesser one decides the order of their encodings, whatever follows. -/
theorem utf8EncodeChar_append_lt {c d : Char} (h : c < d) (xs ys : List UInt8) :
    utf8EncodeChar c ++ xs < utf8EncodeChar d ++ ys := by
  have hval : c.val.toNat < d.val.toNat := h
  have hmax : d.val.toNat < 0x110000 := by
    have hvalid := d.valid
    simp only [UInt32.isValidChar, Nat.isValidChar] at hvalid
    omega
  -- the bytes of an encoding hold digits of one number in base 64
  have hdigits : ∀ v : Nat, v < 0x110000 →
      v / 64 / 64 = v / 4096 ∧ v / 4096 / 64 = v / 262144 ∧ v / 262144 % 8 = v / 262144 := by
    intro v hv
    omega
  have hc := hdigits c.val.toNat (hval.trans hmax)
  have hd := hdigits d.val.toNat hmax
  unfold utf8EncodeChar
  dsimp only
  split_ifs <;>
    simp (disch := omega) only [List.cons_append, List.nil_append, List.cons_lt_cons_iff,
      ofNat_lt_ofNat_iff, ofNat_eq_ofNat_iff] <;>
    omega

theorem flatMap_utf8EncodeChar_lt {cs ds : List Char} (h : cs < ds) :
    cs.flatMap utf8EncodeChar < ds.flatMap utf8EncodeChar := by
  induction h with
  | @nil d ds =>
    obtain ⟨first, rest, hfirst⟩ :=
      List.exists_cons_of_ne_nil (String.utf8EncodeChar_ne_nil (c := d))
    rw [List.flatMap_nil, List.flatMap_cons, hfirst]
    exact List.nil_lt_cons ..
  | rel hcd => exact utf8EncodeChar_append_lt hcd _ _
  | cons _ ih => exact List.append_left_lt ih

/-- Texts are in the order of their bytes. -/
theorem lt_iff_bytes_lt {a b : String} : a < b ↔ bytes a < bytes b := by
  have hlt : ∀ {a b : String}, a < b → bytes a < bytes b := by
    intro a b h
    rw [← String.ofList_toList (s := a), ← String.ofList_toList (s := b), bytes_ofList,
      bytes_ofList]
    exact flatMap_utf8EncodeChar_lt (String.lt_iff_toList_lt.1 h)
  refine ⟨hlt, ?_⟩
  intro h
  by_contra hnot
  rcases eq_or_lt_of_le (not_lt.1 hnot) with rfl | hgt
  · exact List.lt_irrefl _ h
  · exact List.lt_asymm h (hlt hgt)

end ResourceInspector.Text
