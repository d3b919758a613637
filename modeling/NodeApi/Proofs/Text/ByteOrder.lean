/-!
# The order of bytes

Texts are ordered by their characters.  The bytes that stand for a smaller character come before
those of a larger one, whatever follows, so the order of texts is that of their bytes.

Main results:

- Theorem `utf8EncodeChar_append_lt`: characters are told apart by their first byte that differs.
- Theorem `lt_iff_bytes_lt`: texts are ordered as their bytes are.
-/

namespace NodeApi
namespace Text

/-- The bytes of a text. -/
def bytes (s : String) : List UInt8 :=
  s.toByteArray.data.toList

/-- The bytes of a text are those of its characters. -/
theorem bytes_eq_flatMap (s : String) : bytes s = s.toList.flatMap String.utf8EncodeChar := by
  rw [bytes, ← String.utf8Encode_toList, List.utf8Encode, List.data_toByteArray,
    List.toList_toArray]

/-- Different texts have different bytes. -/
theorem bytes_inj {s t : String} : bytes s = bytes t ↔ s = t := by
  rw [bytes, bytes, Array.toList_inj, ByteArray.ext_iff.symm, String.toByteArray_inj]

/-- The bytes of a smaller character come first, whatever follows the two characters. -/
theorem utf8EncodeChar_append_lt {c d : Char} (h : c < d) (xs ys : List UInt8) :
    String.utf8EncodeChar c ++ xs < String.utf8EncodeChar d ++ ys := by
  have hlt : c.val.toNat < d.val.toNat := h
  have hmax : d.val.toNat < 0x110000 := by
    rcases d.valid with hd | ⟨_, hd⟩ <;> omega
  unfold String.utf8EncodeChar
  dsimp only
  generalize c.val.toNat = m at hlt
  generalize d.val.toNat = n at hlt hmax
  -- every byte but the first one holds six bits
  have hdigits : ∀ v : Nat, v / 262144 = v / 64 / 64 / 64 ∧ v / 4096 = v / 64 / 64 := by
    intro v
    simp [Nat.div_div_eq_div_mul]
  simp only [hdigits]
  -- fewer bytes begin with a smaller one, and equally many are compared digit by digit
  split <;> repeat' split
  all_goals
    simp (disch := omega) only [List.cons_append, List.nil_append, List.cons_lt_cons_iff,
      UInt8.lt_iff_toNat_lt, ← UInt8.toNat_inj, UInt8.toNat_ofNat', Nat.mod_eq_of_lt]
    omega

theorem flatMap_utf8EncodeChar_lt {cs ds : List Char} (h : cs < ds) :
    cs.flatMap String.utf8EncodeChar < ds.flatMap String.utf8EncodeChar := by
  induction h with
  | @nil d ds =>
    rcases List.exists_cons_of_ne_nil (String.utf8EncodeChar_ne_nil (c := d)) with ⟨x, xs, hd⟩
    rw [List.flatMap_cons, hd]
    exact List.Lex.nil
  | rel hlt => exact utf8EncodeChar_append_lt hlt _ _
  | cons _ ih => exact List.append_left_lt ih

/-- Texts are ordered as their bytes are. -/
theorem lt_iff_bytes_lt {s t : String} : s < t ↔ bytes s < bytes t := by
  have hmono : ∀ {s t : String}, s < t → bytes s < bytes t := by
    intro s t h
    rw [bytes_eq_flatMap, bytes_eq_flatMap]
    exact flatMap_utf8EncodeChar_lt (String.lt_iff.1 h)
  constructor
  · exact hmono
  · intro h
    refine Decidable.byContradiction fun hnot => ?_
    rcases Std.le_iff_lt_or_eq.1 (Std.not_lt.1 hnot) with hgt | rfl
    · exact List.lt_asymm h (hmono hgt)
    · exact List.lt_irrefl _ h

theorem le_iff_bytes_le {s t : String} : s ≤ t ↔ bytes s ≤ bytes t := by
  rw [← Std.not_lt, lt_iff_bytes_lt, List.not_lt]

end Text
end NodeApi
