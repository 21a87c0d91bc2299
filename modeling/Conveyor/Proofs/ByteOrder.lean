/-! The order of texts. Texts are compared character by character, and characters by their numbers. A
greater number takes at least as many bytes, the first of which also says how many there are, so texts
stand in the same order as their bytes. -/
namespace Conveyor

/-- The bytes of a text. -/
def textBytes (text : String) : List UInt8 := text.toUTF8.data.toList

theorem textBytes_eq (text : String) : textBytes text = text.toList.flatMap String.utf8EncodeChar := by
  have encoded := congrArg (fun bytes : ByteArray => bytes.data.toList) text.utf8Encode_toList
  simpa [textBytes, List.utf8Encode] using encoded.symm

theorem ofNat_cons_lt {first second : Nat} {front back : List UInt8} (less : first < second)
    (bound : second < 256) : UInt8.ofNat first :: front < UInt8.ofNat second :: back := by
  refine List.cons_lt_cons_iff.mpr (.inl (UInt8.lt_iff_toNat_lt.mpr ?_))
  rwa [UInt8.toNat_ofNat_of_lt' (Nat.lt_trans less bound), UInt8.toNat_ofNat_of_lt' bound]

theorem ofNat_cons_lt_of_le {first second : Nat} {front back : List UInt8} (le : first ≤ second)
    (bound : second < 256) (less : first = second → front < back) :
    UInt8.ofNat first :: front < UInt8.ofNat second :: back := by
  rcases Nat.lt_or_eq_of_le le with before | same
  · exact ofNat_cons_lt before bound
  · exact List.cons_lt_cons_iff.mpr (.inr ⟨congrArg UInt8.ofNat same, less same⟩)

/-- A character in front of another has smaller bytes, whatever follows. -/
theorem encoded_lt {c d : Char} (less : c < d) (rest rest' : List UInt8) :
    String.utf8EncodeChar c ++ rest < String.utf8EncodeChar d ++ rest' := by
  have numbers : c.val.toNat < d.val.toNat := less
  have bound : d.val.toNat < 1114112 := by
    have valid := d.valid
    simp only [UInt32.isValidChar, Nat.isValidChar] at valid
    omega
  rw [String.utf8EncodeChar.eq_1, String.utf8EncodeChar.eq_1]
  generalize c.val.toNat = one at numbers ⊢
  generalize d.val.toNat = other at numbers bound ⊢
  -- The cases are the lengths of the greater character, and in each those that the smaller one may have.
  by_cases short : other ≤ 127
  · rw [if_pos (by omega), if_pos short]
    exact ofNat_cons_lt numbers (by omega)
  rw [if_neg short]
  by_cases middle : other ≤ 2047
  · rw [if_pos middle]
    split
    · exact ofNat_cons_lt (by omega) (by omega)
    · rw [if_pos (by omega)]
      exact ofNat_cons_lt_of_le (by omega) (by omega) fun _ => ofNat_cons_lt (by omega) (by omega)
  rw [if_neg middle]
  by_cases long : other ≤ 65535
  · rw [if_pos long]
    split
    · exact ofNat_cons_lt (by omega) (by omega)
    · split
      · exact ofNat_cons_lt (by omega) (by omega)
      · rw [if_pos (by omega)]
        exact ofNat_cons_lt_of_le (by omega) (by omega) fun _ =>
          ofNat_cons_lt_of_le (by omega) (by omega) fun _ => ofNat_cons_lt (by omega) (by omega)
  rw [if_neg long]
  split
  · exact ofNat_cons_lt (by omega) (by omega)
  · split
    · exact ofNat_cons_lt (by omega) (by omega)
    · split
      · exact ofNat_cons_lt (by omega) (by omega)
      · exact ofNat_cons_lt_of_le (by omega) (by omega) fun _ =>
          ofNat_cons_lt_of_le (by omega) (by omega) fun _ =>
            ofNat_cons_lt_of_le (by omega) (by omega) fun _ => ofNat_cons_lt (by omega) (by omega)

theorem flatMap_encoded_lt {front back : List Char} (less : front < back) :
    front.flatMap String.utf8EncodeChar < back.flatMap String.utf8EncodeChar := by
  induction less with
  | @nil c rest =>
    obtain ⟨byte, bytes, encoded⟩ := List.exists_cons_of_ne_nil (String.utf8EncodeChar_ne_nil (c := c))
    rw [List.flatMap_nil, List.flatMap_cons, encoded]
    exact List.nil_lt_cons byte _
  | rel before => exact encoded_lt before _ _
  | cons _ ih =>
    rw [List.flatMap_cons, List.flatMap_cons]
    exact List.append_left_lt ih

/-- A text in front of another has smaller bytes. -/
theorem textBytes_lt {one other : String} (less : one < other) : textBytes one < textBytes other := by
  rw [textBytes_eq, textBytes_eq]
  exact flatMap_encoded_lt less

end Conveyor
