import Conveyor.Text.Base64

/-! Base64 gives back what was written. The written form of the bytes of a `Value` is made of groups of four
symbols, of which only the last may be padded, and so reading meets nothing that it would refuse: every
symbol has its value, the groups are full, and the bits behind the last byte are zero. As all symbols are
ASCII, the text of the symbols has them as its UTF-8 bytes. -/
namespace Conveyor.Base64

theorem valueOf?_symbol {value : Nat} (small : value < 64) : valueOf? (symbol value) = some value := by
  have all : ∀ value < 64, valueOf? (symbol value) = some value := by decide
  exact all value small

theorem symbol_ne_pad {value : Nat} (small : value < 64) : symbol value ≠ pad := by
  have all : ∀ value < 64, symbol value ≠ pad := by decide
  exact all value small

theorem symbol_ascii (value : Nat) : (symbol value).toNat < 128 := by
  unfold symbol
  split
  · simp; omega
  · split
    · simp; omega
    · split
      · simp; omega
      · split <;> decide

theorem readSymbols_symbols {values : List Nat} (small : ∀ value ∈ values, value < 64) (offset : Nat) :
    readSymbols offset (values.map symbol) = .ok values := by
  induction values generalizing offset with
  | nil => rfl
  | cons value rest ih =>
    obtain ⟨first, others⟩ := List.forall_mem_cons.mp small
    rw [List.map_cons, readSymbols, valueOf?_symbol first]
    dsimp only
    rw [ih others]
    rfl

theorem byte_eq {byte : UInt8} {value : Nat} (same : value = byte.toNat) : UInt8.ofNat value = byte := by
  rw [same, UInt8.ofNat_toNat]

/-- Three bytes are what their group stands for. -/
theorem groupBytes_group (a b c : UInt8) :
    groupBytes (a.toNat / 4) (a.toNat % 4 * 16 + b.toNat / 16) (b.toNat % 16 * 4 + c.toNat / 64)
      (c.toNat % 64) = [a, b, c] := by
  have second := b.toNat_lt
  have third := c.toNat_lt
  rw [groupBytes, @byte_eq a _ (by omega), @byte_eq b _ (by omega), @byte_eq c _ (by omega)]

section Padding

variable {values : List Nat} (small : ∀ value ∈ values, value < 64) (signs : Nat)

include small

theorem all_symbols : ∀ byte ∈ values.map symbol, (byte != pad) = true := by
  intro byte member
  obtain ⟨value, among, rfl⟩ := List.mem_map.mp member
  simpa using symbol_ne_pad (small value among)

theorem takeWhile_padded :
    (values.map symbol ++ List.replicate signs pad).takeWhile (· != pad) = values.map symbol := by
  rw [List.takeWhile_append_of_pos (all_symbols small)]
  cases signs <;> simp [List.replicate_succ]

theorem dropWhile_padded :
    (values.map symbol ++ List.replicate signs pad).dropWhile (· != pad) = List.replicate signs pad := by
  rw [List.dropWhile_append_of_pos (all_symbols small)]
  cases signs <;> simp [List.replicate_succ]

end Padding

/-- A last group with one to three bytes, padded to four places. -/
theorem decodeLast_padded {values : List Nat} (small : ∀ value ∈ values, value < 64)
    (two : 2 ≤ values.length) (signs : Nat) (full : values.length + signs = 4) (offset : Nat) :
    decodeLast offset (values.map symbol ++ List.replicate signs pad) =
      match values with
      | [a, b] =>
        if b % 16 = 0 then .ok [UInt8.ofNat (a * 4 + b / 16)]
        else .error (.lastSymbol (symbol b) (offset + 1))
      | [a, b, c] =>
        if c % 4 = 0 then .ok [UInt8.ofNat (a * 4 + b / 16), UInt8.ofNat (b % 16 * 16 + c / 4)]
        else .error (.lastSymbol (symbol c) (offset + 2))
      | [a, b, c, d] => .ok (groupBytes a b c d)
      | _ => .ok [] := by
  have length : (values.map symbol ++ List.replicate signs pad).length = 4 := by
    simpa using full
  unfold decodeLast
  rw [takeWhile_padded small, dropWhile_padded small, length]
  dsimp only
  rw [readSymbols_symbols small]
  obtain _ | ⟨a, _ | ⟨b, rest⟩⟩ := values
  · cases two
  · simp at two
  · obtain _ | ⟨c, _ | ⟨d, _ | ⟨e, rest⟩⟩⟩ := rest
    all_goals simp only [List.length_cons, List.length_nil] at full
    · obtain rfl : signs = 2 := by omega
      rfl
    · obtain rfl : signs = 1 := by omega
      rfl
    · obtain rfl : signs = 0 := by omega
      rfl
    · omega

/-- The values of the symbols of three bytes. -/
theorem group_small (a b c : UInt8) : ∀ value ∈ [a.toNat / 4, a.toNat % 4 * 16 + b.toNat / 16,
    b.toNat % 16 * 4 + c.toNat / 64, c.toNat % 64], value < 64 := by
  have first := a.toNat_lt
  have second := b.toNat_lt
  have third := c.toNat_lt
  simp only [List.forall_mem_cons]
  exact ⟨by omega, by omega, by omega, by omega, by simp⟩

theorem decodeFrom_encode (bytes : List UInt8) (offset : Nat) :
    decodeFrom offset (encode bytes) = .ok bytes := by
  fun_induction encode bytes generalizing offset with
  | case1 => rfl
  | case2 a =>
    have first := a.toNat_lt
    have small : ∀ value ∈ [a.toNat / 4, a.toNat % 4 * 16], value < 64 := by
      simp only [List.forall_mem_cons]
      exact ⟨by omega, by omega, by simp⟩
    refine (decodeLast_padded small (by simp) 2 rfl offset).trans ?_
    dsimp only
    rw [if_pos (by omega), byte_eq]
    omega
  | case3 a b =>
    have first := a.toNat_lt
    have second := b.toNat_lt
    have small : ∀ value ∈ [a.toNat / 4, a.toNat % 4 * 16 + b.toNat / 16, b.toNat % 16 * 4],
        value < 64 := by
      simp only [List.forall_mem_cons]
      exact ⟨by omega, by omega, by omega, by simp⟩
    refine (decodeLast_padded small (by simp) 1 rfl offset).trans ?_
    dsimp only
    rw [if_pos (by omega), @byte_eq a _ (by omega), @byte_eq b _ (by omega)]
  | case4 a b c rest ih =>
    cases next : encode rest with
    | nil =>
      have only : rest = [] := by
        have read := ih 0
        rw [next] at read
        cases read
        rfl
      subst only
      refine (decodeLast_padded (group_small a b c) (by simp) 0 rfl offset).trans ?_
      dsimp only
      rw [groupBytes_group]
    | cons e more =>
      rw [next] at ih
      have read := readSymbols_symbols (group_small a b c) offset
      simp only [List.map_cons, List.map_nil] at read
      rw [decodeFrom, read]
      change (do return groupBytes _ _ _ _ ++ (← decodeFrom (offset + 4) (e :: more))) = _
      rw [ih, groupBytes_group]
      rfl

theorem length_encode (bytes : List UInt8) : (encode bytes).length % 4 = 0 := by
  fun_induction encode bytes with
  | case1 => rfl
  | case2 a => simp
  | case3 a b => simp
  | case4 a b c rest ih =>
    simp only [List.length_cons]
    omega

/-- What was written of any bytes is read as these bytes. -/
theorem decode_encode (bytes : List UInt8) : decode (encode bytes) = .ok bytes := by
  have read := decodeFrom_encode bytes 0
  unfold decode
  split
  · rw [if_neg (by simp [length_encode]), read]
  · next empty =>
    rw [List.getLast?_eq_none_iff.mp empty] at read
    exact read

theorem encode_ascii (bytes : List UInt8) : ∀ byte ∈ encode bytes, byte.toNat < 128 := by
  fun_induction encode bytes <;> simp_all [symbol_ascii, pad]

theorem toList_loop (bytes : ByteArray) (index : Nat) (read : List UInt8) :
    ByteArray.toList.loop bytes index read = read.reverse ++ bytes.data.toList.drop index := by
  fun_induction ByteArray.toList.loop bytes index read with
  | case1 index read below ih =>
    have next : bytes.data.toList.drop index = bytes.get! index :: bytes.data.toList.drop (index + 1) := by
      have inside : index < bytes.data.toList.length := below
      rw [List.drop_eq_getElem_cons inside]
      congr 1
      simp [ByteArray.get!, below]
    rw [ih, next, List.reverse_cons, List.append_assoc]
    rfl
  | case2 index read beyond =>
    have none : bytes.data.toList.length ≤ index := Nat.le_of_not_lt beyond
    rw [List.drop_eq_nil_of_le none, List.append_nil]

theorem toList_toByteArray (bytes : List UInt8) : bytes.toByteArray.toList = bytes := by
  rw [ByteArray.toList, toList_loop, List.toList_data_toByteArray]
  rfl

theorem utf8EncodeChar_ascii {byte : UInt8} (ascii : byte.toNat < 128) :
    String.utf8EncodeChar (Char.ofNat byte.toNat) = [byte] := by
  have all : ∀ code < 128, String.utf8EncodeChar (Char.ofNat code) = [UInt8.ofNat code] := by decide
  rw [all byte.toNat ascii, UInt8.ofNat_toNat]

/-- Text of ASCII characters is its own UTF-8. -/
theorem toUTF8_ascii {symbols : List UInt8} (ascii : ∀ byte ∈ symbols, byte.toNat < 128) :
    (String.ofList (symbols.map fun byte => Char.ofNat byte.toNat)).toUTF8.toList = symbols := by
  have encoded : (symbols.map fun byte => Char.ofNat byte.toNat).flatMap String.utf8EncodeChar =
      symbols := by
    induction symbols with
    | nil => rfl
    | cons byte rest ih =>
      obtain ⟨first, others⟩ := List.forall_mem_cons.mp ascii
      rw [List.map_cons, List.flatMap_cons, ih others, utf8EncodeChar_ascii first]
      rfl
  rw [String.toUTF8, String.toByteArray_ofList, List.utf8Encode, encoded, toList_toByteArray]

/-- The text that was written of any bytes is read as these bytes. -/
theorem decodeText_encodeText (bytes : List UInt8) : decodeText (encodeText bytes) = .ok bytes := by
  rw [decodeText, encodeText, toUTF8_ascii (encode_ascii bytes), decode_encode]

end Conveyor.Base64
