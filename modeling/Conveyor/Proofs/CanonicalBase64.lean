import Conveyor.Proofs.RecordFormat
import Mathlib.Algebra.GroupWithZero.Nat
import Mathlib.Data.List.Basic

/-! The bytes of a `Value` have one text. Base64 could be read in more ways than it is written: padding
could be left out, and the bits behind the last byte could be anything. Here neither is accepted, nor
anything else that is not written, and so reading and writing are inverse to each other between all bytes
and the texts that are accepted. Which texts these are can be said without either: digits of six bits each
in groups of four, the last of which may be filled up with padding, and no bit set behind the last byte. -/
namespace Conveyor

namespace Base64

theorem toNat_byte {code : Nat} (below : code < 256) : (UInt8.ofNat code).toNat = code :=
  UInt8.toNat_ofNat_of_lt below

theorem toNat_symbol {value : Nat} (small : value < 64) :
    (symbol value).toNat = if value < 26 then 65 + value else if value < 52 then 71 + value
      else if value < 62 then value - 4 else if value = 62 then 43 else 47 := by
  unfold symbol
  repeat' split
  all_goals first | rfl | exact toNat_byte (by omega)

/-- A symbol that is read is the symbol of its value. -/
theorem valueOf?_eq_some {byte : UInt8} {value : Nat} (read : valueOf? byte = some value) :
    value < 64 ∧ symbol value = byte := by
  have below := byte.toNat_lt
  have small : value < 64 := by
    unfold valueOf? at read
    grind
  refine ⟨small, UInt8.toNat_inj.mp ?_⟩
  rw [toNat_symbol small]
  unfold valueOf? at read
  grind

theorem readSymbols_ok {symbols : List UInt8} {values : List Nat} {offset : Nat}
    (read : readSymbols offset symbols = .ok values) :
    (∀ value ∈ values, value < 64) ∧ symbols = values.map symbol := by
  induction symbols generalizing offset values with
  | nil =>
    cases read
    exact ⟨by simp, rfl⟩
  | cons byte rest ih =>
    rw [readSymbols] at read
    cases found : valueOf? byte with
    | none =>
      rw [found] at read
      cases read
    | some value =>
      rw [found] at read
      cases others : readSymbols (offset + 1) rest with
      | error error =>
        rw [others] at read
        cases read
      | ok values =>
        rw [others] at read
        cases read
        obtain ⟨small, same⟩ := valueOf?_eq_some found
        obtain ⟨smaller, rfl⟩ := ih others
        exact ⟨List.forall_mem_cons.mpr ⟨small, smaller⟩, by rw [List.map_cons, same]⟩

theorem toNat_first {a b : Nat} (first : a < 64) (second : b < 64) :
    (UInt8.ofNat (a * 4 + b / 16)).toNat = a * 4 + b / 16 :=
  toNat_byte (by omega)

theorem toNat_second {b c : Nat} (third : c < 64) :
    (UInt8.ofNat (b % 16 * 16 + c / 4)).toNat = b % 16 * 16 + c / 4 :=
  toNat_byte (by omega)

section Groups

variable {a b c d : Nat} (first : a < 64) (second : b < 64)

include first second

theorem encode_one (zero : b % 16 = 0) :
    encode [UInt8.ofNat (a * 4 + b / 16)] = [symbol a, symbol b, pad, pad] := by
  have digits : (a * 4 + b / 16) / 4 = a ∧ (a * 4 + b / 16) % 4 * 16 = b := by omega
  rw [encode, toNat_first first second, digits.1, digits.2]

variable (third : c < 64)

include third

theorem encode_two (zero : c % 4 = 0) :
    encode [UInt8.ofNat (a * 4 + b / 16), UInt8.ofNat (b % 16 * 16 + c / 4)] =
      [symbol a, symbol b, symbol c, pad] := by
  have digits : (a * 4 + b / 16) / 4 = a ∧
      (a * 4 + b / 16) % 4 * 16 + (b % 16 * 16 + c / 4) / 16 = b ∧
      (b % 16 * 16 + c / 4) % 16 * 4 = c := by omega
  rw [encode, toNat_first first second, toNat_second third, digits.1, digits.2.1,
    digits.2.2]

theorem encode_three (fourth : d < 64) (rest : List UInt8) :
    encode (groupBytes a b c d ++ rest) =
      symbol a :: symbol b :: symbol c :: symbol d :: encode rest := by
  have last : (UInt8.ofNat (c % 4 * 64 + d)).toNat = c % 4 * 64 + d := toNat_byte (by omega)
  have digits : (a * 4 + b / 16) / 4 = a ∧
      (a * 4 + b / 16) % 4 * 16 + (b % 16 * 16 + c / 4) / 16 = b ∧
      (b % 16 * 16 + c / 4) % 16 * 4 + (c % 4 * 64 + d) / 64 = c ∧
      (c % 4 * 64 + d) % 64 = d := by omega
  rw [groupBytes, List.cons_append, List.cons_append, List.cons_append, List.nil_append, encode,
    toNat_first first second, toNat_second third, last, digits.1, digits.2.1,
    digits.2.2.1, digits.2.2.2]

end Groups

/-- A last group that is read has two to four digits and is filled up with padding. -/
theorem decodeLast_ok {group bytes : List UInt8} {offset : Nat} (filled : group ≠ [])
    (short : group.length ≤ 4) (read : decodeLast offset group = .ok bytes) :
    ∃ (values : List Nat) (signs : Nat), group = values.map symbol ++ List.replicate signs pad ∧
      (∀ value ∈ values, value < 64) ∧ 2 ≤ values.length ∧ values.length + signs = 4 := by
  have parts : group.takeWhile (· != pad) ++ group.dropWhile (· != pad) = group :=
    List.takeWhile_append_dropWhile
  unfold decodeLast at read
  dsimp only at read
  generalize group.takeWhile (· != pad) = body at read parts
  generalize group.dropWhile (· != pad) = tail at read parts
  cases found : readSymbols offset body with
  | error error =>
    rw [found] at read
    cases read
  | ok values =>
    obtain ⟨small, rfl⟩ := readSymbols_ok found
    rw [found] at read
    dsimp only [bind, Except.bind] at read
    split at read
    · cases read
    next padded =>
    split at read
    · cases read
    next long =>
    split at read
    · cases read
    next full =>
    -- What was not refused has digits for a byte, nothing but padding behind them, and is full.
    have two : 2 ≤ values.length := by
      refine Nat.le_of_not_lt fun few => long ?_
      rw [List.isEmpty_eq_false_iff.mpr filled, List.length_map, decide_eq_true few]
      rfl
    have signs : ∀ sign ∈ tail, sign = pad := by
      intro sign member
      refine Decidable.byContradiction fun differs => padded ?_
      have some : tail.isEmpty = false := List.isEmpty_eq_false_iff.mpr (List.ne_nil_of_mem member)
      have stray : tail.any (· != pad) = true := List.any_eq_true.mpr ⟨sign, member, bne_iff_ne.mpr differs⟩
      rw [some, stray, Bool.or_true]
      rfl
    refine ⟨values, tail.length, ?_, small, two, ?_⟩
    · rw [← List.eq_replicate_of_mem signs, parts]
    · have length : values.length + tail.length = group.length := by
        rw [← parts, List.length_append, List.length_map]
      omega

/-- A last group that is read is the written form of its bytes. -/
theorem encode_of_decodeLast {group bytes : List UInt8} {offset : Nat} (filled : group ≠ [])
    (short : group.length ≤ 4) (read : decodeLast offset group = .ok bytes) : encode bytes = group := by
  obtain ⟨values, signs, rfl, small, two, full⟩ := decodeLast_ok filled short read
  rw [decodeLast_padded small two signs full] at read
  match values, small with
  | [a, b], small =>
    have two : 2 + signs = 4 := full
    obtain rfl : signs = 2 := by omega
    simp only [List.forall_mem_cons] at small
    dsimp only at read
    split at read
    next zero =>
      cases read
      exact encode_one small.1 small.2.1 zero
    · cases read
  | [a, b, c], small =>
    have three : 3 + signs = 4 := full
    obtain rfl : signs = 1 := by omega
    simp only [List.forall_mem_cons] at small
    dsimp only at read
    split at read
    next zero =>
      cases read
      exact encode_two small.1 small.2.1 small.2.2.1 zero
    · cases read
  | [a, b, c, d], small =>
    obtain rfl : signs = 0 := by simpa using full
    simp only [List.forall_mem_cons] at small
    cases read
    have written := encode_three small.1 small.2.1 small.2.2.1 small.2.2.2.1 []
    rwa [List.append_nil] at written
  | [], _ => cases two
  | [a], _ => simp at two
  | a :: b :: c :: d :: e :: rest, _ =>
    simp only [List.length_cons] at full
    omega

theorem encode_of_decodeFrom {symbols bytes : List UInt8} {offset : Nat}
    (read : decodeFrom offset symbols = .ok bytes) : encode bytes = symbols := by
  fun_induction decodeFrom offset symbols generalizing bytes with
  | case1 offset a b c d e rest ih =>
    cases found : readSymbols offset [a, b, c, d] with
    | error error =>
      rw [found] at read
      cases read
    | ok values =>
      obtain ⟨small, same⟩ := readSymbols_ok found
      have length : values.length = 4 := by simpa using (congrArg List.length same).symm
      obtain ⟨va, vb, vc, vd, rfl⟩ := List.length_eq_four.mp length
      simp only [List.forall_mem_cons] at small
      cases others : decodeFrom (offset + 4) (e :: rest) with
      | error error =>
        rw [found, others] at read
        cases read
      | ok more =>
        rw [found, others] at read
        cases read
        rw [encode_three small.1 small.2.1 small.2.2.1 small.2.2.2.1, ih others]
        exact congrArg (· ++ e :: rest) same.symm
  | case2 offset group last =>
    match group with
    | [] =>
      cases read
      rfl
    | [_] | [_, _] | [_, _, _] | [_, _, _, _] =>
      exact encode_of_decodeLast (List.cons_ne_nil _ _) (by simp) read
    | a :: b :: c :: d :: e :: rest => cases last a b c d e rest rfl

/-- Only what was written of some bytes is read as these bytes. -/
theorem decode_eq_ok {symbols bytes : List UInt8} :
    decode symbols = .ok bytes ↔ symbols = encode bytes := by
  constructor
  · intro read
    unfold decode at read
    split at read
    next last shape =>
      split at read
      · cases read
      · exact (encode_of_decodeFrom read).symm
    next shape =>
      cases read
      exact List.getLast?_eq_none_iff.mp shape
  · rintro rfl
    exact decode_encode bytes

/-- The bits of a number in the given width, from the highest. -/
def bits : Nat → Nat → List Nat
  | 0, _ => []
  | width + 1, value => value / 2 ^ width % 2 :: bits width value

theorem bits_mul_add (width high low : Nat) : bits width (high * 2 ^ width + low) = bits width low := by
  induction width generalizing high with
  | zero => rfl
  | succ width ih =>
    have double : high * 2 ^ (width + 1) + low = high * 2 * 2 ^ width + low := by
      rw [Nat.pow_succ, Nat.mul_assoc, Nat.mul_comm 2]
    have quotient : (high * 2 * 2 ^ width + low) / 2 ^ width = high * 2 + low / 2 ^ width := by
      rw [Nat.mul_comm _ (2 ^ width), Nat.mul_add_div (Nat.two_pow_pos width)]
    rw [double, bits, bits, ih, quotient, Nat.mul_add_mod']

/-- The bits of two numbers, one after the other, are those of a number of both widths. -/
theorem bits_append (width more high : Nat) {low : Nat} (below : low < 2 ^ more) :
    bits width high ++ bits more low = bits (width + more) (high * 2 ^ more + low) := by
  induction width with
  | zero => rw [Nat.zero_add, bits_mul_add, bits, List.nil_append]
  | succ width ih =>
    have whole : (high * 2 ^ more + low) / 2 ^ (width + more) = high / 2 ^ width := by
      rw [Nat.pow_add, Nat.mul_comm (2 ^ width), ← Nat.div_div_eq_div_mul, Nat.mul_comm high,
        Nat.mul_add_div (Nat.two_pow_pos more), Nat.div_eq_of_lt below, Nat.add_zero]
    rw [Nat.succ_add, bits, bits, whole, List.cons_append, ih]

theorem bits_zero (width : Nat) : bits width 0 = List.replicate width 0 := by
  induction width with
  | zero => rfl
  | succ width ih => rw [bits, ih, Nat.zero_div, List.replicate_succ]

/-- Four digits have the bits of their three bytes. -/
theorem bits_group (a b c : UInt8) :
    bits 6 (a.toNat / 4) ++ bits 6 (a.toNat % 4 * 16 + b.toNat / 16) ++
        bits 6 (b.toNat % 16 * 4 + c.toNat / 64) ++ bits 6 (c.toNat % 64) =
      bits 8 a.toNat ++ bits 8 b.toNat ++ bits 8 c.toNat := by
  have first := a.toNat_lt
  have second := b.toNat_lt
  have third := c.toNat_lt
  rw [bits_append 6 6 _ (by omega), bits_append 12 6 _ (by omega), bits_append 18 6 _ (by omega),
    bits_append 8 8 _ second, bits_append 16 8 _ third]
  exact congrArg (bits 24) (by omega)

/-- Digits with padding signs behind them are canonical if they fill groups of four places, of which at
most two are padded, and if the bits of the last digit that belong to no byte are zero. -/
structure Canonical (digits : List Nat) (signs : Nat) : Prop where
  few : signs ≤ 2
  full : (digits.length + signs) % 4 = 0
  zero : ∀ last ∈ digits.getLast?, last % 4 ^ signs = 0

theorem canonical_group {a b c d signs : Nat} {digits : List Nat} :
    Canonical (a :: b :: c :: d :: digits) signs ↔ Canonical digits signs := by
  have length : (a :: b :: c :: d :: digits).length = digits.length + 4 := rfl
  constructor
  · intro ⟨few, full, zero⟩
    refine ⟨few, by omega, ?_⟩
    cases digits with
    | nil => simp
    | cons digit rest => exact zero
  · intro ⟨few, full, zero⟩
    refine ⟨few, by omega, ?_⟩
    cases digits with
    | nil =>
      -- Where no digits follow there is no padding either.
      obtain rfl : signs = 0 := by
        rw [List.length_nil] at full
        omega
      simp [Nat.mod_one]
    | cons digit rest => exact zero

/-- Canonical digits are written of some bytes. -/
theorem Canonical.exists_bytes : ∀ {digits : List Nat} {signs : Nat},
    Canonical digits signs → (∀ digit ∈ digits, digit < 64) →
      ∃ bytes, encode bytes = digits.map symbol ++ List.replicate signs pad
  | [], signs, ⟨few, full, _⟩, _ => by
    obtain rfl : signs = 0 := by
      simp only [List.length_nil] at full
      omega
    exact ⟨[], rfl⟩
  | [a], signs, ⟨few, full, _⟩, _ => by
    -- A digit alone cannot hold a byte, and three signs would be too many.
    simp only [List.length_cons, List.length_nil] at full
    omega
  | [a, b], signs, ⟨few, full, zero⟩, small => by
    obtain rfl : signs = 2 := by
      simp only [List.length_cons, List.length_nil] at full
      omega
    simp only [List.forall_mem_cons] at small
    exact ⟨_, encode_one small.1 small.2.1 (zero b rfl)⟩
  | [a, b, c], signs, ⟨few, full, zero⟩, small => by
    obtain rfl : signs = 1 := by
      simp only [List.length_cons, List.length_nil] at full
      omega
    simp only [List.forall_mem_cons] at small
    exact ⟨_, encode_two small.1 small.2.1 small.2.2.1 (zero c rfl)⟩
  | a :: b :: c :: d :: rest, signs, canonical, small => by
    simp only [List.forall_mem_cons] at small
    obtain ⟨first, second, third, fourth, others⟩ := small
    obtain ⟨bytes, written⟩ := (canonical_group.mp canonical).exists_bytes others
    refine ⟨groupBytes a b c d ++ bytes, ?_⟩
    rw [encode_three first second third fourth, written]
    rfl

/-- What is written of bytes is canonical, and its digits have the bits of the bytes. -/
theorem encode_canonical (bytes : List UInt8) : ∃ digits signs,
    encode bytes = digits.map symbol ++ List.replicate signs pad ∧ (∀ digit ∈ digits, digit < 64) ∧
      Canonical digits signs ∧
      digits.flatMap (bits 6) = bytes.flatMap (bits 8 ·.toNat) ++ List.replicate (2 * signs) 0 := by
  fun_induction encode bytes with
  | case1 => exact ⟨[], 0, rfl, by simp, ⟨by simp, rfl, by simp⟩, rfl⟩
  | case2 a =>
    have first := a.toNat_lt
    refine ⟨[a.toNat / 4, a.toNat % 4 * 16], 2, rfl, ?_, ⟨Nat.le_refl 2, by simp, ?_⟩, ?_⟩
    · simp only [List.forall_mem_cons]
      exact ⟨by omega, by omega, by simp⟩
    · intro last only
      have same : a.toNat % 4 * 16 = last := Option.some.inj only
      omega
    · change bits 6 _ ++ (bits 6 _ ++ []) = bits 8 _ ++ [] ++ List.replicate 4 0
      rw [List.append_nil, List.append_nil, ← bits_zero, bits_append 6 6 _ (by omega),
        bits_append 8 4 _ (by omega)]
      exact congrArg (bits 12) (by omega)
  | case3 a b =>
    have first := a.toNat_lt
    have second := b.toNat_lt
    refine ⟨[a.toNat / 4, a.toNat % 4 * 16 + b.toNat / 16, b.toNat % 16 * 4], 1, rfl, ?_,
      ⟨Nat.le_succ 1, by simp, ?_⟩, ?_⟩
    · simp only [List.forall_mem_cons]
      exact ⟨by omega, by omega, by omega, by simp⟩
    · intro last only
      have same : b.toNat % 16 * 4 = last := Option.some.inj only
      omega
    · change bits 6 _ ++ (bits 6 _ ++ (bits 6 _ ++ [])) = bits 8 _ ++ (bits 8 _ ++ []) ++ List.replicate 2 0
      rw [List.append_nil, List.append_nil, ← bits_zero, ← List.append_assoc,
        bits_append 6 6 _ (by omega), bits_append 12 6 _ (by omega), bits_append 8 8 _ second,
        bits_append 16 2 _ (by omega)]
      exact congrArg (bits 18) (by omega)
  | case4 a b c rest ih =>
    obtain ⟨digits, signs, written, small, canonical, same⟩ := ih
    refine ⟨[_, _, _, _] ++ digits, signs, by rw [written]; rfl,
      List.forall_mem_append.mpr ⟨group_small a b c, small⟩, canonical_group.mpr canonical, ?_⟩
    simp only [List.flatMap_append, List.flatMap_cons, List.flatMap_nil, List.append_nil, same,
      ← List.append_assoc, bits_group]

/-- The symbols in the order of their values. -/
def alphabet : List Char := [
  'A', 'B', 'C', 'D', 'E', 'F', 'G', 'H', 'I', 'J', 'K', 'L', 'M',
  'N', 'O', 'P', 'Q', 'R', 'S', 'T', 'U', 'V', 'W', 'X', 'Y', 'Z',
  'a', 'b', 'c', 'd', 'e', 'f', 'g', 'h', 'i', 'j', 'k', 'l', 'm',
  'n', 'o', 'p', 'q', 'r', 's', 't', 'u', 'v', 'w', 'x', 'y', 'z',
  '0', '1', '2', '3', '4', '5', '6', '7', '8', '9',
  '+', '/']

/-- The symbol of a digit as a character. -/
def letter (digit : Nat) : Char := alphabet.getD digit '='

theorem letter_eq {digit : Nat} (small : digit < 64) :
    Char.ofNat (symbol digit).toNat = letter digit := by
  have all : ∀ digit < 64, Char.ofNat (symbol digit).toNat = letter digit := by decide
  exact all digit small

/-- A text that is made of these digits, with so many padding signs behind them. -/
structure Spells (text : String) (digits : List Nat) (signs : Nat) : Prop where
  small : ∀ digit ∈ digits, digit < 64
  written : text.toList = digits.map letter ++ List.replicate signs '='

theorem spells_encodeText {bytes : List UInt8} {digits : List Nat} {signs : Nat}
    (small : ∀ digit ∈ digits, digit < 64)
    (written : encode bytes = digits.map symbol ++ List.replicate signs pad) :
    Spells (encodeText bytes) digits signs := by
  have letters : digits.map (fun digit => Char.ofNat (symbol digit).toNat) = digits.map letter :=
    List.map_congr_left fun digit member => letter_eq (small digit member)
  refine ⟨small, ?_⟩
  rw [encodeText, String.toList_ofList, written, List.map_append, List.map_map, List.map_replicate,
    ← letters]
  rfl

/-- The digits can be told from the text, and so can the number of padding signs. -/
theorem Spells.unique {text : String} {digits others : List Nat} {signs more : Nat}
    (one : Spells text digits signs) (other : Spells text others more) :
    digits = others ∧ signs = more := by
  have value {digit : Nat} (small : digit < 64) :
      valueOf? (UInt8.ofNat (letter digit).toNat) = some digit := by
    have all : ∀ digit < 64, valueOf? (UInt8.ofNat (letter digit).toNat) = some digit := by decide
    exact all digit small
  have values {digits : List Nat} {signs : Nat} (spells : Spells text digits signs) :
      text.toList.filterMap (fun char => valueOf? (UInt8.ofNat char.toNat)) = digits := by
    obtain ⟨small, written⟩ := spells
    rw [written, List.filterMap_append, List.filterMap_replicate_of_none rfl, List.append_nil,
      List.filterMap_map]
    refine (List.filterMap_congr fun digit member => value (small digit member)).trans ?_
    exact List.filterMap_some
  obtain rfl : digits = others := (values one).symm.trans (values other)
  have length := congrArg List.length (one.written.symm.trans other.written)
  simp only [List.length_append, List.length_replicate] at length
  exact ⟨rfl, by omega⟩

/-- The text of canonical digits is written of some bytes. -/
theorem Spells.exists_bytes {text : String} {digits : List Nat} {signs : Nat}
    (spells : Spells text digits signs) (canonical : Canonical digits signs) :
    ∃ bytes, text = encodeText bytes := by
  obtain ⟨bytes, written⟩ := canonical.exists_bytes spells.small
  have same := (spells_encodeText spells.small written).written
  exact ⟨bytes, String.toList_inj.mp (spells.written.trans same.symm)⟩

theorem toList_toUTF8_inj {text other : String} (same : text.toUTF8.toList = other.toUTF8.toList) :
    text = other := by
  have data (bytes : ByteArray) : bytes.toList = bytes.data.toList := by
    rw [ByteArray.toList, toList_loop]
    rfl
  rw [data, data] at same
  exact String.toByteArray_inj.mp (ByteArray.ext (Array.toList_inj.mp same))

/-- Only the text that is written of some bytes is read as these bytes. -/
theorem decodeText_eq_ok {text : String} {bytes : List UInt8} :
    decodeText text = .ok bytes ↔ text = encodeText bytes := by
  constructor
  · intro read
    refine toList_toUTF8_inj ((decode_eq_ok.mp read).trans ?_)
    exact (toUTF8_ascii (encode_ascii bytes)).symm
  · rintro rfl
    exact decodeText_encodeText bytes

end Base64

namespace Value

/-- The document in which a text stands for bytes. -/
def documentOf (text : String) : Json :=
  .object [("data", .string text), ("type", .string "bytes")]

theorem read_documentOf {text : String} {value : Value} :
    ofDocument (documentOf text) = .ok value ↔
      ∃ bytes, value = .bytes bytes ∧ text = Base64.encodeText bytes := by
  have read : ofDocument (documentOf text) = (bytesOf (.string text)).map bytes :=
    read_tagged .bytes (some (.string text))
  have content : bytesOf (.string text) =
      (Base64.decodeText text).mapError fun error => .malformed error.message := by
    rw [bytesOf, Decoding.text]
    refine (pure_bind _ _).trans ?_
    cases Base64.decodeText text <;> rfl
  rw [read, content]
  cases found : Base64.decodeText text with
  | error error =>
    refine iff_of_false (by rintro ⟨⟩) ?_
    rintro ⟨bytes, -, same⟩
    rw [Base64.decodeText_eq_ok.mpr same] at found
    cases found
  | ok bytes =>
    constructor
    · rintro ⟨⟩
      exact ⟨bytes, rfl, Base64.decodeText_eq_ok.mp found⟩
    · rintro ⟨others, rfl, same⟩
      rw [Base64.decodeText_eq_ok.mpr same] at found
      cases found
      rfl

end Value

/-- A text is read as bytes just if it is what is written of some bytes, and then as these bytes; it is
also what these are displayed as. So no two texts are read as the same bytes. What is read is made of
symbols of the alphabet with padding signs at the end only; of such texts just those are read whose groups
are full, with at most two padding signs, and whose last digit has no bit set that belongs to no byte. The
digits that are written have the bits of the bytes in their order, and behind them the zeros that fill up
the last digit. -/
theorem bytes_have_one_text :
    (∀ (text : String) (value : Value), ofDocument (Value.documentOf text) = .ok value ↔
      ∃ bytes, value = .bytes bytes ∧ toDocument value = Value.documentOf text) ∧
    (∀ bytes, toDocument (Value.bytes bytes) = Value.documentOf (Value.bytes bytes).display) ∧
    (∀ (text other : String) (value : Value), ofDocument (Value.documentOf text) = .ok value →
      ofDocument (Value.documentOf other) = .ok value → text = other) ∧
    (∀ (text : String) (value : Value), ofDocument (Value.documentOf text) = .ok value →
      ∃ digits signs, Base64.Spells text digits signs) ∧
    (∀ text digits signs, Base64.Spells text digits signs →
      ((∃ value : Value, ofDocument (Value.documentOf text) = .ok value) ↔
        Base64.Canonical digits signs)) ∧
    ∀ bytes, ∃ digits signs, Base64.Spells (Value.bytes bytes).display digits signs ∧
      digits.flatMap (Base64.bits 6) =
        bytes.flatMap (Base64.bits 8 ·.toNat) ++ List.replicate (2 * signs) 0 := by
  refine ⟨?_, fun _ => rfl, ?_, ?_, ?_, ?_⟩
  · intro text value
    refine Value.read_documentOf.trans (exists_congr fun bytes => and_congr_right ?_)
    rintro rfl
    have written : toDocument (Value.bytes bytes) = Value.documentOf (Base64.encodeText bytes) := rfl
    rw [written]
    simp [Value.documentOf, eq_comm]
  · intro text other value one another
    obtain ⟨bytes, rfl, rfl⟩ := Value.read_documentOf.mp one
    obtain ⟨others, same, rfl⟩ := Value.read_documentOf.mp another
    cases same
    rfl
  · intro text value read
    obtain ⟨bytes, rfl, rfl⟩ := Value.read_documentOf.mp read
    obtain ⟨digits, signs, written, small, -⟩ := Base64.encode_canonical bytes
    exact ⟨digits, signs, Base64.spells_encodeText small written⟩
  · intro text digits signs spells
    constructor
    · rintro ⟨value, read⟩
      obtain ⟨bytes, rfl, rfl⟩ := Value.read_documentOf.mp read
      obtain ⟨others, more, written, small, canonical, -⟩ := Base64.encode_canonical bytes
      obtain ⟨rfl, rfl⟩ := spells.unique (Base64.spells_encodeText small written)
      exact canonical
    · intro canonical
      obtain ⟨bytes, rfl⟩ := spells.exists_bytes canonical
      exact ⟨.bytes bytes, Value.read_documentOf.mpr ⟨bytes, rfl, rfl⟩⟩
  · intro bytes
    obtain ⟨digits, signs, written, small, -, same⟩ := Base64.encode_canonical bytes
    exact ⟨digits, signs, Base64.spells_encodeText small written, same⟩

/-- One byte is written and read as `QQ==`, and `QR==`, which has the same byte in front, is refused. -/
theorem one_byte_has_one_text :
    toDocument (Value.bytes [65]) = Value.documentOf "QQ==" ∧
      ofDocument (Value.documentOf "QQ==") = .ok (Value.bytes [65]) ∧
      Base64.Spells "QR==" [16, 17] 2 ∧
      ¬∃ value : Value, ofDocument (Value.documentOf "QR==") = .ok value := by
  obtain ⟨read, -, -, -, accepted, -⟩ := bytes_have_one_text
  have written : toDocument (Value.bytes [65]) = Value.documentOf "QQ==" := by decide
  have spells : Base64.Spells "QR==" [16, 17] 2 := ⟨by decide, by decide⟩
  refine ⟨written, (read _ _).mpr ⟨[65], rfl, written⟩, spells, ?_⟩
  rw [accepted _ _ _ spells]
  intro canonical
  have zero : 17 % 4 ^ 2 = 0 := canonical.zero 17 rfl
  cases zero

end Conveyor
