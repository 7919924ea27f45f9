import FogHttpBenchmark.Library.Incremental
import FogHttpBenchmark.Python.Text

/-!
# UTF-8

The codec of the interpreter: which bytes are a character, the beginning of one, or neither, and
the incremental decoder with its two ways to treat what it cannot read. Overlong forms,
surrogates and what lies beyond the last character are refused at the second byte.
-/

set_option autoImplicit false

namespace FogHttpBenchmark.Python

open Library Incremental

/-! ## Characters as numbers -/

section Numbers

def isTailByte (b : ℕ) : Prop := 0x80 ≤ b ∧ b ≤ 0xbf

instance (b : ℕ) : Decidable (isTailByte b) := inferInstanceAs (Decidable (_ ∧ _))

/-- The first byte of a character that has more bytes. -/
def isLeadByte (a : ℕ) : Prop := 0xc2 ≤ a ∧ a ≤ 0xf4

instance (a : ℕ) : Decidable (isLeadByte a) := inferInstanceAs (Decidable (_ ∧ _))

/-- The second byte after `a`, which is bounded further after four of the first bytes. -/
def isSecondByte (a b : ℕ) : Prop :=
  isTailByte b ∧ (a = 0xe0 → 0xa0 ≤ b) ∧ (a = 0xed → b ≤ 0x9f) ∧ (a = 0xf0 → 0x90 ≤ b) ∧
    (a = 0xf4 → b ≤ 0x8f)

instance (a b : ℕ) : Decidable (isSecondByte a b) :=
  inferInstanceAs (Decidable (_ ∧ _ ∧ _ ∧ _ ∧ _))

/-- The number of the character, from its bytes. -/
def readNumber : List ℕ → Reading ℕ
  | [a] =>
      if a < 0x80 then .item a
      else if isLeadByte a then .more
      else .invalid
  | [a, b] =>
      if ¬ (isLeadByte a ∧ isSecondByte a b) then .invalid
      else if a < 0xe0 then .item (a % 32 * 64 + b % 64)
      else .more
  | [a, b, c] =>
      if ¬ (isLeadByte a ∧ isSecondByte a b ∧ isTailByte c) ∨ a < 0xe0 then .invalid
      else if a < 0xf0 then .item (a % 16 * 4096 + b % 64 * 64 + c % 64)
      else .more
  | [a, b, c, d] =>
      if ¬ (isLeadByte a ∧ isSecondByte a b ∧ isTailByte c ∧ isTailByte d) ∨ a < 0xf0 then .invalid
      else .item (a % 8 * 262144 + b % 64 * 4096 + c % 64 * 64 + d % 64)
  | _ => .invalid

/-- The bytes of a character, from its number. -/
def writeNumber (n : ℕ) : List ℕ :=
  if n ≤ 0x7f then [n]
  else if n ≤ 0x7ff then [0xc0 + n / 64, 0x80 + n % 64]
  else if n ≤ 0xffff then [0xe0 + n / 4096, 0x80 + n / 64 % 64, 0x80 + n % 64]
  else [0xf0 + n / 262144, 0x80 + n / 4096 % 64, 0x80 + n / 64 % 64, 0x80 + n % 64]

theorem isValidChar_iff {n : ℕ} : n.isValidChar ↔ n < 0xd800 ∨ 0xdfff < n ∧ n < 0x110000 := Iff.rfl

theorem readNumber_writeNumber {n : ℕ} (h : n.isValidChar) :
    readNumber (writeNumber n) = .item n := by
  rw [isValidChar_iff] at h
  rw [writeNumber]
  split_ifs with h1 h2 h3
  · rw [readNumber, if_pos (by omega)]
  · rw [readNumber, if_neg, if_pos (by omega)]
    · congr 1
      omega
    · rw [not_not, isLeadByte, isSecondByte, isTailByte]
      omega
  · rw [readNumber, if_neg, if_pos (by omega)]
    · congr 1
      omega
    · rw [not_or, not_not, isLeadByte, isSecondByte, isTailByte, isTailByte]
      omega
  · rw [readNumber, if_neg]
    · congr 1
      omega
    · rw [not_or, not_not, isLeadByte, isSecondByte, isTailByte, isTailByte, isTailByte]
      omega

theorem writeNumber_of_read {bytes : List ℕ} {n : ℕ} (h : readNumber bytes = .item n) :
    n.isValidChar ∧ writeNumber n = bytes := by
  rw [isValidChar_iff]
  -- by the number of bytes: the lead byte and the ranges of the others leave one number
  rcases bytes with _ | ⟨a, _ | ⟨b, _ | ⟨c, _ | ⟨d, _ | ⟨e, rest⟩⟩⟩⟩⟩
  case nil => cases h
  case cons.nil =>
    rw [readNumber] at h
    split_ifs at h with hascii hlead
    cases h
    exact ⟨by omega, if_pos (by omega)⟩
  case cons.cons.nil =>
    rw [readNumber] at h
    split_ifs at h with hbytes hshort
    rw [isLeadByte, isSecondByte, isTailByte] at hbytes
    cases h
    refine ⟨by omega, ?_⟩
    rw [writeNumber, if_neg (by omega), if_pos (by omega)]
    congr 1
    · omega
    · congr 1
      omega
  case cons.cons.cons.nil =>
    rw [readNumber] at h
    split_ifs at h with hbytes hshort
    rw [not_or, not_not, isLeadByte, isSecondByte, isTailByte, isTailByte] at hbytes
    cases h
    refine ⟨by omega, ?_⟩
    rw [writeNumber, if_neg (by omega), if_neg (by omega), if_pos (by omega)]
    congr 1
    · omega
    · congr 1
      · omega
      · congr 1
        omega
  case cons.cons.cons.cons.nil =>
    rw [readNumber] at h
    split_ifs at h with hbytes
    rw [not_or, not_not, isLeadByte, isSecondByte, isTailByte, isTailByte, isTailByte] at hbytes
    cases h
    refine ⟨by omega, ?_⟩
    rw [writeNumber, if_neg (by omega), if_neg (by omega), if_neg (by omega)]
    congr 1
    · omega
    · congr 1
      · omega
      · congr 1
        · omega
        · congr 1
          omega
  case cons.cons.cons.cons.cons => cases h

/-- A beginning of a character is recognised as one. -/
theorem readNumber_take {n k : ℕ} (h : n.isValidChar) (hpos : 0 < k)
    (hk : k < (writeNumber n).length) : readNumber ((writeNumber n).take k) = .more := by
  rw [isValidChar_iff] at h
  rw [writeNumber] at hk ⊢
  split_ifs at hk ⊢ with h1 h2 h3
  · simp only [List.length_cons, List.length_nil] at hk
    omega
  · obtain rfl : k = 1 := by
      simp only [List.length_cons, List.length_nil] at hk
      omega
    rw [List.take_succ_cons, List.take_zero, readNumber, if_neg (by omega), if_pos]
    rw [isLeadByte]
    omega
  · obtain rfl | rfl : k = 1 ∨ k = 2 := by
      simp only [List.length_cons, List.length_nil] at hk
      omega
    · rw [List.take_succ_cons, List.take_zero, readNumber, if_neg (by omega), if_pos]
      rw [isLeadByte]
      omega
    · rw [List.take_succ_cons, List.take_succ_cons, List.take_zero, readNumber, if_neg,
        if_neg (by omega)]
      rw [not_not, isLeadByte, isSecondByte, isTailByte]
      omega
  · obtain rfl | rfl | rfl : k = 1 ∨ k = 2 ∨ k = 3 := by
      simp only [List.length_cons, List.length_nil] at hk
      omega
    · rw [List.take_succ_cons, List.take_zero, readNumber, if_neg (by omega), if_pos]
      rw [isLeadByte]
      omega
    · rw [List.take_succ_cons, List.take_succ_cons, List.take_zero, readNumber, if_neg,
        if_neg (by omega)]
      rw [not_not, isLeadByte, isSecondByte, isTailByte]
      omega
    · rw [List.take_succ_cons, List.take_succ_cons, List.take_succ_cons, List.take_zero,
        readNumber, if_neg, if_neg (by omega)]
      rw [not_or, not_not, isLeadByte, isSecondByte, isTailByte, isTailByte]
      omega

end Numbers

/-! ## The codec -/

section Codec

/-- The bytes of a character are those of its number. -/
theorem map_toNat_encodeChar (c : Char) :
    (String.utf8EncodeChar c).map UInt8.toNat = writeNumber c.toNat := by
  have hvalid : c.val.toNat < 0xd800 ∨ 0xdfff < c.val.toNat ∧ c.val.toNat < 0x110000 := c.valid
  simp only [String.utf8EncodeChar, writeNumber, Char.toNat]
  split_ifs with h1 h2 h3
  · simp only [List.map_cons, List.map_nil, UInt8.toNat_ofNat', List.cons.injEq, and_true]
    omega
  · simp only [List.map_cons, List.map_nil, UInt8.toNat_ofNat', List.cons.injEq, and_true]
    omega
  · simp only [List.map_cons, List.map_nil, UInt8.toNat_ofNat', List.cons.injEq, and_true]
    omega
  · simp only [List.map_cons, List.map_nil, UInt8.toNat_ofNat', List.cons.injEq, and_true]
    omega

/-- An ASCII byte is the byte of its character only. -/
theorem toNat_of_mem_encodeChar {c : Char} {byte : UInt8} (hascii : byte.toNat < 0x80)
    (h : byte ∈ String.utf8EncodeChar c) : c.toNat = byte.toNat := by
  have hmem := List.mem_map_of_mem (f := UInt8.toNat) h
  rw [map_toNat_encodeChar, writeNumber] at hmem
  split_ifs at hmem with h1 h2 h3
  · simp only [List.mem_cons, List.not_mem_nil, or_false] at hmem
    omega
  · simp only [List.mem_cons, List.not_mem_nil, or_false] at hmem
    omega
  · simp only [List.mem_cons, List.not_mem_nil, or_false] at hmem
    omega
  · simp only [List.mem_cons, List.not_mem_nil, or_false] at hmem
    omega

/-- What the bytes stand for. -/
def readChar (bytes : List UInt8) : Reading Char :=
  (readNumber (bytes.map UInt8.toNat)).map Char.ofNat

theorem readChar_encodeChar (c : Char) : readChar (String.utf8EncodeChar c) = .item c := by
  have hread : readNumber (writeNumber c.toNat) = .item c.toNat := readNumber_writeNumber c.valid
  rw [readChar, map_toNat_encodeChar, hread]
  exact congrArg Reading.item (Char.ofNat_toNat c)

theorem encodeChar_of_read {bytes : List UInt8} {c : Char} (h : readChar bytes = .item c) :
    String.utf8EncodeChar c = bytes := by
  obtain ⟨n, hread, rfl⟩ := Reading.map_eq_item.1 h
  obtain ⟨hvalid, hwrite⟩ := writeNumber_of_read hread
  refine List.map_injective_iff.2 (fun _ _ => UInt8.toNat_inj.1) ?_
  rw [map_toNat_encodeChar, Char.toNat_ofNat, if_pos hvalid, hwrite]

theorem readChar_take {c : Char} {k : ℕ} (hpos : 0 < k)
    (hk : k < (String.utf8EncodeChar c).length) :
    readChar ((String.utf8EncodeChar c).take k) = .more := by
  rw [← List.length_map UInt8.toNat, map_toNat_encodeChar] at hk
  have hread : readNumber ((writeNumber c.toNat).take k) = .more :=
    readNumber_take c.valid hpos hk
  rw [readChar, List.map_take, map_toNat_encodeChar, hread]
  rfl

/-- UTF-8 as a code of characters. -/
def utf8 : Code UInt8 Char where
  write := String.utf8EncodeChar
  read := readChar
  write_ne_nil := encodeChar_ne_nil
  read_write := readChar_encodeChar
  write_of_read := encodeChar_of_read
  read_take := readChar_take

/-- `data.decode("utf-8", errors="strict")`. -/
def decodeUtf8 (data : List UInt8) : Option String := (decodeAll utf8 data).map String.ofList

/-- `data.decode("utf-8", errors="replace")`. -/
def decodeReplaced (data : List UInt8) : String :=
  String.ofList (replaceFrom utf8 (Char.ofNat 0xfffd) [] data)

theorem decodeUtf8_eq_some {data : List UInt8} {text : String} :
    decodeUtf8 data = some text ↔ data = encode text := by
  rw [decodeUtf8, Option.map_eq_some_iff]
  constructor
  · rintro ⟨chars, hchars, rfl⟩
    rw [encode, String.toList_ofList]
    exact (decodeAll_eq_some utf8).1 hchars
  · rintro rfl
    exact ⟨text.toList, decodeAll_written utf8 text.toList, String.ofList_toList⟩

/-- `'\ufffd'`, which stands for bytes that cannot be read. -/
def replacementChar : Char := Char.ofNat 0xfffd

/-- The bytes of a text that are cut inside a character decode to the characters before it and
one replacement character. -/
theorem decodeReplaced_cut (before : List Char) {c : Char} {k : ℕ}
    (hk : k < (String.utf8EncodeChar c).length) :
    (decodeReplaced (before.flatMap String.utf8EncodeChar ++
        (String.utf8EncodeChar c).take k)).toList =
      before ++ if k = 0 then [] else [replacementChar] := by
  rw [decodeReplaced, String.toList_ofList]
  exact replaceFrom_cut utf8 replacementChar before hk

end Codec

end FogHttpBenchmark.Python
