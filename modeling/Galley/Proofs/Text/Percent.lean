import Galley.Text.Percent
import Galley.Text.Utf8
import Mathlib.Data.List.Basic

/-!
# Percent-encoding and back

An encoded text is a component of an address: it is made of the characters that stay as they are,
and of percent signs with two hexadecimal digits behind each. Decoding takes every such piece back
to the byte that it was written for, so a text comes back as it was. Main statements:
`isComponent_percentEncode`, `decode?_percentEncode`.
-/

namespace Galley.Text

/-! ## 1. Components of addresses -/

/-- A character that stays as it is in a component: an ASCII letter or digit, or one of nine
    marks. -/
def isComponentChar (c : Char) : Bool :=
  c.isAlphanum || ['-', '_', '.', '!', '~', '*', '\'', '(', ')'].contains c

/-- A hexadecimal digit. -/
def isHexDigit (c : Char) : Bool := (hexValue? c).isSome

/-- Nothing but characters that stay as they are, and percent signs with two hexadecimal digits
    behind each. -/
def isComponent : List Char → Bool
  | [] => true
  | '%' :: a :: b :: cs => isHexDigit a && isHexDigit b && isComponent cs
  | c :: cs => isComponentChar c && isComponent cs

/-- The bytes of a text in UTF-8. -/
def utf8Bytes (s : String) : List UInt8 := s.toUTF8.toList

variable {c : Char}

theorem ne_percent_of_isComponentChar (h : isComponentChar c = true) : c ≠ '%' := by
  rintro rfl
  revert h
  decide

theorem isComponent_cons (h : isComponentChar c = true) (cs : List Char) :
    isComponent (c :: cs) = isComponent cs := by
  rw [isComponent, h, Bool.true_and]
  exact fun a b rest he => absurd he (ne_percent_of_isComponentChar h)

theorem percentBytes_cons (h : isComponentChar c = true) (cs : List Char) :
    percentBytes (c :: cs) = utf8Bytes (String.singleton c) ++ percentBytes cs := by
  rw [percentBytes, utf8Bytes]
  exact fun a b rest he => absurd he (ne_percent_of_isComponentChar h)

/-! ## 2. Bytes -/

/-- What holds of the first 256 numbers as bytes holds of every byte. -/
theorem forall_byte {P : UInt8 → Prop} (h : ∀ n < 256, P (UInt8.ofNat n)) (b : UInt8) : P b := by
  have hb := h b.toNat b.toNat_lt
  rwa [UInt8.ofNat_toNat] at hb

theorem isComponentChar_of_byte : ∀ b : UInt8, isComponentByte b = true →
    isComponentChar (Char.ofNat b.toNat) = true :=
  forall_byte (by decide +kernel)

theorem utf8EncodeChar_of_byte : ∀ b : UInt8, isComponentByte b = true →
    String.utf8EncodeChar (Char.ofNat b.toNat) = [b] :=
  forall_byte (by decide +kernel)

theorem ampersand_not_mem_percentByte : ∀ b : UInt8, '&' ∉ percentByte b :=
  forall_byte (by decide +kernel)

theorem hexValue?_hexDigit : ∀ n < 16, hexValue? (hexDigit n) = some n := by decide

theorem isHexDigit_hexDigit {n : Nat} (h : n < 16) : isHexDigit (hexDigit n) = true := by
  rw [isHexDigit, hexValue?_hexDigit n h]
  rfl

theorem toList_loop (bytes : ByteArray) (i : Nat) (front : List UInt8) :
    ByteArray.toList.loop bytes i front = front.reverse ++ bytes.data.toList.drop i := by
  fun_induction ByteArray.toList.loop bytes i front with
  | case1 i front hi ih =>
    have hlength : i < bytes.data.toList.length := by simpa using hi
    have hget : bytes.get! i = bytes.data.toList[i] := by
      show bytes.data[i]! = _
      rw [getElem!_pos bytes.data i hi, Array.getElem_toList]
    rw [ih, List.drop_eq_getElem_cons hlength, hget, List.reverse_cons, List.append_assoc]
    rfl
  | case2 i front hi =>
    have hlength : bytes.data.toList.length ≤ i := by simpa using hi
    rw [List.drop_eq_nil_of_le hlength, List.append_nil]

theorem toList_eq (bytes : ByteArray) : bytes.toList = bytes.data.toList :=
  toList_loop bytes 0 []

theorem utf8Bytes_singleton (c : Char) :
    utf8Bytes (String.singleton c) = String.utf8EncodeChar c := by
  rw [utf8Bytes, toList_eq, String.toUTF8_eq_toByteArray, String.toByteArray_singleton,
    List.utf8Encode_singleton, List.toList_data_toByteArray]

/-- A text is what its bytes spell. -/
theorem decode?_utf8Bytes (s : String) : decode? (utf8Bytes s).toByteArray = some s := by
  have hbytes : (utf8Bytes s).toByteArray = s.toByteArray := by
    rw [utf8Bytes, toList_eq, String.toUTF8_eq_toByteArray]
    exact ByteArray.ext (List.data_toByteArray)
  rw [decode?, hbytes, String.fromUTF8?, dif_pos s.isValidUTF8]
  rfl

/-! ## 3. Encoded texts -/

/-- **An encoded byte is read back**, whatever follows. -/
theorem percentBytes_percentByte (b : UInt8) (cs : List Char) :
    percentBytes (percentByte b ++ cs) = b :: percentBytes cs := by
  rw [percentByte]
  split
  · next h =>
    rw [List.singleton_append, percentBytes_cons (isComponentChar_of_byte b h),
      utf8Bytes_singleton, utf8EncodeChar_of_byte b h, List.singleton_append]
  · have hb := b.toNat_lt
    have hdigits : 16 * (b.toNat / 16) + b.toNat % 16 = b.toNat := Nat.div_add_mod b.toNat 16
    simp only [List.cons_append, List.nil_append, percentBytes,
      hexValue?_hexDigit (b.toNat / 16) (by omega), hexValue?_hexDigit (b.toNat % 16) (by omega),
      hdigits, UInt8.ofNat_toNat]

theorem isComponent_percentByte (b : UInt8) (cs : List Char) :
    isComponent (percentByte b ++ cs) = isComponent cs := by
  rw [percentByte]
  split
  · next h => exact isComponent_cons (isComponentChar_of_byte b h) cs
  · have hb := b.toNat_lt
    simp only [List.cons_append, List.nil_append, isComponent,
      isHexDigit_hexDigit (n := b.toNat / 16) (by omega),
      isHexDigit_hexDigit (n := b.toNat % 16) (by omega), Bool.true_and]

theorem percentBytes_flatMap (bs : List UInt8) : percentBytes (bs.flatMap percentByte) = bs := by
  induction bs with
  | nil => rw [List.flatMap_nil, percentBytes]
  | cons b bs ih => rw [List.flatMap_cons, percentBytes_percentByte, ih]

/-- An encoded text is a component of an address. -/
theorem isComponent_percentEncode (s : String) :
    isComponent (percentEncode s).toList = true := by
  rw [percentEncode, String.toList_ofList]
  induction s.toUTF8.toList with
  | nil => rfl
  | cons b bs ih => rw [List.flatMap_cons, isComponent_percentByte, ih]

/-- **An encoded text is decoded to the text that it was.** -/
theorem decode?_percentEncode (s : String) :
    decode? (percentBytes (percentEncode s).toList).toByteArray = some s := by
  rw [percentEncode, String.toList_ofList, percentBytes_flatMap]
  exact decode?_utf8Bytes s

/-- An encoded text goes on over an ampersand nowhere. -/
theorem ampersand_not_mem_percentEncode (s : String) : '&' ∉ (percentEncode s).toList := by
  rw [percentEncode, String.toList_ofList]
  intro h
  obtain ⟨b, -, hb⟩ := List.mem_flatMap.1 h
  exact ampersand_not_mem_percentByte b hb

end Galley.Text
