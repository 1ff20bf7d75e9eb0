import Mathlib.Data.List.Infix
import PostPress.Heading.Outline
import PostPress.Url.Host

/-!
# PostPress.Proofs.Heading.Link

**The link to a heading, read back.** A link is the percent-encoded id of its heading, but the
percent sign itself is not escaped: an id that holds what looks like an escape is decoded to
something else, and shares its link with the id that it looks like (`TocEntry.href_faithful_iff`).

* `Text.isEscapedInFragment`, `Text.encodeFragmentChar` — the encoding goes character by
  character: a character stays, or all its bytes are escaped;
* `Text.HoldsEscape` — a text in which a decoder finds an escape;
* `Text.percentDecode_eq_iff` — decoding gives back the texts that hold none.
-/

namespace PostPress

namespace Text

open Url (percentDecode)

/-! ### One character -/

/-- A character as it stands in a fragment. -/
def encodeFragmentChar (c : Char) : List Char :=
  (String.utf8EncodeChar c).flatMap encodeFragmentByte

/-- Whether a character is escaped in a fragment. -/
def isEscapedInFragment (c : Char) : Bool := (String.utf8EncodeChar c).any isFragmentEscaped

/-- The escape of a byte. -/
def escapeByte (byte : UInt8) : List Char :=
  ['%', hexDigit (byte.toNat / 16), hexDigit (byte.toNat % 16)]

theorem toList_encodeFragment (text : String) :
    (encodeFragment text).toList = text.toList.flatMap encodeFragmentChar :=
  String.toList_ofList

/-- A character has a byte of its own, or bytes beyond ASCII. -/
theorem utf8EncodeChar_cases (c : Char) :
    (c.toNat ≤ 127 ∧ String.utf8EncodeChar c = [UInt8.ofNat c.toNat]) ∨
      ∀ byte ∈ String.utf8EncodeChar c, 128 ≤ byte.toNat := by
  have hlow : c.toNat = c.val.toNat := rfl
  unfold String.utf8EncodeChar
  dsimp only
  split
  · exact .inl ⟨by omega, by rw [hlow]⟩
  · refine .inr ?_
    split
    · simp only [List.forall_mem_cons, UInt8.toNat_ofNat']
      refine ⟨by omega, by omega, List.forall_mem_nil _⟩
    · split
      · simp only [List.forall_mem_cons, UInt8.toNat_ofNat']
        exact ⟨by omega, by omega, by omega, List.forall_mem_nil _⟩
      · simp only [List.forall_mem_cons, UInt8.toNat_ofNat']
        exact ⟨by omega, by omega, by omega, by omega, List.forall_mem_nil _⟩

theorem isFragmentEscaped_of_le {byte : UInt8} (h : 128 ≤ byte.toNat) :
    isFragmentEscaped byte = true := by
  have hbeyond : byte > 0x7E := UInt8.lt_iff_toNat_lt.2 (by simpa using by omega)
  simp [isFragmentEscaped, hbeyond]

theorem encodeFragmentByte_of_escaped {byte : UInt8} (h : isFragmentEscaped byte = true) :
    encodeFragmentByte byte = escapeByte byte := if_pos h

/-- A character that is not escaped stays. -/
theorem encodeFragmentChar_of_plain {c : Char} (h : isEscapedInFragment c = false) :
    encodeFragmentChar c = [c] := by
  rcases utf8EncodeChar_cases c with ⟨hascii, hbytes⟩ | hbeyond
  · have hplain : isFragmentEscaped (UInt8.ofNat c.toNat) = false := by
      simpa [isEscapedInFragment, hbytes] using h
    have hvalue : (UInt8.ofNat c.toNat).toNat = c.toNat := by
      rw [UInt8.toNat_ofNat']
      omega
    rw [encodeFragmentChar, hbytes, List.flatMap_singleton, encodeFragmentByte, hplain, hvalue,
      if_neg Bool.false_ne_true, Char.ofNat_toNat]
  · exact absurd h (by
      cases hbytes : String.utf8EncodeChar c with
      | nil => simp [String.utf8EncodeChar_ne_nil] at hbytes
      | cons byte rest =>
          have hbyte := hbeyond byte (hbytes ▸ List.mem_cons_self)
          simp [isEscapedInFragment, hbytes, isFragmentEscaped_of_le hbyte])

/-- All bytes of an escaped character are escaped. -/
theorem encodeFragmentChar_of_escaped {c : Char} (h : isEscapedInFragment c = true) :
    encodeFragmentChar c = (String.utf8EncodeChar c).flatMap escapeByte := by
  refine List.flatMap_congr fun byte hbyte => encodeFragmentByte_of_escaped ?_
  rcases utf8EncodeChar_cases c with ⟨-, hbytes⟩ | hbeyond
  · rw [hbytes, List.mem_singleton] at hbyte
    simpa [isEscapedInFragment, hbytes, ← hbyte] using h
  · exact isFragmentEscaped_of_le (hbeyond byte hbyte)

/-! ### Escapes -/

theorem digitValue?_hexDigit {n : Nat} (h : n < 16) : digitValue? 16 (hexDigit n) = some n := by
  have hall : ∀ n : Fin 16, digitValue? 16 (hexDigit n) = some n.val := by decide
  exact hall ⟨n, h⟩

theorem hexDigit_plain {n : Nat} (h : n < 16) : isEscapedInFragment (hexDigit n) = false := by
  have hall : ∀ n : Fin 16, isEscapedInFragment (hexDigit n) = false := by decide
  exact hall ⟨n, h⟩

/-- An escape is decoded to its byte. -/
theorem percentDecode_escapeByte (byte : UInt8) (rest : List Char) :
    percentDecode (escapeByte byte ++ rest) = byte :: percentDecode rest := by
  have hbyte := byte.toNat_lt
  have hvalue : byte.toNat / 16 * 16 + byte.toNat % 16 = byte.toNat := by omega
  rw [escapeByte, List.cons_append, List.cons_append, List.cons_append, List.nil_append,
    percentDecode, digitValue?_hexDigit (by omega), digitValue?_hexDigit (by omega)]
  dsimp only
  rw [hvalue]
  exact congrArg (· :: percentDecode rest) (UInt8.ofNat_toNat)

theorem percentDecode_escapes (bytes : List UInt8) (rest : List Char) :
    percentDecode (bytes.flatMap escapeByte ++ rest) = bytes ++ percentDecode rest := by
  induction bytes with
  | nil => rfl
  | cons byte bytes ih =>
      rw [List.flatMap_cons, List.append_assoc, percentDecode_escapeByte, ih, List.cons_append]

/-- The characters of an escape are not escaped themselves. -/
theorem plain_of_mem_encodeFragmentChar {c d : Char} (hc : isEscapedInFragment c = true)
    (hd : d ∈ encodeFragmentChar c) : isEscapedInFragment d = false := by
  rw [encodeFragmentChar_of_escaped hc, List.mem_flatMap] at hd
  obtain ⟨byte, -, hd⟩ := hd
  have hbyte := byte.toNat_lt
  simp only [escapeByte, List.mem_cons, List.not_mem_nil, or_false] at hd
  rcases hd with rfl | rfl | rfl
  · decide
  · exact hexDigit_plain (by omega)
  · exact hexDigit_plain (by omega)

theorem flatMap_encodeFragmentChar_of_plain {text : List Char}
    (h : ∀ c ∈ text, isEscapedInFragment c = false) : text.flatMap encodeFragmentChar = text := by
  rw [List.flatMap_congr fun c hc => encodeFragmentChar_of_plain (h c hc), List.flatMap_singleton']

/-- An escape is longer than a character. -/
theorem encodeFragmentChar_ne_singleton {c : Char} (h : isEscapedInFragment c = true) (d : Char) :
    encodeFragmentChar c ≠ [d] := by
  rw [encodeFragmentChar_of_escaped h]
  cases hbytes : String.utf8EncodeChar c with
  | nil => simp [String.utf8EncodeChar_ne_nil] at hbytes
  | cons byte rest => simp [escapeByte]

/-! ### Decoding -/

/-- What a decoder takes for an escape. -/
def BeginsEscape (text : List Char) : Prop :=
  ∃ high low rest, text = '%' :: high :: low :: rest ∧ isDigitOf 16 high = true ∧
    isDigitOf 16 low = true

/-- A text in which a decoder finds an escape: a percent sign with two hexadecimal digits. -/
def HoldsEscape (text : List Char) : Prop :=
  ∃ high low, ['%', high, low] <:+: text ∧ isDigitOf 16 high = true ∧ isDigitOf 16 low = true

theorem holdsEscape_cons_iff {c : Char} {rest : List Char} :
    HoldsEscape (c :: rest) ↔ BeginsEscape (c :: rest) ∨ HoldsEscape rest := by
  constructor
  · rintro ⟨high, low, hinfix, hhigh, hlow⟩
    rcases List.infix_cons_iff.1 hinfix with ⟨after, hprefix⟩ | hrest
    · exact .inl ⟨high, low, after, hprefix.symm, hhigh, hlow⟩
    · exact .inr ⟨high, low, hrest, hhigh, hlow⟩
  · rintro (⟨high, low, after, heq, hhigh, hlow⟩ | ⟨high, low, hrest, hhigh, hlow⟩)
    · rw [heq]
      exact ⟨high, low, (List.prefix_append ['%', high, low] after).isInfix, hhigh, hlow⟩
    · exact ⟨high, low, hrest.trans (List.infix_cons (List.infix_refl rest)), hhigh, hlow⟩

/-- A digit is encoded by nothing but itself. -/
theorem eq_cons_of_encoded_digit {text after : List Char} {d : Char}
    (hd : isDigitOf 16 d = true) (h : text.flatMap encodeFragmentChar = d :: after) :
    ∃ rest, text = d :: rest ∧ after = rest.flatMap encodeFragmentChar := by
  cases text with
  | nil => exact absurd h nofun
  | cons c rest =>
      rw [List.flatMap_cons] at h
      cases hc : isEscapedInFragment c with
      | true =>
          -- An escape begins with a percent sign.
          rw [encodeFragmentChar_of_escaped hc] at h
          cases hbytes : String.utf8EncodeChar c with
          | nil => simp [String.utf8EncodeChar_ne_nil] at hbytes
          | cons byte bytes =>
              rw [hbytes, List.flatMap_cons, escapeByte] at h
              rw [← (List.cons.inj h).1] at hd
              exact absurd hd (by decide)
      | false =>
          rw [encodeFragmentChar_of_plain hc, List.singleton_append] at h
          obtain ⟨rfl, rfl⟩ := List.cons.inj h
          exact ⟨rest, rfl, rfl⟩

/-- A percent sign with no digits after it stays. -/
theorem percentDecode_percent {text : List Char}
    (h : ∀ high low rest, text = high :: low :: rest →
      ¬(isDigitOf 16 high = true ∧ isDigitOf 16 low = true)) :
    percentDecode ('%' :: text) = 0x25 :: percentDecode text := by
  match text with
  | [] => rfl
  | [_] => rfl
  | high :: low :: rest =>
      have hdigits := h high low rest rfl
      rw [percentDecode]
      split
      · next hhigh hlow => exact absurd ⟨by simp [isDigitOf, hhigh], by simp [isDigitOf, hlow]⟩ hdigits
      · rfl

theorem percentDecode_cons {c : Char} (hc : c ≠ '%') (text : List Char) :
    percentDecode (c :: text) = String.utf8EncodeChar c ++ percentDecode text :=
  PostPress.Url.percentDecode.eq_2 c text fun _ _ _ h _ => hc h

/-- What begins with no escape is decoded by its first character. -/
theorem percentDecode_encode_cons {c : Char} {rest : List Char} (h : ¬BeginsEscape (c :: rest)) :
    percentDecode ((c :: rest).flatMap encodeFragmentChar) =
      String.utf8EncodeChar c ++ percentDecode (rest.flatMap encodeFragmentChar) := by
  rw [List.flatMap_cons]
  cases hc : isEscapedInFragment c with
  | true => rw [encodeFragmentChar_of_escaped hc, percentDecode_escapes]
  | false =>
      rw [encodeFragmentChar_of_plain hc, List.singleton_append]
      by_cases hpercent : c = '%'
      · subst hpercent
        refine percentDecode_percent fun high low after heq hdigits => h ?_
        obtain ⟨rest', rfl, hafter⟩ := eq_cons_of_encoded_digit hdigits.1 heq
        obtain ⟨rest', rfl, -⟩ := eq_cons_of_encoded_digit hdigits.2 hafter.symm
        exact ⟨high, low, rest', rfl, hdigits⟩
      · exact percentDecode_cons hpercent _

theorem plain_of_isDigitOf {d : Char} (h : isDigitOf 16 d = true) :
    isEscapedInFragment d = false := by
  have hall : ∀ n < 128, isDigitOf 16 (Char.ofNat n) = true →
      isEscapedInFragment (Char.ofNat n) = false := by decide +kernel
  have hascii : d.toNat < 128 := by
    unfold isDigitOf digitValue? at h
    split at h
    · next hdigit =>
      have hupper := (Char.isDigit_iff_toNat.1 hdigit).2
      exact Nat.lt_of_le_of_lt hupper (by decide)
    · split at h
      · next hlower =>
        have hupper : d.toNat ≤ 'f'.toNat := hlower.2
        exact Nat.lt_of_le_of_lt hupper (by decide)
      · split at h
        · next hcapital =>
          have hupper : d.toNat ≤ 'F'.toNat := hcapital.2
          exact Nat.lt_of_le_of_lt hupper (by decide)
        · exact absurd h (by simp)
  have hd := hall d.toNat hascii
  rw [Char.ofNat_toNat] at hd
  exact hd h

/-- An escape that a text holds is decoded to one byte. -/
theorem percentDecode_encode_escape {high low : Char} (hhigh : isDigitOf 16 high = true)
    (hlow : isDigitOf 16 low = true) (rest : List Char) :
    ∃ byte, percentDecode (('%' :: high :: low :: rest).flatMap encodeFragmentChar) =
      byte :: percentDecode (rest.flatMap encodeFragmentChar) := by
  have hplain : isEscapedInFragment '%' = false := by decide
  obtain ⟨m, hm⟩ := Option.isSome_iff_exists.1 hhigh
  obtain ⟨n, hn⟩ := Option.isSome_iff_exists.1 hlow
  simp only [List.flatMap_cons, encodeFragmentChar_of_plain hplain,
    encodeFragmentChar_of_plain (plain_of_isDigitOf hhigh),
    encodeFragmentChar_of_plain (plain_of_isDigitOf hlow), List.singleton_append]
  exact ⟨_, by rw [percentDecode, hm, hn]⟩

theorem length_flatMap_utf8_escape (high low : Char) (rest : List Char) :
    (rest.flatMap String.utf8EncodeChar).length + 1 <
      (('%' :: high :: low :: rest).flatMap String.utf8EncodeChar).length := by
  have hpos : ∀ c : Char, 0 < (String.utf8EncodeChar c).length := fun c =>
    List.length_pos_iff.2 String.utf8EncodeChar_ne_nil
  have hpercent := hpos '%'
  have hhigh := hpos high
  have hlow := hpos low
  simp only [List.flatMap_cons, List.length_append]
  omega

/-- Decoding gives no more bytes than there were. -/
theorem length_percentDecode_le : ∀ text : List Char,
    (percentDecode (text.flatMap encodeFragmentChar)).length ≤
      (text.flatMap String.utf8EncodeChar).length
  | [] => le_refl 0
  | c :: rest => by
      by_cases hbegins : BeginsEscape (c :: rest)
      · obtain ⟨high, low, after, heq, hhigh, hlow⟩ := hbegins
        obtain ⟨rfl, hrest⟩ := List.cons.inj heq
        subst hrest
        obtain ⟨byte, hdecode⟩ := percentDecode_encode_escape hhigh hlow after
        have hafter := length_percentDecode_le after
        have hless := length_flatMap_utf8_escape high low after
        rw [hdecode, List.length_cons]
        omega
      · have hrest := length_percentDecode_le rest
        rw [percentDecode_encode_cons hbegins, List.flatMap_cons, List.length_append,
          List.length_append]
        omega
termination_by text => text.length

/-- **Decoding gives back the texts that hold no escape.** By induction on the text: a character
is decoded to its own bytes unless an escape begins with it, and then bytes are lost. -/
theorem percentDecode_eq_iff (text : List Char) :
    percentDecode (text.flatMap encodeFragmentChar) = text.flatMap String.utf8EncodeChar ↔
      ¬HoldsEscape text := by
  induction text with
  | nil =>
      refine iff_of_true rfl ?_
      rintro ⟨high, low, hinfix, -⟩
      exact absurd (List.infix_nil.1 hinfix) nofun
  | cons c rest ih =>
      rw [holdsEscape_cons_iff, not_or]
      by_cases hbegins : BeginsEscape (c :: rest)
      · refine iff_of_false (fun heq => ?_) fun h => h.1 hbegins
        obtain ⟨high, low, after, htext, hhigh, hlow⟩ := hbegins
        obtain ⟨byte, hdecode⟩ := percentDecode_encode_escape hhigh hlow after
        have hless := length_flatMap_utf8_escape high low after
        rw [htext, hdecode] at heq
        rw [← heq, List.length_cons] at hless
        have hle := length_percentDecode_le after
        omega
      · rw [percentDecode_encode_cons hbegins, List.flatMap_cons, List.append_cancel_left_eq, ih]
        exact (and_iff_right hbegins).symm

/-! ### Texts that are encoded alike -/

/-- A text that holds a character that is escaped, or the escape of one. -/
def IsAmbiguous (text : List Char) : Prop :=
  ∃ c, isEscapedInFragment c = true ∧ (c ∈ text ∨ encodeFragmentChar c <:+: text)

theorem encode_encodeFragmentChar {c : Char} (h : isEscapedInFragment c = true) :
    (encodeFragmentChar c).flatMap encodeFragmentChar = encodeFragmentChar c :=
  flatMap_encodeFragmentChar_of_plain fun _ => plain_of_mem_encodeFragmentChar h

/-- **Another text is encoded alike** exactly if a character can be put for its escape, or the
other way round. -/
theorem exists_encoded_alike_iff (text : List Char) :
    (∃ other, other ≠ text ∧
        other.flatMap encodeFragmentChar = text.flatMap encodeFragmentChar) ↔
      IsAmbiguous text := by
  constructor
  · rintro ⟨other, hne, heq⟩
    by_cases hescaped : ∃ c ∈ text, isEscapedInFragment c = true
    · obtain ⟨c, hmem, hc⟩ := hescaped
      exact ⟨c, hc, .inl hmem⟩
    · have hplain : ∀ c ∈ text, isEscapedInFragment c = false := by simpa using hescaped
      rw [flatMap_encodeFragmentChar_of_plain hplain] at heq
      by_cases hother : ∃ c ∈ other, isEscapedInFragment c = true
      · obtain ⟨c, hmem, hc⟩ := hother
        obtain ⟨before, after, rfl⟩ := List.append_of_mem hmem
        refine ⟨c, hc, .inr ⟨before.flatMap encodeFragmentChar, after.flatMap encodeFragmentChar, ?_⟩⟩
        rw [← heq, List.flatMap_append, List.flatMap_cons, List.append_assoc]
      · have hstays : ∀ c ∈ other, isEscapedInFragment c = false := by simpa using hother
        rw [flatMap_encodeFragmentChar_of_plain hstays] at heq
        exact absurd heq hne
  · rintro ⟨c, hc, hmem | ⟨before, after, rfl⟩⟩
    · obtain ⟨before, after, rfl⟩ := List.append_of_mem hmem
      refine ⟨before ++ (encodeFragmentChar c ++ after), fun heq => ?_, ?_⟩
      · rw [List.append_cancel_left_eq, ← List.singleton_append,
          List.append_cancel_right_eq] at heq
        exact encodeFragmentChar_ne_singleton hc c heq
      · simp only [List.flatMap_append, List.flatMap_cons, encode_encodeFragmentChar hc]
    · refine ⟨before ++ c :: after, fun heq => ?_, ?_⟩
      · rw [List.append_assoc, List.append_cancel_left_eq, ← List.singleton_append,
          List.append_cancel_right_eq] at heq
        exact encodeFragmentChar_ne_singleton hc c heq.symm
      · simp only [List.flatMap_append, List.flatMap_cons, encode_encodeFragmentChar hc,
          List.append_assoc]

/-- The bytes of a text. -/
def utf8Bytes (text : String) : List UInt8 := text.toUTF8.data.toList

theorem utf8Bytes_eq (text : String) :
    utf8Bytes text = text.toList.flatMap String.utf8EncodeChar := by
  have hbytes : text.toUTF8 = (text.toList.flatMap String.utf8EncodeChar).toByteArray := by
    conv_lhs => rw [← String.ofList_toList (s := text)]
    exact String.toByteArray_ofList
  rw [utf8Bytes, hbytes, List.data_toByteArray]

theorem utf8Bytes_inj {a b : String} (h : utf8Bytes a = utf8Bytes b) : a = b :=
  String.toByteArray_inj.1 (ByteArray.ext (Array.toList_inj.1 h))

end Text

namespace TocEntry

open Text

/-- What a link says after its number sign. -/
def fragment (entry : TocEntry) : List Char := entry.href.toList.drop 1

theorem fragment_eq (entry : TocEntry) :
    entry.fragment = entry.id.toList.flatMap encodeFragmentChar := by
  rw [fragment, href, String.toList_append, toList_encodeFragment]
  rfl

theorem href_eq_iff (entry other : TocEntry) :
    entry.href = other.href ↔ entry.id.toList.flatMap encodeFragmentChar =
      other.id.toList.flatMap encodeFragmentChar := by
  rw [href, href, ← String.toList_inj, String.toList_append, String.toList_append,
    List.append_cancel_left_eq, toList_encodeFragment, toList_encodeFragment]

/-- **When a link is faithful**: decoding it gives back the id of the heading exactly if the id
holds no percent sign with two hexadecimal digits, and headings with different ids of that kind
have different links. A heading of another id has the same link exactly if the id holds a
character that is escaped, or what such a character is escaped to. -/
theorem href_faithful_iff (entry : TocEntry) :
    (Url.percentDecode entry.fragment = utf8Bytes entry.id ↔ ¬HoldsEscape entry.id.toList) ∧
      (¬HoldsEscape entry.id.toList → ∀ other : TocEntry, ¬HoldsEscape other.id.toList →
        other.href = entry.href → other.id = entry.id) ∧
      ((∃ other : TocEntry, other.id ≠ entry.id ∧ other.href = entry.href) ↔
        IsAmbiguous entry.id.toList) := by
  refine ⟨?_, fun hentry other hother hlink => ?_, ?_⟩
  · rw [fragment_eq, utf8Bytes_eq, percentDecode_eq_iff]
  · have hbytes := (percentDecode_eq_iff _).2 hentry
    rw [← (href_eq_iff other entry).1 hlink, (percentDecode_eq_iff _).2 hother,
      ← utf8Bytes_eq, ← utf8Bytes_eq] at hbytes
    exact utf8Bytes_inj hbytes
  · rw [← exists_encoded_alike_iff]
    constructor
    · rintro ⟨other, hne, hlink⟩
      exact ⟨other.id.toList, fun h => hne (String.toList_inj.1 h), (href_eq_iff other entry).1 hlink⟩
    · rintro ⟨other, hne, hsame⟩
      have hid : (String.ofList other).toList = other := String.toList_ofList
      refine ⟨⟨entry.text, entry.depth, .ofList other, []⟩, fun h => hne ?_, ?_⟩
      · rw [← hid, ← h]
      · rw [href_eq_iff, hid, hsame]

/-- The id `%20` is decoded to a space, and has the link of the id that is a space. -/
theorem href_of_escape :
    let escape : TocEntry := ⟨"Discount", 2, "%20", []⟩
    let space : TocEntry := ⟨"Blank", 2, " ", []⟩
    Url.percentDecode escape.fragment ≠ utf8Bytes escape.id ∧
      space.id ≠ escape.id ∧ space.href = escape.href := by
  decide +kernel

end TocEntry

end PostPress
