import PostPress.Text.CodePoint

/-!
# PostPress.Url.Composition

Characters that are one character together: a letter with a mark behind it, for
which a letter with the mark on it is written.

* `composes` — which two characters are one together;
* `composeStroke` — signs with a stroke laid over them, as one character.
-/

namespace PostPress.Url

/-- The marks, and the characters that each makes one character with. -/
def compositions : List (Nat × String) :=
  [(0x300, "aeinouwyâêôüăēōơưαεηιουωϊϋеиἀἁἐἑἠἡἰἱὀὁὐὑὠὡ"),
   (0x301, "acegiklmnoprsuwyzâåæçêïôõøüăēōũơưαεηιουωϊϋгкἀἁἐἑἠἡἰἱὀὁὐὑὠὡ"),
   (0x302, "aceghijosuwyzạẹọ"), (0x303, "aeinouvyâêôăơư"), (0x304, "aegiouyäæõöüǫȧȯαιυиуḷṛ"),
   (0x306, "aegiouȩαιυаежиуạ"), (0x307, "abcdefghmnoprstwxyzśšṣ𐗒𐗚"),
   (0x308, "aehiotuwxyõūιυаежзиоучыэіәө"), (0x309, "aeiouyâêôăơư"), (0x30A, "auwy"), (0x30B, "ouу"),
   (0x30C, "acdeghijklnorstuzüʒ"), (0x30F, "aeioruѵ"), (0x311, "aeioru"), (0x313, "αεηιορυω"),
   (0x314, "αεηιορυω"), (0x31B, "ou"), (0x323, "abdehiklmnorstuvwyzơư"), (0x324, "u"), (0x325, "a"),
   (0x326, "st"), (0x327, "cdeghklnrst"), (0x328, "aeiou"), (0x32D, "delntu"), (0x32E, "h"),
   (0x330, "eiu"), (0x331, "bdhklnrtz"), (0x338, "<=>←→↔⇐⇒⇔∃∈∋∣∥∼≃≅≈≍≡≤≥≲≳≶≷≺≻≼≽⊂⊃⊆⊇⊑⊒⊢⊨⊩⊫⊲⊳⊴⊵"),
   (0x342, "αηιυωϊϋἀἁἠἡἰἱὐὑὠὡ"), (0x653, "\u0627"), (0x654, "\u0627\u0648\u064a\u06c1\u06d2\u06d5"),
   (0x655, "\u0627"), (0x93C, "नरळ"), (0x9BE, "\u09c7"), (0x9D7, "\u09c7"), (0xB3E, "\u0b47"),
   (0xB56, "\u0b47"), (0xB57, "\u0b47"), (0xBBE, "\u0bc6\u0bc7"), (0xBD7, "ஒ\u0bc6"),
   (0xC56, "\u0c46"), (0xCC2, "\u0cc6"), (0xCD5, "\u0cbf\u0cc6\u0cca"), (0xCD6, "\u0cc6"),
   (0xD3E, "\u0d46\u0d47"), (0xD57, "\u0d46"), (0xDCA, "\u0dd9\u0ddc"), (0xDCF, "\u0dd9"),
   (0xDDF, "\u0dd9"), (0x102E, "ဥ"), (0x1B35, "ᬅᬇᬉᬋᬍᬑ\u1b3a\u1b3c\u1b3e\u1b3f\u1b42"),
   (0x3099, "うかきくけこさしすせそたちつてとはひふへほゝウカキクケコサシスセソタチツテトハヒフヘホワヰヱヲヽ"), (0x309A, "はひふへほハヒフヘホ"),
   (0x110BA, "𑂙𑂛𑂥"), (0x11127, "𑄱𑄲"), (0x1133E, "𑍇"), (0x11357, "𑍇"), (0x113B8, "𑏂"),
   (0x113BB, "𑎄"), (0x113C2, "𑎎"), (0x113C9, "𑎂𑎐𑏂"), (0x114B0, "𑒹"), (0x114BA, "𑒹"),
   (0x114BD, "𑒹"), (0x115AF, "𑖸𑖹"), (0x11930, "𑤵"), (0x1611E, "𖄞"), (0x1611F, "𖄡𖄡𖄩𖄩"),
   (0x16120, "𖄡𖄞"), (0x16129, "𖄞"), (0x16D67, "𖵩𖵩")]

/-- The parts of Korean syllables: first consonants, vowels, last consonants, and
the syllables without a last consonant. -/
def composesHangul (a b : Nat) : Bool :=
  (0x1100 ≤ a && a ≤ 0x1112 && 0x1161 ≤ b && b ≤ 0x1175) ||
    (0xAC00 ≤ a && a ≤ 0xD7A3 && (a - 0xAC00) % 28 == 0 && 0x11A8 ≤ b && b ≤ 0x11C2)

/-- Whether two characters in a row are one together. -/
def composes (a b : Char) : Bool :=
  composesHangul a.toNat b.toNat ||
    (compositions.lookup b.toNat).any fun bases => bases.toList.contains a

/-- A text with its signs of comparison that are struck through each as one
character. -/
def composeStroke : List Char → List Char
  | '<' :: '\u0338' :: rest => '≮' :: composeStroke rest
  | '=' :: '\u0338' :: rest => '≠' :: composeStroke rest
  | '>' :: '\u0338' :: rest => '≯' :: composeStroke rest
  | c :: rest => c :: composeStroke rest
  | [] => []

/-- Whether no two characters in a row are one together. -/
def isComposed : List Char → Bool
  | a :: b :: rest => !composes a b && isComposed (b :: rest)
  | _ => true

end PostPress.Url
