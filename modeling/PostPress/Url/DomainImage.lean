import PostPress.Text.Lowercase
import PostPress.Url.DomainCharacter

/-!
# PostPress.Url.DomainImage

What the characters of domain names stand for.

* `asciiImage?` — a character that stands for others, with some in ASCII among
  them;
* `domainImage` — the characters that any character stands for;
* `standsForItself` — which characters stand for no others.

A character that stands for others beyond ASCII is as good as they are, and stays
as it is.
-/

namespace PostPress.Url

/-- Runs of characters that stand for letters or digits in a row: the first and the
last one, and what the first one stands for. -/
def letterRuns : List (Nat × Nat × Char) :=
  [(0x1D33, 0x1D3A, 'g'), (0x2074, 0x2079, '4'), (0x2080, 0x2089, '0'), (0x2096, 0x2099, 'k'),
   (0x2460, 0x2468, '1'), (0x24B6, 0x24CF, 'a'), (0x24D0, 0x24E9, 'a'), (0x1CCD6, 0x1CCEF, 'a'),
   (0x1CCF0, 0x1CCF9, '0'), (0x1D400, 0x1D419, 'a'), (0x1D41A, 0x1D433, 'a'),
   (0x1D434, 0x1D44D, 'a'), (0x1D44E, 0x1D454, 'a'), (0x1D456, 0x1D467, 'i'),
   (0x1D468, 0x1D481, 'a'), (0x1D482, 0x1D49B, 'a'), (0x1D4A9, 0x1D4AC, 'n'),
   (0x1D4AE, 0x1D4B5, 's'), (0x1D4B6, 0x1D4B9, 'a'), (0x1D4BD, 0x1D4C3, 'h'),
   (0x1D4C5, 0x1D4CF, 'p'), (0x1D4D0, 0x1D4E9, 'a'), (0x1D4EA, 0x1D503, 'a'),
   (0x1D507, 0x1D50A, 'd'), (0x1D50D, 0x1D514, 'j'), (0x1D516, 0x1D51C, 's'),
   (0x1D51E, 0x1D537, 'a'), (0x1D53B, 0x1D53E, 'd'), (0x1D540, 0x1D544, 'i'),
   (0x1D54A, 0x1D550, 's'), (0x1D552, 0x1D56B, 'a'), (0x1D56C, 0x1D585, 'a'),
   (0x1D586, 0x1D59F, 'a'), (0x1D5A0, 0x1D5B9, 'a'), (0x1D5BA, 0x1D5D3, 'a'),
   (0x1D5D4, 0x1D5ED, 'a'), (0x1D5EE, 0x1D607, 'a'), (0x1D608, 0x1D621, 'a'),
   (0x1D622, 0x1D63B, 'a'), (0x1D63C, 0x1D655, 'a'), (0x1D656, 0x1D66F, 'a'),
   (0x1D670, 0x1D689, 'a'), (0x1D68A, 0x1D6A3, 'a'), (0x1D7CE, 0x1D7D7, '0'),
   (0x1D7D8, 0x1D7E1, '0'), (0x1D7E2, 0x1D7EB, '0'), (0x1D7EC, 0x1D7F5, '0'),
   (0x1D7F6, 0x1D7FF, '0'), (0x1F130, 0x1F149, 'a'), (0x1FBF0, 0x1FBF9, '0')]

/-- Runs of characters that stand for words: the first one, and the words. -/
def wordRuns : List (Nat × String) :=
  [(0xAA, "a"), (0xB2, "2 3"), (0xB9, "1 o"), (0xBC, "1⁄4 1⁄2 3⁄4"), (0x130, "i\u0307"),
   (0x132, "ij ij"), (0x13F, "l· l·"), (0x149, "ʼn"), (0x17F, "s"),
   (0x1C4, "dž dž dž lj lj lj nj nj nj"), (0x1F1, "dz dz dz"), (0x2B0, "h"), (0x2B2, "j r"),
   (0x2B7, "w y"), (0x2E1, "l s x"), (0x37E, ";"), (0xE33, "\u0e4dา"), (0xEB3, "\u0ecdາ"),
   (0x1D2C, "a"), (0x1D2E, "b"), (0x1D30, "d e"), (0x1D3C, "o"), (0x1D3E, "p r t u w a"),
   (0x1D47, "b d e"), (0x1D4D, "g"), (0x1D4F, "k m"), (0x1D52, "o"), (0x1D56, "p t u"),
   (0x1D5B, "v"), (0x1D62, "i r u v"), (0x1D9C, "c"), (0x1DA0, "f"), (0x1DBB, "z"), (0x1E9A, "aʾ"),
   (0x1E9E, "ss"), (0x1FEF, "`"), (0x203C, "!!"), (0x2070, "0 i"), (0x207A, "+"),
   (0x207C, "= ( ) n"), (0x208A, "+"), (0x208C, "= ( )"), (0x2090, "a e o x"), (0x2095, "h"),
   (0x209A, "p s t"), (0x20A8, "rs"), (0x2102, "c °c"), (0x2109, "°f g h h h h"),
   (0x2110, "i i l l"), (0x2115, "n no"), (0x2119, "p q r r r"), (0x2120, "sm tel tm"),
   (0x2124, "z"), (0x2128, "z"), (0x212A, "k"), (0x212C, "b c"), (0x212F, "e e f"), (0x2133, "m o"),
   (0x2139, "i"), (0x213B, "fax"), (0x2145, "d d e i j"),
   (0x2150, "1⁄7 1⁄9 1⁄10 1⁄3 2⁄3 1⁄5 2⁄5 3⁄5 4⁄5 1⁄6 5⁄6 1⁄8 3⁄8 5⁄8 7⁄8 1⁄ i ii iii"),
   (0x2163, "iv v vi vii viii ix x xi xii l c d m i ii iii iv v vi vii viii ix x xi"),
   (0x217B, "xii l c d m"), (0x2189, "0⁄3"),
   (0x2469, "10 11 12 13 14 15 16 17 18 19 20 (1) (2) (3) (4) (5) (6) (7) (8) (9)"),
   (0x247D, "(10) (11) (12) (13) (14) (15) (16) (17) (18) (19) (20)"),
   (0x249C, "(a) (b) (c) (d) (e) (f) (g) (h) (i) (j) (k) (l) (m) (n) (o) (p) (q) (r)"),
   (0x24AE, "(s) (t) (u) (v) (w) (x) (y) (z)"), (0x24EA, "0"), (0x2A75, "== ==="), (0x2C7C, "j v"),
   (0x3200, "(ᄀ) (ᄂ) (ᄃ) (ᄅ) (ᄆ) (ᄇ) (ᄉ) (ᄋ) (ᄌ) (ᄎ) (ᄏ) (ᄐ) (ᄑ) (ᄒ) (가) (나) (다) (라)"),
   (0x3212, "(마) (바) (사) (아) (자) (차) (카) (타) (파) (하) (주) (오전) (오후)"),
   (0x3220, "(一) (二) (三) (四) (五) (六) (七) (八) (九) (十) (月) (火) (水) (木) (金) (土) (日) (株)"),
   (0x3232, "(有) (社) (名) (特) (財) (祝) (労) (代) (呼) (学) (監) (企) (資) (協) (祭) (休) (自) (至)"),
   (0x3250, "pte 21 22 23 24 25 26 27 28 29 30 31 32 33 34 35"),
   (0x32B1, "36 37 38 39 40 41 42 43 44 45 46 47 48 49 50 1月 2月 3月 4月 5月 6月 7月 8月 9月"),
   (0x32C9, "10月 11月 12月 hg erg ev ltd"),
   (0x3358, "0点 1点 2点 3点 4点 5点 6点 7点 8点 9点 10点 11点 12点 13点 14点 15点 16点 17点 18点 19点"),
   (0x336C, "20点 21点 22点 23点 24点 hpa da au bar ov pc dm dm2 dm3 iu"),
   (0x3380, "pa na μa ma ka kb mb gb cal kcal pf nf μf μg mg kg hz khz mhz ghz thz μl"),
   (0x3396, "ml dl kl fm nm μm mm cm km mm2 cm2 m2 km2 mm3 cm3 m3 km3 m∕s m∕s2 pa kpa"),
   (0x33AB, "mpa gpa rad rad∕s rad∕s2 ps ns μs ms pv nv μv mv kv mv pw nw μw mw kw mw"),
   (0x33C0, "kω mω"), (0x33C3, "bq cc cd c∕kg"),
   (0x33C8, "db gy ha hp in kk km kt lm ln log lx mb mil mol ph"),
   (0x33D9, "ppm pr sr sv wb v∕m a∕m 1日 2日 3日 4日 5日 6日 7日 8日 9日 10日 11日 12日 13日 14日"),
   (0x33EE, "15日 16日 17日 18日 19日 20日 21日 22日 23日 24日 25日 26日 27日 28日 29日 30日 31日 gal"),
   (0xA7F1, "s c f q"), (0xFB00, "ff fi fl ffi ffl st st"), (0xFB29, "+"), (0xFE10, ","),
   (0xFE14, "; !"), (0xFE33, "_ _ ( ) \x7b \x7d"), (0xFE4D, "_ _ _ ,"), (0xFE54, ";"),
   (0xFE57, "!"), (0xFE59, "( ) \x7b \x7d"), (0xFE60, "& * + -"), (0xFE66, "="), (0xFE69, "$"),
   (0x107A5, "q"), (0x1D49C, "a"), (0x1D49E, "c d"), (0x1D4A2, "g"), (0x1D4A5, "j k"),
   (0x1D4BB, "f"), (0x1D504, "a b"), (0x1D538, "a b"), (0x1D546, "o"),
   (0x1F101, "0, 1, 2, 3, 4, 5, 6, 7, 8, 9,"),
   (0x1F110, "(a) (b) (c) (d) (e) (f) (g) (h) (i) (j) (k) (l) (m) (n) (o) (p) (q) (r)"),
   (0x1F122, "(s) (t) (u) (v) (w) (x) (y) (z) 〔s〕 c r cd wz"), (0x1F14A, "hv mv sd ss ppv wc"),
   (0x1F16A, "mc md mr"), (0x1F190, "dj"), (0x1F240, "〔本〕 〔三〕 〔二〕 〔安〕 〔点〕 〔打〕 〔盗〕 〔勝〕 〔敗〕")]

/-- The full stops of other scripts. -/
def fullStops : List Char := ['\u3002', '\uff61']

/-- The ranges of characters that stand for others beyond ASCII, capital letters
left out, ascending. -/
def standInRanges : List (Nat × Nat) :=
  [(0xB5, 0xB5), (0x2B1, 0x2B6), (0x2E0, 0x2E4), (0x340, 0x341), (0x343, 0x345), (0x374, 0x374),
   (0x387, 0x387), (0x3D0, 0x3D6), (0x3F0, 0x3F2), (0x3F5, 0x3F5), (0x587, 0x587), (0x675, 0x678),
   (0x958, 0x95F), (0x9DC, 0x9DF), (0xA33, 0xA33), (0xA36, 0xA36), (0xA59, 0xA5B), (0xA5E, 0xA5E),
   (0xB5C, 0xB5D), (0xEDC, 0xEDD), (0xF0C, 0xF0C), (0xF43, 0xF43), (0xF4D, 0xF4D), (0xF52, 0xF52),
   (0xF57, 0xF57), (0xF5C, 0xF5C), (0xF69, 0xF69), (0xF73, 0xF73), (0xF75, 0xF79), (0xF81, 0xF81),
   (0xF93, 0xF93), (0xF9D, 0xF9D), (0xFA2, 0xFA2), (0xFA7, 0xFA7), (0xFAC, 0xFAC), (0xFB9, 0xFB9),
   (0x10FC, 0x10FC), (0x13F8, 0x13FD), (0x1C80, 0x1C89), (0x1D2D, 0x1D2D), (0x1D32, 0x1D32),
   (0x1D3D, 0x1D4C), (0x1D51, 0x1D6A), (0x1D78, 0x1D78), (0x1D9B, 0x1DBF), (0x1E9B, 0x1E9B),
   (0x1F71, 0x1F71), (0x1F73, 0x1F73), (0x1F75, 0x1F75), (0x1F77, 0x1F77), (0x1F79, 0x1F79),
   (0x1F7B, 0x1F7B), (0x1F7D, 0x1FAF), (0x1FB2, 0x1FB4), (0x1FB7, 0x1FC4), (0x1FC7, 0x1FCC),
   (0x1FD3, 0x1FD3), (0x1FD8, 0x1FDB), (0x1FE3, 0x1FE3), (0x1FE8, 0x1FF4), (0x1FF7, 0x1FFC),
   (0x2011, 0x2011), (0x2033, 0x2034), (0x2036, 0x2037), (0x2057, 0x2057), (0x207B, 0x2094),
   (0x2107, 0x2107), (0x210F, 0x210F), (0x2135, 0x2138), (0x213C, 0x2140), (0x222C, 0x222D),
   (0x222F, 0x2230), (0x2329, 0x232A), (0x2A0C, 0x2A0C), (0x2ADC, 0x2ADC), (0x2D6F, 0x2D6F),
   (0x2E9F, 0x2E9F), (0x2EF3, 0x2FD5), (0x3036, 0x3036), (0x3038, 0x303A), (0x309F, 0x309F),
   (0x30FF, 0x30FF), (0x3131, 0x318E), (0x3192, 0x319F), (0x3244, 0x3247), (0x3260, 0x327E),
   (0x3280, 0x337F), (0xA69C, 0xA69D), (0xA770, 0xA770), (0xA7CB, 0xA7CC), (0xA7CE, 0xA7CE),
   (0xA7D2, 0xA7D2), (0xA7D4, 0xA7D4), (0xA7DA, 0xA7DA), (0xA7DC, 0xA7DC), (0xA7F8, 0xA7F9),
   (0xAB5C, 0xAB5F), (0xAB69, 0xAB69), (0xAB70, 0xABBF), (0xF900, 0xFA0D), (0xFA10, 0xFA10),
   (0xFA12, 0xFA12), (0xFA15, 0xFA1E), (0xFA20, 0xFA20), (0xFA22, 0xFA22), (0xFA25, 0xFA26),
   (0xFA2A, 0xFB1D), (0xFB1F, 0xFBB1), (0xFBD3, 0xFD3D), (0xFD50, 0xFD8F), (0xFD92, 0xFDC7),
   (0xFDF0, 0xFDFC), (0xFE11, 0xFE18), (0xFE31, 0xFE44), (0xFE51, 0xFE71), (0xFE77, 0xFEFC),
   (0xFF5F, 0xFF60), (0xFF62, 0xFFEE), (0x10781, 0x107BA), (0x10D50, 0x10D65), (0x16EA0, 0x16EB8),
   (0x1D15E, 0x1D164), (0x1D1BB, 0x1D1C0), (0x1D6A4, 0x1D7CB), (0x1E030, 0x1E06D),
   (0x1EE00, 0x1EEBB), (0x1F200, 0x1F251), (0x2F800, 0x2FA1D)]

/-- The capital letters of a script whose small letters stand for them. -/
def isStayingCapital (c : Char) : Bool := '\u13a0' ≤ c && c ≤ '\u13f5'

/-- The letter or digit that a character of a run stands for. -/
def letterImage? (code : Nat) : Option (List Char) :=
  (letterRuns.find? fun (first, last, _) => first ≤ code && code ≤ last).map
    fun (first, _, letter) => [Char.ofNat (letter.toNat + (code - first))]

/-- The word that a character of a run stands for. -/
def wordImage? (code : Nat) : Option (List Char) :=
  wordRuns.findSome? fun (first, words) =>
    if first ≤ code then ((words.splitOn " ")[code - first]?).map String.toList else none

/-- The characters that a character stands for, if some of them are in ASCII. -/
def asciiImage? (c : Char) : Option (List Char) :=
  let code := c.toNat
  if fullStops.contains c then some ['.']
  else if 0xFF01 ≤ code ∧ code ≤ 0xFF5E then some [(Char.ofNat (code - 0xFEE0)).toLower]
  else (letterImage? code).or (wordImage? code)

/-- What a character of a domain name stands for; nothing if no name may hold it. -/
def domainImage (c : Char) : Option (List Char) :=
  if c.toNat < 0x80 then some [c.toLower]
  else if isJoiner c then some [c]
  else if isDisallowed c then none
  else if isPassedOver c then some []
  else some ((asciiImage? c).getD [c])

/-- Whether a character beyond ASCII may stand in a name and stands for no other. -/
def standsForItself (c : Char) : Bool :=
  domainImage c == some [c] && !Text.inRanges standInRanges c.toNat &&
    (isStayingCapital c || Text.lowercase c == [c])

end PostPress.Url
