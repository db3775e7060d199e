import Stockroom.Text.Unprintable

/-!
# Characters of domain names

Domain names are compared without regard to the letter case, to the width of characters and to
other differences of form. Some characters are dropped from a name, some stand for ASCII texts,
some are refused, and the others are kept. Of the kept ones some are written in another form when
the name is used; a name in Punycode cannot hold those.
-/

namespace Stockroom.Url.Domain

/-- The characters without a visible form that a name drops. -/
def ignored : Text.CharClass := ⟨
  [(0xad, 0xad), (0x34f, 0x34f), (0x115f, 0x1160), (0x17b4, 0x17b5), (0x180b, 0x180f),
   (0x200b, 0x200b), (0x2060, 0x2064), (0x206a, 0x206f), (0x3164, 0x3164), (0xfe00, 0xfe0f),
   (0xfeff, 0xfeff), (0xffa0, 0xffa0), (0x1bca0, 0x1bca3), (0x1d173, 0x1d17a), (0xe0100, 0xe01ef)]⟩

/-- The printable characters that no name holds: those that stand for an ASCII character which no
name holds, and those without a use in names. -/
def refused : Text.CharClass := ⟨
  [(0xa8, 0xa8), (0xaf, 0xaf), (0xb4, 0xb4), (0xb8, 0xb8), (0x2d8, 0x2dd), (0x37a, 0x37a),
   (0x384, 0x385), (0x1fbd, 0x1fbd), (0x1fbf, 0x1fc1), (0x1fcd, 0x1fcf), (0x1fdd, 0x1fdf),
   (0x1fed, 0x1fee), (0x1ffd, 0x1ffe), (0x2017, 0x2017), (0x2024, 0x2026), (0x203e, 0x203e),
   (0x2047, 0x2049), (0x2100, 0x2101), (0x2105, 0x2106), (0x2488, 0x249b), (0x2a74, 0x2a74),
   (0x2ff0, 0x2fff), (0x309b, 0x309c), (0x31ef, 0x31ef), (0x33c2, 0x33c2), (0x33c7, 0x33c7),
   (0x33d8, 0x33d8), (0xfc5e, 0xfc63), (0xfdfa, 0xfdfb), (0xfe12, 0xfe13), (0xfe16, 0xfe16),
   (0xfe19, 0xfe19), (0xfe30, 0xfe30), (0xfe47, 0xfe4c), (0xfe52, 0xfe52), (0xfe55, 0xfe56),
   (0xfe5f, 0xfe5f), (0xfe64, 0xfe65), (0xfe68, 0xfe68), (0xfe6a, 0xfe6b), (0xfe70, 0xfe70),
   (0xfe72, 0xfe72), (0xfe74, 0xfe74), (0xfe76, 0xfe76), (0xfe78, 0xfe78), (0xfe7a, 0xfe7a),
   (0xfe7c, 0xfe7c), (0xfe7e, 0xfe7e), (0xff03, 0xff03), (0xff05, 0xff05), (0xff0f, 0xff0f),
   (0xff1a, 0xff1a), (0xff1c, 0xff1c), (0xff1e, 0xff20), (0xff3b, 0xff3e), (0xff5c, 0xff5c),
   (0xffe3, 0xffe3), (0xfffc, 0xfffd), (0x1f100, 0x1f100)]⟩

/-- The two invisible characters that join or part the letters beside them. -/
def isJoiner (c : Char) : Bool :=
  c == '\u200c' || c == '\u200d'

/-- Whether no name holds a character beyond ASCII. -/
def isRefused (c : Char) : Bool :=
  refused.contains c || (Text.unprintable.contains c && !isJoiner c)

/-- Whether no name holds an ASCII character. -/
def isForbidden (c : Char) : Bool :=
  c ≤ ' ' || c == '\x7f' || "%#/:<>?@[\\]^|".toList.contains c

/-- Rows of characters that stand for ASCII texts. A row is given by its first character and by the
texts of its characters. -/
def asciiRows : List (Nat × String) :=
  [(0xaa, "a"), (0xb2, "2 3"), (0xb9, "1 o"), (0x132, "ij ij"), (0x17f, "s"),
   (0x1c7, "lj lj lj nj nj nj"), (0x1f1, "dz dz dz"), (0x2b0, "h"), (0x2b2, "j r"), (0x2b7, "w y"),
   (0x2e1, "l s x"), (0x37e, ";"), (0x1d2c, "a"), (0x1d2e, "b"), (0x1d30, "d e"),
   (0x1d33, "g h i j k l m n"), (0x1d3c, "o"), (0x1d3e, "p r t u w a"), (0x1d47, "b d e"),
   (0x1d4d, "g"), (0x1d4f, "k m"), (0x1d52, "o"), (0x1d56, "p t u"), (0x1d5b, "v"),
   (0x1d62, "i r u v"), (0x1d9c, "c"), (0x1da0, "f"), (0x1dbb, "z"), (0x1fef, "`"), (0x203c, "!!"),
   (0x2070, "0 i"), (0x2074, "4 5 6 7 8 9 +"), (0x207c, "= ( ) n 0 1 2 3 4 5 6 7 8 9 +"),
   (0x208c, "= ( )"), (0x2090, "a e o x"), (0x2095, "h k l m n p s t"), (0x20a8, "rs"),
   (0x2102, "c"), (0x210a, "g h h h h"), (0x2110, "i i l l"), (0x2115, "n no"),
   (0x2119, "p q r r r"), (0x2120, "sm tel tm"), (0x2124, "z"), (0x2128, "z"), (0x212a, "k"),
   (0x212c, "b c"), (0x212f, "e e f"), (0x2133, "m o"), (0x2139, "i"), (0x213b, "fax"),
   (0x2145, "d d e i j"),
   (0x2160, "i ii iii iv v vi vii viii ix x xi xii l c d m i ii iii iv v vi vii viii ix x xi"),
   (0x217b, "xii l c d m"),
   (0x2460, "1 2 3 4 5 6 7 8 9 10 11 12 13 14 15 16 17 18 19 20 (1) (2) (3) (4) (5) (6) (7) (8)"),
   (0x247c, "(9) (10) (11) (12) (13) (14) (15) (16) (17) (18) (19) (20)"),
   (0x249c, "(a) (b) (c) (d) (e) (f) (g) (h) (i) (j) (k) (l) (m) (n) (o) (p) (q) (r) (s) (t)"),
   (0x24b0, "(u) (v) (w) (x) (y) (z) a b c d e f g h i j k l m n o p q r s t u v w x y z a b c"),
   (0x24d3, "d e f g h i j k l m n o p q r s t u v w x y z 0"), (0x2a75, "== ==="), (0x2c7c, "j v"),
   (0x3002, "."), (0x3250, "pte 21 22 23 24 25 26 27 28 29 30 31 32 33 34 35"),
   (0x32b1, "36 37 38 39 40 41 42 43 44 45 46 47 48 49 50"), (0x32cc, "hg erg ev ltd"),
   (0x3371, "hpa da au bar ov pc dm dm2 dm3 iu"), (0x3380, "pa na"),
   (0x3383, "ma ka kb mb gb cal kcal pf nf"), (0x338e, "mg kg hz khz mhz ghz thz"),
   (0x3396, "ml dl kl fm nm"), (0x339c, "mm cm km mm2 cm2 m2 km2 mm3 cm3 m3 km3"),
   (0x33a9, "pa kpa mpa gpa rad"), (0x33b0, "ps ns"), (0x33b3, "ms pv nv"),
   (0x33b7, "mv kv mv pw nw"), (0x33bd, "mw kw mw"), (0x33c3, "bq cc cd"),
   (0x33c8, "db gy ha hp in kk km kt lm ln log lx mb mil mol ph"), (0x33d9, "ppm pr sr sv wb"),
   (0x33ff, "gal"), (0xa7f1, "s c f q"), (0xfb00, "ff fi fl ffi ffl st st"), (0xfb29, "+"),
   (0xfe10, ","), (0xfe14, "; !"), (0xfe33, "_ _ ( ) \x7b \x7d"), (0xfe4d, "_ _ _ ,"),
   (0xfe54, ";"), (0xfe57, "!"), (0xfe59, "( ) \x7b \x7d"), (0xfe60, "& * + -"), (0xfe66, "="),
   (0xfe69, "$"), (0xff01, "! \""), (0xff04, "$"), (0xff06, "& ' ( ) * + , - ."),
   (0xff10, "0 1 2 3 4 5 6 7 8 9"), (0xff1b, ";"), (0xff1d, "="),
   (0xff21, "a b c d e f g h i j k l m n o p q r s t u v w x y z"),
   (0xff3f, "_ ` a b c d e f g h i j k l m n o p q r s t u v w x y z \x7b"), (0xff5d, "\x7d ~"),
   (0xff61, "."), (0x107a5, "q"),
   (0x1ccd6, "a b c d e f g h i j k l m n o p q r s t u v w x y z 0 1 2 3 4 5 6 7 8 9"),
   (0x1f101, "0, 1, 2, 3, 4, 5, 6, 7, 8, 9,"),
   (0x1f110, "(a) (b) (c) (d) (e) (f) (g) (h) (i) (j) (k) (l) (m) (n) (o) (p) (q) (r) (s) (t)"),
   (0x1f124, "(u) (v) (w) (x) (y) (z)"), (0x1f12b, "c r cd wz"),
   (0x1f130, "a b c d e f g h i j k l m n o p q r s t u v w x y z hv mv sd ss ppv wc"),
   (0x1f16a, "mc md mr"), (0x1f190, "dj"), (0x1fbf0, "0 1 2 3 4 5 6 7 8 9")]

/-- Rows of characters that stand for the characters of an alphabet, repeated in its order. A row is
given by its first and its last character. -/
def alphabetRows : List (Nat × Nat × String) :=
  [(0x1d400, 0x1d6a3, "abcdefghijklmnopqrstuvwxyz"), (0x1d7ce, 0x1d7ff, "0123456789")]

/-- The ASCII text that a row has for a code point. -/
def asciiRowForm? (code : Nat) (row : Nat × String) : Option (List Char) :=
  if code < row.1 then none
  else ((row.2.toList.splitOn ' ')[code - row.1]?)

/-- The character of the alphabet that a row has for a code point. -/
def alphabetRowForm? (code : Nat) (row : Nat × Nat × String) : Option (List Char) :=
  let (first, last, alphabet) := row
  if first ≤ code ∧ code ≤ last then
    (alphabet.toList[(code - first) % alphabet.length]?).map fun c => [c]
  else none

/-- The ASCII text that a character beyond ASCII stands for. -/
def asciiForm? (c : Char) : Option (List Char) :=
  (asciiRows.findSome? (asciiRowForm? c.toNat)).or
    (alphabetRows.findSome? (alphabetRowForm? c.toNat))

/-- What a name holds in the place of a character. -/
def charForm? (c : Char) : Option (List Char) :=
  if c.toNat < 128 then if isForbidden c then none else some [c.toLower]
  else if ignored.contains c then some []
  else if isRefused c then none
  else some ((asciiForm? c).getD [c])

/-- Characters that are written in another form, in rows without gaps. -/
def reformed : Text.CharClass := ⟨
  [(0xaa, 0xaa), (0xb2, 0xb5), (0xb9, 0xba), (0xbc, 0xbe), (0xc0, 0xd6), (0xd8, 0xde),
   (0x132, 0x134), (0x136, 0x136), (0x13f, 0x141), (0x149, 0x14a), (0x178, 0x179), (0x181, 0x182),
   (0x184, 0x184), (0x186, 0x187), (0x189, 0x18b), (0x18e, 0x191), (0x193, 0x194), (0x196, 0x198),
   (0x19c, 0x19d), (0x19f, 0x1a0), (0x1a2, 0x1a2), (0x1a4, 0x1a4), (0x1a6, 0x1a7), (0x1a9, 0x1a9),
   (0x1ac, 0x1ac), (0x1ae, 0x1af), (0x1b1, 0x1b3), (0x1b5, 0x1b5), (0x1b7, 0x1b8), (0x1bc, 0x1bc),
   (0x1c4, 0x1cd), (0x1f1, 0x1f4), (0x1f6, 0x1f8), (0x23a, 0x23b), (0x23d, 0x23e), (0x241, 0x241),
   (0x243, 0x246), (0x2b0, 0x2b8), (0x2e0, 0x2e4), (0x340, 0x341), (0x343, 0x345), (0x37e, 0x38f),
   (0x391, 0x3ab), (0x3cf, 0x3d6), (0x3f0, 0x3f2), (0x3f4, 0x3f5), (0x3f7, 0x3f7), (0x3f9, 0x3fa),
   (0x3fd, 0x42f), (0x4c0, 0x4c1), (0x531, 0x556), (0x587, 0x587), (0x675, 0x678), (0x958, 0x95f),
   (0x9dc, 0x9df), (0xa33, 0xa33), (0xa36, 0xa36), (0xa59, 0xa5b), (0xa5e, 0xa5e), (0xb5c, 0xb5d),
   (0xe33, 0xe33), (0xeb3, 0xeb3), (0xedc, 0xedd), (0xf0c, 0xf0c), (0xf43, 0xf43), (0xf4d, 0xf4d),
   (0xf52, 0xf52), (0xf57, 0xf57), (0xf5c, 0xf5c), (0xf69, 0xf69), (0xf73, 0xf73), (0xf75, 0xf79),
   (0xf81, 0xf81), (0xf93, 0xf93), (0xf9d, 0xf9d), (0xfa2, 0xfa2), (0xfa7, 0xfa7), (0xfac, 0xfac),
   (0xfb9, 0xfb9), (0x10a0, 0x10cd), (0x10fc, 0x10fc), (0x13f8, 0x13fd), (0x1c80, 0x1c89),
   (0x1c90, 0x1cbf), (0x1d2c, 0x1d2e), (0x1d30, 0x1d3a), (0x1d3c, 0x1d4d), (0x1d4f, 0x1d6a),
   (0x1d78, 0x1d78), (0x1d9b, 0x1dbf), (0x1e9a, 0x1e9b), (0x1f08, 0x1f0f), (0x1f18, 0x1f1d),
   (0x1f28, 0x1f2f), (0x1f38, 0x1f3f), (0x1f48, 0x1f4d), (0x1f59, 0x1f5f), (0x1f68, 0x1f6f),
   (0x1f7d, 0x1faf), (0x1fb2, 0x1fb4), (0x1fb7, 0x1fc4), (0x1fc7, 0x1fcc), (0x1fd3, 0x1fd3),
   (0x1fd8, 0x1fdb), (0x1fe3, 0x1fe3), (0x1fe8, 0x1ff4), (0x1ff7, 0x1ffc), (0x2011, 0x2011),
   (0x2033, 0x2034), (0x2036, 0x2037), (0x203c, 0x203c), (0x2057, 0x2057), (0x2070, 0x209c),
   (0x20a8, 0x20a8), (0x2102, 0x2103), (0x2107, 0x2107), (0x2109, 0x2113), (0x2115, 0x2116),
   (0x2119, 0x211d), (0x2120, 0x2122), (0x212a, 0x212d), (0x212f, 0x2139), (0x213b, 0x2140),
   (0x2145, 0x2149), (0x2150, 0x217f), (0x2183, 0x2183), (0x2189, 0x2189), (0x222c, 0x222d),
   (0x222f, 0x2230), (0x2329, 0x232a), (0x2460, 0x24ea), (0x2a0c, 0x2a0c), (0x2a75, 0x2a76),
   (0x2adc, 0x2adc), (0x2c00, 0x2c2f), (0x2c60, 0x2c60), (0x2c62, 0x2c64), (0x2c6d, 0x2c70),
   (0x2c72, 0x2c72), (0x2c75, 0x2c75), (0x2c7c, 0x2c80), (0x2ceb, 0x2ceb), (0x2ced, 0x2ced),
   (0x2cf2, 0x2cf2), (0x2d6f, 0x2d6f), (0x2e9f, 0x2e9f), (0x2ef3, 0x2fd5), (0x3002, 0x3002),
   (0x3036, 0x3036), (0x3038, 0x303a), (0x309f, 0x309f), (0x30ff, 0x30ff), (0x3131, 0x318e),
   (0x3192, 0x319f), (0x3200, 0x3247), (0x3250, 0x327e), (0x3280, 0x33ff), (0xa69c, 0xa69d),
   (0xa779, 0xa779), (0xa77b, 0xa77b), (0xa77d, 0xa77e), (0xa78b, 0xa78b), (0xa78d, 0xa78d),
   (0xa790, 0xa790), (0xa792, 0xa792), (0xa7aa, 0xa7ae), (0xa7b0, 0xa7b4), (0xa7c4, 0xa7c7),
   (0xa7c9, 0xa7c9), (0xa7cb, 0xa7cc), (0xa7dc, 0xa7f5), (0xa7f8, 0xa7f9), (0xab5c, 0xab5f),
   (0xab69, 0xab69), (0xab70, 0xabbf), (0xf900, 0xfa0d), (0xfa10, 0xfa10), (0xfa12, 0xfa12),
   (0xfa15, 0xfa1e), (0xfa20, 0xfa20), (0xfa22, 0xfa22), (0xfa25, 0xfa26), (0xfa2a, 0xfb1d),
   (0xfb1f, 0xfbb1), (0xfbd3, 0xfd3d), (0xfd50, 0xfd8f), (0xfd92, 0xfdc7), (0xfdf0, 0xfdfc),
   (0xfe10, 0xfe18), (0xfe31, 0xfe44), (0xfe4d, 0xfe71), (0xfe77, 0xffee), (0x10400, 0x10427),
   (0x104b0, 0x104d3), (0x10570, 0x10595), (0x10781, 0x107ba), (0x10c80, 0x10cb2),
   (0x10d50, 0x10d65), (0x118a0, 0x118bf), (0x16e40, 0x16e5f), (0x16ea0, 0x16eb8),
   (0x1ccd6, 0x1ccf9), (0x1d15e, 0x1d164), (0x1d1bb, 0x1d1c0), (0x1d400, 0x1d7ff),
   (0x1e030, 0x1e06d), (0x1e900, 0x1e921), (0x1ee00, 0x1eebb), (0x1f101, 0x1f10a),
   (0x1f110, 0x1f12e), (0x1f130, 0x1f14f), (0x1f16a, 0x1f16c), (0x1f190, 0x1f190),
   (0x1f200, 0x1f251), (0x1fbf0, 0x1fbf9), (0x2f800, 0x2fa1d)]⟩

/-- Characters that are written in another form, in rows of every second character. -/
def alternating : List (Nat × Nat) :=
  [(0x100, 0x130), (0x139, 0x13d), (0x143, 0x147), (0x14c, 0x176), (0x17b, 0x17f), (0x1cf, 0x1db),
   (0x1de, 0x1ee), (0x1fa, 0x232), (0x248, 0x24e), (0x370, 0x376), (0x3d8, 0x3ee), (0x460, 0x480),
   (0x48a, 0x4be), (0x4c3, 0x4cd), (0x4d0, 0x52e), (0x1e00, 0x1e94), (0x1e9e, 0x1efe),
   (0x1f71, 0x1f7b), (0x2124, 0x2128), (0x2c67, 0x2c6b), (0x2c82, 0x2ce2), (0xa640, 0xa66c),
   (0xa680, 0xa69a), (0xa722, 0xa72e), (0xa732, 0xa770), (0xa780, 0xa786), (0xa796, 0xa7a8),
   (0xa7b6, 0xa7c2), (0xa7ce, 0xa7da)]

/-- Whether a character beyond ASCII is written in another form. -/
def isReformed (c : Char) : Bool :=
  reformed.contains c || alternating.any fun (first, last) =>
    first ≤ c.toNat && c.toNat ≤ last && (c.toNat - first) % 2 == 0

/-- Whether a name holds a character as it stands. -/
def isSettled (c : Char) : Bool :=
  if c.toNat < 128 then !isForbidden c && !c.isUpper
  else !ignored.contains c && !isRefused c && !isReformed c

end Stockroom.Url.Domain
