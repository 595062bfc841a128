import TitleFormatting.Text.Ranges

/-!
Conversion to small character repertoires. A character outside the repertoire
is replaced by a similar spelling or, when there is none, by a question mark.
-/

namespace TitleFormatting.Text.Repertoire

/-- Single characters and runs of characters with a similar spelling in
ASCII. -/
def spellings : List (List (Nat × Nat) × String) := [
  ([(0xA0, 0xA0), (0x2000, 0x200A)], " "),
  ([(0xA1, 0xA1)], "!"),
  ([(0xA2, 0xA2), (0xE7, 0xE7), (0x107, 0x107), (0x109, 0x109), (0x10B, 0x10B),
    (0x10D, 0x10D)], "c"),
  ([(0xA3, 0xA3), (0x139, 0x139), (0x13B, 0x13B), (0x13D, 0x13D), (0x13F, 0x13F),
    (0x141, 0x141)], "L"),
  ([(0xA5, 0xA5), (0xDD, 0xDD), (0x176, 0x176), (0x178, 0x178)], "Y"),
  ([(0xA6, 0xA6)], "|"),
  ([(0xA7, 0xA7), (0x15A, 0x15A), (0x15C, 0x15C), (0x15E, 0x15E),
    (0x160, 0x160)], "S"),
  ([(0xA8, 0xA8), (0x201C, 0x201F), (0x2033, 0x2033)], "\""),
  ([(0xA9, 0xA9)], "(c)"),
  ([(0xAA, 0xAA), (0xE0, 0xE5), (0x101, 0x101), (0x103, 0x103),
    (0x105, 0x105)], "a"),
  ([(0xAB, 0xAB)], "<<"),
  ([(0xAC, 0xAC), (0xAD, 0xAD), (0xAF, 0xAF), (0x2010, 0x2015)], "-"),
  ([(0xAE, 0xAE)], "(R)"),
  ([(0xB0, 0xB0), (0xBA, 0xBA), (0xF2, 0xF6), (0xF8, 0xF8), (0x14D, 0x14D),
    (0x14F, 0x14F), (0x151, 0x151)], "o"),
  ([(0xB1, 0xB1)], "+-"),
  ([(0xB2, 0xB2)], "2"),
  ([(0xB3, 0xB3)], "3"),
  ([(0xB4, 0xB4), (0x2018, 0x201B), (0x2032, 0x2032)], "'"),
  ([(0xB5, 0xB5), (0xF9, 0xFC), (0x169, 0x169), (0x16B, 0x16B), (0x16D, 0x16D),
    (0x16F, 0x16F), (0x171, 0x171), (0x173, 0x173)], "u"),
  ([(0xB6, 0xB6)], "P"),
  ([(0xB7, 0xB7)], "."),
  ([(0xB8, 0xB8)], ","),
  ([(0xB9, 0xB9)], "1"),
  ([(0xBB, 0xBB)], ">>"),
  ([(0xBC, 0xBC)], "1/4"),
  ([(0xBD, 0xBD)], "1/2"),
  ([(0xBE, 0xBE)], "3/4"),
  ([(0xBF, 0xBF)], "?"),
  ([(0xC0, 0xC5), (0x100, 0x100), (0x102, 0x102), (0x104, 0x104)], "A"),
  ([(0xC6, 0xC6)], "AE"),
  ([(0xC7, 0xC7), (0x106, 0x106), (0x108, 0x108), (0x10A, 0x10A),
    (0x10C, 0x10C)], "C"),
  ([(0xC8, 0xCB), (0x112, 0x112), (0x114, 0x114), (0x116, 0x116), (0x118, 0x118),
    (0x11A, 0x11A)], "E"),
  ([(0xCC, 0xCF), (0x128, 0x128), (0x12A, 0x12A), (0x12C, 0x12C), (0x12E, 0x12E),
    (0x130, 0x130)], "I"),
  ([(0xD0, 0xD0), (0x10E, 0x10E), (0x110, 0x110)], "D"),
  ([(0xD1, 0xD1), (0x143, 0x143), (0x145, 0x145), (0x147, 0x147),
    (0x14A, 0x14A)], "N"),
  ([(0xD2, 0xD6), (0xD8, 0xD8), (0x14C, 0x14C), (0x14E, 0x14E),
    (0x150, 0x150)], "O"),
  ([(0xD7, 0xD7)], "x"),
  ([(0xD9, 0xDC), (0x168, 0x168), (0x16A, 0x16A), (0x16C, 0x16C), (0x16E, 0x16E),
    (0x170, 0x170), (0x172, 0x172)], "U"),
  ([(0xDE, 0xDE)], "Th"),
  ([(0xDF, 0xDF)], "ss"),
  ([(0xE6, 0xE6)], "ae"),
  ([(0xE8, 0xEB), (0x113, 0x113), (0x115, 0x115), (0x117, 0x117), (0x119, 0x119),
    (0x11B, 0x11B)], "e"),
  ([(0xEC, 0xEF), (0x129, 0x129), (0x12B, 0x12B), (0x12D, 0x12D), (0x12F, 0x12F),
    (0x131, 0x131)], "i"),
  ([(0xF0, 0xF0), (0x10F, 0x10F), (0x111, 0x111)], "d"),
  ([(0xF1, 0xF1), (0x144, 0x144), (0x146, 0x146), (0x148, 0x148),
    (0x14B, 0x14B)], "n"),
  ([(0xF7, 0xF7)], "/"),
  ([(0xFD, 0xFD), (0xFF, 0xFF), (0x177, 0x177)], "y"),
  ([(0xFE, 0xFE)], "th"),
  ([(0x11C, 0x11C), (0x11E, 0x11E), (0x120, 0x120), (0x122, 0x122)], "G"),
  ([(0x11D, 0x11D), (0x11F, 0x11F), (0x121, 0x121), (0x123, 0x123)], "g"),
  ([(0x124, 0x124), (0x126, 0x126)], "H"),
  ([(0x125, 0x125), (0x127, 0x127)], "h"),
  ([(0x132, 0x132)], "IJ"),
  ([(0x133, 0x133)], "ij"),
  ([(0x134, 0x134)], "J"),
  ([(0x135, 0x135)], "j"),
  ([(0x136, 0x136)], "K"),
  ([(0x137, 0x137), (0x138, 0x138)], "k"),
  ([(0x13A, 0x13A), (0x13C, 0x13C), (0x13E, 0x13E), (0x140, 0x140),
    (0x142, 0x142)], "l"),
  ([(0x149, 0x149)], "'n"),
  ([(0x152, 0x152)], "OE"),
  ([(0x153, 0x153)], "oe"),
  ([(0x154, 0x154), (0x156, 0x156), (0x158, 0x158)], "R"),
  ([(0x155, 0x155), (0x157, 0x157), (0x159, 0x159)], "r"),
  ([(0x15B, 0x15B), (0x15D, 0x15D), (0x15F, 0x15F), (0x161, 0x161),
    (0x17F, 0x17F)], "s"),
  ([(0x162, 0x162), (0x164, 0x164), (0x166, 0x166)], "T"),
  ([(0x163, 0x163), (0x165, 0x165), (0x167, 0x167)], "t"),
  ([(0x174, 0x174)], "W"),
  ([(0x175, 0x175)], "w"),
  ([(0x179, 0x179), (0x17B, 0x17B), (0x17D, 0x17D)], "Z"),
  ([(0x17A, 0x17A), (0x17C, 0x17C), (0x17E, 0x17E)], "z"),
  ([(0x192, 0x192)], "f"),
  ([(0x2C6, 0x2C6)], "^"),
  ([(0x2DC, 0x2DC)], "~"),
  ([(0x2020, 0x2020), (0x2021, 0x2021)], "+"),
  ([(0x2022, 0x2022)], "*"),
  ([(0x2026, 0x2026)], "..."),
  ([(0x2030, 0x2030)], "%"),
  ([(0x2039, 0x2039)], "<"),
  ([(0x203A, 0x203A)], ">"),
  ([(0x20AC, 0x20AC)], "EUR"),
  ([(0x2122, 0x2122)], "TM")]

/-- The ASCII spelling of a character outside ASCII. -/
def spelling? (c : Char) : Option String :=
  (spellings.find? fun entry => inRanges entry.1 c).map Prod.snd

def isAscii (c : Char) : Bool := c.toNat < 128

/-- The characters of Windows-1252 above Latin-1. -/
def windowsExtras : List Char :=
  ['\u20ac', '\u201a', '\u0192', '\u201e', '\u2026', '\u2020', '\u2021', '\u02c6',
    '\u2030', '\u0160', '\u2039', '\u0152', '\u017d', '\u2018', '\u2019', '\u201c',
    '\u201d', '\u2022', '\u2013', '\u2014', '\u02dc', '\u2122', '\u0161', '\u203a',
    '\u0153', '\u017e', '\u0178']

def isWindows (c : Char) : Bool :=
  isAscii c || ('\u00a0' ≤ c && c ≤ '\u00ff') || windowsExtras.contains c

/-- Each character kept when it belongs to the repertoire and respelled when
not. -/
def convert (belongs : Char → Bool) (text : List Char) : List Char :=
  text.flatMap fun c =>
    if belongs c then [c] else ((spelling? c).getD "?").toList

def toAscii (text : List Char) : List Char := convert isAscii text

def toWindows (text : List Char) : List Char := convert isWindows text

end TitleFormatting.Text.Repertoire
