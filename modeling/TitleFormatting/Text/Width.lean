import TitleFormatting.Text.Ranges
import TitleFormatting.Text.Width.Table

/-!
Display width: how many terminal columns a text takes. A text is read as a
sequence of units, most of them single characters. Emoji sequences are units
of two columns, and a few scripts write two letters as one glyph.
-/

namespace TitleFormatting.Text

namespace Width

/-- Columns of a character that stands for itself. -/
def charWidth (c : Char) : Nat :=
  if c.toNat < 0xA1 then 1
  else if c.toNat = 0x17D8 then 3
  else if inRanges zeroRanges c then 0
  else if inRanges wideRanges c then 2
  else 1

def isZero (c : Char) : Bool := charWidth c == 0

def isFlagLetter (c : Char) : Bool := 0x1F1E6 ≤ c.toNat && c.toNat ≤ 0x1F1FF

def isModifier (c : Char) : Bool := 0x1F3FB ≤ c.toNat && c.toNat ≤ 0x1F3FF

def isTagLetter (c : Char) : Bool := 0xE0061 ≤ c.toNat && c.toNat ≤ 0xE007A

def isTagDigit (c : Char) : Bool := 0xE0030 ≤ c.toNat && c.toNat ≤ 0xE0039

/-- Tags that name a region behind a flag: three to six letters, or three
digits and up to four letters. -/
def isRegion (tags : List Char) : Bool :=
  let digits := tags.takeWhile isTagDigit
  let letters := tags.dropWhile isTagDigit
  letters.all isTagLetter &&
    (if digits.isEmpty then 3 ≤ letters.length && letters.length ≤ 6
    else digits.length == 3 && letters.length ≤ 4)

/-- The tags at the front of a text. -/
def leadingTags (text : List Char) : List Char :=
  text.takeWhile fun c => isTagLetter c || isTagDigit c

def isKeycapBase (c : Char) : Bool := c.isDigit || c == '#' || c == '*'

/-- How many characters at the front of the text form one emoji: a keycap, a
flag, a character with an emoji selector or a modifier, or an emoji alone. -/
def emojiLength : List Char → Option Nat
  | [] => none
  | c :: rest =>
    match rest with
    | '\ufe0f' :: '\u20e3' :: _ =>
      if isKeycapBase c then some 3
      else if inRanges selectableRanges c then some 2
      else if inRanges emojiRanges c then some 1
      else none
    | '\ufe0f' :: _ =>
      if inRanges selectableRanges c then some 2
      else if inRanges emojiRanges c then some 1
      else none
    | '\ufe0e' :: _ =>
      if inRanges emojiRanges c && !inRanges textRanges c then some 1 else none
    | d :: _ =>
      let tags := leadingTags rest
      if isFlagLetter c && isFlagLetter d then some 2
      else if inRanges modifiableRanges c && isModifier d then some 2
      else if c.toNat = 0x1F3F4 && isRegion tags &&
          (rest.drop tags.length).head? == some (Char.ofNat 0xE007F) then
        some (2 + tags.length)
      else if inRanges emojiRanges c || isModifier c then some 1
      else none
    | [] => if inRanges emojiRanges c || isModifier c then some 1 else none

/-- How many characters continue an emoji by joiners, each followed by
another emoji. -/
def joinedLength (text : List Char) : Nat :=
  match text with
  | '\u200d' :: rest =>
    match emojiLength rest with
    | some n => 1 + n + joinedLength (rest.drop n)
    | none => 0
  | _ => 0
termination_by text.length
decreasing_by simp only [List.length_drop, List.length_cons]; omega

/-- Letters that fuse with an alef after them. -/
def isLam (c : Char) : Bool :=
  inRanges [(0x644, 0x644), (0x6B5, 0x6B8), (0x76A, 0x76A), (0x8A6, 0x8A6),
    (0x8C7, 0x8C7)] c

def isAlef (c : Char) : Bool :=
  inRanges [(0x622, 0x623), (0x625, 0x625), (0x627, 0x627), (0x671, 0x673),
    (0x675, 0x675), (0x773, 0x774), (0x870, 0x882)] c

def isTifinagh (c : Char) : Bool :=
  inRanges [(0x2D31, 0x2D65), (0x2D6F, 0x2D6F)] c

/-- Khmer letters that are written below the line after a coeng sign. -/
def isSubscriptable (c : Char) : Bool :=
  inRanges [(0x1780, 0x1782), (0x1784, 0x1787), (0x1789, 0x178C),
    (0x178E, 0x1793), (0x1795, 0x1798), (0x179B, 0x179D), (0x17A0, 0x17A0),
    (0x17A2, 0x17A2), (0x17A7, 0x17A7), (0x17AB, 0x17AC), (0x17AF, 0x17AF)] c

/-- A fused glyph at the front of the text: its columns, and how many
characters after the first belong to it. -/
def ligature : List Char → Option (Nat × Nat)
  | '\r' :: '\n' :: _ => some (1, 1)
  | 'א' :: '\u200d' :: 'ל' :: _ => some (1, 2)
  | '\u1a15' :: '\u1a17' :: '\u200d' :: '\u1a10' :: _ => some (1, 3)
  | '𐰲' :: '\u200d' :: '𐰃' :: _ => some (1, 2)
  | '𖵣' :: '𖵧' :: '𖵧' :: _ => some (1, 2)
  | '𖵣' :: '𖵧' :: _ => some (1, 1)
  | '𖵣' :: '𖵨' :: _ => some (1, 1)
  | '𖵧' :: '𖵧' :: _ => some (1, 1)
  | '𖵩' :: '𖵧' :: _ => some (1, 1)
  | c :: rest =>
    if isLam c then
      let marks := rest.takeWhile isZero
      if ((rest.drop marks.length).head?).any isAlef then some (1, marks.length + 1)
      else none
    else match rest with
      | d :: after =>
        if c = '\u17d2' && isSubscriptable d then some (0, 1)
        else if isTifinagh c && (d = '\u2d7f' || d = '\u200d') &&
            (after.head?).any isTifinagh then some (1, 2)
        else if 0xA4F8 ≤ c.toNat && c.toNat ≤ 0xA4FB &&
            0xA4FC ≤ d.toNat && d.toNat ≤ 0xA4FD then some (1, 1)
        else none
      | [] => none
  | [] => none

/-- The unit that starts with `c`: its columns, and how many characters of the
rest belong to it. -/
def unit (c : Char) (rest : List Char) : Nat × Nat :=
  match ligature (c :: rest) with
  | some glyph => glyph
  | none =>
    match emojiLength (c :: rest) with
    | some n => (2, n - 1 + joinedLength (rest.drop (n - 1)))
    | none =>
      if inRanges textRanges c && rest.head? == some '\ufe0e' then (1, 1)
      else (charWidth c, 0)

end Width

/-- The columns that a text takes. -/
def width (text : List Char) : Nat :=
  match text with
  | [] => 0
  | c :: rest =>
    let unit := Width.unit c rest
    unit.1 + width (rest.drop unit.2)
termination_by text.length
decreasing_by simp only [List.length_drop, List.length_cons]; omega

end TitleFormatting.Text
