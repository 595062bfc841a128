import TitleFormatting.Text.Blank
import TitleFormatting.Text.Casing
import TitleFormatting.Text.Grapheme
import TitleFormatting.Text.Utf8

/-!
Word-wise functions of text: capitals at the start of words, abbreviation to
initials, and leading articles.
-/

namespace TitleFormatting.Text

/-- A character after which a new word starts when capitals are set. -/
def separatesWords (c : Char) : Bool :=
  isBlank c || c == '(' || c == '[' || c == '\x7b' || c == '/' || c == '"'

/-- The clusters of a text with the first of each word in upper case. `rest`
is applied to the other clusters, and `wordStart` says whether the next
cluster starts a word. -/
def capitalizeClusters (rest : List Char → List Char) :
    Bool → List (List Char) → List Char
  | _, [] => []
  | wordStart, cluster :: clusters =>
    if cluster.all separatesWords then
      cluster ++ capitalizeClusters rest true clusters
    else if wordStart then
      upper cluster ++ capitalizeClusters rest false clusters
    else rest cluster ++ capitalizeClusters rest false clusters

/-- Words with a capital first and the rest in lower case. -/
def titleCase (text : List Char) : List Char :=
  capitalizeClusters lower true (graphemes text)

/-- Words with a capital first and the rest as it was. -/
def capitalizeInitials (text : List Char) : List Char :=
  capitalizeClusters id true (graphemes text)

/-- Brackets, which an abbreviation keeps. -/
def isBracket (c : Char) : Bool :=
  ['(', ')', '[', ']', '\x7b', '\x7d'].contains c

/-- Characters that separate words and that an abbreviation drops. -/
def isDropped (c : Char) : Bool :=
  isBlank c ||
    ['/', '\\', '.', ',', '_', ':', ';', '!', '?', '&', '+', '"'].contains c

/-- The brackets and the first character of each word. -/
def initialsFrom : Bool → List Char → List Char
  | _, [] => []
  | wordStart, c :: rest =>
    if isBracket c then c :: initialsFrom true rest
    else if isDropped c then initialsFrom true rest
    else if wordStart then c :: initialsFrom false rest
    else initialsFrom false rest

/-- The text abbreviated to the first characters of its words. -/
def initials (text : List Char) : List Char := initialsFrom true text

/-- The text split at the space behind an article: what stands before it,
which has the article's size and its letters in any case, and what follows. -/
def splitArticle (text article : List Char) :
    Except Fault (Option (List Char × List Char)) :=
  match splitAtBytes (utf8Length article) text with
  | none => .ok none
  | some (head, _) => do
    match ← textFrom (utf8Length article) text with
    | ' ' :: rest =>
      if !article.isEmpty && !rest.isEmpty && lower head == lower article then
        return some (head, rest)
      else return none
    | _ => return none

/-- The split at the first article of the list that the text starts with. -/
def splitLeadingArticle (text : List Char) :
    List (List Char) → Except Fault (Option (List Char × List Char))
  | [] => .ok none
  | article :: articles => do
    match ← splitArticle text article with
    | some parts => return some parts
    | none => splitLeadingArticle text articles

/-- The articles that are recognised when none are given. -/
def defaultArticles : List (List Char) := [['A'], ['T', 'h', 'e']]

/-- The text without a leading article. -/
def stripArticle (articles : List (List Char)) (text : List Char) :
    Except Fault (List Char) := do
  match ← splitLeadingArticle text articles with
  | some (_, rest) => return rest
  | none => return text

/-- The text with a leading article moved to the end, behind a comma. -/
def swapArticle (articles : List (List Char)) (text : List Char) :
    Except Fault (List Char) := do
  match ← splitLeadingArticle text articles with
  | some (head, rest) => return rest ++ [',', ' '] ++ head
  | none => return text

end TitleFormatting.Text
