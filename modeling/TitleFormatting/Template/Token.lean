import TitleFormatting.Template.SyntaxError
import TitleFormatting.Text.Alphanumeric

/-!
The tokens of a template source. Scanning reads a source character by
character and looks one character ahead, for a quote that follows a quote. It
ends at the end of the source or at the first place where no token can be
read; what was scanned before that place stays valid.
-/

namespace TitleFormatting

/-- A smallest unit of a template source. -/
inductive Token where
  /-- A character that stands for itself, unless an argument list gives it a
  meaning. -/
  | plain (character : Char)
  /-- Quoted text, or the single quote written `''`. -/
  | quoted (text : String)
  /-- A field reference with its name. -/
  | field (name : String)
  /-- A dollar sign, a function name and the parenthesis behind it. -/
  | openCall (name : String)
  | openBlock
  | closeBlock
deriving DecidableEq, Repr

/-- A token and the place of its first character. -/
structure PlacedToken where
  token : Token
  location : Location
deriving DecidableEq, Repr

namespace Token

/-- The characters of a well-formed field name. -/
def isFieldCharacter (c : Char) : Bool :=
  Text.isAlphanumeric c || c == ' ' || c == '@' || c == '_' || c == '-'

def isFunctionCharacter (c : Char) : Bool := c.isAlphanum || c == '_'

/-- What the scanner is in the middle of. Each state but the first knows where
its token began and holds the characters of its text so far, the last one
first. -/
inductive Mode where
  | outside
  | inQuotes (start : Location) (text : List Char)
  | inField (start : Location) (name : List Char) (invalid : Option Char)
  | inFunctionName (start : Location) (name : List Char)
deriving DecidableEq, Repr

/-- The text collected by the scanner. -/
def collected (characters : List Char) : String :=
  String.ofList characters.reverse

/-- The tokens that were read, and what ended the reading if it was not the
end of the source. -/
structure Scan where
  tokens : List PlacedToken
  fault : Option SyntaxError
deriving Repr

namespace Scan

/-- A scan that ends at once. -/
def done : Scan := ⟨[], none⟩

/-- A scan that fails at once. -/
def fail (fault : SyntaxFault) (location : Location) : Scan :=
  ⟨[], some ⟨fault, location⟩⟩

/-- The scan with one more token in front. -/
def cons (token : Token) (location : Location) (scan : Scan) : Scan :=
  ⟨⟨token, location⟩ :: scan.tokens, scan.fault⟩

end Scan

/-- Scan the rest of a source from the given place on. -/
def scanFrom : Mode → Location → List Char → Scan
  | .outside, _, [] => .done
  | .inQuotes start _, _, [] => .fail .unterminatedLiteral start
  | .inField start _ invalid, _, [] => .fail (.unterminatedVariable invalid) start
  | .inFunctionName start name, _, [] =>
    .fail (.unterminatedFunction (collected name)) start
  | .outside, here, '\'' :: '\'' :: rest =>
    (scanFrom .outside ((here.next '\'').next '\'') rest).cons (.quoted "'") here
  | .outside, here, c :: rest =>
    let after := here.next c
    if c = '\'' then scanFrom (.inQuotes here []) after rest
    else if c = '%' then scanFrom (.inField here [] none) after rest
    else if c = '$' then scanFrom (.inFunctionName here []) after rest
    else if c = '[' then (scanFrom .outside after rest).cons .openBlock here
    else if c = ']' then (scanFrom .outside after rest).cons .closeBlock here
    else (scanFrom .outside after rest).cons (.plain c) here
  | .inQuotes start text, here, '\'' :: '\'' :: rest =>
    scanFrom (.inQuotes start ('\'' :: text)) ((here.next '\'').next '\'') rest
  | .inQuotes start text, here, c :: rest =>
    let after := here.next c
    if c = '\'' then
      (scanFrom .outside after rest).cons (.quoted (collected text)) start
    else scanFrom (.inQuotes start (c :: text)) after rest
  | .inField start name invalid, here, c :: rest =>
    let after := here.next c
    if c = '%' then
      (scanFrom .outside after rest).cons (.field (collected name)) start
    else
      let invalid := invalid <|> if isFieldCharacter c then none else some c
      scanFrom (.inField start (c :: name) invalid) after rest
  | .inFunctionName start name, here, c :: rest =>
    let after := here.next c
    if c = '(' && !name.isEmpty then
      (scanFrom .outside after rest).cons (.openCall (collected name)) start
    else if isFunctionCharacter c then
      scanFrom (.inFunctionName start (c :: name)) after rest
    else .fail (.invalidFunctionName c) here

def scan (source : List Char) : Scan := scanFrom .outside .start source

end Token

end TitleFormatting
