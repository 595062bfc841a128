/-!
The catalog of functions: their names, how many arguments they take and the
family they are listed under.
-/

namespace TitleFormatting

inductive Builtin where
  | ifThen | if2 | if3 | ifEqual | ifGreater | ifLonger | select | add | sub
  | mul | div | mod | muldiv | min | max | greater | rand | and | or | not
  | xor | abbr | caps | caps2 | cut | left | right | insert | len | len2
  | longer | longest | shortest | lower | upper | num | pad | padRight
  | padCut | padCutRight | repeatText | replace | roman | rot13 | strchr
  | strrchr | strstr | strcmp | stricmp | substr | stripArticle | swapArticle
  | trim | fixEol | crlf | tab | codePoint | directory | directoryPath
  | filename | ext | ansi | ascii | crc32 | hex | progress | progress2
deriving DecidableEq, Repr

inductive Arity where
  | exact (count : Nat)
  | range (least most : Nat)
  | atLeast (count : Nat)
deriving DecidableEq, Repr

namespace Arity

def accepts (arity : Arity) (count : Nat) : Bool :=
  match arity with
  | exact n => count == n
  | range least most => least ≤ count && count ≤ most
  | atLeast n => n ≤ count

def text : Arity → String
  | exact n => n.repr
  | range least most => least.repr ++ "-" ++ most.repr
  | atLeast n => n.repr ++ "+"

end Arity

inductive Family where
  | control | arithmetic | boolean | string | path | encoding | misc
deriving DecidableEq, Repr

def Family.text : Family → String
  | control => "Control"
  | arithmetic => "Arithmetic"
  | boolean => "Boolean"
  | string => "String"
  | path => "Path"
  | encoding => "Encoding"
  | misc => "Misc"

/-- One row of the catalog. -/
structure CatalogEntry where
  name : String
  builtin : Builtin
  arity : Arity
  family : Family
deriving DecidableEq, Repr

namespace Catalog

/-- All functions. Control functions take any number of arguments here and
check it themselves, so that they can report broken syntax. -/
def entries : List CatalogEntry := [
  ⟨"if", .ifThen, .atLeast 0, .control⟩,
  ⟨"if2", .if2, .atLeast 0, .control⟩,
  ⟨"if3", .if3, .atLeast 0, .control⟩,
  ⟨"ifequal", .ifEqual, .atLeast 0, .control⟩,
  ⟨"ifgreater", .ifGreater, .atLeast 0, .control⟩,
  ⟨"iflonger", .ifLonger, .atLeast 0, .control⟩,
  ⟨"select", .select, .atLeast 0, .control⟩,
  ⟨"add", .add, .atLeast 0, .arithmetic⟩,
  ⟨"sub", .sub, .atLeast 0, .arithmetic⟩,
  ⟨"mul", .mul, .atLeast 0, .arithmetic⟩,
  ⟨"div", .div, .atLeast 0, .arithmetic⟩,
  ⟨"mod", .mod, .atLeast 0, .arithmetic⟩,
  ⟨"muldiv", .muldiv, .exact 3, .arithmetic⟩,
  ⟨"min", .min, .atLeast 0, .arithmetic⟩,
  ⟨"max", .max, .atLeast 0, .arithmetic⟩,
  ⟨"greater", .greater, .exact 2, .arithmetic⟩,
  ⟨"rand", .rand, .exact 0, .arithmetic⟩,
  ⟨"and", .and, .atLeast 0, .boolean⟩,
  ⟨"or", .or, .atLeast 0, .boolean⟩,
  ⟨"not", .not, .exact 1, .boolean⟩,
  ⟨"xor", .xor, .atLeast 0, .boolean⟩,
  ⟨"abbr", .abbr, .range 1 2, .string⟩,
  ⟨"caps", .caps, .exact 1, .string⟩,
  ⟨"caps2", .caps2, .exact 1, .string⟩,
  ⟨"cut", .cut, .exact 2, .string⟩,
  ⟨"left", .left, .exact 2, .string⟩,
  ⟨"right", .right, .exact 2, .string⟩,
  ⟨"insert", .insert, .exact 3, .string⟩,
  ⟨"len", .len, .exact 1, .string⟩,
  ⟨"len2", .len2, .exact 1, .string⟩,
  ⟨"longer", .longer, .exact 2, .string⟩,
  ⟨"longest", .longest, .atLeast 1, .string⟩,
  ⟨"shortest", .shortest, .atLeast 1, .string⟩,
  ⟨"lower", .lower, .exact 1, .string⟩,
  ⟨"upper", .upper, .exact 1, .string⟩,
  ⟨"num", .num, .exact 2, .string⟩,
  ⟨"pad", .pad, .range 2 3, .string⟩,
  ⟨"pad_right", .padRight, .range 2 3, .string⟩,
  ⟨"padcut", .padCut, .exact 2, .string⟩,
  ⟨"padcut_right", .padCutRight, .exact 2, .string⟩,
  ⟨"repeat", .repeatText, .exact 2, .string⟩,
  ⟨"replace", .replace, .atLeast 3, .string⟩,
  ⟨"roman", .roman, .exact 1, .string⟩,
  ⟨"rot13", .rot13, .exact 1, .string⟩,
  ⟨"strchr", .strchr, .exact 2, .string⟩,
  ⟨"strrchr", .strrchr, .exact 2, .string⟩,
  ⟨"strstr", .strstr, .exact 2, .string⟩,
  ⟨"strcmp", .strcmp, .exact 2, .string⟩,
  ⟨"stricmp", .stricmp, .exact 2, .string⟩,
  ⟨"substr", .substr, .exact 3, .string⟩,
  ⟨"stripprefix", .stripArticle, .atLeast 1, .string⟩,
  ⟨"swapprefix", .swapArticle, .atLeast 1, .string⟩,
  ⟨"trim", .trim, .exact 1, .string⟩,
  ⟨"fix_eol", .fixEol, .range 1 2, .string⟩,
  ⟨"crlf", .crlf, .exact 0, .string⟩,
  ⟨"tab", .tab, .range 0 1, .string⟩,
  ⟨"char", .codePoint, .exact 1, .string⟩,
  ⟨"directory", .directory, .range 1 2, .path⟩,
  ⟨"directory_path", .directoryPath, .exact 1, .path⟩,
  ⟨"filename", .filename, .exact 1, .path⟩,
  ⟨"ext", .ext, .exact 1, .path⟩,
  ⟨"ansi", .ansi, .exact 1, .encoding⟩,
  ⟨"ascii", .ascii, .exact 1, .encoding⟩,
  ⟨"crc32", .crc32, .exact 1, .misc⟩,
  ⟨"hex", .hex, .range 1 2, .misc⟩,
  ⟨"progress", .progress, .exact 5, .misc⟩,
  ⟨"progress2", .progress2, .exact 5, .misc⟩]

/-- A function name in the spelling of the catalog. -/
def canonicalName (name : String) : String := name.map Char.toLower

/-- The entry for a call: one for exactly this number of arguments or else one
that accepts it. Names are the same in any case. -/
def find? (name : String) (count : Nat) : Option CatalogEntry :=
  let named := entries.filter (·.name == canonicalName name)
  (named.find? (·.arity == .exact count)) <|> (named.find? (·.arity.accepts count))

/-- Some function has this name, whatever its arity. -/
def isKnown (name : String) : Bool := entries.any (·.name == canonicalName name)

/-- All function names, in the order of the catalog. -/
def names : List String := entries.map CatalogEntry.name

end Catalog

end TitleFormatting
