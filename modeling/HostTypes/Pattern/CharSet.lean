import HostTypes.Text.Blank
import HostTypes.Text.Case
import HostTypes.Text.Category
import HostTypes.Text.Digit

/-!
Sets of characters, as patterns denote them, and the names by which patterns call some of them.

Of the properties of characters, the names are those of the general categories, of white space, and of
all characters, those assigned and those of ASCII. Left out are scripts and their extensions
(`\p{Greek}`, `\p{Script=Greek}`), ages, the classes of text segmentation, and the other properties
that hold or do not (`\p{Alphabetic}`, `\p{Emoji}`): a pattern that names one is refused here, although
engines that have the tables for it read it.
-/

namespace HostTypes

inductive CharSet where
  | nothing
  | range (first last : Char)
  /-- The characters of the listed general categories. -/
  | categories (names : List String)
  | blanks
  | wordChars
  | union (first second : CharSet)
  | inter (first second : CharSet)
  | complement (set : CharSet)
  /-- A set with all case variants of its members. -/
  | folded (set : CharSet)
  deriving DecidableEq, Repr

/-- Letters that count as such although their category is a symbol: those in circles and squares. -/
def isEnclosedLetter (c : Char) : Bool :=
  let code := c.toNat
  (0x24B6 ≤ code && code ≤ 0x24E9) || (0x1F130 ≤ code && code ≤ 0x1F149) ||
    (0x1F150 ≤ code && code ≤ 0x1F169) || (0x1F170 ≤ code && code ≤ 0x1F189)

/-- The categories whose characters are parts of words. -/
def wordCategories : List String :=
  ["Lu", "Ll", "Lt", "Lm", "Lo", "Nl", "Mn", "Mc", "Me", "Nd", "Pc"]

/-- Characters of which words consist: letters, marks, decimal digits, connectors, and the two
invisible joiners. -/
def isWordChar (c : Char) : Bool :=
  if c.toNat < 0x80 then c.isAlphanum || c == '_'
  else
    wordCategories.contains (generalCategory c) || c == '\u200C' || c == '\u200D' ||
      isEnclosedLetter c

namespace CharSet

def contains : CharSet → Char → Bool
  | nothing, _ => false
  | range first last, c => decide (first ≤ c) && decide (c ≤ last)
  | categories names, c => names.contains (generalCategory c)
  | blanks, c => isBlank c
  | wordChars, c => isWordChar c
  | union first second, c => first.contains c || second.contains c
  | inter first second, c => first.contains c && second.contains c
  | complement set, c => !set.contains c
  | folded set, c => (caseVariants c).any fun variant => set.contains variant

/-- A test for sets without members outside ASCII. It may miss some, but holds of no other set. -/
def isAscii : CharSet → Bool
  | nothing => true
  | range _ last => last.toNat < 0x80
  | union first second => first.isAscii && second.isAscii
  | inter first second => first.isAscii || second.isAscii
  | categories _ | blanks | wordChars | complement _ | folded _ => false

def single (c : Char) : CharSet :=
  range c c

def everything : CharSet :=
  complement nothing

def ascii : CharSet :=
  range '\x00' '\x7f'

def ofList (sets : List CharSet) : CharSet :=
  sets.foldl union nothing

def difference (first second : CharSet) : CharSet :=
  inter first (complement second)

def symmetricDifference (first second : CharSet) : CharSet :=
  union (difference first second) (difference second first)

def negatedIf (negated : Bool) (set : CharSet) : CharSet :=
  if negated then complement set else set

/-! ## Named sets -/

def lowerLetters : CharSet := range 'a' 'z'
def upperLetters : CharSet := range 'A' 'Z'
def asciiLetters : CharSet := union upperLetters lowerLetters
def asciiDigits : CharSet := range '0' '9'
def asciiAlphanumerics : CharSet := union asciiDigits asciiLetters
def asciiWordChars : CharSet := union asciiAlphanumerics (single '_')
def visibleAscii : CharSet := range '!' '~'

/-- The sets that bracket expressions know by the names of the classical character classes. -/
def asciiClass? : String → Option CharSet
  | "alnum" => some asciiAlphanumerics
  | "alpha" => some asciiLetters
  | "ascii" => some ascii
  | "blank" => some (union (single '\t') (single ' '))
  | "cntrl" => some (union (range '\x00' '\x1f') (single '\x7f'))
  | "digit" => some asciiDigits
  | "graph" => some visibleAscii
  | "lower" => some lowerLetters
  | "print" => some (range ' ' '~')
  | "punct" => some (difference visibleAscii asciiAlphanumerics)
  | "space" => some (union (range '\t' '\r') (single ' '))
  | "upper" => some upperLetters
  | "word" => some asciiWordChars
  | "xdigit" => some (ofList [asciiDigits, range 'A' 'F', range 'a' 'f'])
  | _ => none

/-- The general categories and their groups: every row has the categories of a group and then the
names of the group, as they are once normalised. -/
def categoryNames : List (List String × List String) :=
  [(["Lu", "Ll", "Lt", "Lm", "Lo"], ["l", "letter"]),
    (["Lu", "Ll", "Lt"], ["lc", "casedletter"]),
    (["Lu"], ["lu", "uppercaseletter"]),
    (["Ll"], ["ll", "lowercaseletter"]),
    (["Lt"], ["lt", "titlecaseletter"]),
    (["Lm"], ["lm", "modifierletter"]),
    (["Lo"], ["lo", "otherletter"]),
    (["Mn", "Mc", "Me"], ["m", "mark", "combiningmark"]),
    (["Mn"], ["mn", "nonspacingmark"]),
    (["Mc"], ["mc", "spacingmark"]),
    (["Me"], ["me", "enclosingmark"]),
    (["Nd", "Nl", "No"], ["n", "number"]),
    (["Nd"], ["nd", "decimalnumber", "digit"]),
    (["Nl"], ["nl", "letternumber"]),
    (["No"], ["no", "othernumber"]),
    (["Pc", "Pd", "Ps", "Pe", "Pi", "Pf", "Po"], ["p", "punctuation", "punct"]),
    (["Pc"], ["pc", "connectorpunctuation"]),
    (["Pd"], ["pd", "dashpunctuation"]),
    (["Ps"], ["ps", "openpunctuation"]),
    (["Pe"], ["pe", "closepunctuation"]),
    (["Pi"], ["pi", "initialpunctuation"]),
    (["Pf"], ["pf", "finalpunctuation"]),
    (["Po"], ["po", "otherpunctuation"]),
    (["Sm", "Sc", "Sk", "So"], ["s", "symbol"]),
    (["Sm"], ["sm", "mathsymbol"]),
    (["Sc"], ["sc", "currencysymbol"]),
    (["Sk"], ["sk", "modifiersymbol"]),
    (["So"], ["so", "othersymbol"]),
    (["Zs", "Zl", "Zp"], ["z", "separator"]),
    (["Zs"], ["zs", "spaceseparator"]),
    (["Zl"], ["zl", "lineseparator"]),
    (["Zp"], ["zp", "paragraphseparator"]),
    (["Cc", "Cf", "Co", "Cn"], ["c", "other"]),
    (["Cc"], ["cc", "control", "cntrl"]),
    (["Cf"], ["cf", "format"]),
    (["Co"], ["co", "privateuse"]),
    (["Cn"], ["cn", "unassigned"])]

/-- A property name without case, blanks, dashes, underscores and characters outside ASCII, and
without a leading "is", unless that leaves the name of the category "c". -/
def normaliseName (name : List Char) : String :=
  let plain (letters : List Char) :=
    letters.filter fun c => !(c == ' ' || c == '_' || c == '-') && c.toNat < 0x80
  String.ofList <|
    match name.map Char.toLower with
    | 'i' :: 's' :: rest => if plain rest = ['c'] then ['i', 's', 'c'] else plain rest
    | letters => plain letters

def category? (name : String) : Option CharSet :=
  match name with
  | "any" => some everything
  | "assigned" => some (complement (categories ["Cn"]))
  | "ascii" => some ascii
  | _ => (categoryNames.find? fun row => row.2.contains name).map fun row => categories row.1

/-- The set of a property given by its name alone. Names of scripts and of other properties that
hold or do not are unknown. -/
def property? (name : List Char) : Option CharSet :=
  match normaliseName name with
  | "whitespace" | "space" | "wspace" => some blanks
  | plain => category? plain

/-- The set of a property given with a value: only the general category has values here, scripts and
ages have none. -/
def propertyWithValue? (name value : List Char) : Option CharSet :=
  match normaliseName name with
  | "generalcategory" | "gc" => category? (normaliseName value)
  | _ => none

end CharSet

end HostTypes
