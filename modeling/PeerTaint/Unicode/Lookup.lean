import PeerTaint.Unicode.Age
import PeerTaint.Unicode.GraphemeBreak
import PeerTaint.Unicode.Property
import PeerTaint.Unicode.Script
import PeerTaint.Unicode.SentenceBreak
import PeerTaint.Unicode.WordBreak

/-!
Sets of characters by name.

Names are compared loosely: letter case, blanks, underscores, dashes and a leading `is` do not
count. A single name is that of a property, a general category or a script; otherwise a property is
named together with its value.
-/

namespace PeerTaint.Unicode

/-- What counts of a name. A letter `c` that is left of a name with a leading `is` keeps it, because
without it the name would be that of a category. -/
def looseName (name : String) : String :=
  let cs := name.toList
  let isPrefixed := (cs.take 2).map Char.toLower == ['i', 's']
  let kept := (if isPrefixed then cs.drop 2 else cs).filter fun c =>
    decide (c.toNat < 128) && c != ' ' && c != '_' && c != '-'
  let kept := kept.map Char.toLower
  String.ofList (if isPrefixed && kept == ['c'] then ['i', 's', 'c'] else kept)

/-- Whether one of the names, which stand between blanks, is meant. -/
def isNamed (names : String) (name : String) : Bool :=
  (names.splitOn " ").any fun n => looseName n == name

/-- The names of the general categories, and what they comprise. -/
def categoryNames : List (String × List Category) :=
  [("C Other", Category.others), ("Cc Control cntrl", [.control]), ("Cf Format", [.format]),
    ("Cn Unassigned", [.unassigned]), ("Co Private_Use", [.privateUse]),
    ("L Letter", Category.letters),
    ("LC Cased_Letter", [.uppercaseLetter, .lowercaseLetter, .titlecaseLetter]),
    ("Ll Lowercase_Letter", [.lowercaseLetter]), ("Lm Modifier_Letter", [.modifierLetter]),
    ("Lo Other_Letter", [.otherLetter]), ("Lt Titlecase_Letter", [.titlecaseLetter]),
    ("Lu Uppercase_Letter", [.uppercaseLetter]), ("M Mark Combining_Mark", Category.marks),
    ("Mc Spacing_Mark", [.spacingMark]), ("Me Enclosing_Mark", [.enclosingMark]),
    ("Mn Nonspacing_Mark", [.nonspacingMark]), ("N Number", Category.numbers),
    ("Nd Decimal_Number digit", [.decimalNumber]), ("Nl Letter_Number", [.letterNumber]),
    ("No Other_Number", [.otherNumber]), ("P Punctuation punct", Category.punctuation),
    ("Pc Connector_Punctuation", [.connectorPunctuation]),
    ("Pd Dash_Punctuation", [.dashPunctuation]), ("Pe Close_Punctuation", [.closePunctuation]),
    ("Pf Final_Punctuation", [.finalPunctuation]),
    ("Pi Initial_Punctuation", [.initialPunctuation]),
    ("Po Other_Punctuation", [.otherPunctuation]), ("Ps Open_Punctuation", [.openPunctuation]),
    ("S Symbol", Category.symbols), ("Sc Currency_Symbol", [.currencySymbol]),
    ("Sk Modifier_Symbol", [.modifierSymbol]), ("Sm Math_Symbol", [.mathSymbol]),
    ("So Other_Symbol", [.otherSymbol]), ("Z Separator", Category.separators),
    ("Zl Line_Separator", [.lineSeparator]), ("Zp Paragraph_Separator", [.paragraphSeparator]),
    ("Zs Space_Separator", [.spaceSeparator])]

/-- The characters of a general category, of ASCII, of all categories, or of all that are assigned.
-/
def category? (name : String) : Option CharSet :=
  match name with
  | "any" => some .all
  | "assigned" => some (inCategories [.unassigned]).compl
  | "ascii" => some (.ofRanges [(0, 127)])
  | name => (categoryNames.find? fun c => isNamed c.1 name).map fun c => inCategories c.2

/-- The code of a value with a given name, where each list of names begins with a code. -/
def code? (names : List (List String)) (name : String) : Option String :=
  (names.find? fun ns => ns.any fun n => looseName n == name).bind (·.head?)

/-- The code of a script. -/
def scriptCode? (name : String) : Option String := code? Script.names name

/-- The characters whose label has a given name. -/
def labelled? (names : List (List String)) (runs : List Run) (name : String) : Option CharSet :=
  (code? names name).map fun code => labelled runs (· == code)

/-- The characters with a property. -/
def property? (name : String) : Option CharSet :=
  match Property.tables.find? fun t => isNamed t.1 name with
  | some t => some (readSet t.2)
  | none => (Property.derived.find? fun d => isNamed d.1 name).map (·.2)

/-- The characters that had appeared by a version, written `6.0` or `V6_0`. -/
def age? (name : String) : Option CharSet :=
  (Age.versions.find? fun v =>
    looseName v == name || (v.drop 1).toString.replace "_" "." == name).map Age.charsBy

/-- The characters that a single name stands for. -/
def named? (name : String) : Option CharSet :=
  let name := looseName name
  (property? name <|> category? name) <|> (scriptCode? name).map Script.chars

/-- The characters for which a property has a value. -/
def valued? (property value : String) : Option CharSet :=
  let value := looseName value
  match looseName property with
  | "gc" | "generalcategory" => category? value
  | "sc" | "script" => (scriptCode? value).map Script.chars
  | "scx" | "scriptextensions" => (scriptCode? value).map Script.extended
  | "age" => age? value
  | "gcb" | "graphemeclusterbreak" => labelled? GraphemeBreak.names GraphemeBreak.runs value
  | "wb" | "wordbreak" => labelled? WordBreak.names WordBreak.runs value
  | "sb" | "sentencebreak" => labelled? SentenceBreak.names SentenceBreak.runs value
  | _ => none

end PeerTaint.Unicode
