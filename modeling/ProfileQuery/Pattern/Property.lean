import ProfileQuery.Unicode.Age
import ProfileQuery.Unicode.GraphemeBreak
import ProfileQuery.Unicode.Letter
import ProfileQuery.Unicode.Script
import ProfileQuery.Unicode.ScriptExtension
import ProfileQuery.Unicode.SentenceBreak
import ProfileQuery.Unicode.WordBreak

/-!
# Character properties by name

The sets that patterns name by a Unicode property, as in `\p{Greek}` or `\p{gc=Lu}`, and the sets of
ASCII characters that they name as in `[:alpha:]`.
-/

namespace ProfileQuery.Unicode

/-- The folded form of a name: small letters without blanks, hyphens and underscores, and without a
leading `is`. -/
def foldName (name : List Char) : String :=
  let stripped : List Char := match name with
    | first :: second :: rest =>
      if first.toLower = 'i' ∧ second.toLower = 's' then rest else name
    | _ => name
  let kept := fun (c : Char) => c.toNat < 128 && c != ' ' && c != '_' && c != '-'
  let folded : List Char := (stripped.filter kept).map Char.toLower
  if folded = ['c'] ∧ stripped ≠ name then "isc" else String.ofList folded

/-- The categories that have parts, with the names of their parts. -/
def categoryGroups : List (List String × List String) := [
  (["c", "other"], ["cc", "cf", "cn", "co"]),
  (["l", "letter"], ["ll", "lm", "lo", "lt", "lu"]),
  (["lc", "casedletter"], ["ll", "lt", "lu"]),
  (["m", "mark", "combiningmark"], ["mc", "me", "mn"]),
  (["n", "number"], ["nd", "nl", "no"]),
  (["p", "punctuation", "punct"], ["pc", "pd", "pe", "pf", "pi", "po", "ps"]),
  (["s", "symbol"], ["sc", "sk", "sm", "so"]),
  (["z", "separator"], ["zl", "zp", "zs"])]

namespace CodeSet

/-- The set of a general category. -/
def category? (name : String) : Option CodeSet :=
  if name = "any" then some all
  else if name = "assigned" then some (namedSet categories "cn").compl
  else if name = "ascii" then some (range '\x00' '\x7F')
  else
    match categoryGroups.find? (·.1.contains name) with
    | some (_, parts) => some (unionAll (parts.map (namedSet categories)))
    | none => findSet? categories name

/-- The set of a script. -/
def script? (name : String) : Option CodeSet :=
  findSet? scripts name

/-- The set of the characters that are used in a script. -/
def scriptExtension? (name : String) : Option CodeSet :=
  match scripts.find? (·.1.contains name) with
  | none => none
  | some (names, set) =>
    some (((scriptExtensions.find? fun e => e.1.any names.contains).map (·.2)).getD set)

/-- The set of the characters that are as old as a version of the standard. -/
def age? (name : String) : Option CodeSet :=
  (ages.findIdx? (·.1.contains name)).map fun i => unionAll ((ages.take (i + 1)).map (·.2))

/-- The set of a property without a value: a binary property, a general category or a script. -/
def property? (name : List Char) : Option CodeSet :=
  let name := foldName name
  (findSet? properties name).or ((category? name).or (script? name))

/-- The set of a property with a value. -/
def propertyValue? (name value : List Char) : Option CodeSet :=
  let value := foldName value
  match foldName name with
  | "gc" | "generalcategory" => category? value
  | "sc" | "script" => script? value
  | "scx" | "scriptextensions" => scriptExtension? value
  | "age" => age? value
  | "gcb" | "graphemeclusterbreak" => findSet? graphemeBreaks value
  | "wb" | "wordbreak" => findSet? wordBreaks value
  | "sb" | "sentencebreak" => findSet? sentenceBreaks value
  | _ => none

/-! ## Characters of ASCII -/

/-- The letters of ASCII, large and small. -/
def asciiLetters : CodeSet := (range 'A' 'Z').union (range 'a' 'z')

/-- The letters and the digits of ASCII. -/
def asciiAlnum : CodeSet := (range '0' '9').union asciiLetters

/-- The characters of ASCII that words are made of. -/
def asciiWord : CodeSet := asciiAlnum.union (ofChars ['_'])

/-- The blanks of ASCII. -/
def asciiSpace : CodeSet := ofChars ['\t', '\n', '\x0B', '\x0C', '\r', ' ']

/-- The set of ASCII characters with the given name. -/
def ascii? (name : String) : Option CodeSet :=
  match name with
  | "alnum" => some asciiAlnum
  | "alpha" => some asciiLetters
  | "ascii" => some (range '\x00' '\x7F')
  | "blank" => some (ofChars ['\t', ' '])
  | "cntrl" => some ((range '\x00' '\x1F').union (ofChars ['\x7F']))
  | "digit" => some (range '0' '9')
  | "graph" => some (range '!' '~')
  | "lower" => some (range 'a' 'z')
  | "print" => some (range ' ' '~')
  | "punct" => some ((range '!' '~').diff asciiAlnum)
  | "space" => some asciiSpace
  | "upper" => some (range 'A' 'Z')
  | "word" => some asciiWord
  | "xdigit" => some ((range '0' '9').union ((range 'A' 'F').union (range 'a' 'f')))
  | _ => none

end CodeSet

end ProfileQuery.Unicode
