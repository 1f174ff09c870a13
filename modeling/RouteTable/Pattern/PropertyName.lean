/-
The names of character properties. Names are compared without regard to case, spaces, hyphens and
underscores, and a leading `is` is ignored. The general categories are all here. The other properties have many
names and large tables, and nothing in the pattern language depends on which names there are; so the table of
them is a parameter of the language (`PropertyTable`). Where no other table is given, it is an excerpt with the
names that patterns use most (`PropertyTable.excerpt`).
-/
import RouteTable.Pattern.Expr
import RouteTable.Unicode.Property

namespace RouteTable.Pattern

open Unicode

/-- Drops a leading `is`, in either case. -/
def dropIs : List Char → Option (List Char)
  | a :: b :: cs => if a.toLower = 'i' && b.toLower = 's' then some cs else none
  | _ => none

/-- The letters of a name that tell it apart from others. The name `isc` belongs to a property of
its own and is no spelling of `c`. -/
def looseName (name : String) : String :=
  let significant (cs : List Char) : List Char :=
    (cs.filter fun c => c.toNat < 128 && c != ' ' && c != '_' && c != '-').map Char.toLower
  match dropIs name.toList with
  | none => String.ofList (significant name.toList)
  | some cs =>
    let rest := String.ofList (significant cs)
    if rest = "c" then "isc" else rest

/-- A general category or a group of them, by its loose name. -/
def categoryProperty? : String → Option Property
  | "any" => some .any
  | "ascii" => some .ascii
  | "assigned" => some .assigned
  | "c" | "other" => some .other
  | "cc" | "control" | "cntrl" => some (.category .Cc)
  | "cf" | "format" => some (.category .Cf)
  | "cn" | "unassigned" => some (.category .Cn)
  | "co" | "privateuse" => some (.category .Co)
  | "l" | "letter" => some .letter
  | "lc" | "casedletter" => some .casedLetter
  | "ll" | "lowercaseletter" => some (.category .Ll)
  | "lm" | "modifierletter" => some (.category .Lm)
  | "lo" | "otherletter" => some (.category .Lo)
  | "lt" | "titlecaseletter" => some (.category .Lt)
  | "lu" | "uppercaseletter" => some (.category .Lu)
  | "m" | "mark" | "combiningmark" => some .mark
  | "mc" | "spacingmark" => some (.category .Mc)
  | "me" | "enclosingmark" => some (.category .Me)
  | "mn" | "nonspacingmark" => some (.category .Mn)
  | "n" | "number" => some .number
  | "nd" | "decimalnumber" | "digit" => some (.category .Nd)
  | "nl" | "letternumber" => some (.category .Nl)
  | "no" | "othernumber" => some (.category .No)
  | "p" | "punctuation" | "punct" => some .punctuation
  | "pc" | "connectorpunctuation" => some (.category .Pc)
  | "pd" | "dashpunctuation" => some (.category .Pd)
  | "pe" | "closepunctuation" => some (.category .Pe)
  | "pf" | "finalpunctuation" => some (.category .Pf)
  | "pi" | "initialpunctuation" => some (.category .Pi)
  | "po" | "otherpunctuation" => some (.category .Po)
  | "ps" | "openpunctuation" => some (.category .Ps)
  | "s" | "symbol" => some .symbol
  | "sc" | "currencysymbol" => some (.category .Sc)
  | "sk" | "modifiersymbol" => some (.category .Sk)
  | "sm" | "mathsymbol" => some (.category .Sm)
  | "so" | "othersymbol" => some (.category .So)
  | "z" | "separator" => some .separator
  | "zl" | "lineseparator" => some (.category .Zl)
  | "zp" | "paragraphseparator" => some (.category .Zp)
  | "zs" | "spaceseparator" => some (.category .Zs)
  | _ => none

/-- The properties that have names besides the general categories, by their loose names. -/
class PropertyTable where
  /-- Properties that a character has or has not. -/
  binary : List (String × Property)
  scripts : List (String × Property)
  /-- The values of further properties, such as the age of characters. -/
  byValue : List (String × List (String × Property))
  /-- Names are made of letters and digits. -/
  named : ((binary ++ scripts).all fun entry => entry.1.toList.all Char.isAlphanum) = true

/-- An excerpt of the tables of the Unicode Standard: the binary properties and the scripts whose ranges this
library lists. A full table has many more names; those that are missing here are refused. -/
instance PropertyTable.excerpt : PropertyTable where
  binary := [("alphabetic", .alphabetic), ("alpha", .alphabetic), ("whitespace", .whiteSpace),
    ("wspace", .whiteSpace), ("space", .whiteSpace), ("joincontrol", .joinControl), ("joinc", .joinControl),
    ("graphemeextend", .graphemeExtend), ("grext", .graphemeExtend), ("lowercase", .lowercase),
    ("lower", .lowercase), ("uppercase", .uppercase), ("upper", .uppercase)]
  scripts := [("greek", .listed greekScript), ("grek", .listed greekScript), ("latin", .listed latinScript),
    ("latn", .listed latinScript), ("cyrillic", .listed cyrillicScript), ("cyrl", .listed cyrillicScript),
    ("han", .listed hanScript), ("hani", .listed hanScript)]
  byValue := []
  named := by decide +kernel

/-- The property that a name stands for. Three names of categories are also short names of other properties,
which they do not stand for here. -/
def PropertyName.property? [table : PropertyTable] : PropertyName → Option Property
  | single name =>
    let n := looseName name
    let binary? := if n = "cf" || n = "sc" || n = "lc" then none else table.binary.lookup n
    binary?.or ((categoryProperty? n).or (table.scripts.lookup n))
  | valued name value =>
    match looseName name with
    | "generalcategory" | "gc" => categoryProperty? (looseName value)
    | "script" | "sc" => table.scripts.lookup (looseName value)
    | n => (table.byValue.lookup n).bind (·.lookup (looseName value))

end RouteTable.Pattern
