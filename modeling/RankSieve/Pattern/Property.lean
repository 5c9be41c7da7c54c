import RankSieve.Pattern.CharSet

/-!
# `RankSieve.Pattern.Property` — sets by the name of a property

A pattern names a property by a general category, a script or a binary property. Names are compared
loosely: case, spaces, underscores, hyphens and a leading `is` do not count.
-/

namespace RankSieve.CharSet

/-- Whether a name begins with `is` in either case. -/
def saysIs : Text → Bool
  | a :: b :: _ => (a == 'i' || a == 'I') && (b == 's' || b == 'S')
  | _           => false

/-- What counts in a name: its ASCII characters in lower case, without spaces, underscores, hyphens
    and a leading `is`. The abbreviation `isc` stays whole, since it would leave the name of a
    category. -/
def plainName (name : Text) : Text :=
  let kept := (if saysIs name then name.drop 2 else name).filter fun c =>
    c.toNat < 0x80 && c != ' ' && c != '_' && c != '-'
  let plain := kept.map Char.toLower
  if saysIs name && plain == ['c'] then ['i', 's', 'c'] else plain

/-- The general categories: the names of each and the codes that it takes in. -/
def categoryNames : List (List String × List String) := [
  (["C", "Other"], ["Cc", "Cf", "Cn", "Co"]),
  (["Cc", "Control", "cntrl"], ["Cc"]),
  (["Cf", "Format"], ["Cf"]),
  (["Cn", "Unassigned"], ["Cn"]),
  (["Co", "Private_Use"], ["Co"]),
  (["L", "Letter"], ["Lu", "Ll", "Lt", "Lm", "Lo"]),
  (["LC", "Cased_Letter"], ["Lu", "Ll", "Lt"]),
  (["Ll", "Lowercase_Letter"], ["Ll"]),
  (["Lm", "Modifier_Letter"], ["Lm"]),
  (["Lo", "Other_Letter"], ["Lo"]),
  (["Lt", "Titlecase_Letter"], ["Lt"]),
  (["Lu", "Uppercase_Letter"], ["Lu"]),
  (["M", "Mark", "Combining_Mark"], ["Mn", "Mc", "Me"]),
  (["Mc", "Spacing_Mark"], ["Mc"]),
  (["Me", "Enclosing_Mark"], ["Me"]),
  (["Mn", "Nonspacing_Mark"], ["Mn"]),
  (["N", "Number"], ["Nd", "Nl", "No"]),
  (["Nd", "Decimal_Number", "digit"], ["Nd"]),
  (["Nl", "Letter_Number"], ["Nl"]),
  (["No", "Other_Number"], ["No"]),
  (["P", "Punctuation", "punct"], ["Pc", "Pd", "Ps", "Pe", "Pi", "Pf", "Po"]),
  (["Pc", "Connector_Punctuation"], ["Pc"]),
  (["Pd", "Dash_Punctuation"], ["Pd"]),
  (["Pe", "Close_Punctuation"], ["Pe"]),
  (["Pf", "Final_Punctuation"], ["Pf"]),
  (["Pi", "Initial_Punctuation"], ["Pi"]),
  (["Po", "Other_Punctuation"], ["Po"]),
  (["Ps", "Open_Punctuation"], ["Ps"]),
  (["S", "Symbol"], ["Sm", "Sc", "Sk", "So"]),
  (["Sc", "Currency_Symbol"], ["Sc"]),
  (["Sk", "Modifier_Symbol"], ["Sk"]),
  (["Sm", "Math_Symbol"], ["Sm"]),
  (["So", "Other_Symbol"], ["So"]),
  (["Z", "Separator"], ["Zl", "Zp", "Zs"]),
  (["Zl", "Line_Separator"], ["Zl"]),
  (["Zp", "Paragraph_Separator"], ["Zp"]),
  (["Zs", "Space_Separator"], ["Zs"])]

/-- Whether one of some names reads as the given plain name. -/
def namesMatch (plain : Text) (names : List String) : Bool :=
  names.any fun name => plainName name.toList == plain

/-- The set of a general category, or of one of the three names that stand beside them. -/
def categoryNamed? (plain : Text) : Option CharSet :=
  if plain == "any".toList then some .all
  else if plain == "assigned".toList then some (.compl (.category ["Cn"]))
  else if plain == "ascii".toList then some (.range '\x00' '\x7F')
  else (categoryNames.find? fun entry => namesMatch plain entry.1).map fun entry => .category entry.2

/-- The set of a script. -/
def scriptNamed? (plain : Text) : Option CharSet :=
  (scriptNames.find? (namesMatch plain)).bind fun names =>
    names.head?.map fun code => .script code.toList

/-- The set of a binary property. -/
def binaryNamed? (plain : Text) : Option CharSet :=
  (binaryProperties.find? fun entry => namesMatch plain entry.1).map fun entry => .listed entry.2

/-- The set that a single name stands for. -/
def named? (name : Text) : Option CharSet :=
  let plain := plainName name
  binaryNamed? plain <|> categoryNamed? plain <|> scriptNamed? plain

/-- The set of a property by its name and value: categories and scripts. The extensions of a script are
    taken for the script. -/
def valued? (property value : Text) : Option CharSet :=
  let plain := plainName property
  if namesMatch plain ["gc", "General_Category"] then categoryNamed? (plainName value)
  else if namesMatch plain ["sc", "Script", "scx", "Script_Extensions"] then
    scriptNamed? (plainName value)
  else none

end RankSieve.CharSet
