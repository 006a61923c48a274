import FieldGuard.Unicode.Property

/-!
# Trimming and searching text

Blanks are the white space of all scripts. Searching compares character by character.
-/

namespace FieldGuard.Text

/-- Whether a character is white space. -/
def isBlank (c : Char) : Bool :=
  Unicode.Property.whiteSpace.contains c

/-- The characters without the blanks at both ends. -/
def trimBlanks (text : List Char) : List Char :=
  ((text.dropWhile isBlank).reverse.dropWhile isBlank).reverse

/-- Whether `part` stands somewhere in `text`. -/
def hasPart (part : List Char) : List Char → Bool
  | [] => part.isEmpty
  | c :: rest => part.isPrefixOf (c :: rest) || hasPart part rest

/-- Whether the text contains the part. -/
def contains (text part : String) : Bool :=
  hasPart part.toList text.toList

/-- Whether the text, without blanks around it, starts with the part. -/
def startsWith (text part : String) : Bool :=
  part.toList.isPrefixOf (trimBlanks text.toList)

/-- Whether the text, without blanks around it, ends with the part. -/
def endsWith (text part : String) : Bool :=
  part.toList.isSuffixOf (trimBlanks text.toList)

end FieldGuard.Text
