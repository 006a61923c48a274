import FieldGuard.Unicode.Property
import FieldGuard.Unicode.Script
import FieldGuard.Unicode.Segment
import FieldGuard.Unicode.Version

/-!
# Sets of characters by name

Names of properties, categories and scripts are read loosely: without regard to
case, blanks, hyphens, underscores and a leading `is`. A name alone is a binary
property, else a category, else a script. A name with a value is a category, a script
or the characters used in a script.
-/

namespace FieldGuard.Unicode

/-- The letters of a loosely written name: lower case, ASCII only, without the
separators. -/
def looseLetters (name : List Char) : List Char :=
  (name.filter fun c => c.toNat ≤ 0x7F && c != ' ' && c != '_' && c != '-').map Char.toLower

/-- A loosely written name in its one normal form. A leading `is` is dropped, but `isc`
is a name of its own. -/
def normalName (name : List Char) : String :=
  match name with
  | i :: s :: rest =>
    if i.toLower = 'i' && s.toLower = 's' then
      let letters := looseLetters rest
      if letters = ['c'] then "isc" else String.ofList letters
    else String.ofList (looseLetters name)
  | _ => String.ofList (looseLetters name)

/-- The set of a loosely written name. The names `cf`, `sc` and `lc` are categories
only. -/
def named? (name : List Char) : Option CharSet :=
  let name := normalName name
  let property := if ["cf", "sc", "lc"].contains name then none else Property.find? name
  property <|> Category.find? name <|> Script.find? name

/-- The set of the characters whose property of the given name has the given value. -/
def valued? (property value : List Char) : Option CharSet :=
  let value := normalName value
  match normalName property with
  | "gc" | "generalcategory" => Category.find? value
  | "sc" | "script" => Script.find? value
  | "scx" | "scriptextensions" => Script.extended? value
  | "age" => Version.find? value
  | "gcb" | "graphemeclusterbreak" => Segment.find? Segment.Grapheme.byName value
  | "wb" | "wordbreak" => Segment.find? Segment.Word.byName value
  | "sb" | "sentencebreak" => Segment.find? Segment.Sentence.byName value
  | _ => none

end FieldGuard.Unicode
