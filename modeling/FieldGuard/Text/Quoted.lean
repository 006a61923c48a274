import FieldGuard.Text.Hex
import FieldGuard.Unicode.Property

/-!
# Quoted text

A text between double quotes, in which a quote, a backslash and whatever cannot be shown
by itself are escaped. A mark that joins the character before it does not show by itself.
-/

namespace FieldGuard.Text.Quoted

/-- The characters that a reader cannot see: separators, controls and unassigned ones. -/
def hidden : Unicode.CharSet :=
  Unicode.CharSet.unions [Unicode.Category.other, Unicode.Category.separator]

/-- Whether a character shows by itself. -/
def isShown (c : Char) : Bool :=
  c = ' ' || !hidden.contains c

/-- A character as it stands between quotes. -/
def escape (c : Char) : List Char :=
  match c with
  | '"' => ['\\', '"']
  | '\\' => ['\\', '\\']
  | '\n' => ['\\', 'n']
  | '\r' => ['\\', 'r']
  | '\t' => ['\\', 't']
  | '\x00' => ['\\', '0']
  | c =>
    if isShown c && !Unicode.Property.graphemeExtend.contains c then [c]
    else ['\\', 'u', '\x7b'] ++ (Hex.ofNat c.toNat).toList ++ ['\x7d']

/-- A text between quotes. -/
def encode (text : String) : String :=
  String.ofList ('"' :: text.toList.flatMap escape ++ ['"'])

end FieldGuard.Text.Quoted
