import StagedRuns.Text.Shown

/-!
Texts quoted inside a message: between double quotes, with a backslash before a quote or a
backslash, short escapes for the common controls, and the code point in braces for every other
character that has no shape of its own.
-/

namespace StagedRuns.Text

def quotedChar (c : Char) : List Char :=
  match c with
  | '"' => ['\\', '"']
  | '\\' => ['\\', '\\']
  | '\n' => ['\\', 'n']
  | '\t' => ['\\', 't']
  | '\r' => ['\\', 'r']
  | '\x00' => ['\\', '0']
  | c => if isShown c then [c] else ['\\', 'u', '{'] ++ Nat.toDigits 16 c.toNat ++ ['}']

def quoted (text : String) : String :=
  String.ofList ('"' :: text.toList.flatMap quotedChar ++ ['"'])

end StagedRuns.Text
