/-
# Quoted text

The form in which a log writes a text so that it stays on one line and every character can be
told: in double quotes, with a backslash before quotes and backslashes, letters for the common
controls, and the number of every other character that does not show by itself.
-/
import NestedJoin.Text.Printable

namespace NestedJoin.Text

/-- A character as it stands between the quotes. -/
def quotedChar (c : Char) : Text :=
  match c with
  | '"' => ['\\', '"']
  | '\\' => ['\\', '\\']
  | '\n' => ['\\', 'n']
  | '\r' => ['\\', 'r']
  | '\t' => ['\\', 't']
  | '\x00' => ['\\', '0']
  | c =>
    if isHidden c then ['\\', 'u', '\x7b'] ++ Nat.toDigits 16 c.toNat ++ ['\x7d'] else [c]

/-- A text in quotes. -/
def quoted (t : Text) : Text := '"' :: (t.flatMap quotedChar ++ ['"'])

example : quoted "a\"b\n\u200b".toList = "\"a\\\"b\\n\\u\x7b200b\x7d\"".toList := by decide +kernel

end NestedJoin.Text
