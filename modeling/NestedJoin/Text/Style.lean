/-
# Styled text

A style is a sequence of terminal codes.  A text takes a style between the codes and a reset; where
the text holds a reset of its own, the style begins again after it.
-/
import NestedJoin.Text.Blank

namespace NestedJoin.Text

/-- The codes of a style, as they are written. -/
structure Style where
  codes : Text
  deriving DecidableEq, Repr

namespace Style

def dimmed : Style := ⟨"2".toList⟩
def red : Style := ⟨"31".toList⟩
def yellow : Style := ⟨"33".toList⟩
def magenta : Style := ⟨"35".toList⟩
def cyan : Style := ⟨"36".toList⟩
def white : Style := ⟨"37".toList⟩
def boldRed : Style := ⟨"1;31".toList⟩
def boldGreen : Style := ⟨"1;32".toList⟩
def boldCyan : Style := ⟨"1;36".toList⟩

end Style

/-- The sequence that begins a style. -/
def styleStart (style : Style) : Text := ['\x1b', '['] ++ style.codes ++ ['m']

/-- The sequence that ends every style. -/
def reset : Text := ['\x1b', '[', '0', 'm']

/-- A text in which the style begins again after every reset. -/
def resume (style : Style) : Text → Text
  | '\x1b' :: '[' :: '0' :: 'm' :: rest => reset ++ styleStart style ++ resume style rest
  | c :: rest => c :: resume style rest
  | [] => []

/-- A text in a style, where styles are shown. -/
def styled (shown : Bool) (style : Style) (t : Text) : Text :=
  if shown then styleStart style ++ resume style t ++ reset else t

end NestedJoin.Text
