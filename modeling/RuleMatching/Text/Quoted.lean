import RuleMatching.Unicode.Later
import RuleMatching.Text.Numeral
import RuleMatching.Text.Pieces

/-!
Texts in quotation marks, as they stand inside messages.  Quotation marks, backslashes and what
does not show when printed are escaped, so a quoted text takes one line and can be told from its
neighbours.
-/

set_option autoImplicit false
set_option relaxedAutoImplicit false

namespace RuleMatching.Quoted

def escape (c : Char) : List Char :=
  if c = '\x00' then ['\\', '0']
  else if c = '\t' then ['\\', 't']
  else if c = '\r' then ['\\', 'r']
  else if c = '\n' then ['\\', 'n']
  else if c = '\\' then ['\\', '\\']
  else if c = '\x22' then ['\\', '\x22']
  else if Unicode.isAttached c.toNat || !Unicode.isPrintable c.toNat then
    "\\u\x7b".toList ++ (Numeral.hexText c.toNat).toList ++ ['\x7d']
  else [c]

def text (s : String) : String :=
  String.ofList ('\x22' :: s.toList.flatMap escape ++ ['\x22'])

def list (ss : List String) : String := "[" ++ Text.joinWith ", " (ss.map text) ++ "]"

def option : Option String → String
  | none => "None"
  | some s => "Some(" ++ text s ++ ")"

end RuleMatching.Quoted
