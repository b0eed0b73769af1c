import RuleMatching.Json
import RuleMatching.Binary64.Shortest

/-!
Writing a JSON document on one line without spaces.
-/

set_option autoImplicit false
set_option relaxedAutoImplicit false

namespace RuleMatching.Json

def escape (c : Char) : List Char :=
  if c = '\x22' then ['\\', '\x22']
  else if c = '\\' then ['\\', '\\']
  else if c = '\n' then ['\\', 'n']
  else if c = '\r' then ['\\', 'r']
  else if c = '\t' then ['\\', 't']
  else if c.toNat < 0x20 then "\\u".toList ++ (Numeral.fillTo 4 (Nat.toDigits 16 c.toNat))
  else [c]

def stringText (s : String) : String :=
  String.ofList ('\x22' :: s.toList.flatMap escape ++ ['\x22'])

mutual

def text : Json → String
  | null => "null"
  | bool b => if b then "true" else "false"
  | int i => Numeral.integerText i
  | float x => if x.isNaN || x.isInfinite then "null" else x.text
  | string s => stringText s
  | array items => "[" ++ Text.joinWith "," (itemTexts items) ++ "]"
  | object members => "\x7b" ++ Text.joinWith "," (memberTexts members) ++ "\x7d"

def itemTexts : List Json → List String
  | [] => []
  | j :: js => text j :: itemTexts js

def memberTexts : List (String × Json) → List String
  | [] => []
  | (k, j) :: ms => (stringText k ++ ":" ++ text j) :: memberTexts ms

end

end RuleMatching.Json
