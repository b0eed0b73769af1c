import RuleMatching.Text.Blank
import RuleMatching.Text.Numeral
import RuleMatching.Text.Pieces

/-!
Sets of named flags.  A flag set knows the names of some masks, and which of its 64 bits are set.
`display` writes it by the names of the masks that it contains, and `read?` takes names and numbers
apart again.
-/

set_option autoImplicit false
set_option relaxedAutoImplicit false

namespace RuleMatching

/-- A set of flags of some kind. -/
structure FlagSet where
  kind : String
  definitions : List (String × UInt64)
  bits : UInt64
  deriving DecidableEq, Repr

namespace FlagSet

/-- Two flag sets are the same set when they agree on the kind and on the bits. -/
def same (f g : FlagSet) : Bool := f.kind == g.kind && f.bits == g.bits

def contains (f : FlagSet) (mask : UInt64) : Bool := f.bits &&& mask == mask

/-- The mask that a name or a decimal number stands for; a defined name goes before a number. -/
def mask? (f : FlagSet) (name : String) : Option UInt64 :=
  match f.definitions.find? (fun d => d.1 == name) with
  | some d => some d.2
  | none => Numeral.word? name.toList

/-- The union of the masks that the parts stand for; no part may be blank. -/
def union? (f : FlagSet) : List (List Char) → Option UInt64
  | [] => some 0
  | p :: ps =>
      let part := Text.trim p
      if part.isEmpty then none
      else do
        let m ← f.mask? (String.ofList part)
        let rest ← f.union? ps
        some (m ||| rest)

/-- The union of the masks named in a text, separated by commas. -/
def read? (f : FlagSet) (text : String) : Option UInt64 := f.union? (Text.split ',' text.toList)

/-- The definitions with a bit to them whose bits are all set. -/
def present (f : FlagSet) : List (String × UInt64) :=
  f.definitions.filter fun d => d.2 != 0 && f.contains d.2

def names (f : FlagSet) : List String := f.present.map (·.1)

/-- The text of a flag set: the names of the contained masks; without any, the name for no bits if
there are none, and else the bits as a number. -/
def display (f : FlagSet) : String :=
  if f.names.isEmpty then
    match f.definitions.find? (fun d => d.2 == 0) with
    | some d => if f.bits == 0 then d.1 else Numeral.text f.bits.toNat
    | none => Numeral.text f.bits.toNat
  else Text.joinWith ", " f.names

end FlagSet

end RuleMatching
