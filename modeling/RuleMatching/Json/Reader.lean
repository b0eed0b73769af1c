import RuleMatching.Json.Token

/-!
Reading a JSON text, token by token from left to right, with a stack of the arrays and objects that
are open.
-/

set_option autoImplicit false
set_option relaxedAutoImplicit false

namespace RuleMatching.Json

/-- An array or an object that is open, with what it holds so far, the last in front. -/
inductive Frame where
  | array (items : List Json)
  | object (members : List (String × Json)) (name : String)

/-- What a reader waits for. -/
inductive Reader where
  | wantsValue (stack : List Frame) (mayClose : Bool)
  | wantsName (stack : List Frame) (members : List (String × Json)) (mayClose : Bool)
  | wantsColon (stack : List Frame) (members : List (String × Json)) (name : String)
  | wantsComma (frame : Frame) (stack : List Frame)
  | done (value : Json)

namespace Reader

def settle (value : Json) : List Frame → Reader
  | [] => done value
  | .array items :: stack => wantsComma (.array (value :: items)) stack
  | .object members name :: stack => wantsComma (.object ((name, value) :: members) name) stack

/-- Takes in one token; no more than `depth` arrays and objects may be open. -/
def step (depth : Nat) : Reader → Token → Option Reader
  | wantsValue stack _, .value j => some (settle j stack)
  | wantsValue stack _, .openArray =>
      if stack.length < depth then some (wantsValue (.array [] :: stack) true) else none
  | wantsValue stack _, .openObject =>
      if stack.length < depth then some (wantsName stack [] true) else none
  | wantsValue (.array items :: stack) true, .closeArray =>
      some (settle (array items.reverse) stack)
  | wantsName stack members _, .value (string s) => some (wantsColon stack members s)
  | wantsName stack members true, .closeObject => some (settle (ofMembers members.reverse) stack)
  | wantsColon stack members name, .colon => some (wantsValue (.object members name :: stack) false)
  | wantsComma (.array items) stack, .comma => some (wantsValue (.array items :: stack) false)
  | wantsComma (.array items) stack, .closeArray => some (settle (array items.reverse) stack)
  | wantsComma (.object members _) stack, .comma => some (wantsName stack members false)
  | wantsComma (.object members _) stack, .closeObject =>
      some (settle (ofMembers members.reverse) stack)
  | _, _ => none

def run (depth : Nat) (r : Reader) : List Token → Option Reader
  | [] => some r
  | t :: ts => (r.step depth t).bind fun r => r.run depth ts

def finish? : Reader → Option Json
  | done value => some value
  | _ => none

end Reader

/-- How many arrays and objects may be open at once. -/
def maxDepth : Nat := 127

/-- Reads a text in which at most `depth` arrays and objects are open at once. -/
def readWithin? (depth : Nat) (s : String) : Option Json := do
  let ts ← tokens? s.toList
  let r ← (Reader.wantsValue [] false).run depth ts
  r.finish?

def read? (s : String) : Option Json := readWithin? maxDepth s

end RuleMatching.Json
