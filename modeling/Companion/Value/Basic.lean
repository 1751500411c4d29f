import Companion.Text.Quoted
import Companion.Value.Binary64

/-!
# Values

The values that configuration files hold. The members of an object keep their order and have
distinct names.
-/

set_option autoImplicit false

namespace Companion

inductive Value where
  | null
  | boolean (value : Bool)
  | integer (value : Int)
  | decimal (value : Binary64)
  | string (text : Text)
  | array (items : List Value)
  | object (members : List (Text × Value))
deriving Repr, Inhabited

namespace Value

def member? (members : List (Text × Value)) (name : Text) : Option Value := members.lookup name

/-- Sets a member, in place if there is one of the name. -/
def setMember (name : Text) (value : Value) : List (Text × Value) → List (Text × Value)
  | [] => [(name, value)]
  | (other, old) :: rest =>
    if other = name then (name, value) :: rest else (other, old) :: setMember name value rest

/-- Whether a value counts as yes: nothing, no, zero and whatever is empty count as no. -/
def isTruthy : Value → Bool
  | null => false
  | boolean value => value
  | integer value => value ≠ 0
  | decimal value => !value.isZero
  | string text => !text.isEmpty
  | array items => !items.isEmpty
  | object members => !members.isEmpty

def text? : Value → Option Text
  | string text => some text
  | _ => none

/-- The parts of a value that has parts: the items of an array, the characters of a string, the
names of an object. -/
def parts? : Value → Option (List Value)
  | array items => some items
  | string text => some (text.map fun c => string [c])
  | object members => some (members.map fun member => string member.1)
  | _ => none

/-- Whether a value can be a key: arrays and objects cannot. -/
def isKey : Value → Bool
  | array _ => false
  | object _ => false
  | _ => true

mutual

/-- Whether two values are the same, members in the same order. -/
def same : Value → Value → Bool
  | null, null => true
  | boolean left, boolean right => left = right
  | integer left, integer right => left = right
  | decimal left, decimal right => left = right
  | string left, string right => left = right
  | array left, array right => sameItems left right
  | object left, object right => sameMembers left right
  | _, _ => false

def sameItems : List Value → List Value → Bool
  | [], [] => true
  | left :: lefts, right :: rights => same left right && sameItems lefts rights
  | _, _ => false

def sameMembers : List (Text × Value) → List (Text × Value) → Bool
  | [], [] => true
  | left :: lefts, right :: rights => sameMember left right && sameMembers lefts rights
  | _, _ => false

def sameMember : Text × Value → Text × Value → Bool
  | (leftName, left), (rightName, right) => leftName = rightName && same left right

end

instance : BEq Value := ⟨same⟩

mutual

/-- A value as messages show it, texts between quotes. -/
def quoted : Value → Text
  | null => "None"
  | boolean value => if value then "True" else "False"
  | integer value => (toString value).toList
  | decimal value => value.render
  | string text => text.quoted
  | array items => "[" ++ Text.join ", ".toList (quotedItems items) ++ "]"
  | object members => "\x7b" ++ Text.join ", ".toList (quotedMembers members) ++ "\x7d"

def quotedItems : List Value → List Text
  | [] => []
  | item :: rest => quoted item :: quotedItems rest

def quotedMembers : List (Text × Value) → List Text
  | [] => []
  | member :: rest => quotedMember member :: quotedMembers rest

def quotedMember : Text × Value → Text
  | (name, value) => name.quoted ++ ": " ++ quoted value

end

/-- A value as a command line shows it: texts as they are. -/
def display : Value → Text
  | string text => text
  | value => value.quoted

end Value

end Companion
