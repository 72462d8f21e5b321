import RtcClient.Lib.Members

/-!
# JSON values

Values as `nlohmann::json` keeps them: signed and unsigned integers are told apart, a float is
given by its bits, and an object has its members by key.
-/

namespace RtcClient.Lib

/-- A JSON value. -/
inductive Json where
  | null
  | bool (b : Bool)
  | int (n : Int)
  | unsigned (n : Nat)
  | float (bits : UInt64)
  | str (s : String)
  | arr (elements : List Json)
  | obj (members : List (String × Json))
  deriving Repr

namespace Json

/-- `is_boolean()`. -/
def isBoolean : Json → Bool
  | bool _ => true
  | _ => false

/-- `is_string()`. -/
def isString : Json → Bool
  | str _ => true
  | _ => false

/-- A text with at least one character. -/
def isText : Json → Bool
  | str s => s != ""
  | _ => false

/-- `is_number_integer()`, true of both kinds of integers. -/
def isNumberInteger : Json → Bool
  | int _ => true
  | unsigned _ => true
  | _ => false

/-- `is_number_unsigned()`. -/
def isNumberUnsigned : Json → Bool
  | unsigned _ => true
  | _ => false

/-- `is_number()`. -/
def isNumber : Json → Bool
  | int _ => true
  | unsigned _ => true
  | float _ => true
  | _ => false

/-- The text of a string. -/
def toString? : Json → Option String
  | str s => some s
  | _ => none

end Json

end RtcClient.Lib
