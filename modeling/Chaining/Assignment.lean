import Chaining.Text.Blank
import Chaining.Value

set_option autoImplicit false

namespace Chaining.Assignment

inductive Failure where
  | noEquals (argument : String)
  | noName (argument : String)
  | badValue (name : String) (error : Json.ReadError)

def Failure.message : Failure → String
  | noEquals argument => "expected name=value, got '" ++ argument ++ "'"
  | noName argument => "missing fact name in '" ++ argument ++ "'"
  | badValue name error => "invalid value for '" ++ name ++ "': " ++ error.message

/-- A word that starts like a text, a list or an object is meant to be one. -/
def isBareWord : List Char → Bool
  | [] => false
  | first :: _ => first ≠ '"' && first ≠ '[' && first ≠ '\x7b'

/-- Reads an assignment. The name ends at the first equals sign, and white space around the name and
around the value does not belong to them. -/
def read (argument : String) : Except Failure (String × Value) :=
  let characters := argument.toList
  match characters.dropWhile (· ≠ '=') with
  | [] => .error (.noEquals argument)
  | _ :: written =>
    let name := String.ofList (Text.trimmed (characters.takeWhile (· ≠ '=')))
    if name.isEmpty then .error (.noName argument)
    else
      let word := Text.trimmed written
      match Value.ofText (String.ofList word) with
      | .ok value => .ok (name, value)
      | .error error =>
        if isBareWord word then .ok (name, .text (String.ofList word))
        else .error (.badValue name error)

end Chaining.Assignment
