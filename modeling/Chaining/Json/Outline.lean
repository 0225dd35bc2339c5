import Chaining.Json.Basic
import Chaining.Json.Token

set_option autoImplicit false

namespace Chaining.Json

inductive Ending where
  | closed
  /-- `fault` is met by a reader, `skipped` by one that passes over the value. -/
  | stopped (fault skipped : Fault) (afterComma : Bool)
deriving DecidableEq

/-- The fault that keeps an ending from being passed over. -/
def Ending.skipFault? : Ending → Option Fault
  | .closed => none
  | .stopped _ skipped _ => some skipped

/-- The tree of values as far as a text can be read. Where the text stops being JSON, what is `broken`
or ends with a fault comes last of all. -/
inductive Outline where
  | null
  | boolean (value : Bool)
  | number (numeral : Numeral)
  /-- No content means a surrogate without its partner. -/
  | text (content : Option String)
  | array (items : List Outline) (ending : Ending)
  | object (members : List (Option String × Outline)) (ending : Ending)
  | broken (fault skipped : Fault)

/-- A text as a whole: its value, and whether anything follows that value. -/
structure Document where
  root : Outline
  trailing : Bool

namespace Outline

def malformed : Outline := broken .malformed .malformed

/-- A container around the place that is being read, with what it holds so far, the last first. -/
inductive Frame where
  | array (items : List Outline)
  | object (members : List (Option String × Outline))
  | member (members : List (Option String × Outline)) (name : Option String)

inductive Expected where
  | value
  | firstItem
  | nextItem
  | firstName
  | nextName
  | colon (name : Option String)
  | separator

inductive Step where
  | go (expected : Expected) (frames : List Frame)
  | root (value : Outline)
  | stop (value : Outline)

def finish (value : Outline) : List Frame → Step
  | [] => .root value
  | .array items :: frames => .go .separator (.array (value :: items) :: frames)
  | .object members :: frames => .go .separator (.object members :: frames)
  | .member members name :: frames => .go .separator (.object ((name, value) :: members) :: frames)

def unread : Ending := .stopped .malformed .malformed false

def enclose (value : Outline) : List Frame → Outline
  | [] => value
  | .array items :: frames => enclose (.array (value :: items).reverse unread) frames
  | .object members :: frames => enclose (.object members.reverse unread) frames
  | .member members name :: frames =>
    enclose (.object ((name, value) :: members).reverse unread) frames

def endWith (ending : Ending) : List Frame → Outline
  | [] => malformed
  | .array items :: frames => enclose (.array items.reverse ending) frames
  | .object members :: frames => enclose (.object members.reverse ending) frames
  | .member members name :: frames =>
    enclose (.object ((name, malformed) :: members).reverse unread) frames

def closeArray : List Frame → Step
  | .array items :: frames => finish (.array items.reverse .closed) frames
  | frames => .stop (enclose malformed frames)

def closeObject : List Frame → Step
  | .object members :: frames => finish (.object members.reverse .closed) frames
  | frames => .stop (enclose malformed frames)

def startValue (frames : List Frame) : Token → Step
  | .openArray => .go .firstItem (.array [] :: frames)
  | .openObject => .go .firstName (.object [] :: frames)
  | .null => finish .null frames
  | .boolean value => finish (.boolean value) frames
  | .number numeral => finish (.number numeral) frames
  | .text content => finish (.text content) frames
  | .broken _ fault skipped => .stop (enclose (.broken fault skipped) frames)
  | _ => .stop (enclose malformed frames)

def startName (afterComma : Bool) (frames : List Frame) : Token → Step
  | .text content => .go (.colon content) frames
  | .broken true fault skipped => .stop (endWith (.stopped fault skipped afterComma) frames)
  | _ => .stop (endWith (.stopped .malformed .malformed afterComma) frames)

def openMember (name : Option String) : List Frame → List Frame
  | .object members :: frames => .member members name :: frames
  | frames => frames

def step (frames : List Frame) : Expected → Token → Step
  | .firstItem, .closeArray => closeArray frames
  | .nextItem, .closeArray => .stop (endWith (.stopped .malformed .malformed true) frames)
  | .value, token => startValue frames token
  | .firstItem, token => startValue frames token
  | .nextItem, token => startValue frames token
  | .firstName, .closeObject => closeObject frames
  | .firstName, token => startName false frames token
  | .nextName, token => startName true frames token
  | .colon name, .colon => .go .value (openMember name frames)
  | .colon name, _ => .stop (enclose malformed (openMember name frames))
  | .separator, token =>
    match frames, token with
    | .array _ :: _, .comma => .go .nextItem frames
    | .array _ :: _, .closeArray => closeArray frames
    | .object _ :: _, .comma => .go .nextName frames
    | .object _ :: _, .closeObject => closeObject frames
    | frames, _ => .stop (endWith unread frames)

def stopAtEnd (frames : List Frame) : Expected → Outline
  | .value => enclose (.broken .ended .ended) frames
  | .firstItem => endWith (.stopped .ended .ended false) frames
  | .nextItem => endWith (.stopped .ended .ended true) frames
  | .firstName => endWith (.stopped .ended .ended false) frames
  | .nextName => endWith (.stopped .ended .ended true) frames
  | .colon name => enclose (.broken .ended .ended) (openMember name frames)
  | .separator => endWith (.stopped .ended .ended false) frames

def build (frames : List Frame) (expected : Expected) : List Token → Document
  | [] => ⟨stopAtEnd frames expected, false⟩
  | token :: rest =>
    match step frames expected token with
    | .go expected frames => build frames expected rest
    | .root value => ⟨value, !rest.isEmpty⟩
    | .stop value => ⟨value, false⟩

def read (text : String) : Document := build [] .value (Token.scan text.toList)

mutual

def ofJson : Json → Outline
  | .null => null
  | .boolean value => boolean value
  | .number numeral => number numeral
  | .text content => text (some content)
  | .array items => array (ofItems items) .closed
  | .object members => object (ofMembers members) .closed

def ofItems : List Json → List Outline
  | [] => []
  | item :: rest => ofJson item :: ofItems rest

def ofMembers : List (String × Json) → List (Option String × Outline)
  | [] => []
  | (name, value) :: rest => (some name, ofJson value) :: ofMembers rest

end

mutual

/-- The fault met when a value is passed over. Its size, its numbers and its surrogates do not
matter then. -/
def skipFault? : Outline → Option Fault
  | broken _ skipped => some skipped
  | array items ending => (skipItems? items).or ending.skipFault?
  | object members ending => (skipMembers? members).or ending.skipFault?
  | _ => none

def skipItems? : List Outline → Option Fault
  | [] => none
  | item :: rest => (skipFault? item).or (skipItems? rest)

def skipMembers? : List (Option String × Outline) → Option Fault
  | [] => none
  | (_, value) :: rest => (skipFault? value).or (skipMembers? rest)

end

end Outline

end Chaining.Json
