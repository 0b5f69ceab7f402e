import ChromiumIos.Lib.Checked

/-!
# Reading JSON

Values are read from the code units of a string, either by a parser of JSON or as the
expressions of a script that have the form of JSON.  The two differ in what they make of
the members of an object.  A number is known by the literal it was written as.

A text is made of characters; how a character is encoded by units is left open, except
that an ASCII character is a unit of its own and no other character is encoded by such
units.
-/

namespace ChromiumIos.Lib

inductive JsValue where
  | null
  | boolean (value : Bool)
  | number (literal : List UInt16)
  | string (units : List UInt16)
  | array (elements : List JsValue)
  | object (prototype : Option JsValue) (properties : List (List UInt16 × JsValue))

namespace JsValue

/-- The value of a property; what is defined later wins. -/
def get (value : JsValue) (key : List UInt16) : Option JsValue :=
  match value with
  | object _ properties => properties.reverse.lookup key
  | _ => none

def isObjectOrNull : JsValue → Bool
  | null | array _ | object _ _ => true
  | _ => false

end JsValue

namespace Json

def unit (c : Char) : UInt16 := UInt16.ofNat c.toNat

variable (rest input : List UInt16) (u : UInt16)

def isSpace : Bool :=
  u = unit ' ' || u = unit '\t' || u = unit '\n' || u = unit '\r'

def skipSpace : List UInt16 := input.dropWhile isSpace

/-! ## Numbers -/

inductive NumberState where
  | start
  | minus
  | zero
  | integer
  | point
  | fraction
  | exponent
  | exponentSign
  | exponentDigits
deriving DecidableEq

namespace NumberState

def isDigit : Bool := unit '0' ≤ u && u ≤ unit '9'

def afterInteger : Option NumberState :=
  if u = unit '.' then some point
  else if u = unit 'e' ∨ u = unit 'E' then some exponent
  else none

def next : NumberState → UInt16 → Option NumberState
  | start, u =>
    if u = unit '-' then some minus
    else if u = unit '0' then some zero
    else if isDigit u then some integer
    else none
  | minus, u => if u = unit '0' then some zero else if isDigit u then some integer else none
  | zero, u => afterInteger u
  | integer, u => if isDigit u then some integer else afterInteger u
  | point, u => if isDigit u then some fraction else none
  | fraction, u =>
    if isDigit u then some fraction
    else if u = unit 'e' ∨ u = unit 'E' then some exponent
    else none
  | exponent, u =>
    if u = unit '+' ∨ u = unit '-' then some exponentSign
    else if isDigit u then some exponentDigits
    else none
  | exponentSign, u | exponentDigits, u => if isDigit u then some exponentDigits else none

def isAccepting : NumberState → Bool
  | zero | integer | fraction | exponentDigits => true
  | start | minus | point | exponent | exponentSign => false

/-- Read as much of a number as there is. -/
def scan : NumberState → List UInt16 → Option (List UInt16 × List UInt16)
  | state, [] => if state.isAccepting then some ([], []) else none
  | state, u :: rest =>
    match state.next u with
    | some state => (scan state rest).map fun (literal, rest) => (u :: literal, rest)
    | none => if state.isAccepting then some ([], u :: rest) else none

def accepts : NumberState → List UInt16 → Bool
  | state, [] => state.isAccepting
  | state, u :: rest => (state.next u).any fun state => state.accepts rest

end NumberState

/-! ## Strings -/

def hexValue : Option Nat :=
  if NumberState.isDigit u then some (u.toNat - '0'.toNat)
  else if unit 'A' ≤ u ∧ u ≤ unit 'F' then some (u.toNat - 'A'.toNat + 10)
  else if unit 'a' ≤ u ∧ u ≤ unit 'f' then some (u.toNat - 'a'.toNat + 10)
  else none

def hexUnit (a b c d : UInt16) : Option UInt16 := do
  let a ← hexValue a
  let b ← hexValue b
  let c ← hexValue c
  let d ← hexValue d
  return UInt16.ofNat (a * 4096 + b * 256 + c * 16 + d)

def simpleEscape : Option UInt16 :=
  if u = unit '"' ∨ u = unit '\\' ∨ u = unit '/' then some u
  else if u = unit 'b' then some 8
  else if u = unit 'f' then some 12
  else if u = unit 'n' then some 10
  else if u = unit 'r' then some 13
  else if u = unit 't' then some 9
  else none

def consUnit : List UInt16 × List UInt16 → List UInt16 × List UInt16
  | (units, rest) => (u :: units, rest)

def parseString : List UInt16 → Option (List UInt16 × List UInt16)
  | [] => none
  | u :: rest =>
    if u = unit '"' then some ([], rest)
    else if u = unit '\\' then
      match rest with
      | [] => none
      | escaped :: rest =>
        if escaped = unit 'u' then
          match rest with
          | a :: b :: c :: d :: rest =>
            (hexUnit a b c d).bind fun unit => (parseString rest).map (consUnit unit)
          | _ => none
        else (simpleEscape escaped).bind fun unit => (parseString rest).map (consUnit unit)
    else if u < 32 then none
    else (parseString rest).map (consUnit u)

theorem parseString_quote : parseString (unit '"' :: rest) = some ([], rest) := by
  simp [parseString.eq_def]

theorem parseString_cons {u : UInt16} (notQuote : u ≠ unit '"') (notBackslash : u ≠ unit '\\')
    (notControl : ¬ u < 32) (rest : List UInt16) :
    parseString (u :: rest) = (parseString rest).map (consUnit u) := by
  rw [parseString.eq_def]
  grind

theorem parseString_simple {escaped value : UInt16} (notHex : escaped ≠ unit 'u')
    (simple : simpleEscape escaped = some value) (rest : List UInt16) :
    parseString (unit '\\' :: escaped :: rest) = (parseString rest).map (consUnit value) := by
  grind [unit, parseString.eq_def]

theorem parseString_hex {a b c d value : UInt16} (hex : hexUnit a b c d = some value)
    (rest : List UInt16) :
    parseString (unit '\\' :: unit 'u' :: a :: b :: c :: d :: rest) =
      (parseString rest).map (consUnit value) := by
  simp [parseString, unit, hex]

/-! ## Values -/

section Items

variable {α : Type*}

/-- Items that are separated by commas, up to what closes them. -/
def parseMore (item : List UInt16 → Option (α × List UInt16)) (close : UInt16) :
    Nat → List UInt16 → Option (List α × List UInt16)
  | 0, _ => none
  | fuel + 1, input =>
    (item input).bind fun (first, rest) =>
      match skipSpace rest with
      | [] => none
      | u :: rest =>
        if u = close then some ([first], rest)
        else if u = unit ',' then
          (parseMore item close fuel (skipSpace rest)).map fun (more, rest) =>
            (first :: more, rest)
        else none

def parseItems (item : List UInt16 → Option (α × List UInt16)) (close : UInt16) (fuel : Nat)
    (input : List UInt16) : Option (List α × List UInt16) :=
  match input with
  | [] => none
  | u :: rest => if u = close then some ([], rest) else parseMore item close fuel input

def parseMember (value : List UInt16 → Option (α × List UInt16)) (input : List UInt16) :
    Option ((List UInt16 × α) × List UInt16) :=
  match input with
  | [] => none
  | u :: rest =>
    if u = unit '"' then
      (parseString rest).bind fun (key, rest) =>
        match skipSpace rest with
        | [] => none
        | u :: rest =>
          if u = unit ':' then
            (value (skipSpace rest)).map fun (value, rest) => ((key, value), rest)
          else none
    else none

end Items

def parseKeyword (keyword : List Char) (value : JsValue) (input : List UInt16) :
    Option (JsValue × List UInt16) :=
  if (keyword.map unit).isPrefixOf input then some (value, input.drop keyword.length) else none

/-- A value at the beginning of the input; `object` makes an object of its members. -/
def parseValue (object : List (List UInt16 × JsValue) → JsValue) :
    Nat → List UInt16 → Option (JsValue × List UInt16)
  | 0, _ => none
  | _, [] => none
  | fuel + 1, u :: rest =>
    if u = unit '"' then (parseString rest).map fun (units, rest) => (.string units, rest)
    else if u = unit '[' then
      (parseItems (parseValue object fuel) (unit ']') fuel (skipSpace rest)).map
        fun (elements, rest) => (.array elements, rest)
    else if u = unit '\x7b' then
      (parseItems (parseMember (parseValue object fuel)) (unit '\x7d') fuel
        (skipSpace rest)).map fun (members, rest) => (object members, rest)
    else if u = unit 'n' then parseKeyword ['u', 'l', 'l'] .null rest
    else if u = unit 't' then parseKeyword ['r', 'u', 'e'] (.boolean true) rest
    else if u = unit 'f' then parseKeyword ['a', 'l', 's', 'e'] (.boolean false) rest
    else
      (NumberState.start.scan (u :: rest)).map fun (literal, rest) => (.number literal, rest)

def parse : Option JsValue :=
  (parseValue (.object none) input.length (skipSpace input)).bind fun (value, rest) =>
    if skipSpace rest = [] then some value else none

/-- The name of the member that is no property in a script. -/
def protoKey : List UInt16 := ['_', '_', 'p', 'r', 'o', 't', 'o', '_', '_'].map unit

/-- The value of an object literal in a script: a member with the name of the prototype sets it,
if it is an object or null. -/
def objectLiteral (members : List (List UInt16 × JsValue)) : JsValue :=
  let prototypes := members.filter fun member => member.1 = protoKey && member.2.isObjectOrNull
  .object (prototypes.getLast?.map Prod.snd) (members.filter fun member => member.1 ≠ protoKey)

/-- The arguments of a call in a script, behind the opening parenthesis. -/
def evaluateArguments : Option (List JsValue) :=
  (parseItems (parseValue objectLiteral input.length) (unit ')') input.length
    (skipSpace input)).bind fun (values, rest) =>
      if skipSpace rest = [] then some values else none

end Json

end ChromiumIos.Lib
