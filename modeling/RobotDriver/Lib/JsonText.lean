import Mathlib.Data.String.Basic
import RobotDriver.Lib.Rounding

/-!
# Decoding JSON texts

A decoder in the manner of Python's: it takes the text from left to right with a stack of open
arrays and objects, and gives up where one more would exceed its limit. `NaN` and the infinities are
numbers, integers are exact, a string is a list of code points in which escapes may leave single
surrogates, and the last of several equal keys counts.
-/

namespace JsonText

inductive JsonValue
  | null
  | bool (value : Bool)
  | int (value : ℤ)
  | float (value : Double ℚ)
  | string (text : List ℕ)
  | array (items : List JsonValue)
  | object (fields : List (List ℕ × JsonValue))

inductive DecodeError
  | decodeError
  | recursionError
  deriving DecidableEq

def codePoints (text : String) : List ℕ := text.toList.map Char.toNat

/-- `dict.get`; the fields stand in the order of the text. -/
def getD (fields : List (List ℕ × JsonValue)) (key : String) (default : JsonValue) : JsonValue :=
  (fields.reverse.lookup (codePoints key)).getD default

section Strings

inductive Escape
  | none
  | backslash
  | unicode (left : ℕ) (value : ℕ)

def hexDigit (c : Char) : Option ℕ :=
  if '0' ≤ c ∧ c ≤ '9' then some (c.toNat - '0'.toNat)
  else if 'a' ≤ c ∧ c ≤ 'f' then some (c.toNat - 'a'.toNat + 10)
  else if 'A' ≤ c ∧ c ≤ 'F' then some (c.toNat - 'A'.toNat + 10)
  else .none

def simpleEscape : Char → Option ℕ
  | '"' => some 34
  | '\\' => some 92
  | '/' => some 47
  | 'b' => some 8
  | 'f' => some 12
  | 'n' => some 10
  | 'r' => some 13
  | 't' => some 9
  | _ => .none

/-- A high surrogate takes the low one that follows it. -/
def joinSurrogates : List ℕ → List ℕ
  | high :: low :: rest =>
    if 0xD800 ≤ high ∧ high ≤ 0xDBFF ∧ 0xDC00 ≤ low ∧ low ≤ 0xDFFF then
      (0x10000 + (high - 0xD800) * 0x400 + (low - 0xDC00)) :: joinSurrogates rest
    else high :: joinSurrogates (low :: rest)
  | rest => rest

end Strings

section Numbers

inductive NumberPart
  | sign
  | zero
  | integer
  | point
  | fraction
  | exponent
  | exponentSign
  | exponentDigits
  deriving DecidableEq

/-- A number as far as it is read: its digits without the point, and how many are behind it. -/
structure NumberText where
  negative : Bool := false
  part : NumberPart
  digits : ℕ := 0
  scale : ℕ := 0
  exponentNegative : Bool := false
  exponent : ℕ := 0

namespace NumberText

variable (number : NumberText)

def digit (c : Char) : ℕ := c.toNat - '0'.toNat

/-- The number with one more character, if that belongs to it. -/
def push (c : Char) : Option NumberText :=
  match number.part with
  | .sign =>
    if c = '0' then some { number with part := .zero }
    else if c.isDigit then some { number with part := .integer, digits := digit c }
    else none
  | .zero =>
    if c = '.' then some { number with part := .point }
    else if c = 'e' ∨ c = 'E' then some { number with part := .exponent }
    else none
  | .integer =>
    if c.isDigit then some { number with digits := number.digits * 10 + digit c }
    else if c = '.' then some { number with part := .point }
    else if c = 'e' ∨ c = 'E' then some { number with part := .exponent }
    else none
  | .point | .fraction =>
    if c.isDigit then
      some { number with
        part := .fraction
        digits := number.digits * 10 + digit c
        scale := number.scale + 1 }
    else if number.part = .fraction ∧ (c = 'e' ∨ c = 'E') then
      some { number with part := .exponent }
    else none
  | .exponent | .exponentSign | .exponentDigits =>
    if c.isDigit then
      some { number with part := .exponentDigits, exponent := number.exponent * 10 + digit c }
    else if number.part = .exponent ∧ (c = '+' ∨ c = '-') then
      some { number with part := .exponentSign, exponentNegative := c = '-' }
    else none

def signed (value : ℚ) : ℚ := if number.negative then -value else value

def tens : ℤ := if number.exponentNegative then -number.exponent else number.exponent

/-- The value of a complete number. -/
def value : Option JsonValue :=
  match number.part with
  | .zero | .integer => some (.int (if number.negative then -number.digits else number.digits))
  | .fraction | .exponentDigits =>
    some (.float (Double.binary64 (number.signed
      (number.digits * 10 ^ (number.tens - number.scale)))))
  | _ => none

end NumberText

end Numbers

section Decoder

inductive Frame
  | array (items : List JsonValue)
  | object (fields : List (List ℕ × JsonValue)) (key : List ℕ)

inductive Mode
  | value
  | first
  | key (first : Bool)
  | colon
  | after
  | string (isKey : Bool) (text : List ℕ) (escape : Escape)
  | number (number : NumberText)
  | literal (rest : List Char) (value : JsonValue)
  | done (value : JsonValue)

/-- The items and fields of a frame stand last first. -/
structure Decoder where
  stack : List Frame
  mode : Mode

namespace Decoder

def isSpace (c : Char) : Bool := c = ' ' || c = '\t' || c = '\n' || c = '\r'

def finish (value : JsonValue) : List Frame → Decoder
  | [] => ⟨[], .done value⟩
  | .array items :: rest => ⟨.array (value :: items) :: rest, .after⟩
  | .object fields key :: rest => ⟨.object ((key, value) :: fields) key :: rest, .after⟩

variable (limit : ℕ) (stack : List Frame)

def openFrame (frame : Frame) (mode : Mode) : Except DecodeError Decoder :=
  if limit ≤ stack.length then .error .recursionError else .ok ⟨frame :: stack, mode⟩

/-- The first character of a value. -/
def startValue (c : Char) : Except DecodeError Decoder :=
  match c with
  | '"' => .ok ⟨stack, .string false [] .none⟩
  | '\x7b' => openFrame limit stack (.object [] []) (.key true)
  | '[' => openFrame limit stack (.array []) .first
  | 'n' => .ok ⟨stack, .literal "ull".toList .null⟩
  | 't' => .ok ⟨stack, .literal "rue".toList (.bool true)⟩
  | 'f' => .ok ⟨stack, .literal "alse".toList (.bool false)⟩
  | 'N' => .ok ⟨stack, .literal "aN".toList (.float .nan)⟩
  | 'I' => .ok ⟨stack, .literal "nfinity".toList (.float .posInf)⟩
  | '-' => .ok ⟨stack, .number ⟨true, .sign, 0, 0, false, 0⟩⟩
  | c =>
    match NumberText.push ⟨false, .sign, 0, 0, false, 0⟩ c with
    | some number => .ok ⟨stack, .number number⟩
    | none => .error .decodeError

def pushString (isKey : Bool) (text : List ℕ) (escape : Escape) (c : Char) :
    Except DecodeError Decoder :=
  match escape with
  | .none =>
    if c = '"' then
      if isKey then
        match stack with
        | .object fields _ :: rest =>
          .ok ⟨.object fields (joinSurrogates text.reverse) :: rest, .colon⟩
        | _ => .error .decodeError
      else .ok (finish (.string (joinSurrogates text.reverse)) stack)
    else if c = '\\' then .ok ⟨stack, .string isKey text .backslash⟩
    else if c.toNat ≤ 0x1F then .error .decodeError
    else .ok ⟨stack, .string isKey (c.toNat :: text) .none⟩
  | .backslash =>
    if c = 'u' then .ok ⟨stack, .string isKey text (.unicode 3 0)⟩
    else
      match simpleEscape c with
      | some point => .ok ⟨stack, .string isKey (point :: text) .none⟩
      | none => .error .decodeError
  | .unicode left value =>
    match hexDigit c with
    | some digit =>
      if left = 0 then .ok ⟨stack, .string isKey ((value * 16 + digit) :: text) .none⟩
      else .ok ⟨stack, .string isKey text (.unicode (left - 1) (value * 16 + digit))⟩
    | none => .error .decodeError

/-- What may follow a value. -/
def delimit (decoder : Decoder) (c : Char) : Except DecodeError Decoder :=
  if isSpace c then .ok decoder
  else
    match decoder.mode, c, decoder.stack with
    | .after, ',', .array items :: rest => .ok ⟨.array items :: rest, .value⟩
    | .after, ',', .object fields key :: rest => .ok ⟨.object fields key :: rest, .key false⟩
    | .after, ']', .array items :: rest => .ok (finish (.array items.reverse) rest)
    | .after, '\x7d', .object fields _ :: rest => .ok (finish (.object fields.reverse) rest)
    | _, _, _ => .error .decodeError

def step (decoder : Decoder) (c : Char) : Except DecodeError Decoder :=
  match decoder.mode with
  | .value => if isSpace c then .ok decoder else startValue limit decoder.stack c
  | .first =>
    if isSpace c then .ok decoder
    else if c = ']' then .ok (finish (.array []) decoder.stack.tail)
    else startValue limit decoder.stack c
  | .key first =>
    if isSpace c then .ok decoder
    else if c = '"' then .ok ⟨decoder.stack, .string true [] .none⟩
    else if first ∧ c = '\x7d' then .ok (finish (.object []) decoder.stack.tail)
    else .error .decodeError
  | .colon =>
    if isSpace c then .ok decoder
    else if c = ':' then .ok ⟨decoder.stack, .value⟩
    else .error .decodeError
  | .string isKey text escape => pushString decoder.stack isKey text escape c
  | .number number =>
    if number.negative ∧ number.part = .sign ∧ c = 'I' then
      .ok ⟨decoder.stack, .literal "nfinity".toList (.float .negInf)⟩
    else
      match number.push c, number.value with
      | some number, _ => .ok ⟨decoder.stack, .number number⟩
      | none, some value => delimit (finish value decoder.stack) c
      | none, none => .error .decodeError
  | .literal rest value =>
    match rest with
    | [last] => if c = last then .ok (finish value decoder.stack) else .error .decodeError
    | next :: rest =>
      if c = next then .ok ⟨decoder.stack, .literal rest value⟩ else .error .decodeError
    | [] => .error .decodeError
  | .after => delimit decoder c
  | .done _ => delimit decoder c

/-- The end of the text. -/
def result (decoder : Decoder) : Except DecodeError JsonValue :=
  match decoder.mode, decoder.stack with
  | .done value, _ => .ok value
  | .number number, [] =>
    match number.value with
    | some value => .ok value
    | none => .error .decodeError
  | _, _ => .error .decodeError

end Decoder

/-- `json.loads` where `limit` containers may be open. -/
def loads (limit : ℕ) (raw : String) : Except DecodeError JsonValue := do
  let decoder ← raw.toList.foldlM (Decoder.step limit) ⟨[], .value⟩
  decoder.result

end Decoder

end JsonText
