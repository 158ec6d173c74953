import SqlGateway.Config.Basic
import SqlGateway.Json.Reader
import SqlGateway.Number.Digits

/-!
# Stored configuration

A configuration is stored as a JSON object with one member for each setting. It is read from an
object, whose unknown members are passed over and whose settings stand once each, or from an array
that gives the settings in their order. What is left out keeps its default. A text that is wrong
anywhere gives no configuration at all.
-/

namespace SqlGateway.Config

open Number

/-! ## Reading -/

/-- A whole number from zero to `max`, written without sign, fraction and exponent. -/
def readNumber? (max : Nat) : Json → Option Nat
  | .number text =>
    if text.all Char.isDigit && digitsValue text ≤ max then some (digitsValue text) else none
  | _ => none

def readFlag? : Json → Option Bool
  | .bool b => some b
  | _ => none

/-- A name that stands alone or is the only member of an object, with null as its value. -/
def readName? : Json → Option String
  | .string codes => Json.text? codes
  | .object [(codes, .null)] => Json.text? codes
  | _ => none

def readIsolation? : Json → Option (Option IsolationLevel)
  | .null => some none
  | json => do some (← IsolationLevel.ofStoredName? (← readName? json))

def Field.set? (field : Field) (json : Json) (c : Config) : Option Config :=
  match field with
  | .timeoutSeconds =>
    (readNumber? (UInt64.size - 1) json).map fun n => { c with timeoutSeconds := .ofNat n }
  | .poolable => (readFlag? json).map fun b => { c with poolable := b }
  | .escapeProcessing => (readFlag? json).map fun b => { c with escapeProcessing := b }
  | .batch => (readFlag? json).map fun b => { c with batch := b }
  | .large => (readFlag? json).map fun b => { c with large := b }
  | .isolation => (readIsolation? json).map fun level => { c with isolation := level }
  | .fetchSize => (readNumber? (UInt32.size - 1) json).map fun n => { c with fetchSize := .ofNat n }
  | .maxRows => (readNumber? (UInt64.size - 1) json).map fun n => { c with maxRows := .ofNat n }

/-- Settings from the members of an object, each of the given fields at most once. -/
def ofMembers? (c : Config) : List Field → List (List Nat × Json) → Option Config
  | _, [] => some c
  | fields, (codes, json) :: members => do
    match Field.ofName? (← Json.text? codes) with
    | none => ofMembers? c fields members
    | some field =>
      if field ∈ fields then ofMembers? (← field.set? json c) (fields.erase field) members
      else none

def ofItems? (c : Config) : List Field → List Json → Option Config
  | _, [] => some c
  | field :: fields, json :: items => do ofItems? (← field.set? json c) fields items
  | [], _ :: _ => none

def ofJson? : Json → Option Config
  | .object members => ofMembers? {} Field.all members
  | .array items => ofItems? {} Field.all items
  | _ => none

def read? (s : String) : Option Config :=
  (Json.read? s.toList).bind ofJson?

/-! ## Writing -/

def flagText (b : Bool) : List Char :=
  if b then "true".toList else "false".toList

def Field.text (field : Field) (c : Config) : List Char :=
  match field with
  | .timeoutSeconds => digits c.timeoutSeconds.toNat
  | .poolable => flagText c.poolable
  | .escapeProcessing => flagText c.escapeProcessing
  | .batch => flagText c.batch
  | .large => flagText c.large
  | .isolation =>
    match c.isolation with
    | some level => '"' :: level.storedName.toList ++ ['"']
    | none => "null".toList
  | .fetchSize => digits c.fetchSize.toNat
  | .maxRows => digits c.maxRows.toNat

def Field.line (c : Config) (field : Field) : List Char :=
  "\n  \"".toList ++ field.name.toList ++ "\": ".toList ++ field.text c

def text (c : Config) : String :=
  .ofList ('{' :: [','].intercalate (Field.all.map (Field.line c)) ++ "\n\x7d".toList)

end SqlGateway.Config
