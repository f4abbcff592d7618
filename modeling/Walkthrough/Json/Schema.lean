import Walkthrough.Json.Draft
import Walkthrough.Power

/-!
# Walkthrough.Json.Schema

The kinds of documents that programs agree on, as data: a schema says which type a document has
(`Schema.Denote`), how it is read from a draft (`Schema.read`) or from a value
(`Schema.ofValue`), and how it is written (`Schema.toValue`).

A record is read from an object, in which the order of the fields does not matter and unknown
fields are skipped, or from a list of its fields in order. A field that may be left out denotes an
optional value.

* `Fields.Slots` holds what is known of a record while its fields are being read.
-/

namespace Walkthrough
namespace Json

mutual

/-- The kind of a document or of a part of one. -/
inductive Schema : Type 1 where
  | text
  | path
  | flag
  /-- A natural number below a bound, under the name of its kind. -/
  | natural (bound : Nat) (name : String)
  /-- An integer of 64 bits with a sign. -/
  | integer
  | real
  | any
  | optional (s : Schema)
  | list (s : Schema)
  /-- Values under keys of any name. -/
  | table (s : Schema)
  /-- One of the given values, written by its name. -/
  | choice (α : Type) (all : List α) (name : α → String)
  /-- A text of a given form, described by `expected`. -/
  | parsed (α : Type) (expected : String) (parse : String → Except String α) (render : α → String)
  | record (name : String) (fields : Fields)

/-- The fields of a record in order. -/
inductive Fields : Type 1 where
  | nil
  | required (name : String) (s : Schema) (rest : Fields)
  | optional (name : String) (s : Schema) (rest : Fields)

end

mutual

/-- The type of the documents of a kind. -/
def Schema.Denote : Schema → Type
  | .text => String
  | .path => String
  | .flag => Bool
  | .natural _ _ => Nat
  | .integer => Int
  | .real => Binary64
  | .any => Value
  | .optional s => Option s.Denote
  | .list s => List s.Denote
  | .table s => List (String × s.Denote)
  | .choice α _ _ => α
  | .parsed α _ _ _ => α
  | .record _ fields => fields.Denote

def Fields.Denote : Fields → Type
  | .nil => Unit
  | .required _ s rest => s.Denote × rest.Denote
  | .optional _ s rest => Option s.Denote × rest.Denote

end

/-- What is known of each field of a record. -/
def Fields.Slots : Fields → Type
  | .nil => Unit
  | .required _ s rest => Option s.Denote × rest.Slots
  | .optional _ s rest => Option s.Denote × rest.Slots

def Fields.empty : (fs : Fields) → fs.Slots
  | .nil => ()
  | .required _ _ rest => (none, rest.empty)
  | .optional _ _ rest => (none, rest.empty)

/-- The record, once every required field is known. -/
def Fields.close : (fs : Fields) → fs.Slots → Except Fault fs.Denote
  | .nil, _ => .ok ()
  | .required name _ rest, (slot, slots) =>
    match slot with
    | none => .error (.missingField name)
    | some a => do return (a, ← rest.close slots)
  | .optional _ _ rest, (slot, slots) => do return (slot, ← rest.close slots)

def Fields.size : Fields → Nat
  | .nil => 0
  | .required _ _ rest => rest.size + 1
  | .optional _ _ rest => rest.size + 1

/-- The description of a record of a given length. -/
def recordLength (name : String) (size : Nat) : String :=
  "struct " ++ name ++ " with " ++ Nat.repr size ++ (if size = 1 then " element" else " elements")

/-- The words that a complaint uses for a kind. -/
def Schema.expected : Schema → String
  | .text => "a string"
  | .path => "path string"
  | .flag => "a boolean"
  | .natural _ name => name
  | .integer => "i64"
  | .real => "f64"
  | .any => "any value"
  | .optional s => s.expected
  | .list _ => "a sequence"
  | .table _ => "a map"
  | .choice _ _ _ => "string or map"
  | .parsed _ expected _ _ => expected
  | .record name _ => "struct " ++ name

/-- A number as a natural number below a bound. -/
def naturalOf (bound : Nat) (name : String) : Number → Except Fault Nat
  | .natural n => if n < bound then .ok n else .error (.invalidValue (.integer n) name)
  | .negative n => .error (.invalidValue (.integer (-(n : Int))) name)
  | .real x => .error (.invalidType (.real x) name)

/-- A number as an integer of 64 bits. -/
def integerOf : Number → Except Fault Int
  | .natural n => if n < twoTo 63 then .ok n else .error (.invalidValue (.integer n) "i64")
  | .negative n => .ok (-(n : Int))
  | .real x => .error (.invalidType (.real x) "i64")

/-- A number as a floating point number. -/
def realOf : Number → Binary64
  | .natural n => Binary64.ofNat n
  | .negative n => (Binary64.ofNat n).negate
  | .real x => x

/-- The value of a given name among those of a choice. -/
def variantOf {α : Type} (all : List α) (name : α → String) (s : String) : Except Fault α :=
  match all.find? fun a => name a = s with
  | some a => .ok a
  | none => .error (.unknownVariant s (all.map name))

/-- The complaint about a draft of another kind than the expected one. -/
def Draft.mismatch {α : Type} (expected : String) : Draft → Except Fault α
  | .null => .error (.invalidType .null expected)
  | .boolean b => .error (.invalidType (.boolean b) expected)
  | .numeral n => do
    let n ← n.number
    .error (.invalidType n.found expected)
  | .string q => do
    let s ← q.text
    .error (.invalidType (.text s) expected)
  | .list _ _ => .error (.invalidType .sequence expected)
  | .object _ _ => .error (.invalidType .map expected)
  | .gap g => .error g.fault

/-- The text of a draft. -/
def Draft.text? (expected : String) : Draft → Except Fault String
  | .string q => q.text
  | d => d.mismatch expected

/-- The number of a draft. -/
def Draft.number? (expected : String) : Draft → Except Fault Number
  | .numeral n => n.number
  | d => d.mismatch expected

/-- A choice is written as a string, or as an object whose only key is the name, with no value. -/
def readChoice {α : Type} (depth : Nat) (all : List α) (name : α → String) :
    Draft → Except Fault α
  | .string q => do variantOf all name (← q.text)
  | .object members ending => do
    let _ ← deeper depth
    match members with
    | [] => .error (if ending = .endOfText then .endInValue else .expectedValue)
    | (k, d) :: rest => do
      let a ← variantOf all name (← k.text)
      match d with
      | .null =>
        if rest.isEmpty && ending = .closed then .ok a
        else if rest.isEmpty && ending = .endOfText then .error .endInObject
        else .error .expectedValue
      | d => d.mismatch "unit"
  | .gap (.colon f) => .error f
  | .gap .endOfText => .error .endInValue
  | _ => .error .expectedValue

/-- Read a text of a given form. -/
def parsedText {α : Type} (parse : String → Except String α) (s : String) : Except Fault α :=
  match parse s with
  | .ok a => .ok a
  | .error reason => .error (.unreadableText reason)

mutual

/-- Read a document of a kind from a draft at the given depth of nesting. -/
def Schema.read (depth : Nat) : (s : Schema) → Draft → Except Fault s.Denote
  | .text, d => d.text? "a string"
  | .path, d => d.text? "path string"
  | .flag, d =>
    match d with
    | .boolean b => .ok b
    | d => d.mismatch "a boolean"
  | .natural bound name, d => do naturalOf bound name (← d.number? name)
  | .integer, d => do integerOf (← d.number? "i64")
  | .real, d => do return realOf (← d.number? "f64")
  | .any, d => d.value depth
  | .optional s, d =>
    match d with
    | .null => .ok none
    | d => (s.read depth d).map some
  | .list s, d =>
    match d with
    | .list items ending => do
      let depth ← deeper depth
      let xs ← items.mapM fun d => s.read depth d
      orFault xs ending.listFault?
    | d => d.mismatch "a sequence"
  | .table s, d =>
    match d with
    | .object members ending => do
      let depth ← deeper depth
      let ms ← members.mapM fun m => do
        let key ← m.1.text
        return (key, ← s.read depth m.2)
      orFault (orderMembers ms) ending.objectFault?
    | d => d.mismatch "a map"
  | .choice _ all name, d => readChoice depth all name d
  | .parsed _ expected parse _, d => do parsedText parse (← d.text? expected)
  | .record name fields, d =>
    match d with
    | .object members ending => do
      let depth ← deeper depth
      let slots ← members.foldlM (fun slots m => do
        let key ← m.1.text
        match fields.put depth key m.2 slots with
        | some result => result
        | none => do
          skip m.2
          return slots) fields.empty
      let slots ← orFault slots ending.objectFault?
      fields.close slots
    | .list items ending => do
      let depth ← deeper depth
      let (a, rest) ← fields.readList depth name fields.size ending 0 items
      if rest.isEmpty then orFault a ending.fullListFault? else .error .trailingCharacters
    | d => d.mismatch ("struct " ++ name)

/-- Read a field of the given name into its slot; `none` when the record has no such field. -/
def Fields.put (depth : Nat) (key : String) (d : Draft) :
    (fs : Fields) → fs.Slots → Option (Except Fault fs.Slots)
  | .nil, _ => none
  | .required name s rest, (slot, slots) =>
    if key = name then
      some (if slot.isSome then .error (.duplicateField name)
        else (s.read depth d).map fun a => (some a, slots))
    else (rest.put depth key d slots).map fun r => r.map fun slots => (slot, slots)
  | .optional name s rest, (slot, slots) =>
    if key = name then
      some (if slot.isSome then .error (.duplicateField name)
        else (s.read depth d).map fun a => (some a, slots))
    else (rest.put depth key d slots).map fun r => r.map fun slots => (slot, slots)

/-- Read the fields in order from the items of a list, and the items left over. -/
def Fields.readList (depth : Nat) (record : String) (size : Nat) (ending : Ending) (index : Nat) :
    (fs : Fields) → List Draft → Except Fault (fs.Denote × List Draft)
  | .nil, items => .ok ((), items)
  | .required _ s rest, items =>
    match items with
    | d :: ds => do
      let a ← s.read depth d
      let (b, left) ← rest.readList depth record size ending (index + 1) ds
      return ((a, b), left)
    | [] => do
      orFault () ending.listFault?
      .error (.invalidLength index (recordLength record size))
  | .optional _ s rest, items =>
    match items with
    | d :: ds => do
      let a ← s.read depth d
      let (b, left) ← rest.readList depth record size ending (index + 1) ds
      return ((some a, b), left)
    | [] => do
      orFault () ending.listFault?
      let (b, left) ← rest.readList depth record size ending (index + 1) []
      return ((none, b), left)

end

/-- The complaint about a value of another kind than the expected one. -/
def Value.mismatch {α : Type} (expected : String) (v : Value) : Except Fault α :=
  .error (.invalidType v.found expected)

def Value.expectText (expected : String) : Value → Except Fault String
  | .text s => .ok s
  | v => v.mismatch expected

def Value.expectNumber (expected : String) : Value → Except Fault Number
  | .number n => .ok n
  | v => v.mismatch expected

mutual

/-- Read a document of a kind from a value. -/
def Schema.ofValue : (s : Schema) → Value → Except Fault s.Denote
  | .text, v => v.expectText "a string"
  | .path, v => v.expectText "path string"
  | .flag, v =>
    match v with
    | .boolean b => .ok b
    | v => v.mismatch "a boolean"
  | .natural bound name, v => do naturalOf bound name (← v.expectNumber name)
  | .integer, v => do integerOf (← v.expectNumber "i64")
  | .real, v => do return realOf (← v.expectNumber "f64")
  | .any, v => .ok v
  | .optional s, v =>
    match v with
    | .null => .ok none
    | v => (s.ofValue v).map some
  | .list s, v =>
    match v with
    | .array items => items.mapM fun v => s.ofValue v
    | v => v.mismatch "a sequence"
  | .table s, v =>
    match v with
    | .object members => members.mapM fun m => do return (m.1, ← s.ofValue m.2)
    | v => v.mismatch "a map"
  | .choice _ all name, v => do variantOf all name (← v.expectText "string or map")
  | .parsed _ expected parse _, v => do parsedText parse (← v.expectText expected)
  | .record name fields, v =>
    match v with
    | .object members => do
      let slots ← members.foldlM (fun slots m =>
        match fields.putValue m.1 m.2 slots with
        | some result => result
        | none => .ok slots) fields.empty
      fields.close slots
    | .array items => do
      let (a, rest) ← fields.ofItems name fields.size 0 items
      if rest.isEmpty then .ok a
      else .error (.invalidLength items.length "fewer elements in array")
    | v => v.mismatch ("struct " ++ name)

/-- Read a field of the given name into its slot; `none` when the record has no such field. -/
def Fields.putValue (key : String) (v : Value) :
    (fs : Fields) → fs.Slots → Option (Except Fault fs.Slots)
  | .nil, _ => none
  | .required name s rest, (slot, slots) =>
    if key = name then some ((s.ofValue v).map fun a => (some a, slots))
    else (rest.putValue key v slots).map fun r => r.map fun slots => (slot, slots)
  | .optional name s rest, (slot, slots) =>
    if key = name then some ((s.ofValue v).map fun a => (some a, slots))
    else (rest.putValue key v slots).map fun r => r.map fun slots => (slot, slots)

/-- Read the fields in order from the items of an array, and the items left over. -/
def Fields.ofItems (record : String) (size : Nat) (index : Nat) :
    (fs : Fields) → List Value → Except Fault (fs.Denote × List Value)
  | .nil, items => .ok ((), items)
  | .required _ s rest, items =>
    match items with
    | v :: vs => do
      let a ← s.ofValue v
      let (b, left) ← rest.ofItems record size (index + 1) vs
      return ((a, b), left)
    | [] => .error (.invalidLength index (recordLength record size))
  | .optional _ s rest, items =>
    match items with
    | v :: vs => do
      let a ← s.ofValue v
      let (b, left) ← rest.ofItems record size (index + 1) vs
      return ((some a, b), left)
    | [] => do
      let (b, left) ← rest.ofItems record size (index + 1) []
      return ((none, b), left)

end

/-- An integer as a number of a document. -/
def Number.ofInt (n : Int) : Number :=
  if n < 0 then .negative n.natAbs else .natural n.natAbs

mutual

/-- The document as a value; a field that is left out is not written. -/
def Schema.toValue : (s : Schema) → s.Denote → Value
  | .text, s => .text s
  | .path, s => .text s
  | .flag, b => .boolean b
  | .natural _ _, n => .number (.natural n)
  | .integer, n => .number (.ofInt n)
  | .real, x => if x.isFinite then .number (.real x) else .null
  | .any, v => v
  | .optional s, a =>
    match a with
    | none => .null
    | some a => s.toValue a
  | .list s, xs => .array (xs.map fun x => s.toValue x)
  | .table s, ms => .object (ms.map fun m => (m.1, s.toValue m.2))
  | .choice _ _ name, a => .text (name a)
  | .parsed _ _ _ render, a => .text (render a)
  | .record _ fields, r => .object (fields.toMembers r)

/-- The members of a record, in the order of its fields. -/
def Fields.toMembers : (fs : Fields) → fs.Denote → List (String × Value)
  | .nil, _ => []
  | .required name s rest, (a, r) => (name, s.toValue a) :: rest.toMembers r
  | .optional name s rest, (a, r) =>
    match a with
    | none => rest.toMembers r
    | some a => (name, s.toValue a) :: rest.toMembers r

end

/-- Read a document of a kind from its text. -/
def Schema.parse (s : Schema) (text : String) : Except Fault s.Denote :=
  readWith (s.read 0) text

/-- Natural numbers of 32 bits. -/
def Schema.u32 : Schema := .natural (twoTo 32) "u32"

/-- Natural numbers of 64 bits. -/
def Schema.u64 : Schema := .natural (twoTo 64) "u64"

/-- Natural numbers that count things. -/
def Schema.count : Schema := .natural (twoTo 64) "usize"

end Json
end Walkthrough
