import Walkthrough.Json.Token

/-!
# Walkthrough.Json.Draft

The tree of a JSON text, built as far as the text goes. A draft records how each list and object
ends instead of failing there, so that a reader that walks it from left to right meets complaints
about kinds of values and complaints about form in the order of the text.

* `ofTokens` is a fold over the tokens with a stack of unfinished lists and objects.
* `skip` walks a draft whose value is not wanted.
-/

namespace Walkthrough
namespace Json

/-- How a list or an object ends. -/
inductive Ending where
  | closed
  | endOfText
  /-- The text ends behind a comma. -/
  | endAfterComma
  | trailingComma
  /-- Something else than a comma or the bracket stands behind a value. -/
  | missingComma
  /-- Something else than a string stands where a key is expected. -/
  | keyExpected
deriving DecidableEq, Repr

/-- What stands where a value is expected. -/
inductive Gap where
  | endOfText
  | stray
  | word (fault : Fault)
  | numeral (fault : Fault)
  /-- The colon before the value is missing. -/
  | colon (fault : Fault)
deriving DecidableEq, Repr

inductive Draft where
  | null
  | boolean (b : Bool)
  | numeral (n : Numeral)
  | string (q : Quoted)
  | list (items : List Draft) (ending : Ending)
  | object (members : List (Quoted × Draft)) (ending : Ending)
  | gap (g : Gap)

instance : Inhabited Draft := ⟨.null⟩

/-- A list or an object that waits for a value; what it holds so far is in reverse. -/
inductive Frame where
  | item (items : List Draft)
  | member (members : List (Quoted × Draft)) (key : Quoted)

/-- What may come next, inside the given unfinished lists and objects. -/
inductive Place where
  | value (frames : List Frame)
  | firstItem (frames : List Frame)
  | afterItem (items : List Draft) (frames : List Frame)
  | firstKey (frames : List Frame)
  | nextKey (members : List (Quoted × Draft)) (frames : List Frame)
  | afterKey (members : List (Quoted × Draft)) (key : Quoted) (frames : List Frame)
  | afterMember (members : List (Quoted × Draft)) (frames : List Frame)
  | done (draft : Draft)
  /-- Nothing that follows matters. -/
  | stopped (draft : Draft)

/-- Put a complete value where it belongs. -/
def complete (d : Draft) : List Frame → Place
  | [] => .done d
  | .item items :: frames => .afterItem (d :: items) frames
  | .member members key :: frames => .afterMember ((key, d) :: members) frames

/-- Close what is unfinished around a draft that holds a complaint. -/
def enclose (d : Draft) : List Frame → Draft
  | [] => d
  | .item items :: frames => enclose (.list (d :: items).reverse .endOfText) frames
  | .member members key :: frames =>
    enclose (.object ((key, d) :: members).reverse .endOfText) frames

/-- Stop at a complaint. -/
def stop (d : Draft) (frames : List Frame) : Place := .stopped (enclose d frames)

/-- A token where a value is expected. -/
def Place.value? (frames : List Frame) : Token → Place
  | .openList => .firstItem frames
  | .openObject => .firstKey frames
  | .null => complete .null frames
  | .boolean b => complete (.boolean b) frames
  | .numeral n => complete (.numeral n) frames
  | .string q => if q.ending = .closed then complete (.string q) frames else stop (.string q) frames
  | .brokenWord f => stop (.gap (.word f)) frames
  | .brokenNumeral f => stop (.gap (.numeral f)) frames
  | .closeList =>
    match frames with
    | .item items :: outer => stop (.list items.reverse .trailingComma) outer
    | frames => stop (.gap .stray) frames
  | .closeObject | .comma | .colon | .stray => stop (.gap .stray) frames

/-- A token where a key is expected. -/
def Place.key? (members : List (Quoted × Draft)) (frames : List Frame) : Token → Place
  | .string q =>
    if q.ending = .closed then .afterKey members q frames
    else stop (.object ((q, .gap .stray) :: members).reverse .endOfText) frames
  | _ => stop (.object members.reverse .keyExpected) frames

/-- One token further. -/
def Place.step : Place → Token → Place
  | .value frames, t => .value? frames t
  | .firstItem frames, t =>
    match t with
    | .closeList => complete (.list [] .closed) frames
    | t => .value? (.item [] :: frames) t
  | .afterItem items frames, t =>
    match t with
    | .comma => .value (.item items :: frames)
    | .closeList => complete (.list items.reverse .closed) frames
    | _ => stop (.list items.reverse .missingComma) frames
  | .firstKey frames, t =>
    match t with
    | .closeObject => complete (.object [] .closed) frames
    | t => .key? [] frames t
  | .nextKey members frames, t =>
    match t with
    | .closeObject => stop (.object members.reverse .trailingComma) frames
    | t => .key? members frames t
  | .afterKey members key frames, t =>
    match t with
    | .colon => .value (.member members key :: frames)
    | _ => stop (.object ((key, .gap (.colon .expectedColon)) :: members).reverse .endOfText) frames
  | .afterMember members frames, t =>
    match t with
    | .comma => .nextKey members frames
    | .closeObject => complete (.object members.reverse .closed) frames
    | _ => stop (.object members.reverse .missingComma) frames
  | .done d, _ => .stopped d
  | .stopped d, _ => .stopped d

/-- The draft when the text ends here. -/
def Place.finish : Place → Draft
  | .value frames =>
    match frames with
    | .item items :: outer => enclose (.list items.reverse .endAfterComma) outer
    | frames => enclose (.gap .endOfText) frames
  | .firstItem frames => enclose (.list [] .endOfText) frames
  | .afterItem items frames => enclose (.list items.reverse .endOfText) frames
  | .firstKey frames => enclose (.object [] .endOfText) frames
  | .nextKey members frames => enclose (.object members.reverse .endAfterComma) frames
  | .afterKey members key frames =>
    enclose (.object ((key, .gap (.colon .endInObject)) :: members).reverse .endOfText) frames
  | .afterMember members frames => enclose (.object members.reverse .endOfText) frames
  | .done d => d
  | .stopped d => d

/-- The draft of a token list, and whether tokens follow a complete value. -/
def ofTokens (ts : List Token) : Draft × Bool :=
  match ts.foldl Place.step (.value []) with
  | .stopped d => (d, true)
  | p => (p.finish, false)

/-- The draft of a text, and whether more follows the value. -/
def draft (s : String) : Draft × Bool := ofTokens (scan s)

/-- The complaint of a reader about the end of a list, once its items are read. -/
def Ending.listFault? : Ending → Option Fault
  | .closed => none
  | .endOfText => some .endInList
  | .endAfterComma => some .endInValue
  | .trailingComma => some .trailingComma
  | .missingComma => some .expectedListCommaOrEnd
  | .keyExpected => some .expectedValue

/-- The complaint of a reader that wants no more items although the list goes on or ends badly. -/
def Ending.fullListFault? : Ending → Option Fault
  | .closed => none
  | .endOfText => some .endInList
  | .trailingComma => some .trailingComma
  | _ => some .trailingCharacters

/-- The complaint of a reader about the end of an object. -/
def Ending.objectFault? : Ending → Option Fault
  | .closed => none
  | .endOfText => some .endInObject
  | .endAfterComma => some .endInValue
  | .trailingComma => some .trailingComma
  | .missingComma => some .expectedObjectCommaOrEnd
  | .keyExpected => some .keyNotString

/-- The complaint about the end of a list that is skipped. -/
def Ending.skippedListFault? : Ending → Option Fault
  | .trailingComma => some .expectedValue
  | e => e.listFault?

/-- The complaint about the end of an object that is skipped. -/
def Ending.skippedObjectFault? : Ending → Option Fault
  | .trailingComma => some .keyNotString
  | .endAfterComma => some .endInObject
  | e => e.objectFault?

/-- Fail with the complaint, if there is one. -/
def orFault {α : Type} (a : α) : Option Fault → Except Fault α
  | none => .ok a
  | some f => .error f

/-- The complaint about what stands in place of a value. -/
def Gap.fault : Gap → Fault
  | .endOfText => .endInValue
  | .stray => .expectedValue
  | .word f => f
  | .numeral f => f
  | .colon f => f

/-- The complaint of a reader that skips a value. -/
def Gap.skippedFault : Gap → Fault
  | .numeral _ => .invalidNumber
  | g => g.fault

mutual

/-- Walk a value that is not wanted: only its form matters. -/
def skip : Draft → Except Fault Unit
  | .null | .boolean _ | .numeral _ => .ok ()
  | .string q => q.skip
  | .list items ending => do
    skipItems items
    orFault () ending.skippedListFault?
  | .object members ending => do
    skipMembers members
    orFault () ending.skippedObjectFault?
  | .gap g => .error g.skippedFault

def skipItems : List Draft → Except Fault Unit
  | [] => .ok ()
  | d :: ds => do
    skip d
    skipItems ds

def skipMembers : List (Quoted × Draft) → Except Fault Unit
  | [] => .ok ()
  | (k, d) :: ms => do
    k.skip
    skip d
    skipMembers ms

end

/-- The depth of nesting at which a document is refused. -/
def depthLimit : Nat := 128

/-- One level deeper, unless the limit is reached. -/
def deeper (depth : Nat) : Except Fault Nat :=
  if depth + 1 < depthLimit then .ok (depth + 1) else .error .tooDeep

mutual

/-- The value of a draft at the given depth of nesting. -/
def Draft.value (depth : Nat) : Draft → Except Fault Value
  | .null => .ok .null
  | .boolean b => .ok (.boolean b)
  | .numeral n => n.number.map .number
  | .string q => q.text.map .text
  | .list items ending => do
    let depth ← deeper depth
    let vs ← itemValues depth items
    orFault (.array vs) ending.listFault?
  | .object members ending => do
    let depth ← deeper depth
    let ms ← memberValues depth members
    orFault (.object (orderMembers ms)) ending.objectFault?
  | .gap g => .error g.fault

def itemValues (depth : Nat) : List Draft → Except Fault (List Value)
  | [] => .ok []
  | d :: ds => do
    let v ← d.value depth
    return v :: (← itemValues depth ds)

def memberValues (depth : Nat) : List (Quoted × Draft) → Except Fault (List (String × Value))
  | [] => .ok []
  | (k, d) :: ms => do
    let key ← k.text
    let v ← d.value depth
    return (key, v) :: (← memberValues depth ms)

end

/-- Read a document with a reader of drafts; nothing but blanks may follow the value. -/
def readWith {α : Type} (reader : Draft → Except Fault α) (s : String) : Except Fault α := do
  let (d, more) := draft s
  let a ← reader d
  if more then .error .trailingCharacters else .ok a

/-- The value of a document. -/
def parse (s : String) : Except Fault Value := readWith (Draft.value 0) s

end Json
end Walkthrough
