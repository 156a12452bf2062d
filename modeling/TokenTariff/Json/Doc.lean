import TokenTariff.Json.Token

/-!
# Documents

A document is what a JSON text says as far as it goes. It is read from the front, and a fault counts
only when reading comes to it; so a document keeps what stands before a fault, and the fault in its
place. At most one place is faulty in form, and nothing follows it.
-/

namespace TokenTariff.Json

inductive ListEnd where
  | closed
  | cut
  /-- Something else than a comma or the closing bracket follows an item. -/
  | stray
  /-- The closing bracket follows a comma. -/
  | comma

namespace ListEnd

/-- The fault that a reader of all items meets after the last one. -/
def onRead : ListEnd → Option Fault
  | closed => none
  | cut => some .endInList
  | stray => some .noListSeparator
  | comma => some .trailingComma

def onSkip : ListEnd → Option Fault
  | closed => none
  | cut => some .endInList
  | stray => some .noListSeparator
  | comma => some .noValue

/-- The fault met by a reader that wants no further item. -/
def onClose : ListEnd → Option Fault
  | closed => none
  | cut => some .endInList
  | stray => some .trailingText
  | comma => some .trailingComma

end ListEnd

inductive ObjectEnd where
  | closed
  | cut
  | stray
  | comma
  | commaCut
  | badKey
  | brokenKey (onRead onSkip : Fault)

namespace ObjectEnd

def onRead : ObjectEnd → Option Fault
  | closed => none
  | cut => some .endInObject
  | stray => some .noObjectSeparator
  | comma => some .trailingComma
  | commaCut => some .endInValue
  | badKey => some .keyNotString
  | brokenKey r _ => some r

def onSkip : ObjectEnd → Option Fault
  | closed => none
  | cut | commaCut => some .endInObject
  | stray => some .noObjectSeparator
  | comma | badKey => some .keyNotString
  | brokenKey _ s => some s

end ObjectEnd

inductive Doc where
  | null
  | bool (b : Bool)
  | number (n : Except Fault Number)
  | text (s : Except Fault String)
  | list (items : List Doc) (ending : ListEnd)
  | object (members : List (Except Fault String × Doc)) (ending : ObjectEnd)
  /-- No value, or a text that is not finished. -/
  | broken (onRead onSkip : Fault)
  /-- Characters that are no value of any kind. -/
  | garbled (onRead onSkip : Fault)

namespace Doc

/-- The fault of a reader that wants `wanted` and finds this document. A scalar is read to the end
first, so its own fault comes before. -/
def unwanted (wanted : String) : Doc → Fault
  | null => .wrongType .null wanted
  | bool b => .wrongType (.bool b) wanted
  | number (.ok n) => .wrongType (.number n) wanted
  | number (.error f) => f
  | text (.ok s) => .wrongType (.text s) wanted
  | text (.error f) => f
  | list .. => .wrongType .sequence wanted
  | object .. => .wrongType .map wanted
  | broken f _ | garbled f _ => f

mutual

/-- The fault met when the document is skipped. Only the last part of a list or an object can be
faulty, and then its ending is not reached. -/
def onSkip : Doc → Option Fault
  | list items ending => if let some f := ending.onSkip then some f else onSkipLast items
  | object members ending => if let some f := ending.onSkip then some f else onSkipLastMember members
  | broken _ f | garbled _ f => some f
  | _ => none

def onSkipLast : List Doc → Option Fault
  | [] => none
  | [d] => onSkip d
  | _ :: d :: rest => onSkipLast (d :: rest)

def onSkipLastMember : List (Except Fault String × Doc) → Option Fault
  | [] => none
  | [(_, d)] => onSkip d
  | _ :: m :: rest => onSkipLastMember (m :: rest)

end

mutual

/-- The first fault met when the whole document is read, at most `depth` lists and objects deep. -/
def onRead (depth : Nat) : Doc → Option Fault
  | number (.error f) => some f
  | text (.error f) => some f
  | broken f _ | garbled f _ => some f
  | list items ending =>
    if depth ≤ 1 then some .tooDeep
    else (onReadItems (depth - 1) items).or ending.onRead
  | object members ending =>
    if depth ≤ 1 then some .tooDeep
    else (onReadMembers (depth - 1) members).or ending.onRead
  | _ => none

def onReadItems (depth : Nat) : List Doc → Option Fault
  | [] => none
  | d :: rest => (onRead depth d).or (onReadItems depth rest)

def onReadMembers (depth : Nat) : List (Except Fault String × Doc) → Option Fault
  | [] => none
  | (.error f, _) :: _ => some f
  | (.ok _, d) :: rest => (onRead depth d).or (onReadMembers depth rest)

end

end Doc

inductive Frame where
  | list (items : List Doc)
  | object (members : List (Except Fault String × Doc)) (key : Except Fault String)

/-- What the next token has to be, with the frames around it, the innermost first. -/
inductive Builder where
  | value (frames : List Frame)
  /-- An item, or the closing bracket; `first` tells that no comma stands before. -/
  | item (first : Bool) (items : List Doc) (frames : List Frame)
  | afterItem (items : List Doc) (frames : List Frame)
  /-- A key, or the closing brace; `first` tells that no comma stands before. -/
  | key (first : Bool) (members : List (Except Fault String × Doc)) (frames : List Frame)
  | colon (members : List (Except Fault String × Doc)) (key : Except Fault String)
      (frames : List Frame)
  | afterMember (members : List (Except Fault String × Doc)) (frames : List Frame)
  /-- The document is complete or broken; `more` tells that tokens follow it. -/
  | done (doc : Doc) (more : Bool)

namespace Builder

def put (d : Doc) : List Frame → Builder
  | [] => done d false
  | .list items :: frames => afterItem (d :: items) frames
  | .object members name :: frames => afterMember ((name, d) :: members) frames

/-- The document in which `d` is the last part of the innermost frame. -/
def wrap (d : Doc) : List Frame → Doc
  | [] => d
  | .list items :: frames => wrap (.list (d :: items).reverse .closed) frames
  | .object members name :: frames => wrap (.object ((name, d) :: members).reverse .closed) frames

/-- The form of the text is broken at `d`. -/
def stop (d : Doc) (frames : List Frame) : Builder := done (wrap d frames) false

def stopList (items : List Doc) (ending : ListEnd) (frames : List Frame) : Builder :=
  stop (.list items.reverse ending) frames

def stopObject (members : List (Except Fault String × Doc)) (ending : ObjectEnd)
    (frames : List Frame) : Builder :=
  stop (.object members.reverse ending) frames

/-- A number, or the fault of one that no float can hold. -/
def numberDoc (n : Numeral) : Doc :=
  .number (match Number.ofNumeral? n with
    | some n => .ok n
    | none => .error .numberTooLarge)

def valueStep (frames : List Frame) : Token → Builder
  | .null => put .null frames
  | .bool b => put (.bool b) frames
  | .number n => put (numberDoc n) frames
  | .text s => put (.text s) frames
  | .openList => item true [] frames
  | .openObject => key true [] frames
  | .brokenText r s => stop (.broken r s) frames
  | .broken r s => stop (.garbled r s) frames
  | .closeList | .closeObject | .colon | .comma => stop (.broken .noValue .noValue) frames

def itemStep (first : Bool) (items : List Doc) (frames : List Frame) : Token → Builder
  | .closeList =>
    if first then put (.list items.reverse .closed) frames else stopList items .comma frames
  | t => valueStep (.list items :: frames) t

def keyStep (first : Bool) (members : List (Except Fault String × Doc)) (frames : List Frame) :
    Token → Builder
  | .text s => colon members s frames
  | .closeObject =>
    if first then put (.object members.reverse .closed) frames
    else stopObject members .comma frames
  | .brokenText r s => stopObject members (.brokenKey r s) frames
  | _ => stopObject members .badKey frames

def step : Builder → Token → Builder
  | value frames, t => valueStep frames t
  | item first items frames, t => itemStep first items frames t
  | afterItem items frames, .closeList => put (.list items.reverse .closed) frames
  | afterItem items frames, .comma => item false items frames
  | afterItem items frames, _ => stopList items .stray frames
  | key first members frames, t => keyStep first members frames t
  | colon members k frames, .colon => value (.object members k :: frames)
  | colon members k frames, _ => stop (.broken .noColon .noColon) (.object members k :: frames)
  | afterMember members frames, .closeObject => put (.object members.reverse .closed) frames
  | afterMember members frames, .comma => key false members frames
  | afterMember members frames, _ => stopObject members .stray frames
  | done d _, _ => done d true

def finish : Builder → Doc × Bool
  | value frames => (wrap (.broken .endInValue .endInValue) frames, false)
  | item first items frames =>
    if first then (wrap (.list items.reverse .cut) frames, false)
    else (wrap (.broken .endInValue .endInValue) (.list items :: frames), false)
  | afterItem items frames => (wrap (.list items.reverse .cut) frames, false)
  | key first members frames =>
    (wrap (.object members.reverse (if first then .cut else .commaCut)) frames, false)
  | colon members k frames =>
    (wrap (.broken .endInObject .endInObject) (.object members k :: frames), false)
  | afterMember members frames => (wrap (.object members.reverse .cut) frames, false)
  | done d more => (d, more)

end Builder

/-- The document at the front of a text, and whether anything follows it. -/
def Doc.ofChars (cs : List Char) : Doc × Bool :=
  ((Scan.run cs).foldl Builder.step (.value [])).finish

def Doc.ofText (s : String) : Doc × Bool := Doc.ofChars s.toList

end TokenTariff.Json
