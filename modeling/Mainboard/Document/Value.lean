import Mainboard.Document.Token

/-!
# Values of a document

The tokens of a document form one value.  Where they do not, the value has a
hole: the value of a member that never comes, the item after the last comma,
the end of a list.  Everything before a hole can still be read, so that the
first problem a reader meets is the first one of the text.
-/

namespace Mainboard.Document

/-- A value, as far as the text holds it.  A list or map that is not closed
says how it breaks off. -/
inductive Value
  | null
  | boolean (value : Bool)
  | number (lexeme : List Char)
  | quote (quote : Quote)
  | list (items : List Value) (broken : Option Break)
  | map (members : List (Quote × Value)) (broken : Option Break)
  | brokenWord (broken : Break)
  | brokenNumber (broken : Break)
  /-- No value stands here. -/
  | hole (broken : Break)

/-- A list or map around the current value, with what it holds so far in reverse. -/
inductive Frame
  | items (before : List Value)
  | members (before : List (Quote × Value)) (key : Quote)

def Frame.close (frame : Frame) (last : Value) (broken : Option Break) : Value :=
  match frame with
  | items before => .list (last :: before).reverse broken
  | members before key => .map ((key, last) :: before).reverse broken

/-- What may come next.  Frames are listed from the innermost out. -/
inductive Place
  | value (frames : List Frame)
  | firstItem (frames : List Frame)
  | firstKey (frames : List Frame)
  | nextKey (frames : List Frame) (before : List (Quote × Value))
  | colon (frames : List Frame) (before : List (Quote × Value)) (key : Quote)
  | afterItem (frames : List Frame) (before : List Value)
  | afterMember (frames : List Frame) (before : List (Quote × Value))
  /-- The value of the document is complete. -/
  | complete (root : Value)
  /-- Nothing that follows matters; whether it follows a complete value. -/
  | settled (root : Value) (trailing : Bool)

namespace Place

def deliver (frames : List Frame) (value : Value) : Place :=
  match frames with
  | [] => complete value
  | .items before :: rest => afterItem rest (value :: before)
  | .members before key :: rest => afterMember rest ((key, value) :: before)

/-- The whole document around a value after which nothing can be read. -/
def collapse (frames : List Frame) (value : Value) : Value :=
  frames.foldl (fun inner frame => frame.close inner (some .malformed)) value

/-- The document ends with a value after which nothing can be read. -/
def giveUp (frames : List Frame) (value : Value) : Place :=
  settled (collapse frames value) false

def takeValue (frames : List Frame) : Token → Place
  | .openBracket => firstItem frames
  | .openBrace => firstKey frames
  | .null => deliver frames .null
  | .boolean truth => deliver frames (.boolean truth)
  | .number lexeme => deliver frames (.number lexeme)
  | .quote quote => deliver frames (.quote quote)
  | .brokenWord broken => giveUp frames (.brokenWord broken)
  | .brokenNumber broken => giveUp frames (.brokenNumber broken)
  | .closeBrace | .closeBracket | .colon | .comma | .junk => giveUp frames (.hole .malformed)

def breakAtKey (before : List (Quote × Value)) (key : Quote) (broken : Break) : Value :=
  .map ((key, .hole broken) :: before).reverse (some broken)

def takeKey (frames : List Frame) (before : List (Quote × Value)) : Token → Place
  | .quote quote => colon frames before quote
  | _ => giveUp frames (breakAtKey before (.missing .malformed) .malformed)

def step : Place → Token → Place
  | value frames, token => takeValue frames token
  | firstItem frames, .closeBracket => deliver frames (.list [] none)
  | firstItem frames, token => takeValue (.items [] :: frames) token
  | firstKey frames, .closeBrace => deliver frames (.map [] none)
  | firstKey frames, token => takeKey frames [] token
  | nextKey frames before, token => takeKey frames before token
  | colon frames before key, .colon => value (.members before key :: frames)
  | colon frames before key, _ => giveUp frames (breakAtKey before key .malformed)
  | afterItem frames before, .comma => value (.items before :: frames)
  | afterItem frames before, .closeBracket => deliver frames (.list before.reverse none)
  | afterItem frames before, _ => giveUp frames (.list before.reverse (some .malformed))
  | afterMember frames before, .comma => nextKey frames before
  | afterMember frames before, .closeBrace => deliver frames (.map before.reverse none)
  | afterMember frames before, _ => giveUp frames (.map before.reverse (some .malformed))
  | complete root, _ => settled root true
  | settled root trailing, _ => settled root trailing

end Place

/-- A document: its value, and whether anything stands after it. -/
structure Source where
  root : Value
  trailing : Bool

def Place.finish : Place → Source
  | value frames => ⟨collapse frames (.hole .ended), false⟩
  | firstItem frames => ⟨collapse frames (.list [] (some .ended)), false⟩
  | firstKey frames => ⟨collapse frames (.map [] (some .ended)), false⟩
  | nextKey frames before => ⟨collapse frames (breakAtKey before (.missing .ended) .ended), false⟩
  | colon frames before key => ⟨collapse frames (breakAtKey before key .ended), false⟩
  | afterItem frames before => ⟨collapse frames (.list before.reverse (some .ended)), false⟩
  | afterMember frames before => ⟨collapse frames (.map before.reverse (some .ended)), false⟩
  | complete root => ⟨root, false⟩
  | settled root trailing => ⟨root, trailing⟩

def Source.ofTokens (tokens : List Token) : Source :=
  (tokens.foldl Place.step (.value [])).finish

def Source.ofText (text : String) : Source := .ofTokens (tokens text.toList)

end Mainboard.Document
