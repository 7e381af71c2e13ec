import PlayerSession.Json.Token

/-! The tree of a JSON text.  The tree of a text that stops being JSON holds everything up to that
point and the reason there, so that what is wrong further to the left can still be found first.  The
tree is built by a fold over the tokens, with a stack of the arrays and objects that are open. -/

namespace PlayerSession.Json

mutual

/-- A value, up to where the text stops being JSON. -/
inductive Doc where
  | null
  | boolean (b : Bool)
  /-- A number, or none where it is too large for a double. -/
  | number (value : Option Number)
  /-- A string, or none where it holds half of a surrogate pair. -/
  | text (value : Option String)
  | array (items : Items)
  | object (members : Members)
  /-- No value stands where one has to stand. -/
  | stop (reason : Stop)

/-- The items of an array in the order of the text, up to its bracket or to where it stops. -/
inductive Items where
  | close
  | stop (reason : Stop)
  | item (value : Doc) (rest : Items)

/-- The members of an object in the order of the text, up to its bracket or to where it stops. -/
inductive Members where
  | close
  | stop (reason : Stop)
  | member (name : Option String) (value : Doc) (rest : Members)

end

/-- The items `done`, the last first, and what follows them. -/
def Items.ofReversed (done : List Doc) (rest : Items) : Items :=
  done.foldl (fun rest value => .item value rest) rest

/-- The members `done`, the last first, and what follows them. -/
def Members.ofReversed (done : List (Option String × Doc)) (rest : Members) : Members :=
  done.foldl (fun rest m => .member m.1 m.2 rest) rest

/-! ### Building the tree -/

/-- An array or object that is open: its items or members so far, the last first. -/
inductive Frame where
  | array (done : List Doc)
  /-- The value of the member `name` is under way. -/
  | object (done : List (Option String × Doc)) (name : Option String)

/-- What may come next. -/
inductive State where
  | value (stack : List Frame)
  /-- The first item of an array, or its end. -/
  | firstItem (stack : List Frame)
  /-- A comma, or the end of the array. -/
  | afterItem (done : List Doc) (stack : List Frame)
  /-- The name of the first member of an object, or its end. -/
  | firstName (stack : List Frame)
  | nextName (done : List (Option String × Doc)) (stack : List Frame)
  | colon (done : List (Option String × Doc)) (name : Option String) (stack : List Frame)
  /-- A comma, or the end of the object. -/
  | afterMember (done : List (Option String × Doc)) (stack : List Frame)
  /-- Nothing more.  `alone` says that nothing has come after the value. -/
  | ended (doc : Doc) (alone : Bool)

namespace State

def complete (doc : Doc) : List Frame → State
  | [] => .ended doc true
  | .array done :: stack => .afterItem (doc :: done) stack
  | .object done name :: stack => .afterMember ((name, doc) :: done) stack

/-- The text stops inside a value: what is open stays as it is. -/
def abandon (doc : Doc) : List Frame → State
  | [] => .ended doc false
  | .array done :: stack => abandon (.array (.ofReversed (doc :: done) .close)) stack
  | .object done name :: stack => abandon (.object (.ofReversed ((name, doc) :: done) .close)) stack

def abandonItems (done : List Doc) (reason : Stop) (stack : List Frame) : State :=
  abandon (.array (.ofReversed done (.stop reason))) stack

def abandonMembers (done : List (Option String × Doc)) (reason : Stop) (stack : List Frame) : State :=
  abandon (.object (.ofReversed done (.stop reason))) stack

def abandonValue (done : List (Option String × Doc)) (name : Option String) (reason : Stop)
    (stack : List Frame) : State :=
  abandon (.stop reason) (.object done name :: stack)

def beginValue (stack : List Frame) : Token → State
  | .openArray => .firstItem stack
  | .openObject => .firstName stack
  | .null => complete .null stack
  | .boolean b => complete (.boolean b) stack
  | .number n => complete (.number n) stack
  | .text s => complete (.text s) stack
  | .brokenText reason | .broken reason => abandon (.stop reason) stack
  | .closeArray | .closeObject | .comma | .colon => abandon (.stop (.both .malformed)) stack

def takeName (done : List (Option String × Doc)) (stack : List Frame) : Token → State
  | .text name => .colon done name stack
  | .brokenText reason => abandonMembers done reason stack
  | _ => abandonMembers done (.both .malformed) stack

def step : State → Token → State
  | .value stack, t => beginValue stack t
  | .firstItem stack, .closeArray => complete (.array .close) stack
  | .firstItem stack, t => beginValue (.array [] :: stack) t
  | .afterItem done stack, .comma => .value (.array done :: stack)
  | .afterItem done stack, .closeArray => complete (.array (.ofReversed done .close)) stack
  | .afterItem done stack, _ => abandonItems done (.both .malformed) stack
  | .firstName stack, .closeObject => complete (.object .close) stack
  | .firstName stack, t => takeName [] stack t
  | .nextName done stack, t => takeName done stack t
  | .colon done name stack, .colon => .value (.object done name :: stack)
  | .colon done name stack, _ => abandonValue done name (.both .malformed) stack
  | .afterMember done stack, .comma => .nextName done stack
  | .afterMember done stack, .closeObject => complete (.object (.ofReversed done .close)) stack
  | .afterMember done stack, _ => abandonMembers done (.both .malformed) stack
  | .ended doc _, _ => .ended doc false

def finish : State → State
  | .value stack => abandon (.stop (.both .truncated)) stack
  | .firstItem stack => abandonItems [] (.both .truncated) stack
  | .afterItem done stack => abandonItems done (.both .truncated) stack
  | .firstName stack => abandonMembers [] (.both .truncated) stack
  | .nextName done stack => abandonMembers done (.both .truncated) stack
  | .colon done name stack => abandonValue done name (.both .truncated) stack
  | .afterMember done stack => abandonMembers done (.both .truncated) stack
  | .ended doc alone => .ended doc alone

end State

/-- The tree of a text, and whether nothing but white space follows the value. -/
structure Tree where
  doc : Doc
  alone : Bool

def Tree.ofTokens (ts : List Token) : Tree :=
  match (ts.foldl State.step (.value [])).finish with
  | .ended doc alone => ⟨doc, alone⟩
  | _ => ⟨.stop (.both .malformed), false⟩

def Tree.ofText (s : String) : Tree := .ofTokens (tokens s.toList)

/-! ### Values that are passed over -/

mutual

/-- Passes over a value: nothing but its being JSON matters. -/
def Doc.skip : Doc → Reading Unit
  | .array items => items.skip
  | .object members => members.skip
  | .stop reason => .error reason.skip
  | .null | .boolean _ | .number _ | .text _ => .ok ()

def Items.skip : Items → Reading Unit
  | .close => .ok ()
  | .stop reason => .error reason.skip
  | .item value rest => do value.skip; rest.skip

def Members.skip : Members → Reading Unit
  | .close => .ok ()
  | .stop reason => .error reason.skip
  | .member _ value rest => do value.skip; rest.skip

end

end PlayerSession.Json
