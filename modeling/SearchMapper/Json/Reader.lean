import SearchMapper.Json.Token

/-!
# Reading JSON

Putting tokens together: a stack holds the arrays and objects that are open, innermost first,
and each token either extends the innermost one, opens another or closes it. Exactly one
value must come out. Of two members of one name the later counts.
-/

namespace SearchMapper.Json

/-- An array or object that is not closed yet. -/
inductive Opened where
  /-- An array with the items so far, latest first. -/
  | array (items : List Json)
  /-- An object with the members so far and the name whose value comes next. -/
  | object (members : Members Json) (name : String)

/-- What the next token may be. -/
inductive Due where
  /-- A value; the end of the array too if it is still empty. -/
  | value (mayClose : Bool)
  /-- The name of a member; the end of the object too if it is still empty. -/
  | name (mayClose : Bool)
  | colon
  | commaOrClose
  /-- The text is complete. -/
  | finished (value : Json)

/-- Arrays and objects may be open up to this depth. -/
def maxDepth : Nat := 127

/-- The state after a value is complete. -/
def complete (value : Json) : List Opened → List Opened × Due
  | [] => ([], .finished value)
  | .array items :: outer => (.array (value :: items) :: outer, .commaOrClose)
  | .object members name :: outer =>
    (.object (Members.insert name value members) name :: outer, .commaOrClose)

/-- Opens an array or object, unless too many are open. -/
def enter (opened : Opened) (due : Due) (stack : List Opened) : Option (List Opened × Due) :=
  if stack.length < maxDepth then some (opened :: stack, due) else none

/-- Closes the innermost array. -/
def closeArray : List Opened → Option (List Opened × Due)
  | .array items :: outer => some (complete (.array items.reverse) outer)
  | _ => none

/-- Closes the innermost object. -/
def closeObject : List Opened → Option (List Opened × Due)
  | .object members _ :: outer => some (complete (.object members) outer)
  | _ => none

/-- Reads one token. -/
def readStep (state : List Opened × Due) (token : Token) : Option (List Opened × Due) :=
  let stack := state.1
  match state.2, token with
  | .value _, .scalar value => some (complete value stack)
  | .value _, .openArray => enter (.array []) (.value true) stack
  | .value _, .openObject => enter (.object [] "") (.name true) stack
  | .value true, .closeArray => closeArray stack
  | .name true, .closeObject => closeObject stack
  | .name _, .scalar (.string name) =>
    match stack with
    | .object members _ :: outer => some (.object members name :: outer, .colon)
    | _ => none
  | .colon, .colon => some (stack, .value false)
  | .commaOrClose, .comma =>
    match stack with
    | .array _ :: _ => some (stack, .value false)
    | .object _ _ :: _ => some (stack, .name false)
    | [] => none
  | .commaOrClose, .closeArray => closeArray stack
  | .commaOrClose, .closeObject => closeObject stack
  | _, _ => none

/-- The value of a JSON text. -/
def parse? (text : String) : Option Json := do
  let tokens ← tokens? text
  match ← tokens.foldlM readStep ([], .value false) with
  | (_, .finished value) => some value
  | _ => none

end SearchMapper.Json
