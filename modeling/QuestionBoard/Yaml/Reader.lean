import QuestionBoard.Yaml.Cursor

/-!
Reading YAML documents: block mappings and lists by their columns, flow mappings and lists in
brackets, and scalars. A block collection holds what starts in its column; what is nested in it starts
further right, but a list under a key may start in the column of the key. Recursion is bounded by
fuel, of which a text gets more than it can use. The nodes of a document are read before it is asked
what they mean.

Tags, anchors and aliases, block scalars, directives, keys behind a question mark and merge keys are not
read: a text with one of them counts as one that breaks the grammar. Settings may be loaded with another
reader in place of this one.
-/

namespace QuestionBoard

namespace Yaml

/-- Whether a colon is near enough to the start of a key: on its line, and at most 1024 characters
away. -/
def isNear (key colon : Cursor) : Bool :=
  colon.line == key.line && key.rest.length ≤ colon.rest.length + 1024

def startsQuote (cs : List Char) : Bool := cs.head? == some '"' || cs.head? == some '\''

def quotedScalar (c : Cursor) : Except Json.ReadError (Node × Cursor) :=
  match c.rest with
  | quote :: rest => (readQuoted quote (rest.length + 1) rest).map fun (text, left) =>
      (.quoted (.ofPoints text), c.moveTo left)
  | [] => .error .malformed

/-- Reads a plain scalar whose further lines start at a column or after it. -/
def plainScalar (inFlow : Bool) (column : Nat) (c : Cursor) : Node × Cursor :=
  let (line, left) := plainLine inFlow c.rest
  let (more, after) := plainLines inFlow column left.length (c.moveTo left)
  (.plain (String.ofList (withoutEndBlanks line ++ more)), after)

/-! ### Flow collections -/

mutual

/-- Reads a part inside brackets, or the collection that starts there. -/
def flowNode : Nat → Cursor → Except Json.ReadError (Node × Cursor)
  | 0, _ => .error .malformed
  | fuel + 1, c =>
    match c.rest with
    | '[' :: _ => (flowItems fuel (c.advance 1) []).map fun (items, c) => (.list items, c)
    | '{' :: _ => (flowEntries fuel (c.advance 1) []).map fun (entries, c) => (.mapping entries, c)
    | cs =>
      if startsQuote cs then quotedScalar c
      else if startsPlain true cs then .ok (plainScalar true 0 c)
      else .error .malformed
termination_by structural fuel => fuel

/-- Reads the value after a key inside brackets, if there is a colon. -/
def flowValue : Nat → Cursor → Cursor → Except Json.ReadError (Option Node × Cursor)
  | 0, _, _ => .error .malformed
  | fuel + 1, key, c =>
    let colon := c.skip
    if colon.rest.head? == some ':' then
      if !isNear key colon then .error .malformed
      else
        let next := (colon.advance 1).skip
        match next.rest with
        | ',' :: _ | ']' :: _ | '}' :: _ => .ok (some (.plain ""), next)
        | _ => (flowNode fuel next).map fun (value, c) => (some value, c)
    else .ok (none, c)
termination_by structural fuel => fuel

/-- Reads the items of a list in brackets, after those that were read. -/
def flowItems : Nat → Cursor → List Node → Except Json.ReadError (List Node × Cursor)
  | 0, _, _ => .error .malformed
  | fuel + 1, c, done => do
    let c := c.skip
    if c.rest.head? == some ']' then return (done, c.advance 1)
    let (item, after) ← flowNode fuel c
    let (value, after) ← flowValue fuel c after
    let item := match value with
      | none => item
      | some value => .mapping [(item, value)]
    let after := after.skip
    match after.rest with
    | ',' :: _ => flowItems fuel (after.advance 1) (done ++ [item])
    | ']' :: _ => return (done ++ [item], after.advance 1)
    | _ => .error .malformed
termination_by structural fuel => fuel

/-- Reads the entries of a mapping in brackets, after those that were read. -/
def flowEntries : Nat → Cursor → List (Node × Node) → Except Json.ReadError (List (Node × Node) × Cursor)
  | 0, _, _ => .error .malformed
  | fuel + 1, c, done => do
    let c := c.skip
    if c.rest.head? == some '}' then return (done, c.advance 1)
    let (key, after) ← flowNode fuel c
    let (value, after) ← flowValue fuel c after
    let done := done ++ [(key, value.getD (.plain ""))]
    let after := after.skip
    match after.rest with
    | ',' :: _ => flowEntries fuel (after.advance 1) done
    | '}' :: _ => return (done, after.advance 1)
    | _ => .error .malformed
termination_by structural fuel => fuel

end

/-! ### Block collections -/

/-- What follows the blanks of a line. -/
def skipSpaces (c : Cursor) : Cursor := c.advance (c.rest.takeWhile (· == ' ')).length

def atColon (c : Cursor) : Bool := c.rest.head? == some ':' && endsKey false (c.rest.drop 1)

def blockKey (c : Cursor) : Except Json.ReadError (Node × Cursor) := do
  let (key, after) ←
    if startsQuote c.rest then quotedScalar c
    else if startsPlain false c.rest then
      let (line, left) := plainLine false c.rest
      .ok (.plain (String.ofList (withoutEndBlanks line)), c.moveTo left)
    else .error .malformed
  let colon := skipSpaces after
  if atColon colon && isNear c colon then return (key, colon.advance 1) else .error .malformed

/-- Whether a key starts here. -/
def atKey (c : Cursor) : Bool := (blockKey c).toOption.isSome

/-- The place of the next piece after a complete one, which has to be on another line. -/
def nextLine (c : Cursor) : Except Json.ReadError Cursor :=
  let next := c.skip
  if next.line = c.line && !next.rest.isEmpty then .error .malformed else .ok next

mutual

/-- Reads the node that starts here; its lines start after the column of what holds it. Behind a key,
on the same line, no block collection may start. -/
def blockNode : Nat → Nat → Bool → Cursor → Except Json.ReadError (Node × Cursor)
  | 0, _, _, _ => .error .malformed
  | fuel + 1, column, behindKey, c =>
    if c.atDash then
      if behindKey then .error .malformed
      else (blockItems fuel c.column c []).map fun (items, c) => (.list items, c)
    else match c.rest with
      | '[' :: _ | '{' :: _ => do
        let (value, after) ← flowNode fuel c
        if (skipSpaces after).rest.head? == some ':' then throw .malformed
        return (value, after)
      | cs =>
        if atKey c then
          if behindKey then .error .malformed
          else (blockEntries fuel c.column c []).map fun (entries, c) => (.mapping entries, c)
        else if startsQuote cs then quotedScalar c
        else if startsPlain false cs then .ok (plainScalar false column c)
        else .error .malformed
termination_by structural fuel => fuel

/-- Reads what follows a dash or a key in a column; behind a key a list may start in that column. -/
def blockValue : Nat → Nat → Bool → Cursor → Except Json.ReadError (Node × Cursor)
  | 0, _, _, _ => .error .malformed
  | fuel + 1, column, isKey, c =>
    let next := c.skip
    if next.atEnd then .ok (.plain "", c)
    else if next.line = c.line then blockNode fuel (column + 1) isKey next
    else if column < next.column then blockNode fuel (column + 1) false next
    else if isKey && column = next.column && next.atDash then blockNode fuel (column + 1) false next
    else .ok (.plain "", c)
termination_by structural fuel => fuel

/-- Reads the items of a list in a column, after those that were read. -/
def blockItems : Nat → Nat → Cursor → List Node → Except Json.ReadError (List Node × Cursor)
  | 0, _, _, _ => .error .malformed
  | fuel + 1, column, c, done => do
    let (item, after) ← blockValue fuel column false (c.advance 1)
    let next ← nextLine after
    let done := done ++ [item]
    if next.atEnd || next.column < column then return (done, after)
    else if next.column = column then
      if next.atDash then blockItems fuel column next done else return (done, after)
    else throw .malformed
termination_by structural fuel => fuel

/-- Reads the entries of a mapping in a column, after those that were read. -/
def blockEntries : Nat → Nat → Cursor → List (Node × Node) → Except Json.ReadError (List (Node × Node) × Cursor)
  | 0, _, _, _ => .error .malformed
  | fuel + 1, column, c, done => do
    let (key, after) ← blockKey c
    let (value, after) ← blockValue fuel column true after
    let next ← nextLine after
    let done := done ++ [(key, value)]
    if next.atEnd || next.column < column then return (done, after)
    else if next.column = column then blockEntries fuel column next done
    else throw .malformed
termination_by structural fuel => fuel

end

/-! ### Documents -/

/-- Whether a character may stand in a document. -/
def isAllowed (c : Char) : Bool :=
  let n := c.toNat
  c == '\t' || c == '\n' || (0x20 ≤ n && n ≤ 0x7e) || n == 0x85 || (0xa0 ≤ n && n ≠ 0xfffe && n ≠ 0xffff)

/-- Whether a document ends here, and no other one follows. -/
def endsDocument : Nat → Cursor → Bool
  | 0, _ => false
  | fuel + 1, c =>
    let next := c.skip
    if next.rest.isEmpty then true
    else next.atMarker && next.rest.head? == some '.' && endsDocument fuel (next.advance 3)

/-- A text without the mark of its byte order. -/
def withoutMark : List Char → List Char
  | '\ufeff' :: rest => rest
  | cs => cs

/-- Where the document of a text starts, and whether that is behind a marker, on the same line. -/
def documentStart (c : Cursor) : Cursor × Bool :=
  let first := c.skip
  if first.atMarker && first.rest.head? == some '-' then
    let start := (first.advance 3).skip
    (start, start.line == first.line)
  else (first, false)

def compose (text : String) : Except Json.ReadError Node :=
  let cs := withoutMark text.toList
  let fuel := 4 * cs.length + 8
  let (start, behindMarker) := documentStart ⟨cs, 0, 0⟩
  if !text.toList.all isAllowed then .error .malformed
  else if start.atEnd then
    if endsDocument fuel start then .ok (.plain "") else .error .malformed
  else do
    let (node, after) ← blockNode fuel 0 behindMarker start
    let _ ← nextLine after
    if endsDocument fuel after then return node else throw .malformed

def parse (text : String) : Except Json.ReadError Yaml :=
  match compose text with
  | .error e => .error e
  | .ok node =>
    match Node.firstFault (4 * text.length + 8) [(false, node)] with
    | some e => .error e
    | none => node.value

end Yaml

end QuestionBoard
