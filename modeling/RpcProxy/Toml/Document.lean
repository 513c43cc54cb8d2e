import RpcProxy.Toml.Scalar

/-!
# Tables of a TOML document

A document defines its tables bit by bit: by headers, by headers of arrays of tables, and by dotted
keys. Which definitions may follow which depends on how a table came about, so while a document is
read every table remembers whether it was only implied by a longer path and whether dotted keys
made it. `Table.value` forgets all that.
-/

set_option autoImplicit false

namespace RpcProxy.Toml

mutual

/-- What stands under a key while a document is read. -/
inductive Node where
  | value (v : Value)
  /-- A table that may still grow. -/
  | table (t : Table)
  /-- An array of tables, the last one first. -/
  | tables (ts : List Table)

/-- A table while a document is read. -/
inductive Table where
  /-- Its entries, whether a longer path implied it, and whether dotted keys made it. -/
  | mk (entries : List (String × Node)) (implied dotted : Bool)

end

namespace Table

/-- A table without entries that a header defined. -/
def fresh : Table := .mk [] false false

def entries : Table → List (String × Node)
  | .mk es _ _ => es

/-- Whether only a longer path implied the table. -/
def implied : Table → Bool
  | .mk _ b _ => b

/-- Whether dotted keys made the table. -/
def dotted : Table → Bool
  | .mk _ _ b => b

def define : Table → Table
  | .mk es _ d => .mk es false d

/-- What stands under a key. -/
def find? (t : Table) (key : String) : Option Node := t.entries.lookup key

/-- The table with a node under a key, in its old place if the key is known. -/
def put (t : Table) (key : String) (n : Node) : Table :=
  match t with
  | .mk es i d =>
    if es.any (·.1 == key) then .mk (es.map fun e => if e.1 == key then (key, n) else e) i d
    else .mk (es ++ [(key, n)]) i d

def erase (t : Table) (key : String) : Table :=
  match t with
  | .mk es i d => .mk (es.filter (·.1 != key)) i d

/-- Changes the table at the end of a path, making tables on the way. Dotted keys pass only
through tables that no header defined; of an array of tables the last one is meant. -/
def within (byDots : Bool) (f : Table → Option Table) : List String → Table → Option Table
  | [], t => f t
  | key :: path, t =>
    match t.find? key with
    | none => do
      let child ← within byDots f path (.mk [] true byDots)
      return t.put key (.table child)
    | some (.table child) =>
      if byDots && !child.implied then none
      else do
        let child ← within byDots f path child
        return t.put key (.table child)
    | some (.tables (last :: before)) => do
      let last ← within byDots f path last
      return t.put key (.tables (last :: before))
    | some _ => none

/-- Opens the table of a header; from then on it is the last entry. A table that has a header, or
that dotted keys made, stays as it is and the header is refused. -/
def openTable (key : String) (t : Table) : Option Table :=
  match t.find? key with
  | none => some (t.put key (.table fresh))
  | some (.table child) =>
    if child.implied && !child.dotted then some ((t.erase key).put key (.table child.define)) else none
  | some _ => none

/-- Opens one more table of an array of tables. -/
def openItem (key : String) (t : Table) : Option Table :=
  match t.find? key with
  | none => some (t.put key (.tables [fresh]))
  | some (.tables ts) => some (t.put key (.tables (fresh :: ts)))
  | some _ => none

/-- Puts a value under a key that has none yet. `plain` tells that the key had one part: a table
that dotted keys made takes only dotted keys, and any other only plain ones. -/
def define? (plain : Bool) (key : String) (v : Value) (t : Table) : Option Table :=
  if t.dotted == plain then none
  else
    match t.find? key with
    | none => some (t.put key (.value v))
    | some _ => none

/-- Puts a value under a dotted key, below a table. -/
def assign (key : List String) (v : Value) (t : Table) : Option Table :=
  match key.getLast? with
  | none => none
  | some last =>
    let path := key.dropLast
    within true (define? path.isEmpty last v) path t

end Table

mutual

def Node.toValue : Node → Value
  | .value v => v
  | .table t => t.value
  | .tables ts => .array (itemValues ts).reverse

def Table.value : Table → Value
  | .mk es _ _ => .table (entryValues es)

/-- Tables as finished values. -/
def itemValues : List Table → List Value
  | [] => []
  | t :: ts => t.value :: itemValues ts

def entryValues : List (String × Node) → List (String × Value)
  | [] => []
  | (key, n) :: es => (key, n.toValue) :: entryValues es

end

/-! ## Values that nest -/

mutual

/-- A value, nested at most `depth` deep; `fuel` bounds the number of values. -/
def value (depth : Nat) : Nat → Reader Value
  | 0 => failure
  | fuel + 1 => do
    match ← Reader.peek with
    | some '"' => return .string (← anyString)
    | some '\'' => return .string (← anyString)
    | some 't' => Reader.text "true"; return .boolean true
    | some 'f' => Reader.text "false"; return .boolean false
    | some '[' =>
      Reader.char '['
      Reader.check (2 ≤ depth)
      return .array (← arrayItems (depth - 1) [] fuel)
    | some '\x7b' =>
      Reader.char '\x7b'
      Reader.check (2 ≤ depth)
      gap
      match ← optional (Reader.char '\x7d') with
      | some _ => return .table []
      | none => return (← inlineEntries (depth - 1) (.mk [] false false) fuel).value
    | _ => number

/-- The items of an array up to its closing bracket. -/
def arrayItems (depth : Nat) (done : List Value) : Nat → Reader (List Value)
  | 0 => failure
  | fuel + 1 => do
    skipLines
    match ← optional (Reader.char ']') with
    | some _ => return done.reverse
    | none =>
      let v ← value depth fuel
      skipLines
      match ← optional (Reader.char ',') with
      | some _ => arrayItems depth (v :: done) fuel
      | none =>
        Reader.char ']'
        return (v :: done).reverse

/-- The entries of an inline table up to its closing brace. -/
def inlineEntries (depth : Nat) (t : Table) : Nat → Reader Table
  | 0 => failure
  | fuel + 1 => do
    let key ← dottedKey
    Reader.char '='
    gap
    let v ← value depth fuel
    gap
    match t.assign key v with
    | none => failure
    | some t =>
      match ← optional (Reader.char ',') with
      | some _ => inlineEntries depth t fuel
      | none =>
        Reader.char '\x7d'
        return t

end

/-! ## Documents -/

/-- What was read so far: all tables, and the path of the table that is being filled. -/
structure Draft where
  /-- The outermost table. -/
  root : Table := .fresh
  /-- The path of the last header. -/
  path : List String := []

/-- Puts a value under a dotted key of the table that is being filled. -/
def Draft.assign (d : Draft) (key : List String) (v : Value) : Option Draft := do
  let root ← Table.within false (Table.assign key v) d.path d.root
  return { d with root }

/-- Starts the table of a header, or one more table of an array if `item`. -/
def Draft.header (d : Draft) (path : List String) (item : Bool) : Option Draft :=
  match path.getLast? with
  | none => none
  | some key => do
    let start := if item then Table.openItem key else Table.openTable key
    let root ← Table.within false start path.dropLast d.root
    return { root, path }

/-- Reads one line of a document; `fuel` bounds the number of its values. -/
def line (fuel : Nat) (d : Draft) : Reader Draft := do
  gap
  match ← Reader.peek with
  | none => return d
  | some '#' => finishLine; return d
  | some '\n' => finishLine; return d
  | some '\r' => finishLine; return d
  | some '[' =>
    Reader.char '['
    let item := (← optional (Reader.char '[')).isSome
    let path ← dottedKey
    Reader.char ']'
    if item then Reader.char ']'
    finishLine
    match d.header path item with
    | some d => return d
    | none => failure
  | some _ =>
    let key ← dottedKey
    Reader.char '='
    gap
    let v ← value maxDepth fuel
    finishLine
    match d.assign key v with
    | some d => return d
    | none => failure

/-- Reads lines to the end of the text. The text bounds their number, and `fuel` the number of
values in each. -/
def document (fuel : Nat) (d : Draft) : List Char → Reader Draft
  | [] => return d
  | _ :: lines => do
    match ← Reader.peek with
    | none => return d
    | some _ => document fuel (← line fuel d) lines

/-- Reads a document; a byte order mark in front does not count. -/
def parse? (text : String) : Option Value :=
  let cs := match text.toList with
    | '\uFEFF' :: cs => cs
    | cs => cs
  match (document (2 * cs.length + 2) {} cs).run cs with
  | some (d, []) => some d.root.value
  | _ => none

end RpcProxy.Toml
