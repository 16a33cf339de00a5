import HotReload.Toml.Scalar
import HotReload.Toml.Text

/-!
# Reading TOML documents

A document is read statement by statement into a tree of tables. Every key and every table is defined
once; a table that only came about on the way to another one may still get a header of its own, one
that came about through dotted keys may not. Values may be nested 79 deep, and a key may have as many
parts.
-/

namespace HotReload.Toml

/-- Values may be nested less deep than this, and keys have fewer parts. -/
def nestingLimit : Nat := 80

/-! ## Keys -/

def Cursor.skipBlanks (cur : Cursor) : Cursor :=
  cur.with (cur.rest.dropWhile fun c => c == ' ' || c == '\t')

/-- Whether `c` may stand in a key without quotes. -/
def isKeyChar (c : Char) : Bool :=
  c.isAlphanum || c == '_' || c == '-'

/-- Reads one part of a key; none if no part can start here. -/
def keyPart (fuel : Nat) (cur : Cursor) : Except Nat (Option (String × Cursor)) :=
  match cur.rest with
  | '"' :: rest => some <$> basicText fuel [] (cur.with rest)
  | '\'' :: rest => some <$> literalText (cur.with rest)
  | cs =>
    match cs.takeWhile isKeyChar with
    | [] => .ok none
    | word => .ok (some (.ofList word, cur.with (cs.dropWhile isKeyChar)))

/-- Reads the parts of a key and the blanks around them; none if there is no part. A dot that no part
follows does not belong to the key. Every character needs at most one step of `fuel`. -/
def keyParts (fuel : Nat) (cur : Cursor) : Except Nat (Option (List String × Cursor)) :=
  match fuel with
  | 0 => .error cur.line
  | fuel + 1 => do
    match ← keyPart fuel cur.skipBlanks with
    | none => return none
    | some (part, cur) =>
      let cur := cur.skipBlanks
      match cur.rest with
      | '.' :: rest =>
        match ← keyParts fuel (cur.with rest) with
        | some (parts, after) => return some (part :: parts, after)
        | none => return some ([part], cur)
      | _ => return some ([part], cur)

/-- Reads a key; none if there is none here or it has too many parts. -/
def key? (fuel : Nat) (cur : Cursor) : Except Nat (Option (List String × Cursor)) := do
  let found ← keyParts fuel cur
  return found.filter fun (parts, _) => parts.length < nestingLimit

def key (fuel : Nat) (cur : Cursor) : Except Nat (List String × Cursor) := do
  match ← key? fuel cur with
  | some found => return found
  | none => throw cur.line

/-- Skips one given character. -/
def expect (want : Char) (cur : Cursor) : Except Nat Cursor :=
  match cur.rest with
  | c :: rest => if c = want then .ok (cur.with rest) else .error cur.line
  | [] => .error cur.line

/-! ## The tree of tables -/

/-- What a key stands for while a document is read. -/
inductive Node where
  /-- A value and the line it starts on. -/
  | leaf (line : Nat) (v : Value)
  /-- A table. `implied` tables came about on the way to something else, `dotted` ones through a
  dotted key. -/
  | table (line : Nat) (implied dotted : Bool) (fields : List (String × Node))
  /-- The tables of one repeated header, latest first, and the line of the first header. -/
  | tables (line : Nat) (items : List (List (String × Node)))

/-- The fields of a table, in the order of the document. -/
abbrev Fields := List (String × Node)

def Fields.find? (fields : Fields) (name : String) : Option Node :=
  (List.find? (fun f => f.1 == name) fields).map (·.2)

/-- Replaces the node under a key, or adds it at the end. -/
def Fields.put (fields : Fields) (name : String) (node : Node) : Fields :=
  if List.any fields fun f => f.1 == name then
    fields.map fun f => if f.1 == name then (name, node) else f
  else fields ++ [(name, node)]

def Fields.remove (fields : Fields) (name : String) : Fields :=
  fields.filter fun f => f.1 != name

/-- Changes the table at a path with `change`, which is told whether the table came about through a
dotted key. Missing tables on the way are made. `dotted` says whether the path belongs to a dotted
key, which may only lead through tables without a header of their own. The outcome is none if the
path leads through a value or such a table, or if `change` fails. -/
def Fields.update? (line : Nat) (dotted : Bool) (change : Bool → Fields → Option Fields)
    (here : Bool) (fields : Fields) : List String → Option Fields
  | [] => change here fields
  | name :: path =>
    match fields.find? name with
    | none => do
      let inner ← Fields.update? line dotted change dotted [] path
      return fields.put name (.table line true dotted inner)
    | some (.leaf ..) => none
    | some (.table tableLine implied wasDotted inner) =>
      if dotted && !implied then none
      else do
        let inner ← Fields.update? line dotted change wasDotted inner path
        return fields.put name (.table tableLine implied wasDotted inner)
    | some (.tables _ []) => none
    | some (.tables tableLine (last :: others)) => do
      let last ← Fields.update? line dotted change false last path
      return fields.put name (.tables tableLine (last :: others))

/-- Defines the key `path.name`. A key with a path may only add to tables made by dotted keys, and no
key is defined twice. -/
def Fields.define? (line : Nat) (fields : Fields) (path : List String) (name : String)
    (node : Node) : Option Fields :=
  fields.update? line true (fun reachedDotted table =>
    if (!path.isEmpty && !reachedDotted) || (table.find? name).isSome then none
    else some (table.put name node)) false path

mutual

/-- The value of a finished node with its line. -/
def Node.finish : Node → Nat × Value
  | .leaf line v => (line, v)
  | .table line _ _ fields => (line, .table (finishFields fields))
  | .tables line items => (line, .array (finishTables items []))

def finishFields : List (String × Node) → List (String × Nat × Value)
  | [] => []
  | (name, node) :: fields => (name, node.finish) :: finishFields fields

/-- The values of repeated tables, given latest first, in front of `acc`. -/
def finishTables : List (List (String × Node)) → List Value → List Value
  | [], acc => acc
  | fields :: items, acc => finishTables items (.table (finishFields fields) :: acc)

end

/-! ## Values -/

def skipComment (cur : Cursor) : Cursor :=
  cur.with (cur.rest.dropWhile isPlain)

/-- Skips blanks, line ends and comments between the items of an array, on the given line and perhaps
inside a comment. A comment ends with its line. -/
def skipGaps (line : Nat) (comment : Bool) : List Char → Except Nat Cursor
  | [] => if comment then .error line else .ok ⟨[], line⟩
  | '\n' :: rest => skipGaps (line + 1) false rest
  | '\r' :: '\n' :: rest => skipGaps (line + 1) false rest
  | c :: rest =>
    if comment then
      if isPlain c then skipGaps line true rest else .error line
    else if c = ' ' ∨ c = '\t' then skipGaps line false rest
    else if c = '#' then skipGaps line true rest
    else if c = '\r' then .error line
    else .ok ⟨c :: rest, line⟩

/-- The key of the next field of an inline table, which only the first field has no comma in front of;
none if no field follows. -/
def nextKey (fuel : Nat) (first : Bool) (cur : Cursor) :
    Except Nat (Option (List String × Cursor)) :=
  if first then key? fuel cur
  else
    match cur.rest with
    | ',' :: rest => key? fuel (cur.with rest)
    | _ => .ok none

/-- Ends an inline table with the given fields, each with the lines of its key and of its value. A key
defined twice is a fault of the line `start`, also where the closing brace is missing. -/
def closeInline (start : Nat) (fields : List (List String × Nat × Nat × Value)) (cur : Cursor) :
    Except Nat (Value × Cursor) := do
  let table? := fields.foldlM (fun (table : Fields) (path, keyLine, line, v) => do
    table.define? keyLine path.dropLast (← path.getLast?) (.leaf line v)) []
  match table? with
  | none => throw start
  | some table => return (.table (finishFields table), ← expect '\x7d' cur.skipBlanks)

/-- Removes a word from the front of a text. -/
def word (w : List Char) (v : Value) (cur : Cursor) : Except Nat (Value × Cursor) :=
  match w.isPrefixOf? cur.rest with
  | some rest => .ok (v, cur.with rest)
  | none => .error cur.line

mutual

/-- Reads a value inside `depth` arrays and inline tables. Every character of the text needs at most
two steps of `fuel`. -/
def value (fuel depth : Nat) (cur : Cursor) : Except Nat (Value × Cursor) :=
  match fuel with
  | 0 => .error cur.line
  | fuel + 1 =>
    match cur.rest with
    | [] => .error cur.line
    | c :: rest =>
      if c = '"' ∨ c = '\'' then do
        let (s, cur) ← text fuel cur
        return (.text s, cur)
      else if c = '[' then
        if nestingLimit ≤ depth + 1 then .error cur.line
        else arrayItems fuel (depth + 1) [] (cur.with rest)
      else if c = '\x7b' then
        if nestingLimit ≤ depth + 1 then .error cur.line
        else inlineFields fuel (depth + 1) cur.line [] (cur.with rest)
      else if c = 't' then word ['t', 'r', 'u', 'e'] (.bool true) cur
      else if c = 'f' then word ['f', 'a', 'l', 's', 'e'] (.bool false) cur
      else
        match numeric cur.rest with
        | .ok (some (v, rest)) => .ok (v, cur.with rest)
        | _ => .error cur.line

/-- Reads the items of an array and its closing bracket; a comma may follow the last item. An item
counts as read only once the gap after it is sound, so a fault there is one of the item's line. -/
def arrayItems (fuel depth : Nat) (acc : List Value) (cur : Cursor) : Except Nat (Value × Cursor) :=
  match fuel with
  | 0 => .error cur.line
  | fuel + 1 => do
    let cur ← skipGaps cur.line false cur.rest
    match cur.rest with
    | ']' :: rest => return (.array acc.reverse, cur.with rest)
    | _ =>
      let (item, after) ← value fuel depth cur
      let after ← (skipGaps after.line false after.rest).mapError fun _ => cur.line
      match after.rest with
      | ',' :: rest => arrayItems fuel depth (item :: acc) (after.with rest)
      | ']' :: rest => return (.array (item :: acc).reverse, after.with rest)
      | _ => throw after.line

/-- Reads the fields of an inline table, which starts on the line `start`, and its closing brace. -/
def inlineFields (fuel depth start : Nat) (acc : List (List String × Nat × Nat × Value))
    (cur : Cursor) : Except Nat (Value × Cursor) :=
  match fuel with
  | 0 => .error cur.line
  | fuel + 1 => do
    match ← nextKey fuel acc.isEmpty cur with
    | none => closeInline start acc.reverse cur
    | some (path, after) =>
      let after ← expect '=' after
      let after := after.skipBlanks
      let (v, next) ← value fuel depth after
      inlineFields fuel depth start ((path, cur.line, after.line, v) :: acc) next.skipBlanks

end

/-! ## Documents -/

/-- The state in which the statements of a document are read. -/
structure Reader where
  root : Fields
  /-- The path of the table that keys are being added to; empty for the root itself. -/
  path : List String
  /-- Whether that table is one of a repeated header. -/
  repeated : Bool
  line : Nat
  current : Fields

namespace Reader

def start : Reader where
  root := []
  path := []
  repeated := false
  line := 1
  current := []

/-- Adds the current table to the finished ones. -/
def close? (r : Reader) : Option Fields :=
  match r.path.getLast? with
  | none => some r.current
  | some name =>
    r.root.update? r.line false (fun _ table =>
      if r.repeated then
        match table.find? name with
        | none => some (table.put name (.tables r.line [r.current]))
        | some (.tables line items) => some (table.put name (.tables line (r.current :: items)))
        | some _ => none
      else
        match table.find? name with
        | none => some (table.put name (.table r.line false false r.current))
        | some _ => none) false r.path.dropLast

/-- Starts the table of a header. It takes over the fields of a table that so far was only implied. -/
def openTable? (line : Nat) (root : Fields) (path : List String) : Option Reader := do
  let name ← path.getLast?
  let root ← root.update? line false (fun _ table => some table) false path.dropLast
  match lookup root path with
  | none => return { root, path, repeated := false, line, current := [] }
  | some (.table _ true false inner) =>
    let root ← root.update? line false (fun _ table => some (table.remove name)) false path.dropLast
    return { root, path, repeated := false, line, current := inner }
  | some _ => none
where
  /-- The node at a path, going through the latest table of a repeated header. -/
  lookup (fields : Fields) : List String → Option Node
    | [] => none
    | [name] => fields.find? name
    | name :: path =>
      match fields.find? name with
      | some (.table _ _ _ inner) => lookup inner path
      | some (.tables _ (last :: _)) => lookup last path
      | _ => none

/-- Starts one more table of a repeated header. -/
def openRepeated? (line : Nat) (root : Fields) (path : List String) : Option Reader := do
  let name ← path.getLast?
  let root ← root.update? line false (fun _ table =>
    match table.find? name with
    | none => some (table.put name (.tables line []))
    | some (.tables ..) => some table
    | some _ => none) false path.dropLast
  return { root, path, repeated := true, line, current := [] }

/-- Adds a key to the current table. -/
def define? (r : Reader) (line : Nat) (path : List String) (node : Node) : Option Reader := do
  let name ← path.getLast?
  let current ← r.current.define? line path.dropLast name node
  return { r with current }

end Reader

/-- Reads the end of a statement: blanks, a comment, and the end of the line or of the document. -/
def endOfLine (cur : Cursor) : Except Nat Cursor :=
  let cur := cur.skipBlanks
  let cur :=
    match cur.rest with
    | '#' :: _ => skipComment cur
    | _ => cur
  match cur.rest with
  | [] => .ok cur
  | cs =>
    match lineEnd? cs with
    | some rest => .ok (cur.nextLine rest)
    | none => .error cur.line

def header (fuel : Nat) (r : Reader) (cur : Cursor) : Except Nat (Reader × Cursor) := do
  let line := cur.line
  match cur.rest with
  | '[' :: '[' :: rest =>
    let (path, cur) ← key fuel (cur.with rest)
    let cur ← expect ']' cur
    let cur ← expect ']' cur
    let cur ← endOfLine cur
    match r.close?.bind (Reader.openRepeated? line · path) with
    | some r => return (r, cur)
    | none => throw line
  | _ =>
    let (path, cur) ← key fuel (cur.with (cur.rest.drop 1))
    let cur ← expect ']' cur
    let cur ← endOfLine cur
    match r.close?.bind (Reader.openTable? line · path) with
    | some r => return (r, cur)
    | none => throw line

def keyValue (fuel : Nat) (r : Reader) (cur : Cursor) : Except Nat (Reader × Cursor) := do
  let line := cur.line
  let (path, cur) ← key fuel cur
  let cur ← expect '=' cur
  let cur := cur.skipBlanks
  let valueLine := cur.line
  let (v, cur) ← value (2 * fuel) 0 cur
  let cur ← endOfLine cur
  match r.define? line path (.leaf valueLine v) with
  | some r => return (r, cur)
  | none => throw line

/-- Reads the statements of a document. Every character needs at most one step of `fuel`. -/
def statements (fuel : Nat) (r : Reader) (cur : Cursor) : Except Nat Fields :=
  match fuel with
  | 0 => .error cur.line
  | fuel + 1 => do
    let cur := cur.skipBlanks
    match cur.rest with
    | [] =>
      match r.close? with
      | some root => return root
      | none => throw r.line
    | '#' :: _ => statements fuel r (← endOfLine cur)
    | '\n' :: rest => statements fuel r (cur.nextLine rest)
    | '\r' :: '\n' :: rest => statements fuel r (cur.nextLine rest)
    | '[' :: _ =>
      let (r, cur) ← header fuel r cur
      statements fuel r cur
    | _ =>
      let (r, cur) ← keyValue fuel r cur
      statements fuel r cur

/-- Reads a document: the fields of its root table, or the line of the first fault. A byte order mark
at the start is skipped. -/
def parse (document : String) : Except Nat (List (String × Nat × Value)) := do
  let cs :=
    match document.toList with
    | '\ufeff' :: rest => rest
    | cs => cs
  return finishFields (← statements (cs.length + 2) .start ⟨cs, 1⟩)

end HotReload.Toml
