import SapMonitor.Yaml.Block
import SapMonitor.Yaml.Property

/-!
# YAML documents

A settings file is one YAML document: block and flow collections of scalars.
The reader goes down the document by indentation; any departure from the
grammar refuses the whole document.
-/

namespace SapMonitor.Yaml

/-! ## White space and comments -/

/-- The next token: blanks, comments and line breaks are passed, and a byte order
mark at the front of a line.  Tabs are passed only where they cannot be
indentation.  Says whether a line break was passed. -/
def skipGaps (tabs newLine : Bool) : List Char → Nat → Cursor × Bool
  | [], col => (⟨[], col⟩, newLine)
  | c :: rest, col =>
    if c = ' ' || (c = '\t' && tabs) || (c = '\uFEFF' && col = 0) then
      skipGaps tabs newLine rest (col + 1)
    else if isBreak c then skipGaps (tabs && newLine) true rest 0
    else if c = '#' then skipComment tabs newLine rest (col + 1)
    else (⟨c :: rest, col⟩, newLine)
where
  /-- The rest of a comment is passed. -/
  skipComment (tabs newLine : Bool) : List Char → Nat → Cursor × Bool
    | [], col => (⟨[], col⟩, newLine)
    | c :: rest, col =>
      if isBreak c then skipGaps (tabs && newLine) true rest 0
      else skipComment tabs newLine rest (col + 1)

/-- The next token in block style; a tab at the front of a line is no
indentation and begins no token. -/
def blockToken? (tabs : Bool) (c : Cursor) : Option (Cursor × Bool) :=
  let found := skipGaps tabs false c.rest c.column
  if found.1.rest.head? = some '\t' then none else some found

/-- The next token inside a flow collection. -/
def flowToken (c : Cursor) : Cursor :=
  (skipGaps true true c.rest c.column).1

/-- Whether the text between two places can be a key that only its colon marks:
it is part of one line and not too long. -/
def isSimpleKey (start stop : Cursor) : Bool :=
  let n := start.rest.length - stop.rest.length
  n ≤ 1024 && !(start.rest.take n).any isBreak

/-! ## Flow style -/

/-- The node last given the name after the indicator of a mention. -/
def mention? (c : Cursor) : Option (Draft × Cursor) :=
  (anchorName? (c.advance 1)).map fun (name, after) => (.mention name, after)

/-- The properties of a node of a flow collection; a node has at most two. -/
def flowProperties? (c : Cursor) : Option (Properties × Cursor) :=
  if !atProperty c.rest then some (.none, c)
  else do
    let (p, after) ← property? true c
    let c := flowToken after
    if !atProperty c.rest then return (p, c)
    else
      let (q, after) ← property? true c
      return (← p.join? q, flowToken after)

/-- Whether the value of an entry is missing, because the entry ends here. -/
def endsEntry : List Char → Bool
  | ',' :: _ => true
  | ']' :: _ => true
  | '\x7d' :: _ => true
  | _ => false

/-- The depth that nested collections may have, so that a reading ends. -/
abbrev Fuel := Nat

mutual

/-- A node of a flow collection. -/
def flowNode (fuel : Fuel) (indent : Nat) (c : Cursor) : Option (Draft × Cursor) :=
  match fuel with
  | 0 => none
  | fuel + 1 => do
    let (p, c) ← flowProperties? (flowToken c)
    if !p.isNone && (endsEntry c.rest || c.rest.head? = some ':') then
      return (← p.attach? .absent, c)
    else
      let (d, after) ← flowContent fuel indent c
      return (← p.attach? d, after)

/-- A node of a flow collection without its properties. -/
def flowContent (fuel : Fuel) (indent : Nat) (c : Cursor) : Option (Draft × Cursor) :=
  match fuel with
  | 0 => none
  | fuel + 1 =>
    match c.rest with
    | '[' :: _ => flowItems fuel indent [] (c.advance 1)
    | '\x7b' :: _ => flowEntries fuel indent [] (c.advance 1)
    | '*' :: _ => mention? c
    | _ =>
      if c.atMarker then none
      else (scanScalar true indent c).map fun (text, plain, after) => (.scalar text plain, after)

/-- The items of a flow sequence; an item may be a single pair. -/
def flowItems (fuel : Fuel) (indent : Nat) (done : List Draft) (c : Cursor) :
    Option (Draft × Cursor) :=
  match fuel with
  | 0 => none
  | fuel + 1 =>
    let c := flowToken c
    match c.rest with
    | ']' :: _ => some (.sequence done.reverse, c.advance 1)
    | _ =>
      match flowPair fuel indent c with
      | none => none
      | some (key, value, c) =>
        let item := match value with
          | some v => .mapping [(key, v)]
          | none => key
        let c := flowToken c
        match c.rest with
        | ',' :: _ => flowItems fuel indent (item :: done) (c.advance 1)
        | ']' :: _ => some (.sequence (item :: done).reverse, c.advance 1)
        | _ => none

/-- The entries of a flow mapping; a key may lack its value. -/
def flowEntries (fuel : Fuel) (indent : Nat) (done : List (Draft × Draft)) (c : Cursor) :
    Option (Draft × Cursor) :=
  match fuel with
  | 0 => none
  | fuel + 1 =>
    let c := flowToken c
    match c.rest with
    | '\x7d' :: _ => some (.mapping done.reverse, c.advance 1)
    | _ =>
      match flowPair fuel indent c with
      | none => none
      | some (key, value, c) =>
        let entry := (key, value.getD .absent)
        let c := flowToken c
        match c.rest with
        | ',' :: _ => flowEntries fuel indent (entry :: done) (c.advance 1)
        | '\x7d' :: _ => some (.mapping (entry :: done).reverse, c.advance 1)
        | _ => none

/-- A node of a flow collection, and its value if it is a key.  A question mark
makes it a key whatever follows. -/
def flowPair (fuel : Fuel) (indent : Nat) (c : Cursor) :
    Option (Draft × Option Draft × Cursor) :=
  match fuel with
  | 0 => none
  | fuel + 1 =>
    match c.rest with
    | '?' :: _ =>
      let k := flowToken (c.advance 1)
      let key := if endsEntry k.rest || k.rest.head? = some ':' then some (.absent, k)
        else flowNode fuel indent k
      match key with
      | none => none
      | some (key, after) =>
        let after := flowToken after
        match after.rest with
        | ':' :: _ =>
          (flowValue fuel indent (after.advance 1)).map fun (v, c) => (key, some v, c)
        | _ => some (key, some .absent, after)
    | _ =>
      match flowNode fuel indent c with
      | none => none
      | some (key, after) =>
        let after := flowToken after
        match after.rest with
        | ':' :: _ =>
          if isSimpleKey c after then
            (flowValue fuel indent (after.advance 1)).map fun (v, c) => (key, some v, c)
          else none
        | _ => some (key, none, after)

/-- The value of an entry of a flow collection, after its colon. -/
def flowValue (fuel : Fuel) (indent : Nat) (c : Cursor) : Option (Draft × Cursor) :=
  match fuel with
  | 0 => none
  | fuel + 1 =>
    let c := flowToken c
    if endsEntry c.rest then some (.absent, c) else flowNode fuel indent c

end

/-! ## Block style -/

/-- Whether a sequence entry begins here. -/
def atDash : List Char → Bool
  | '-' :: rest => atGap rest
  | _ => false

/-- Whether a key with a mark of its own begins here. -/
def atQuestion : List Char → Bool
  | '?' :: rest => atGap rest
  | _ => false

/-- Whether a block scalar begins here. -/
def atBar : List Char → Bool
  | '|' :: _ => true
  | '>' :: _ => true
  | _ => false

/-- Whether a colon before a value stands here. -/
def atColon : List Char → Bool
  | ':' :: rest => atGap rest
  | _ => false

/-- A scalar, flow collection or mention. -/
def inlineNode (fuel : Fuel) (indent : Nat) (c : Cursor) : Option (Draft × Cursor) :=
  match c.rest with
  | '[' :: _ => flowContent fuel indent c
  | '\x7b' :: _ => flowContent fuel indent c
  | '*' :: _ => mention? c
  | _ => (scanScalar false indent c).map fun (text, plain, after) => (.scalar text plain, after)

/-- The key that begins here and is marked by its colon, and the place after the
colon. -/
def keyOf? (fuel : Fuel) (indent : Nat) (start : Cursor) : Option (Draft × Cursor) := do
  let (p, c) ← if atProperty start.rest then propertyRun? start else some (.none, start)
  let (d, after) ←
    if !p.isNone && atColon c.rest then some (.absent, c) else inlineNode fuel indent c
  let after := after.skipBlanks
  if atColon after.rest && isSimpleKey start after then
    return (← p.attach? d, after.advance 1)
  else none

mutual

/-- The node that follows an indicator.  `indent` is one more than the column of
the collection around it, `sameLine` says that collections may not begin before
the next line, `dashes` that a sequence may stand in the column of its key, as a
block scalar always may; `held` are the properties of the node so far. -/
def blockNode (fuel : Fuel) (indent : Nat) (sameLine dashes : Bool) (held : Properties)
    (c : Cursor) : Option (Draft × Cursor) :=
  match fuel with
  | 0 => none
  | fuel + 1 => do
    let (t, newLine) ← blockToken? sameLine c
    let sameLine := sameLine && !newLine
    if t.rest.isEmpty || t.atMarker || !sameLine && t.column < indent &&
        !(t.column + 1 = indent && (dashes && atDash t.rest || atBar t.rest)) then
      return (← held.attach? .absent, t)
    else if atDash t.rest then
      if sameLine then none
      else
        let (d, after) ← blockItems fuel t.column [] t
        return (← held.attach? d, after)
    else if !sameLine && (atQuestion t.rest || (keyOf? fuel indent t).isSome) then
      let (d, after) ← blockEntries fuel t.column [] t
      return (← held.attach? d, after)
    else if atProperty t.rest then
      let (p, after) ← propertyRun? t
      blockNode fuel indent true dashes (← held.join? p) after
    else
      let (d, after) ←
        match t.rest with
        | '|' :: rest => blockScalar true indent rest
        | '>' :: rest => blockScalar false indent rest
        | _ => inlineNode fuel indent t
      return (← held.attach? d, after)

/-- A block scalar as a node. -/
def blockScalar (literal : Bool) (indent : Nat) (rest : List Char) : Option (Draft × Cursor) :=
  (scanBlock literal indent rest).map fun (text, left) =>
    (.scalar (String.ofList text) false, ⟨left, 0⟩)

/-- The entries of a sequence in a column, the next of which begins here. -/
def blockItems (fuel : Fuel) (column : Nat) (done : List Draft) (c : Cursor) :
    Option (Draft × Cursor) :=
  match fuel with
  | 0 => none
  | fuel + 1 => do
    let (item, after) ← blockNode fuel (column + 1) false false .none (c.advance 1)
    let (t, _) ← blockToken? true after
    if t.column = column && atDash t.rest && !t.atMarker then
      blockItems fuel column (item :: done) t
    else return (.sequence (item :: done).reverse, t)

/-- The entries of a mapping in a column, the next of which begins here. -/
def blockEntries (fuel : Fuel) (column : Nat) (done : List (Draft × Draft)) (c : Cursor) :
    Option (Draft × Cursor) :=
  match fuel with
  | 0 => none
  | fuel + 1 => do
    let (entry, after) ← blockEntry fuel column c
    let (t, _) ← blockToken? true after
    if t.rest.isEmpty || t.atMarker || t.column < column then
      return (.mapping (entry :: done).reverse, t)
    else if column < t.column then none
    else blockEntries fuel column (entry :: done) t

/-- An entry of a mapping in a column. -/
def blockEntry (fuel : Fuel) (column : Nat) (c : Cursor) : Option ((Draft × Draft) × Cursor) :=
  match fuel with
  | 0 => none
  | fuel + 1 =>
    if atQuestion c.rest then do
      let (key, after) ← blockNode fuel (column + 1) false true .none (c.advance 1)
      let (v, _) ← blockToken? true after
      if v.column = column && atColon v.rest then
        let (value, after) ← blockNode fuel (column + 1) false true .none (v.advance 1)
        return ((key, value), after)
      else return ((key, .absent), after)
    else do
      let (key, c) ← keyOf? fuel (column + 1) c
      let (value, after) ← blockNode fuel (column + 1) true true .none c
      return ((key, value), after)

end

/-! ## Documents -/

/-- The text after the directives of a document, what they say, and whether there
were any. -/
def skipDirectives? (fuel : Fuel) (d : Directives) (any : Bool) (c : Cursor) :
    Option (Cursor × Directives × Bool) :=
  match fuel with
  | 0 => none
  | fuel + 1 => do
    let (t, _) ← blockToken? false c
    match t.rest with
    | '%' :: rest =>
      if t.column = 0 then
        let line := rest.takeWhile fun c => !isBreak c
        skipDirectives? fuel (← d.add? line) true (t.advance (line.length + 1))
      else return (t, d, any)
    | _ => return (t, d, any)

/-- Whether nothing but blanks, comments and the end of the document follows. -/
def endsHere (fuel : Fuel) (c : Cursor) : Bool :=
  match fuel with
  | 0 => false
  | fuel + 1 =>
    match blockToken? true c with
    | none => false
    | some (t, _) =>
      match t.rest with
      | [] => true
      | '.' :: _ => t.atMarker && endsHere fuel (t.advance 3)
      | _ => false

/-- The content of a document, if it has any; `none` if the text is no
document. -/
def readDocument (cs : List Char) : Option (Option Node) :=
  if !cs.all isAllowed then none
  else do
    let fuel := 8 * cs.length + 8
    let (t, directives, any) ← skipDirectives? fuel ⟨false, []⟩ false ⟨cs, 0⟩
    let marked := t.atMarker && t.rest.head? = some '-'
    if t.rest.isEmpty && !any then return none
    else if any && !marked || t.atMarker && !marked then none
    else
      let (d, after) ←
        if marked then blockNode fuel 0 true false .none (t.advance 3)
        else blockNode fuel 0 false false .none t
      if endsHere fuel after then
        let (n, _) ← d.settle? (directives.handles ++ commonHandles) []
        return some n
      else none

end SapMonitor.Yaml
