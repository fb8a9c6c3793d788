import CurryScript.Yaml.Quotation

/-!
A reader of settings files. A file holds one document: a mapping, a list or a scalar, in block form
by indentation or in flow form between brackets. This is not all of YAML: scalars in block form,
anchors, tags, directives and keys after a question mark are taken for malformed.

The readers carry fuel. Of any two steps in a row one passes a character, so twice the length of the
text is enough.
-/
namespace CurryScript.Yaml

structure Found where
  datum : Datum
  point : Point
  newLine : Bool
  oneLine : Bool
  deriving Repr

mutual

def atom (flow : Bool) (least : Nat) : Nat → Point → Except Failure Found
  | 0, _ => .error .malformed
  | fuel + 1, p =>
    match p.rest with
    | '[' :: rest =>
      (flowItems fuel #[] ⟨rest, p.column + 1⟩).map fun (items, after) =>
        ⟨.list items, after, false, true⟩
    | '{' :: rest =>
      (flowPairs fuel [] ⟨rest, p.column + 1⟩).map fun (entries, after) =>
        ⟨.mapping entries, after, false, true⟩
    | '"' :: rest => quoted true p rest
    | '\'' :: rest => quoted false p rest
    | rest =>
      if startsPlain flow rest then
        let scan := plain flow least (rest.length + 1) ⟨[], p, false, true⟩ []
        (Scalar.resolve (String.ofList scan.text)).map fun datum =>
          ⟨datum, scan.point, scan.newLine, scan.oneLine⟩
      else
        .error .malformed
where
  quoted (double : Bool) (p : Point) (rest : List Char) : Except Failure Found :=
    match quotedText double (rest.length + 1) rest with
    | none => .error .malformed
    | some (text, after, oneLine) =>
      let point := p.skip (p.rest.length - after.length)
      .ok ⟨.text (String.ofList text), point, false, oneLine⟩

def flowValue : Nat → Point → Except Failure (Datum × Point)
  | 0, _ => .error .malformed
  | fuel + 1, p =>
    let p := (p.next false).1
    match p.rest with
    | ',' :: _ | ']' :: _ | '}' :: _ => .ok (.null, p)
    | _ => (atom true 0 fuel p).map fun found => (found.datum, found.point)

def flowItems : Nat → Array Datum → Point → Except Failure (List Datum × Point)
  | 0, _, _ => .error .malformed
  | fuel + 1, found, p =>
    let p := (p.next false).1
    if p.atMarker then
      .error .malformed
    else
      match p.rest with
      | ']' :: rest => .ok (found.toList, ⟨rest, p.column + 1⟩)
      | _ => do
        let item ← atom true 0 fuel p
        let after := (item.point.next false).1
        let (datum, after) ← match after.rest with
          | ':' :: rest =>
            if item.datum.isKey then
              (flowValue fuel ⟨rest, after.column + 1⟩).map fun (value, after) =>
                (.mapping [(item.datum, value)], after)
            else
              .error .malformed
          | _ => .ok (item.datum, after)
        let after := (after.next false).1
        match after.rest with
        | ',' :: rest => flowItems fuel (found.push datum) ⟨rest, after.column + 1⟩
        | ']' :: rest => .ok ((found.push datum).toList, ⟨rest, after.column + 1⟩)
        | _ => .error .malformed

def flowPairs : Nat → List (Datum × Datum) → Point → Except Failure (List (Datum × Datum) × Point)
  | 0, _, _ => .error .malformed
  | fuel + 1, found, p =>
    let p := (p.next false).1
    if p.atMarker then
      .error .malformed
    else
      match p.rest with
      | '}' :: rest => .ok (found, ⟨rest, p.column + 1⟩)
      | _ => do
        let key ← atom true 0 fuel p
        let after := (key.point.next false).1
        let (value, after) ← match after.rest with
          | ':' :: rest => flowValue fuel ⟨rest, after.column + 1⟩
          | _ => .ok (.null, after)
        let after := (after.next false).1
        if key.datum.isKey then
          match after.rest with
          | ',' :: rest => flowPairs fuel (insert found key.datum value) ⟨rest, after.column + 1⟩
          | '}' :: rest => .ok (insert found key.datum value, ⟨rest, after.column + 1⟩)
          | _ => .error .malformed
        else
          .error .malformed

end

def inlineNode (least fuel : Nat) (p : Point) : Except Failure Found :=
  match atom false least fuel p with
  | .error failure => .error failure
  | .ok found => if !found.newLine && found.point.atColon then .error .malformed else .ok found

mutual

def blockNode (least : Nat) : Nat → Point → Except Failure Found
  | 0, _ => .error .malformed
  | fuel + 1, p =>
    if p.atEntry then
      sequence p.column false fuel #[] p
    else
      match atom false least fuel p with
      | .error failure => .error failure
      | .ok found =>
        if !found.newLine && found.point.atColon then
          if found.oneLine && found.datum.isKey then
            mapping p.column fuel [] found.datum found.point.pastColon
          else
            .error .malformed
        else
          .ok found

def mapping (column : Nat) :
    Nat → List (Datum × Datum) → Datum → Point → Except Failure Found
  | 0, _, _, _ => .error .malformed
  | fuel + 1, entries, key, p => do
    let (start, newLine) := p.next false
    let value ←
      if start.rest.isEmpty || start.atMarker then .ok ⟨.null, start, newLine, false⟩
      else if !newLine then inlineNode (column + 1) fuel start
      else if column < start.column then blockNode (column + 1) fuel start
      -- A list may stand at the column of the key it belongs to.
      else if start.column = column && start.atEntry then sequence column true fuel #[] start
      else .ok ⟨.null, start, newLine, false⟩
    let entries := insert entries key value.datum
    let (next, newLine) := value.point.next value.newLine
    let ended : Found := ⟨.mapping entries, next, newLine, false⟩
    if next.rest.isEmpty || next.atMarker then
      .ok ended
    else if !newLine || column < next.column then
      .error .malformed
    else if next.column < column then
      .ok ended
    else
      let key ← atom false (column + 1) fuel next
      if key.oneLine && !key.newLine && key.datum.isKey && key.point.atColon then
        mapping column fuel entries key.datum key.point.pastColon
      else
        .error .malformed

/-- Reads the entries of a list at a column. The list that is the value of a key may stand at the
column of the key, and then ends at the next key. -/
def sequence (column : Nat) (underKey : Bool) : Nat → Array Datum → Point → Except Failure Found
  | 0, _, _ => .error .malformed
  | fuel + 1, found, p => do
    let (start, newLine) := (p.skip 1).next false
    let item ←
      if start.rest.isEmpty || start.atMarker || (newLine && start.column ≤ column) then
        .ok ⟨.null, start, newLine, false⟩
      else
        blockNode (column + 1) fuel start
    let found := found.push item.datum
    let (next, newLine) := item.point.next item.newLine
    let ended : Found := ⟨.list found.toList, next, newLine, false⟩
    if next.rest.isEmpty || next.atMarker then
      .ok ended
    else if !newLine || column < next.column then
      .error .malformed
    else if next.column < column then
      .ok ended
    else if next.atEntry then
      sequence column underKey fuel found next
    else if underKey then
      .ok ended
    else
      .error .malformed

end

def isAllowed (c : Char) : Bool :=
  let n := c.toNat
  c == '\t' || c == '\n' || c == '\r' || (0x20 ≤ n && n ≤ 0x7e) || n == 0x85 ||
    (0xa0 ≤ n && n ≤ 0xfffd) || 0x10000 ≤ n

def endsStream (p : Point) : Bool :=
  p.rest.isEmpty ||
    (p.atMarker && p.rest.head? = some '.' && ((p.skip 3).next false).1.rest.isEmpty)

def read (text : String) : Except Failure Datum := do
  if !text.toList.all isAllowed then
    throw .malformed
  let text := match text.toList with
    | '\ufeff' :: rest => rest
    | text => text
  let fuel := 2 * text.length + 2
  let (start, _) := Point.next ⟨text, 0⟩ true
  let found ←
    if start.rest.isEmpty then
      .ok ⟨.null, start, true, false⟩
    else if start.atMarker then
      if start.rest.head? = some '.' then
        .error .malformed
      else
        let (start, newLine) := (start.skip 3).next false
        if start.rest.isEmpty || start.atMarker then .ok ⟨.null, start, newLine, false⟩
        else if newLine then blockNode 0 fuel start
        else inlineNode 0 fuel start
    else
      blockNode 0 fuel start
  if endsStream (found.point.next found.newLine).1 then .ok found.datum else .error .malformed

end CurryScript.Yaml
