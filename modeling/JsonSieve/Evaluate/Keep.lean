/-
# Writing a projection

The text of what a query keeps, written in one pass into a buffer.  Whether a value is kept shows
only while it is written, but the comma and the name before it come first.  So they are written
ahead of the value, and the buffer is cut back to the size it had if the value is rejected; `first`
says whether a comma is due.

`keep` tests every clause.  `retrieve` takes the clauses of the document itself for granted, if that
is an object: `tested` is false there, and true for every element and every nested field.
-/
import JsonSieve.Evaluate.Project
import JsonSieve.Json.Write
import JsonSieve.Text.Buffer

namespace JsonSieve

/-- The outcome of writing a value: whether it was kept, and the buffer afterwards. -/
abbrev Written := Except EvalError (Bool × Text.Buffer)

/-- A way of writing a value into a buffer. -/
abbrev Writer := Json → (out : Text.Buffer) → Written

/-- What stands before a part of a container: a comma, unless it is the first one. -/
def comma (first : Bool) : List Char := if first then [] else [',']

/-- What stands before the value of a member, the comma apart (`write_key`). -/
def memberName (name : String) : List Char := quote name ++ [':']

/-! ## 1. Arrays -/

namespace Json

mutual

/-- Writes a value, its leaves by the given writer, which is told whether to test the clauses; the
leaves of an array are always tested.  This is the part of `project` that is about arrays.  An array
is kept in every case, if only as two brackets. -/
def writeLeaves (write : (tested : Bool) → Writer) (tested : Bool) : Writer
  | array es, out => do
    let out ← writeElements write true es (out.push ['['])
    return (true, out.push [']'])
  | v, out => write tested v out

/-- Writes the elements that are kept, with commas between them.  The comma is written ahead of the
element; where that is rejected, the buffer is cut back, and the comma stays due as it was. -/
def writeElements (write : (tested : Bool) → Writer) (first : Bool) :
    List Json → (out : Text.Buffer) → Except EvalError Text.Buffer
  | [], out => return out
  | e :: es, out => do
    let (kept, longer) ← writeLeaves write true e (out.push (comma first))
    if kept then writeElements write false es longer
    else writeElements write first es (longer.truncate out.size)

end

end Json

namespace Query

/-! ## 2. Objects -/

/-- Writes the fields that are there as they are (the loop of `project` over `retrieve`), with
commas between them, and says whether a comma is still not due.  Nothing is filtered in such a
field. -/
def writeFields (v : Json) (first : Bool) :
    List String → (out : Text.Buffer) → Bool × Text.Buffer
  | [], out => (first, out)
  | name :: names, out => match v.get? name with
    | some field =>
      writeFields v false names
        (((out.push (comma first)).push (memberName name)).push (field.render .compact 0))
    | none => writeFields v first names out

mutual

/-- Writes what a query keeps of the document that goes by a name (`project`), the clauses of the
query being tested or not (`apply_filters`).  An object that is rejected leaves nothing in the
buffer, and a scalar may only be asked for with an empty body. -/
def write (name : String) (tested : Bool) : Query → Writer
  | node fs ns qs => Json.writeLeaves (fun tested leaf out => match leaf with
    | .object _ =>
      if tested && !(node fs ns qs).clausesHold leaf then return (false, out)
      else do
        let (first, out) := writeFields leaf true ns (out.push ['\x7b'])
        let out ← writeNested leaf first qs out
        return (true, out.push ['\x7d'])
    | _ =>
      if (node fs ns qs).isBare then return (true, out.push (leaf.render .compact 0))
      else throw (.unexpectedKind name .object leaf.kind)) tested

/-- Writes the members that nested queries keep of an object (the loop of `project` over `next`).
Here the name is written ahead of the value as well, and is cut off with it. -/
def writeNested (v : Json) (first : Bool) :
    List (String × Query) → (out : Text.Buffer) → Except EvalError Text.Buffer
  | [], out => return out
  | (name, q) :: qs, out => match v.get? name with
    | some field => do
      let (kept, longer) ←
        write name true q field ((out.push (comma first)).push (memberName name))
      if kept then writeNested v false qs longer
      else writeNested v first qs (longer.truncate out.size)
    | none => writeNested v first qs out

end

/-! ## 3. Whole documents -/

/-- The text of what a query keeps of a document (`keep`); it is empty if the document is
rejected. -/
def keep (q : Query) (v : Json) : Except EvalError String :=
  (q.write rootName true v .empty).map fun written => String.ofList written.2.toList

/-- The text of what a query keeps of a document, an object being taken as admitted (`retrieve`).
It is meant for objects that were found to be admitted before. -/
def retrieve (q : Query) (v : Json) : Except EvalError String :=
  (q.write rootName false v .empty).map fun written => String.ofList written.2.toList

end Query
end JsonSieve
