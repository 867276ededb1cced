import PointBuy.Declaration.Line
import PointBuy.Text.Lines

/-!
# The outline of a source

Lines are read one after another while the blocks that they stand in are kept open. A line that
opens a block makes the following ones its parts, up to the brace that closes it; the first entry of
a block may be the comment of the declaration that opened it. Reading stops at the first fault, and
the declarations completed before it are kept.

## Main definitions

* `Outline.step` : what one line does to the open blocks.
* `Source.outline` : the declarations of a source, and the fault that ended it.
* `Source.declarations` : the declarations of a source without a fault.
-/

namespace PointBuy

/-- A declaration whose block is still open. Its parts are kept last one first. -/
structure OpenDeclaration where
  declaration : Declaration
  parts : List Declaration
  /-- No entry of the block has been read yet. -/
  fresh : Bool

/-- The declaration, closed. -/
def OpenDeclaration.close (d : OpenDeclaration) : Declaration :=
  { d.declaration with parts := d.parts.reverse }

/-- The declarations completed so far, last one first, and those still open, innermost first. -/
structure Outline where
  complete : List Declaration
  enclosing : List OpenDeclaration

namespace Outline

/-- Nothing read yet. -/
def empty : Outline := ⟨[], []⟩

/-- A complete declaration takes its place. -/
def put (outline : Outline) (d : Declaration) : Outline :=
  match outline.enclosing with
  | [] => { outline with complete := d :: outline.complete }
  | block :: rest =>
    { outline with enclosing := { block with parts := d :: block.parts, fresh := false } :: rest }

/-- A line that declares something. -/
def declare (outline : Outline) (location : Location) (line : List Char) :
    Except (Located DeclarationError) Outline :=
  match Declaration.Line.split line with
  | none => .error ⟨.malformed, location⟩
  | some parts =>
    let name := String.ofList parts.name
    if Declaration.isReserved name then .error ⟨.reservedName name, location⟩
    else
      let d : Declaration :=
        { name
          sub := parts.sub.map String.ofList
          operator := parts.operator
          formula := String.ofList parts.formula
          comment := parts.comment.map String.ofList
          location
          parts := [] }
      if parts.opensBlock then
        let depth := outline.enclosing.length + 1
        if Limits.blockDepth < depth then .error ⟨.blockTooDeep depth, location⟩
        else .ok { outline with enclosing := ⟨d, [], true⟩ :: outline.enclosing }
      else .ok (outline.put d)

/-- A trimmed line that is neither empty nor a remark. -/
def enter (outline : Outline) (location : Location) (line : List Char) :
    Except (Located DeclarationError) Outline :=
  match outline.enclosing with
  | [] => outline.declare location line
  | block :: rest =>
    if line = ['\x7d'] then .ok ({ outline with enclosing := rest }.put block.close)
    else if block.fresh then
      match Declaration.Line.bareComment? line with
      | some comment =>
        if block.declaration.comment.isSome then .error ⟨.duplicateComment, location⟩
        else
          let d := { block.declaration with comment := some (String.ofList comment) }
          .ok { outline with enclosing := ⟨d, block.parts, false⟩ :: rest }
      | none =>
        { outline with enclosing := { block with fresh := false } :: rest }.declare location line
    else outline.declare location line

/-- What one line does. -/
def step (outline : Outline) (location : Location) (line : List Char) :
    Except (Located DeclarationError) Outline :=
  if Limits.lineLength < line.length then .error ⟨.lineTooLong line.length, location⟩
  else
    let line := Text.trim line
    if Declaration.Line.isIgnored line then .ok outline else outline.enter location line

/-- Reads lines, the first of which has the given number, as long as there is no fault. -/
def read (path : String) : Outline → Nat → List (List Char) →
    Outline × Option (Located DeclarationError)
  | outline, _, [] =>
    match outline.enclosing with
    | [] => (outline, none)
    | block :: _ =>
      (outline, some ⟨.unterminatedBlock block.declaration.name, block.declaration.location⟩)
  | outline, number, line :: rest =>
    match outline.step ⟨path, number⟩ line with
    | .ok next => read path next (number + 1) rest
    | .error e => (outline, some e)

end Outline

/-- The declarations of a source up to its first fault, and that fault. -/
def Source.outline (source : Source) : List Declaration × Option (Located DeclarationError) :=
  let (outline, fault) := Outline.read source.path .empty 1 (Text.lines source.text.toList)
  (outline.complete.reverse, fault)

/-- The declarations of a source that has no fault. -/
def Source.declarations (source : Source) :
    Except (Located DeclarationError) (List Declaration) :=
  match source.outline with
  | (declarations, none) => .ok declarations
  | (_, some fault) => .error fault

end PointBuy
