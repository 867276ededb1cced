import PointBuy.Proofs.Declaration.Relocation

/-!
# Where declarations were written

The location of a declaration names the line that it was read from: if this line is looked up in the
source again and taken apart, its name is that of the declaration. The same holds of all parts of a
block. A fault is located at the line that was read when it was found, or, where a block is never
closed, at the line that opened it.

All this follows from one step of reading. Whatever `tells l name` means of a location and a name,
if it holds for the line that is read and for all declarations read before it, it holds for all
declarations after it (`Outline.Truthful.step`).

## Main definitions

* `Source.Declares` : a line of a source declares a name.
* `Source.Covers` : a location names a line of a source.
* `Declaration.Truthful` : what holds of the location and the name of a declaration, and of its
  parts.

## Main statements

* `Outline.Truthful.read` : reading lines keeps locations truthful.
* `Source.ensures_declarations` : all declarations of a source are where they are said to be.
-/

namespace PointBuy

/-! ### Lines of a source -/

namespace Source

/-- A location names a line of a source. Lines are counted from 1. -/
structure LineAt (source : Source) (l : Location) (line : List Char) : Prop where
  path_eq : l.path = source.path
  line_pos : 1 ≤ l.line
  found : (Text.lines source.text.toList)[l.line - 1]? = some line

/-- **A line declares a name**: without the blanks around it, it can be taken apart, and the name
is this one. -/
def Declares (source : Source) (l : Location) (name : String) : Prop :=
  ∃ line parts, source.LineAt l line ∧ Declaration.Line.split (Text.trim line) = some parts ∧
    String.ofList parts.name = name

/-- **A location names a line that a source has**, from the first one to the last. -/
structure Covers (source : Source) (l : Location) : Prop where
  path_eq : l.path = source.path
  line_pos : 1 ≤ l.line
  line_le : l.line ≤ source.lineCount

variable {source : Source} {l : Location} {line : List Char} {name : String}

theorem LineAt.covers (h : source.LineAt l line) : source.Covers l where
  path_eq := h.path_eq
  line_pos := h.line_pos
  line_le := by
    have hlt := (List.getElem?_eq_some_iff.1 h.found).1
    have hpos := h.line_pos
    rw [lineCount]
    omega

theorem Declares.covers (h : source.Declares l name) : source.Covers l := by
  obtain ⟨line, _, hline, -⟩ := h
  exact hline.covers

end Source

/-! ### Truthful declarations -/

/-- **A truthful declaration**: its location tells its name, and those of its parts tell theirs,
however deep they stand. -/
inductive Declaration.Truthful (tells : Location → String → Prop) : Declaration → Prop
  | intro {d : Declaration} (own : tells d.location d.name)
    (parts : ∀ part ∈ d.parts, part.Truthful tells) : d.Truthful tells

namespace Declaration.Truthful

variable {tells : Location → String → Prop} {d : Declaration}

theorem own (h : d.Truthful tells) : tells d.location d.name := by
  obtain ⟨hown, -⟩ := h
  exact hown

theorem parts (h : d.Truthful tells) : ∀ part ∈ d.parts, part.Truthful tells := by
  obtain ⟨-, hparts⟩ := h
  exact hparts

end Declaration.Truthful

namespace Outline

/-- All declarations of an outline are truthful, those that are complete and those still open. -/
structure Truthful (tells : Location → String → Prop) (outline : Outline) : Prop where
  complete : ∀ d ∈ outline.complete, d.Truthful tells
  opened : ∀ block ∈ outline.enclosing,
    tells block.declaration.location block.declaration.name ∧
      ∀ part ∈ block.parts, part.Truthful tells

namespace Truthful

variable {tells : Location → String → Prop} {covered : Location → Prop} {outline : Outline}
  {location : Location} {path : String} {number : Nat}

theorem empty : Outline.empty.Truthful tells :=
  ⟨fun _ hd ↦ absurd hd List.not_mem_nil, fun _ hblock ↦ absurd hblock List.not_mem_nil⟩

/-- A complete declaration takes its place, among the others or in the innermost block. -/
theorem put (h : outline.Truthful tells) {d : Declaration} (hd : d.Truthful tells) :
    (outline.put d).Truthful tells := by
  obtain ⟨complete, enclosing⟩ := outline
  cases enclosing with
  | nil => exact ⟨List.forall_mem_cons.2 ⟨hd, h.complete⟩, h.opened⟩
  | cons block rest =>
    obtain ⟨⟨hown, hparts⟩, hrest⟩ := List.forall_mem_cons.1 h.opened
    exact ⟨h.complete, List.forall_mem_cons.2 ⟨⟨hown, List.forall_mem_cons.2 ⟨hd, hparts⟩⟩, hrest⟩⟩

/-- A line that declares something, where the location tells the name. -/
theorem declare (h : outline.Truthful tells) {line : List Char}
    (hline : ∀ parts, Declaration.Line.split line = some parts →
      tells location (String.ofList parts.name)) :
    (outline.declare location line).Ensures (Truthful tells) (·.location = location) := by
  rw [Outline.declare]
  split
  case h_1 => rfl
  case h_2 parts hsplit =>
    dsimp only
    split
    case isTrue => rfl
    case isFalse =>
      have hown := hline parts hsplit
      have hparts (part : Declaration) (hpart : part ∈ []) : part.Truthful tells :=
        absurd hpart List.not_mem_nil
      split
      case isTrue =>
        split
        case isTrue => rfl
        case isFalse =>
          exact ⟨h.complete, List.forall_mem_cons.2 ⟨⟨hown, hparts⟩, h.opened⟩⟩
      case isFalse => exact h.put (.intro hown hparts)

theorem enter (h : outline.Truthful tells) {line : List Char}
    (hline : ∀ parts, Declaration.Line.split line = some parts →
      tells location (String.ofList parts.name)) :
    (outline.enter location line).Ensures (Truthful tells) (·.location = location) := by
  obtain ⟨complete, enclosing⟩ := outline
  cases enclosing with
  | nil => exact h.declare hline
  | cons block rest =>
    obtain ⟨⟨hown, hparts⟩, hrest⟩ := List.forall_mem_cons.1 h.opened
    -- whatever is noted at the innermost block, its location, its name and its parts stay
    have hnoted (block' : OpenDeclaration)
        (hlocation : block'.declaration.location = block.declaration.location)
        (hname : block'.declaration.name = block.declaration.name)
        (hsame : block'.parts = block.parts) :
        (Outline.mk complete (block' :: rest)).Truthful tells :=
      ⟨h.complete, List.forall_mem_cons.2
        ⟨⟨hlocation ▸ hname ▸ hown, hsame ▸ hparts⟩, hrest⟩⟩
    rw [Outline.enter]
    dsimp only
    split
    case isTrue =>
      have hclosed : block.close.Truthful tells :=
        .intro hown fun part hpart ↦ hparts part (List.mem_reverse.1 hpart)
      have houter : (Outline.mk complete rest).Truthful tells := ⟨h.complete, hrest⟩
      exact houter.put hclosed
    case isFalse =>
      split
      case isTrue =>
        split
        case h_1 comment _ =>
          split
          case isTrue => rfl
          case isFalse => exact hnoted _ rfl rfl rfl
        case h_2 => exact (hnoted { block with fresh := false } rfl rfl rfl).declare hline
      case isFalse => exact h.declare hline

/-- **One line keeps an outline truthful**, and a fault is located at this line. -/
theorem step (h : outline.Truthful tells) {line : List Char}
    (hline : ∀ parts, Declaration.Line.split (Text.trim line) = some parts →
      tells location (String.ofList parts.name)) :
    (outline.step location line).Ensures (Truthful tells) (·.location = location) := by
  rw [Outline.step]
  split
  case isTrue => rfl
  case isFalse =>
    dsimp only
    split
    case isTrue => exact h
    case isFalse => exact h.enter hline

/-- **All lines keep an outline truthful**, and a fault is located at one of them, or at a
declaration that was read before. -/
theorem read {ls : List (List Char)} (h : outline.Truthful tells)
    (htells : ∀ l name, tells l name → covered l)
    (hcovered : ∀ i < ls.length, covered ⟨path, number + i⟩)
    (hlines : ∀ i line parts, ls[i]? = some line →
      Declaration.Line.split (Text.trim line) = some parts →
      tells ⟨path, number + i⟩ (String.ofList parts.name)) :
    (Outline.read path outline number ls).1.Truthful tells ∧
      ∀ e, (Outline.read path outline number ls).2 = some e → covered e.location := by
  induction ls generalizing outline number with
  | nil =>
    rw [Outline.read]
    split
    case h_1 => exact ⟨h, fun _ he ↦ by cases he⟩
    case h_2 block rest henclosing =>
      -- a block is left open
      refine ⟨h, fun e he ↦ ?_⟩
      obtain rfl := Option.some.inj he
      exact htells _ _ (h.opened block (henclosing ▸ List.mem_cons_self)).1
  | cons line ls ih =>
    have hstep := h.step (hlines 0 line · rfl)
    rw [Outline.read]
    split
    case h_1 next hnext =>
      refine ih (hstep.of_eq_ok hnext) (fun i hi ↦ ?_) fun i line parts hline hsplit ↦ ?_
      · rw [Nat.add_assoc, Nat.add_comm 1]
        exact hcovered (i + 1) (Nat.succ_lt_succ hi)
      · rw [Nat.add_assoc, Nat.add_comm 1]
        exact hlines (i + 1) line parts hline hsplit
    case h_2 e he =>
      refine ⟨h, fun e' he' ↦ ?_⟩
      obtain rfl := Option.some.inj he'
      rw [hstep.of_eq_error he]
      exact hcovered 0 (Nat.succ_pos _)

end Truthful

end Outline

/-- **The declarations of a source stand on the lines that their locations name**, and so do all
their parts. A fault is located at some line of the source. -/
theorem Source.ensures_declarations (source : Source) :
    source.declarations.Ensures (fun ds ↦ ∀ d ∈ ds, d.Truthful source.Declares)
      (source.Covers ·.location) := by
  have hcovered (i : Nat) (hi : i < source.lineCount) : source.Covers ⟨source.path, 1 + i⟩ :=
    ⟨rfl, Nat.le_add_right 1 i, show 1 + i ≤ source.lineCount by omega⟩
  have hdeclared (i : Nat) (line : List Char) (parts : Declaration.Line)
      (hline : (Text.lines source.text.toList)[i]? = some line)
      (hsplit : Declaration.Line.split (Text.trim line) = some parts) :
      source.Declares ⟨source.path, 1 + i⟩ (String.ofList parts.name) := by
    have hindex : 1 + i - 1 = i := Nat.add_sub_cancel_left 1 i
    exact ⟨line, parts, ⟨rfl, Nat.le_add_right 1 i, hindex.symm ▸ hline⟩, hsplit, rfl⟩
  have hempty : Outline.empty.Truthful source.Declares := .empty
  obtain ⟨htruthful, hfault⟩ := hempty.read (fun _ _ h ↦ h.covers) hcovered hdeclared
  rw [declarations]
  split
  case h_1 ds houtline =>
    intro d hd
    rw [outline, Prod.mk.injEq] at houtline
    rw [← houtline.1] at hd
    exact htruthful.complete d (List.mem_reverse.1 hd)
  case h_2 e houtline =>
    rw [outline, Prod.mk.injEq] at houtline
    exact hfault e houtline.2

end PointBuy
