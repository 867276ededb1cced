import PointBuy.Proofs.Declaration.Reading
import PointBuy.Proofs.Text.Lines

/-!
# Declarations at other places

Where the same lines are read at another place, in another source or further down, the same
declarations are read, and only their locations are other ones. Declarations that have been read
before stay in front. So a source whose text is put together of ended texts declares what they
declare one after another, each text moved down by the lines of those before it.

## Main definitions

* `Declaration.relocated` : a declaration with other locations.
* `Outline.relocated` : an outline with other locations, behind some declarations.

## Main statements

* `Outline.run_relocated` : the same lines give the same outline, with other locations.
* `Source.declarations_append` : a text behind an ended one declares the same, moved down.
-/

namespace PointBuy

/-- The location so many lines further down, in a source of that name. -/
def Location.moved (path : String) (lines : Nat) (l : Location) : Location := ⟨path, l.line + lines⟩

mutual

/-- A declaration with other locations, also of all its parts. -/
def Declaration.relocated (f : Location → Location) : Declaration → Declaration
  | ⟨name, sub, operator, formula, comment, location, parts⟩ =>
    ⟨name, sub, operator, formula, comment, f location, relocatedParts f parts⟩

/-- The parts of a declaration with other locations. -/
def Declaration.relocatedParts (f : Location → Location) : List Declaration → List Declaration
  | [] => []
  | d :: ds => d.relocated f :: relocatedParts f ds

end

variable {f : Location → Location} {base ds : List Declaration} {o o' : Outline}
  {location : Location} {line : List Char}

namespace Declaration

theorem relocatedParts_eq_map (f : Location → Location) (ds : List Declaration) :
    relocatedParts f ds = ds.map (relocated f) := by
  induction ds with
  | nil => rfl
  | cons d ds ih => rw [relocatedParts, ih, List.map_cons]

theorem relocated_eq (f : Location → Location) (d : Declaration) :
    d.relocated f =
      { d with location := f d.location, parts := d.parts.map (relocated f) } := by
  obtain ⟨name, sub, operator, formula, comment, location, parts⟩ := d
  rw [relocated, relocatedParts_eq_map]

end Declaration

/-- An open declaration with other locations. -/
def OpenDeclaration.relocated (f : Location → Location) (d : OpenDeclaration) : OpenDeclaration :=
  ⟨d.declaration.relocated f, d.parts.map (Declaration.relocated f), d.fresh⟩

theorem OpenDeclaration.close_relocated (f : Location → Location) (d : OpenDeclaration) :
    (d.relocated f).close = d.close.relocated f := by
  simp only [close, relocated, Declaration.relocated_eq, List.map_reverse]

namespace Outline

/-- An outline with other locations, behind some declarations. -/
def relocated (f : Location → Location) (base : List Declaration) (o : Outline) : Outline :=
  ⟨o.complete.map (Declaration.relocated f) ++ base, o.enclosing.map (OpenDeclaration.relocated f)⟩

theorem put_relocated (d : Declaration) :
    (o.relocated f base).put (d.relocated f) = (o.put d).relocated f base := by
  obtain ⟨complete, enclosing⟩ := o
  cases enclosing <;> rfl

theorem declare_relocated (h : o.declare location line = .ok o') :
    (o.relocated f base).declare (f location) line = .ok (o'.relocated f base) := by
  rw [declare] at h ⊢
  split at h
  case h_1 => cases h
  case h_2 =>
    dsimp only at h ⊢
    split at h
    case isTrue => cases h
    case isFalse hname =>
      rw [if_neg hname]
      split at h
      case isTrue hopens =>
        rw [if_pos hopens]
        split at h
        case isTrue => cases h
        case isFalse hdepth =>
          obtain rfl := Except.ok.inj h
          have hlength : (o.relocated f base).enclosing.length = o.enclosing.length :=
            List.length_map _
          rw [hlength, if_neg hdepth]
          rfl
      case isFalse hopens =>
        obtain rfl := Except.ok.inj h
        rw [if_neg hopens, ← put_relocated]
        rfl

theorem enter_relocated (h : o.enter location line = .ok o') :
    (o.relocated f base).enter (f location) line = .ok (o'.relocated f base) := by
  obtain ⟨complete, enclosing⟩ := o
  cases enclosing with
  | nil => exact declare_relocated h
  | cons block rest =>
    rw [enter] at h
    rw [relocated, List.map_cons, enter]
    dsimp only at h ⊢
    split at h
    case isTrue hcloses =>
      obtain rfl := Except.ok.inj h
      rw [if_pos hcloses, OpenDeclaration.close_relocated, ← put_relocated]
      rfl
    case isFalse hcloses =>
      rw [if_neg hcloses]
      split at h
      case isTrue hfresh =>
        rw [if_pos (show (block.relocated f).fresh = true from hfresh)]
        split at h
        case h_1 comment hcomment =>
          have hsame : (block.relocated f).declaration.comment = block.declaration.comment := by
            rw [OpenDeclaration.relocated, Declaration.relocated_eq]
          rw [hsame]
          split at h
          case isTrue => cases h
          case isFalse hcommented =>
            obtain rfl := Except.ok.inj h
            rw [if_neg hcommented]
            simp only [relocated, List.map_cons, OpenDeclaration.relocated,
              Declaration.relocated_eq]
        case h_2 => exact declare_relocated h
      case isFalse hfresh =>
        rw [if_neg (show ¬ (block.relocated f).fresh = true from hfresh)]
        exact declare_relocated h

theorem step_relocated (h : o.step location line = .ok o') :
    (o.relocated f base).step (f location) line = .ok (o'.relocated f base) := by
  rw [step] at h ⊢
  split at h
  case isTrue => cases h
  case isFalse hlength =>
    rw [if_neg hlength]
    dsimp only at h ⊢
    split at h
    case isTrue hignored =>
      obtain rfl := Except.ok.inj h
      rw [if_pos hignored]
    case isFalse hignored =>
      rw [if_neg hignored]
      exact enter_relocated h

/-- **The same lines give the same outline**, with other locations and behind what was read
before. -/
theorem run_relocated (path' : String) (offset : Nat) (base : List Declaration) {path : String}
    {number : Nat} {ls : List (List Char)} (h : run path o number ls = .ok o') :
    run path' (o.relocated (.moved path' offset) base) (number + offset) ls =
      .ok (o'.relocated (.moved path' offset) base) := by
  induction ls generalizing o number with
  | nil =>
    obtain rfl := Except.ok.inj h
    rfl
  | cons line ls ih =>
    rw [run_cons] at h ⊢
    obtain ⟨next, hnext, h⟩ := Except.bind_eq_ok_iff.1 h
    have hstep : (o.relocated (.moved path' offset) base).step (.moved path' offset ⟨path, number⟩)
        line = .ok (next.relocated (.moved path' offset) base) := step_relocated hnext
    rw [Location.moved] at hstep
    rw [hstep, Except.ok_bind, Nat.add_right_comm]
    exact ih h

end Outline

/-! ### Texts behind one another -/

/-- The number of lines of a source. -/
def Source.lineCount (source : Source) : Nat := (Text.lines source.text.toList).length

/-- **What two texts declare** one behind the other, where the first has ended: what the first
declares, and then what the second declares, moved down by the lines of the first. -/
theorem Source.declarations_append {first second : Source} (path : String)
    (hended : Text.Ended first.text.toList) {ds ds' : List Declaration}
    (h : first.declarations = .ok ds) (h' : second.declarations = .ok ds') :
    (Source.mk path (first.text ++ second.text)).declarations =
      .ok (ds.map (.relocated (.moved path 0)) ++
        ds'.map (.relocated (.moved path first.lineCount))) := by
  rw [declarations_eq_ok_iff, outline_eq_iff] at h h' ⊢
  have hfirst := Outline.run_relocated path 0 [] h
  have hsecond := Outline.run_relocated path first.lineCount
    (ds.map (.relocated (.moved path 0))).reverse h'
  simp only [Outline.relocated, Outline.empty, List.map_nil, List.append_nil, List.nil_append,
    Nat.add_zero, List.map_reverse] at hfirst hsecond
  rw [String.toList_append, Text.lines_append hended, Outline.run_append]
  simp only [Outline.empty, hfirst, Except.ok_bind, List.reverse_append]
  exact hsecond

end PointBuy
