import PointBuy.Proofs.Declaration.Line
import PointBuy.Proofs.Declaration.Reading
import PointBuy.Proofs.Text.Lines

/-!
# Declarations can be read back

Declarations are written one to a line, with their blocks in between braces, and the comment of a
declaration stands on its own line or is the first entry of its block. Blank lines and remarks may
stand anywhere, and blanks around everything (`Declaration.Printed`). Whatever way some declarations
are written, just these declarations are read, each at the line that it begins on. The proof runs
through the lines as they are written: a declaration that has been written to its end is put where
the lines stand, whatever blocks are open around them (`Outline.run_of_printed`).

## Main definitions

* `Declaration.Printable` : a declaration that can be told apart from its surroundings.
* `Declaration.Printed` : lines on which declarations are written.

## Main statements

* `Outline.run_of_printed` : what is written is put in its place.
* `Source.outline_of_printed` : **what is written is read**.
-/

namespace PointBuy

open Text

/-! ### Writing declarations -/

namespace Declaration

/-- A line that holds a text and blanks around it, and is not too long. -/
structure Holds (line text : List Char) : Prop where
  between : ∃ before after, Blank before ∧ Blank after ∧ line = before ++ (text ++ after)
  length_le : line.length ≤ Limits.lineLength

/-- A line that holds nothing to read, blank or a remark, and is not too long. -/
structure Idle (line : List Char) : Prop where
  ignored : Blank line ∨ ∃ before rest, Blank before ∧ line = before ++ '#' :: rest
  length_le : line.length ≤ Limits.lineLength

/-- The line that a declaration begins with. Its comment may stand elsewhere. -/
def line (d : Declaration) (comment : Option String) (opensBlock : Bool) : Line :=
  ⟨d.name.toList, d.sub.map String.toList, d.operator, d.formula.toList,
    comment.map String.toList, opensBlock⟩

/-- A declaration that can be told apart from its surroundings, its block left aside: it has a name
that is not reserved, what is written after a point is like a name, the formula has no quote and no
brace, and there are no blanks around formula and comment. -/
structure Printable (d : Declaration) : Prop where
  name : Line.NameShape d.name.toList
  unreserved : isReserved d.name = false
  sub : ∀ sub ∈ d.sub, Line.NameShape sub.toList
  formula : Trimmed d.formula.toList
  formula_plain : '"' ∉ d.formula.toList ∧ '\x7b' ∉ d.formula.toList
  comment : ∀ comment ∈ d.comment, Trimmed comment.toList

instance (d : Declaration) : Decidable d.Printable :=
  decidable_of_iff (Line.NameShape d.name.toList ∧ isReserved d.name = false ∧
      (∀ sub ∈ d.sub, Line.NameShape sub.toList) ∧ Trimmed d.formula.toList ∧
      ('"' ∉ d.formula.toList ∧ '\x7b' ∉ d.formula.toList) ∧
      ∀ comment ∈ d.comment, Trimmed comment.toList)
    ⟨fun ⟨hname, hunreserved, hsub, hformula, hplain, hcomment⟩ ↦
        ⟨hname, hunreserved, hsub, hformula, hplain, hcomment⟩,
      fun h ↦ ⟨h.name, h.unreserved, h.sub, h.formula, h.formula_plain, h.comment⟩⟩

/-- **Lines on which declarations are written**, one behind the other, with blocks that nest at most
so deep. The first line has the given number, and each declaration is located where it begins. -/
inductive Printed (path : String) :
    (room number : Nat) → List (List Char) → List Declaration → Prop
  | nil {room number : Nat} : Printed path room number [] []
  /-- A line with nothing to read may stand anywhere. -/
  | idle {room number : Nat} {line : List Char} {ls : List (List Char)} {ds : List Declaration}
      (idle : Idle line) (rest : Printed path room (number + 1) ls ds) :
      Printed path room number (line :: ls) ds
  /-- A declaration without a block stands on one line. -/
  | plain {room number : Nat} {d : Declaration} {line : List Char} {ls : List (List Char)}
      {ds : List Declaration} (printable : d.Printable) (located : d.location = ⟨path, number⟩)
      (leaf : d.parts = []) (holds : Holds line (d.line d.comment false).print)
      (rest : Printed path room (number + 1) ls ds) :
      Printed path room number (line :: ls) (d :: ds)
  /-- A declaration with a block, and with its comment in front of it. -/
  | block {room number : Nat} {d : Declaration} {line last : List Char}
      {body ls : List (List Char)} {ds : List Declaration} (printable : d.Printable)
      (located : d.location = ⟨path, number⟩) (opens : Holds line (d.line d.comment true).print)
      (inner : Printed path room (number + 1) body d.parts) (closes : Holds last ['\x7d'])
      (rest : Printed path (room + 1) (number + 1 + body.length + 1) ls ds) :
      Printed path (room + 1) number (line :: (body ++ last :: ls)) (d :: ds)
  /-- A declaration with a block, the first entry of which is its comment. -/
  | commented {room number : Nat} {d : Declaration} {comment : String} {line note last : List Char}
      {between body ls : List (List Char)} {ds : List Declaration} (printable : d.Printable)
      (located : d.location = ⟨path, number⟩) (comment_eq : d.comment = some comment)
      (opens : Holds line (d.line none true).print) (idle : ∀ line ∈ between, Idle line)
      (noted : Holds note ('"' :: (comment.toList ++ ['"'])))
      (inner : Printed path room (number + 1 + between.length + 1) body d.parts)
      (closes : Holds last ['\x7d'])
      (rest : Printed path (room + 1) (number + 1 + between.length + 1 + body.length + 1) ls ds) :
      Printed path (room + 1) number (line :: (between ++ note :: (body ++ last :: ls))) (d :: ds)

/-! ### Reading one line -/

theorem Holds.trim_eq {line text : List Char} (h : Holds line text) (htext : Trimmed text) :
    trim line = text := by
  obtain ⟨before, after, hbefore, hafter, rfl⟩ := h.between
  exact trim_between hbefore htext hafter

theorem Idle.isIgnored_trim {line : List Char} (h : Idle line) :
    Line.isIgnored (trim line) = true := by
  rcases h.ignored with hblank | ⟨before, rest, hbefore, rfl⟩
  · have htrim : trim line = [] := by
      have hnothing : Trimmed [] := ⟨stops_nil _, stops_nil _⟩
      have hbetween := trim_between hblank hnothing blank_nil
      rwa [List.append_nil, List.append_nil] at hbetween
    rw [htrim]
    rfl
  · have hremark : Trimmed ['#'] := ⟨stops_cons (by decide) _, stops_cons (by decide) _⟩
    have htrim := trim_append hbefore hremark (List.cons_ne_nil _ _) rest
    rw [List.singleton_append] at htrim
    rw [htrim]
    rfl

theorem eta (d : Declaration) :
    (⟨d.name, d.sub, d.operator, d.formula, d.comment, d.location, d.parts⟩ : Declaration) = d := by
  cases d
  rfl

theorem Printable.wellFormed {d : Declaration} (h : d.Printable) {comment : Option String}
    (hcomment : ∀ c ∈ comment, c ∈ d.comment) (opensBlock : Bool) :
    (d.line comment opensBlock).WellFormed where
  name := h.name
  sub := by
    intro sub hsub
    obtain ⟨s, hs, rfl⟩ := Option.map_eq_some_iff.1 hsub
    exact h.sub s hs
  formula := h.formula
  formula_plain := by
    intro c hc
    rw [Line.endsFormula, Bool.or_eq_false_iff, beq_eq_false_iff_ne, beq_eq_false_iff_ne]
    exact ⟨ne_of_mem_of_not_mem hc h.formula_plain.1, ne_of_mem_of_not_mem hc h.formula_plain.2⟩
  comment := by
    intro text htext
    obtain ⟨c, hc, rfl⟩ := Option.map_eq_some_iff.1 htext
    exact h.comment c (hcomment c hc)

end Declaration

namespace Outline

open Declaration (Holds Idle)

variable {path : String} {outline : Outline} {location : Location} {d : Declaration}
  {line text : List Char} {number : Nat} {ls : List (List Char)} {ds : List Declaration}

/-- An entry of the innermost open block has been read. -/
def touched (outline : Outline) : Outline :=
  match outline.enclosing with
  | [] => outline
  | block :: rest => { outline with enclosing := { block with fresh := false } :: rest }

/-- The block of a declaration is open, and nothing of it has been read. -/
def opened (outline : Outline) (d : Declaration) : Outline :=
  { outline with enclosing := ⟨d, [], true⟩ :: outline.touched.enclosing }

theorem put_touched (outline : Outline) (d : Declaration) :
    outline.touched.put d = outline.put d := by
  obtain ⟨complete, enclosing⟩ := outline
  cases enclosing <;> rfl

theorem length_enclosing_put (outline : Outline) (d : Declaration) :
    (outline.put d).enclosing.length = outline.enclosing.length := by
  obtain ⟨complete, enclosing⟩ := outline
  cases enclosing <;> rfl

theorem length_enclosing_touched (outline : Outline) :
    outline.touched.enclosing.length = outline.enclosing.length := by
  obtain ⟨complete, enclosing⟩ := outline
  cases enclosing <;> rfl

theorem step_idle (h : Idle line) : outline.step location line = .ok outline := by
  rw [step, if_neg (Nat.not_lt.2 h.length_le)]
  exact if_pos h.isIgnored_trim

/-- A line that begins with a name declares something, whatever stands around it. -/
theorem enter_eq_declare {c : Char} {rest : List Char}
    (hc : Declaration.Line.isNameStart c = true) :
    outline.enter location (c :: rest) = outline.touched.declare location (c :: rest) := by
  have hbrace : c :: rest ≠ ['\x7d'] := by
    rintro ⟨⟩
    exact absurd hc (by decide)
  have hquote : Declaration.Line.bareComment? (c :: rest) = none := by
    rw [Declaration.Line.bareComment?]
    rintro quoted ⟨⟩
    exact absurd hc (by decide)
  obtain ⟨complete, enclosing⟩ := outline
  cases enclosing with
  | nil => rfl
  | cons block enclosing =>
    rw [enter]
    dsimp only
    rw [if_neg hbrace, hquote, touched]
    split
    case isTrue => rfl
    case isFalse hread =>
      obtain ⟨declaration, parts, fresh⟩ := block
      obtain rfl : fresh = false := Bool.of_not_eq_true hread
      rfl

/-- What a line of a declaration is taken apart into, it declares. -/
theorem step_eq_declare (outline : Outline) (location : Location) {comment : Option String}
    {opensBlock : Bool} (hd : d.Printable) (hcomment : ∀ c ∈ comment, c ∈ d.comment)
    (h : Holds line (d.line comment opensBlock).print) :
    Declaration.Line.split (trim line) = some (d.line comment opensBlock) ∧
      outline.step location line = outline.touched.declare location (trim line) := by
  have hshape := hd.wellFormed hcomment opensBlock
  have hlength := Nat.not_lt.2 h.length_le
  obtain ⟨before, after, hbefore, hafter, rfl⟩ := h.between
  refine ⟨Declaration.Line.split_trim_print hshape hbefore hafter, ?_⟩
  obtain ⟨c, rest, htrim, hc⟩ :=
    Declaration.Line.exists_trim_print_eq_cons hshape hbefore after
  have hread : ¬ Declaration.Line.isIgnored (c :: rest) = true := by
    rw [Declaration.Line.isIgnored, List.isEmpty_cons, Bool.false_or, List.head?_cons, beq_iff_eq]
    rintro ⟨⟩
    exact absurd hc (by decide)
  rw [step, if_neg hlength, htrim]
  exact (if_neg hread).trans (enter_eq_declare hc)

/-- What is taken apart is put together again. -/
theorem declare_eq {comment : Option String} {opensBlock : Bool} (hd : d.Printable)
    (hlocation : d.location = location)
    (hsplit : Declaration.Line.split line = some (d.line comment opensBlock)) :
    outline.declare location line =
      if opensBlock then
        if Limits.blockDepth < outline.enclosing.length + 1 then
          .error ⟨.blockTooDeep (outline.enclosing.length + 1), location⟩
        else
          .ok { outline with
            enclosing := ⟨{ d with comment, parts := [] }, [], true⟩ :: outline.enclosing }
      else .ok (outline.put { d with comment, parts := [] }) := by
  obtain ⟨name, sub, operator, formula, _, _, parts⟩ := d
  obtain rfl := hlocation
  have hback (text : Option String) : (text.map String.toList).map String.ofList = text := by
    cases text <;> simp
  have hname : Declaration.isReserved name = false := hd.unreserved
  rw [declare, hsplit]
  simp only [Declaration.line, String.ofList_toList, hback, hname, Bool.false_eq_true, if_false]

/-- A line without a brace is read as its declaration. -/
theorem step_plain (hd : d.Printable) (hlocation : d.location = location) (hleaf : d.parts = [])
    (h : Holds line (d.line d.comment false).print) :
    outline.step location line = .ok (outline.put d) := by
  obtain ⟨hsplit, hstep⟩ := outline.step_eq_declare location hd (fun _ hc ↦ hc) h
  rw [hstep, declare_eq hd hlocation hsplit, if_neg Bool.false_ne_true, ← hleaf, put_touched]
  obtain ⟨_, _, _, _, _, _, _⟩ := d
  rfl

/-- A line with a brace opens the block of its declaration. -/
theorem step_opens {comment : Option String} (hd : d.Printable)
    (hcomment : ∀ c ∈ comment, c ∈ d.comment) (hlocation : d.location = location)
    (hroom : outline.enclosing.length < Limits.blockDepth)
    (h : Holds line (d.line comment true).print) :
    outline.step location line = .ok (outline.opened { d with comment, parts := [] }) := by
  obtain ⟨hsplit, hstep⟩ := outline.step_eq_declare location hd hcomment h
  rw [hstep, declare_eq hd hlocation hsplit, if_pos rfl, length_enclosing_touched,
    if_neg (Nat.not_lt.2 hroom)]
  obtain ⟨complete, enclosing⟩ := outline
  cases enclosing <;> rfl

/-- A comment that is the first entry of a block becomes that of the declaration. -/
theorem step_noted {comment : String} (hcomment : Trimmed comment.toList)
    (hnone : d.comment = none) (h : Holds line ('"' :: (comment.toList ++ ['"']))) :
    (outline.opened d).step location line =
      .ok { outline with
        enclosing := ⟨{ d with comment := some comment }, [], false⟩ ::
          outline.touched.enclosing } := by
  have htrimmed : Trimmed ('"' :: (comment.toList ++ ['"'])) := by
    refine ⟨stops_cons (by decide) _, ?_⟩
    rw [← List.cons_append, List.reverse_append]
    exact stops_cons (by decide) _
  have hbare : Declaration.Line.bareComment? ('"' :: (comment.toList ++ ['"'])) =
      some comment.toList := by
    rw [Declaration.Line.bareComment?, List.reverse_append, List.reverse_singleton,
      List.singleton_append]
    refine (congrArg (fun text ↦ some (trim text)) (List.reverse_reverse _)).trans ?_
    rw [hcomment.trim_eq]
  have hbrace : '"' :: (comment.toList ++ ['"']) ≠ ['\x7d'] := by
    rintro ⟨⟩
  rw [step, if_neg (Nat.not_lt.2 h.length_le), h.trim_eq htrimmed]
  refine (if_neg (by rw [Declaration.Line.isIgnored]; simp)).trans ?_
  rw [opened, enter]
  dsimp only
  rw [if_neg hbrace, if_pos rfl, hbare, hnone]
  simp only [Option.isSome_none, Bool.false_eq_true, if_false, String.ofList_toList]

/-- A brace closes the innermost open block. -/
theorem step_closes (complete : List Declaration) (block : OpenDeclaration)
    (enclosing : List OpenDeclaration) (h : Holds line ['\x7d']) :
    (Outline.mk complete (block :: enclosing)).step location line =
      .ok ((Outline.mk complete enclosing).put block.close) := by
  have hbrace : Trimmed ['\x7d'] := ⟨stops_cons (by decide) _, stops_cons (by decide) _⟩
  rw [step, if_neg (Nat.not_lt.2 h.length_le), h.trim_eq hbrace]
  rfl

/-! ### Reading all lines -/

theorem run_idle (hidle : ∀ line ∈ ls, Idle line) : run path outline number ls = .ok outline := by
  induction ls generalizing number with
  | nil => rfl
  | cons line ls ih =>
    obtain ⟨hline, hls⟩ := List.forall_mem_cons.1 hidle
    rw [run_cons, step_idle hline, Except.ok_bind]
    exact ih hls

/-- Declarations in a block become its parts. -/
theorem foldl_put_eq (complete : List Declaration) (block : OpenDeclaration)
    (enclosing : List OpenDeclaration) (ds : List Declaration) :
    ∃ fresh, ds.foldl put ⟨complete, block :: enclosing⟩ =
      ⟨complete, ⟨block.declaration, ds.reverse ++ block.parts, fresh⟩ :: enclosing⟩ := by
  induction ds generalizing block with
  | nil => exact ⟨block.fresh, rfl⟩
  | cons d ds ih =>
    obtain ⟨fresh, hput⟩ := ih { block with parts := d :: block.parts, fresh := false }
    refine ⟨fresh, ?_⟩
    rw [List.foldl_cons, List.reverse_cons, List.append_assoc]
    exact hput

theorem foldl_put_eq_of_closed (complete ds : List Declaration) :
    ds.foldl put ⟨complete, []⟩ = ⟨ds.reverse ++ complete, []⟩ := by
  induction ds generalizing complete with
  | nil => rfl
  | cons d ds ih =>
    rw [List.foldl_cons, List.reverse_cons, List.append_assoc]
    exact ih (d :: complete)

/-- **A block that has been read to its brace** puts its declaration in its place. -/
theorem run_block {opened : OpenDeclaration} {body more : List (List Char)} {last : List Char}
    (hbody : run path ⟨outline.complete, opened :: outline.touched.enclosing⟩ number body =
      .ok (d.parts.foldl put ⟨outline.complete, opened :: outline.touched.enclosing⟩))
    (hparts : opened.parts = []) (hopened : { opened.declaration with parts := d.parts } = d)
    (hlast : Holds last ['\x7d']) :
    run path ⟨outline.complete, opened :: outline.touched.enclosing⟩ number
        (body ++ last :: more) =
      run path (outline.put d) (number + body.length + 1) more := by
  -- the declaration is put where the block was opened
  have htouched : Outline.mk outline.complete outline.touched.enclosing = outline.touched := by
    obtain ⟨complete, enclosing⟩ := outline
    cases enclosing <;> rfl
  obtain ⟨fresh, hput⟩ :=
    foldl_put_eq outline.complete opened outline.touched.enclosing d.parts
  rw [run_append, hbody, Except.ok_bind, hput, run_cons, step_closes _ _ _ hlast, Except.ok_bind,
    OpenDeclaration.close, hparts, List.append_nil, List.reverse_reverse, hopened, htouched,
    put_touched]

/-- **What is written is put in its place**, one declaration after the other, as long as no block is
too deep. -/
theorem run_of_printed {room : Nat} (h : Declaration.Printed path room number ls ds)
    (hroom : outline.enclosing.length + room ≤ Limits.blockDepth) :
    run path outline number ls = .ok (ds.foldl put outline) := by
  induction h generalizing outline with
  | nil => rfl
  | idle idle _ ih =>
    rw [run_cons, step_idle idle, Except.ok_bind]
    exact ih hroom
  | plain printable located leaf holds _ ih =>
    rw [run_cons, step_plain printable located leaf holds, Except.ok_bind, List.foldl_cons]
    exact ih (by rwa [length_enclosing_put])
  | @block room number d line last body ls ds printable located opens _ closes _ ihinner ihrest =>
    have hinner := @ihinner (outline.opened
        ⟨d.name, d.sub, d.operator, d.formula, d.comment, d.location, []⟩) (by
      rw [opened, List.length_cons, length_enclosing_touched]
      omega)
    rw [opened] at hinner
    rw [run_cons, step_opens printable (fun _ hc ↦ hc) located (by omega) opens, Except.ok_bind,
      opened, run_block hinner rfl d.eta closes, List.foldl_cons]
    exact ihrest (by rwa [length_enclosing_put])
  | @commented room number d comment line note last between body ls ds printable located comment_eq
      opens idle noted _ closes _ ihinner ihrest =>
    have hnone : ∀ c ∈ (none : Option String), c ∈ d.comment := fun _ hc ↦ (nomatch hc)
    have hinner := @ihinner ⟨outline.complete,
        ⟨⟨d.name, d.sub, d.operator, d.formula, some comment, d.location, []⟩, [], false⟩ ::
          outline.touched.enclosing⟩ (by
      rw [List.length_cons, length_enclosing_touched]
      omega)
    rw [run_cons, step_opens printable hnone located (by omega) opens, Except.ok_bind, run_append,
      run_idle idle, Except.ok_bind, run_cons,
      step_noted (printable.comment comment comment_eq) rfl noted, Except.ok_bind,
      run_block hinner rfl (comment_eq ▸ d.eta) closes, List.foldl_cons]
    exact ihrest (by rwa [length_enclosing_put])

end Outline

/-- **What is written is read**: whatever way declarations are written on the lines of a source,
just these declarations are read of it, each at the line that it begins on, and there is no
fault. -/
theorem Source.outline_of_printed {source : Source} {ls : List (List Char)} {ds : List Declaration}
    (hwritten : Written source.text.toList ls)
    (hprinted : Declaration.Printed source.path Limits.blockDepth 1 ls ds) :
    source.outline = (ds, none) := by
  rw [outline_eq_iff, lines_of_written hwritten, Outline.empty,
    Outline.run_of_printed hprinted (Nat.le_of_eq (Nat.zero_add _)),
    Outline.foldl_put_eq_of_closed, List.append_nil]

/-- A change of a cost, on the sixth line. -/
def lessDx : Declaration :=
  ⟨"DX", some "cost", .subtractFrom, "5", some "less", ⟨"luck.txt", 6⟩, []⟩

/-- A declaration with that change in its block, and with a comment that is not easy to read. -/
def luck : Declaration :=
  ⟨"Luck (minor)", none, .define, "15", some "so \"called\" \x7bluck\x7d", ⟨"luck.txt", 3⟩,
    [lessDx]⟩

/-- The line on which that change is written, with blanks around it. -/
def lessDxLine : List Char := "  DX.cost -= 5 \"less\" ".toList

/-- Lines on which that declaration is written, among empty lines and a remark. -/
def luckLines : List (List Char) :=
  "# Luck costs something".toList :: [] :: "Luck (minor) : 15 \x7b".toList :: ([[]] ++
    "  \"so \"called\" \x7bluck\x7d\"".toList :: ([lessDxLine] ++ ["\x7d".toList]))

theorem printed_luck : Declaration.Printed "luck.txt" Limits.blockDepth 1 luckLines [luck] := by
  have hspaces : Blank [' ', ' '] := by decide
  have hremark : Declaration.Idle "# Luck costs something".toList :=
    ⟨.inr ⟨[], " Luck costs something".toList, blank_nil, by decide⟩, by decide⟩
  have hempty : Declaration.Idle [] := ⟨.inl blank_nil, by decide⟩
  have hless : Declaration.Printed "luck.txt" (Limits.blockDepth - 1) 6 [lessDxLine] [lessDx] :=
    .plain (by decide) rfl rfl
      ⟨⟨[' ', ' '], [' '], hspaces, blank_space, by decide⟩, by decide⟩ .nil
  refine .idle hremark (.idle hempty (.commented (by decide) rfl rfl ?_
    (fun _ hline ↦ List.mem_singleton.1 hline ▸ hempty) ?_ hless ?_ .nil))
  · exact ⟨⟨[], [], blank_nil, blank_nil, by decide⟩, by decide⟩
  · exact ⟨⟨[' ', ' '], [], hspaces, blank_nil, by decide⟩, by decide⟩
  · exact ⟨⟨[], [], blank_nil, blank_nil, by decide⟩, by decide⟩

/-- Comments with quotes and braces, remarks and empty lines do not stand in the way. -/
theorem outline_of_printed_luck :
    Written (luckLines.flatMap (· ++ ['\n'])) luckLines ∧
      Declaration.Printed "luck.txt" Limits.blockDepth 1 luckLines [luck] ∧
      (Source.mk "luck.txt" (String.ofList (luckLines.flatMap (· ++ ['\n'])))).outline =
        ([luck], none) := by
  have hwritten : Written (luckLines.flatMap (· ++ ['\n'])) luckLines :=
    written_flatMap (by decide)
  refine ⟨hwritten, printed_luck, Source.outline_of_printed ?_ printed_luck⟩
  rw [String.toList_ofList]
  exact hwritten

end PointBuy
