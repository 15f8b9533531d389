import Mathlib.Data.List.TakeWhile
import Mathlib.Order.Interval.Finset.Nat
import RollScript.Span

/-!
# Lines and columns

Read `location_exact` last: the line and the column of a location name exactly one offset of the source,
they are in the order of the offsets, and the snippet shows the line with a marker below it. The lines
of a source are its parts between line feeds. `splitOn_before` says where an offset falls among them.
-/

namespace RollScript

/-- How many characters some lines take up, each with its line feed. -/
def extent : List Text → Nat
  | [] => 0
  | line :: rest => line.length + 1 + extent rest

theorem extent_append (lines later : List Text) : extent (lines ++ later) = extent lines + extent later := by
  induction lines with
  | nil => exact (Nat.zero_add _).symm
  | cons line rest ih => rw [List.cons_append, extent, extent, ih, Nat.add_assoc (line.length + 1)]

/-- A line and the lines before it take up at least as much as one that is further down has before it. -/
theorem extent_take_le {lines : List Text} {i j : Nat} {line : Text} (h : lines[i]? = some line)
    (hij : i < j) : extent (lines.take i) + line.length + 1 ≤ extent (lines.take j) := by
  obtain ⟨hi, rfl⟩ := List.getElem?_eq_some_iff.1 h
  have hprefix : lines.take (i + 1) = lines.take i ++ [lines[i]] := List.take_succ_eq_append_getElem hi
  have hsplit : lines.take j = lines.take (i + 1) ++ (lines.drop (i + 1)).take (j - (i + 1)) := by
    rw [← List.take_add, Nat.add_sub_cancel' hij]
  rw [hsplit, hprefix, extent_append, extent_append, extent, extent]
  omega

/-! ## Splitting at line feeds -/

section Split

variable {feed : CodePoint}

/-- Splitting gives one line more than there are line feeds. -/
theorem length_splitOn (t : Text) : (t.splitOn feed).length = t.count feed + 1 := by
  induction t with
  | nil => rfl
  | cons c t ih =>
      rw [List.splitOn_cons_eq_if_modifyHead, List.count_cons]
      split
      · rw [List.length_cons, ih]
      · rw [List.length_modifyHead, ih, Nat.add_zero]

/-- The lines take up the whole text, and a line feed for the last one. -/
theorem extent_splitOn (t : Text) : extent (t.splitOn feed) = t.length + 1 := by
  induction t with
  | nil => rfl
  | cons c t ih =>
      rw [List.splitOn_cons_eq_if_modifyHead]
      split
      · rw [extent, ih, List.length_cons, List.length_nil]
        omega
      · obtain ⟨line, rest, hlines⟩ := List.exists_cons_of_ne_nil (List.splitOn_ne_nil feed t)
        rw [hlines, extent] at ih
        rw [hlines, List.modifyHead_cons, extent, List.length_cons, List.length_cons]
        omega

/-- The first line ends in front of the first line feed. -/
theorem splitOn_eq_takeWhile (t : Text) :
    ∃ later, t.splitOn feed = t.takeWhile (· ≠ feed) :: later := by
  induction t with
  | nil => exact ⟨[], rfl⟩
  | cons c t ih =>
      obtain ⟨later, hlater⟩ := ih
      rw [List.splitOn_cons_eq_if_modifyHead]
      by_cases hc : c = feed
      · rw [if_pos (beq_iff_eq.2 hc), List.takeWhile_cons_of_neg (by simp [hc])]
        exact ⟨_, rfl⟩
      · rw [if_neg (by simpa using hc), hlater, List.takeWhile_cons_of_pos (by simpa using hc),
          List.modifyHead_cons]
        exact ⟨later, rfl⟩

/-- A text without line feeds is put in front of the first line. -/
theorem splitOn_append_of_not_mem {head rest : Text} (h : feed ∉ head) :
    (head ++ rest).splitOn feed = (rest.splitOn feed).modifyHead (head ++ ·) := by
  obtain ⟨line, later, hlines⟩ := List.exists_cons_of_ne_nil (List.splitOn_ne_nil feed rest)
  rw [hlines, List.modifyHead_cons]
  induction head with
  | nil => exact hlines
  | cons c head ih =>
      obtain ⟨hc, hhead⟩ := not_or.1 (List.mem_cons.not.1 h)
      rw [List.cons_append, List.splitOn_cons_eq_if_modifyHead, if_neg (by simpa using Ne.symm hc),
        ih hhead, List.modifyHead_cons]
      rfl

/-- Where the end of a text falls among the lines of the text and what follows it. -/
theorem splitOn_before (before : Text) :
    ∃ earlier head, head = (before.reverse.takeWhile (· ≠ feed)).reverse ∧
      earlier.length = before.count feed ∧ extent earlier + head.length = before.length ∧
      ∀ rest : Text, (before ++ rest).splitOn feed =
        earlier ++ (rest.splitOn feed).modifyHead (head ++ ·) := by
  have hhead : feed ∉ (before.reverse.takeWhile (· ≠ feed)).reverse := by
    intro hmem
    have hne := List.mem_takeWhile_imp (List.mem_reverse.1 hmem)
    simp at hne
  have hbefore := congrArg List.reverse
    (List.takeWhile_append_dropWhile (p := (· ≠ feed)) (l := before.reverse))
  rw [List.reverse_append, List.reverse_reverse] at hbefore
  generalize (before.reverse.takeWhile (· ≠ feed)).reverse = head at hhead hbefore
  cases hrest : before.reverse.dropWhile (· ≠ feed) with
  | nil =>
      -- no line feed comes before
      rw [hrest] at hbefore
      subst hbefore
      refine ⟨[], head, rfl, ?_, Nat.zero_add _, fun rest => splitOn_append_of_not_mem hhead⟩
      exact (List.count_eq_zero_of_not_mem hhead).symm
  | cons c front =>
      have hc : c = feed := by
        have hfirst := List.head?_dropWhile_not (· ≠ feed) before.reverse
        rw [hrest] at hfirst
        simpa using hfirst
      rw [hrest, List.reverse_cons, hc, List.append_assoc, List.singleton_append] at hbefore
      subst hbefore
      refine ⟨front.reverse.splitOn feed, head, rfl, ?_, ?_, fun rest => ?_⟩
      · rw [length_splitOn, List.count_append, List.count_cons_self,
          List.count_eq_zero_of_not_mem hhead]
      · rw [extent_splitOn, List.length_append, List.length_cons]
        omega
      · rw [List.append_assoc, List.cons_append, List.splitOn_append_cons_self,
          splitOn_append_of_not_mem hhead]

end Split

namespace Location

/-- The lines of the source. -/
def lines (l : Location) : List Text :=
  l.source.splitOn (.scalar '\n')

/-- The offsets of a line, given by its index, up to its line feed. -/
def offsetsOf (l : Location) (index : Nat) : Finset Nat :=
  Finset.Ico (extent (l.lines.take index)) (extent (l.lines.take index) + (l.lines.getD index []).length)

/-- The marker below the line: dashes up to the column, then a caret for each offset of the span that is
on the line, and at least one. -/
def marker (l : Location) : Text :=
  List.replicate (l.column - 1) (.scalar '-') ++
    List.replicate (max 1 (Finset.Ico l.span.start l.span.stop ∩ l.offsetsOf (l.line - 1)).card)
      (.scalar '^')

variable {l : Location}

theorem length_before (hstart : l.span.start ≤ l.source.length) : l.before.length = l.span.start := by
  rw [before, List.length_take, Nat.min_eq_left hstart]

theorem length_lineHead_le (l : Location) : l.lineHead.length ≤ l.before.length := by
  rw [lineHead, List.length_reverse, ← @List.length_reverse _ l.before]
  exact (List.takeWhile_sublist _).length_le

theorem column_eq (hstart : l.span.start ≤ l.source.length) : l.column = l.lineHead.length + 1 := by
  have hle := length_lineHead_le l
  have hbefore := length_before hstart
  rw [column, lineStart]
  omega

/-- The lines of the source, the span's first line among them. -/
theorem lines_eq (l : Location) :
    ∃ earlier later, l.lines = earlier ++ (l.lineHead ++ l.lineRest) :: later ∧
      earlier.length + 1 = l.line ∧ extent earlier = l.lineStart := by
  obtain ⟨earlier, head, rfl, hcount, hextent, hsplit⟩ := @splitOn_before (.scalar '\n') l.before
  obtain ⟨later, hlater⟩ := @splitOn_eq_takeWhile (.scalar '\n') (l.source.drop l.span.start)
  refine ⟨earlier, later, ?_, ?_, ?_⟩
  · have hsource : l.before ++ l.source.drop l.span.start = l.source := List.take_append_drop _ _
    rw [lines, ← hsource, hsplit, hlater, List.modifyHead_cons]
    rfl
  · rw [hcount, line]
  · exact Nat.eq_sub_of_add_eq hextent

/-- The span's first line stands at its number, after the lines that take up what is before it. -/
theorem line_text (l : Location) :
    l.lines[l.line - 1]? = some (l.lineHead ++ l.lineRest) ∧
      extent (l.lines.take (l.line - 1)) = l.lineStart ∧ l.line ≤ l.lines.length := by
  obtain ⟨earlier, later, hlines, hline, hextent⟩ := lines_eq l
  have hindex : l.line - 1 = earlier.length := by omega
  rw [hindex, hlines]
  refine ⟨?_, ?_, ?_⟩
  · rw [List.getElem?_append_right (Nat.le_refl _), Nat.sub_self]
    rfl
  · rw [List.take_left, hextent]
  · rw [List.length_append, List.length_cons]
    omega

/-- The offsets that are underlined are those of the span on its first line. -/
theorem width_eq (hstart : l.span.start ≤ l.source.length) :
    l.width = max 1 (Finset.Ico l.span.start l.span.stop ∩ l.offsetsOf (l.line - 1)).card := by
  obtain ⟨htext, hextent, -⟩ := line_text l
  have hle := length_lineHead_le l
  have hbefore := length_before hstart
  have hstop : l.lineStart + (l.lineHead ++ l.lineRest).length = l.lineStop := by
    rw [lineStart, lineStop, List.length_append]
    omega
  have hfirst : l.lineStart ≤ l.span.start := by
    rw [lineStart]
    omega
  rw [offsetsOf, hextent, List.getD_eq_getElem?_getD, htext, Option.getD_some, hstop,
    Finset.Ico_inter_Ico, Nat.card_Ico, max_eq_left hfirst]
  rfl

theorem feed_not_mem_line (l : Location) : CodePoint.scalar '\n' ∉ l.lineHead ++ l.lineRest := by
  intro hmem
  rcases List.mem_append.1 hmem with hmem | hmem
  · have hne := List.mem_takeWhile_imp (List.mem_reverse.1 hmem)
    simp at hne
  · have hne := List.mem_takeWhile_imp hmem
    simp at hne

/-- The snippet has two lines: the span's first line and the marker. -/
theorem snippet_lines (hstart : l.span.start ≤ l.source.length) :
    l.snippet.splitOn (.scalar '\n') = [l.lineHead ++ l.lineRest, l.marker] := by
  have hmarker : CodePoint.scalar '\n' ∉ l.marker := by
    simp [marker, List.mem_replicate]
  rw [snippet, List.splitOn_append_cons_self_of_not_mem (feed_not_mem_line l), width_eq hstart]
  exact congrArg _ (List.splitOn_eq_singleton hmarker)

/-- The line and the column lead back to the offset. -/
theorem extent_add_column (hstart : l.span.start ≤ l.source.length) :
    extent (l.lines.take (l.line - 1)) + (l.column - 1) = l.span.start := by
  have hle := length_lineHead_le l
  have hbefore := length_before hstart
  rw [(line_text l).2.1, column_eq hstart, lineStart]
  omega

/-- An offset on an earlier line comes earlier. -/
theorem start_lt_of_line_lt {l' : Location} (hsource : l.source = l'.source)
    (hstart : l.span.start ≤ l.source.length) (hstart' : l'.span.start ≤ l'.source.length)
    (hline : l.line < l'.line) : l.span.start < l'.span.start := by
  have hlines : l.lines = l'.lines := congrArg (List.splitOn _) hsource
  have hoffset := extent_add_column hstart
  have hoffset' := extent_add_column hstart'
  have hcolumn := column_eq hstart
  have hbelow := extent_take_le (line_text l).1 (j := l'.line - 1) (by rw [line] at hline ⊢; omega)
  rw [← hlines] at hoffset'
  rw [List.length_append] at hbelow
  omega

end Location

/-- The line and the column of an offset are on the lines of the source and lead back to the offset; the
snippet shows the line and a marker below it; and the line and the column are in the order of the
offsets. -/
theorem location_exact (source : Text) :
    (∀ span : Span, span.start ≤ source.length →
      let l : Location := ⟨source, span⟩
      ∃ text, l.lines[l.line - 1]? = some text ∧ 1 ≤ l.line ∧ l.line ≤ l.lines.length ∧
        1 ≤ l.column ∧ l.column - 1 ≤ text.length ∧
        extent (l.lines.take (l.line - 1)) + (l.column - 1) = span.start ∧
        l.snippet.splitOn (.scalar '\n') = [text, l.marker]) ∧
    (∀ span span' : Span, span.start ≤ source.length → span'.start ≤ source.length →
      let l : Location := ⟨source, span⟩
      let l' : Location := ⟨source, span'⟩
      (span.start < span'.start ↔ l.line < l'.line ∨ l.line = l'.line ∧ l.column < l'.column) ∧
        (l.line = l'.line ∧ l.column = l'.column → span.start = span'.start)) := by
  refine ⟨fun span hstart => ?_, fun span span' hstart hstart' => ?_⟩
  · intro l
    obtain ⟨htext, -, hline⟩ := l.line_text
    have hcolumn : l.column = l.lineHead.length + 1 := Location.column_eq hstart
    refine ⟨_, htext, Nat.le_add_left _ _, hline, Nat.le_add_left _ _, ?_,
      Location.extent_add_column (l := l) hstart, Location.snippet_lines (l := l) hstart⟩
    rw [hcolumn, Nat.add_sub_cancel, List.length_append]
    exact Nat.le_add_right _ _
  · intro l l'
    have hoffset : extent (l.lines.take (l.line - 1)) + (l.column - 1) = span.start :=
      Location.extent_add_column hstart
    have hoffset' : extent (l'.lines.take (l'.line - 1)) + (l'.column - 1) = span'.start :=
      Location.extent_add_column hstart'
    have hlines : l.lines = l'.lines := rfl
    have hcolumn : 1 ≤ l.column := Nat.le_add_left _ _
    have hcolumn' : 1 ≤ l'.column := Nat.le_add_left _ _
    rw [hlines] at hoffset
    rcases Nat.lt_trichotomy l.line l'.line with hlt | heq | hgt
    · have hbefore : span.start < span'.start :=
        @Location.start_lt_of_line_lt l l' rfl hstart hstart' hlt
      omega
    · rw [heq] at hoffset
      omega
    · have hafter : span'.start < span.start :=
        @Location.start_lt_of_line_lt l' l rfl hstart' hstart hgt
      omega

/-- Two line feeds of a source with an empty line: the first one ends its line, and the second one is all
that is on its line. The span from the second one runs on into the line after it. -/
theorem lineFeeds_located :
    let source := Text.ofString "1 +\n\n2 $"
    let l : Location := ⟨source, ⟨3, 4⟩⟩
    let l' : Location := ⟨source, ⟨4, 7⟩⟩
    (l.span.start ≤ source.length ∧ l'.span.start ≤ source.length) ∧
      (l.line = 1 ∧ l.column = 4) ∧ (l'.line = 2 ∧ l'.column = 1) ∧
      (∃ text, l'.lines[l'.line - 1]? = some text ∧ 1 ≤ l'.line ∧ l'.line ≤ l'.lines.length ∧
        1 ≤ l'.column ∧ l'.column - 1 ≤ text.length ∧
        extent (l'.lines.take (l'.line - 1)) + (l'.column - 1) = 4 ∧
        l'.snippet.splitOn (.scalar '\n') = [text, l'.marker]) ∧
      (3 < 4 ↔ l.line < l'.line ∨ l.line = l'.line ∧ l.column < l'.column) ∧
      (l.line = l'.line ∧ l.column = l'.column → 3 = 4) := by
  intro source l l'
  have hstart : l.span.start ≤ source.length := by decide
  have hstart' : l'.span.start ≤ source.length := by decide
  exact ⟨⟨hstart, hstart'⟩, by decide, by decide, (location_exact source).1 l'.span hstart',
    (location_exact source).2 l.span l'.span hstart hstart'⟩

end RollScript
