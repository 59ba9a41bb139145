import ElementWrap.Wrapper.Indent

/-! # Indentation line by line

Indenting a text is indenting each of its lines, and the written unit is no exception. A text that
is put together from lines of a level and a text is therefore the same lines at the same levels
under every unit (`ElementWrap.Wrapper.reindent_writeLines`), as long as no line breaks off inside
and none opens with a level's worth of blanks of its own.
-/

namespace ElementWrap.Wrapper

/-! ## One line -/

private theorem leadingBlanks_append {level : Nat} {text : List Char} :
    leadingBlanks (List.replicate level ' ' ++ text) = level + leadingBlanks text := by
  unfold leadingBlanks
  rw [List.takeWhile_append_of_pos (by
    intro c member
    rw [List.eq_of_mem_replicate member]
    rfl)]
  rw [List.length_append, List.length_replicate]

private theorem take_leadingBlanks (line : List Char) :
    line.take (leadingBlanks line) = List.replicate (leadingBlanks line) ' ' := by
  have opening : line.take (leadingBlanks line) = line.takeWhile (· == ' ') :=
    (List.prefix_iff_eq_take.mp (List.takeWhile_prefix _)).symm
  rw [opening]
  refine List.eq_replicate_iff.mpr ⟨rfl, ?_⟩
  intro c member
  exact eq_of_beq (List.all_eq_true.mp List.all_takeWhile c member)

/-- A line is its leading blanks and what comes behind them. -/
theorem blanks_append_drop (line : List Char) :
    List.replicate (leadingBlanks line) ' ' ++ line.drop (leadingBlanks line) = line := by
  rw [← take_leadingBlanks, List.take_append_drop]

private theorem leadingBlanks_eq_zero {line : List Char} (flush : line.head? ≠ some ' ') :
    leadingBlanks line = 0 := by
  cases line with
  | nil => rfl
  | cons c rest =>
      have solid : c ≠ ' ' := by simpa using flush
      rw [leadingBlanks, List.takeWhile_cons_of_neg (by simpa using solid), List.length_nil]

/-- A line that opens with no blank has less than a level of them. -/
theorem leadingBlanks_lt_of_flush {line : List Char} (flush : line.head? ≠ some ' ') :
    leadingBlanks line < levelWidth := by
  rw [leadingBlanks_eq_zero flush]
  decide

/-- Behind its leading blanks a line goes on with none. -/
theorem head?_drop_leadingBlanks (line : List Char) :
    (line.drop (leadingBlanks line)).head? ≠ some ' ' := by
  induction line with
  | nil => simp
  | cons c rest ih =>
      by_cases blank : c = ' '
      · have width : leadingBlanks (c :: rest) = leadingBlanks rest + 1 := by
          rw [leadingBlanks, List.takeWhile_cons_of_pos (by simpa using blank), List.length_cons,
            leadingBlanks]
        rwa [width, List.drop_succ_cons]
      · have flush : (c :: rest).head? ≠ some ' ' := by simpa using blank
        rwa [leadingBlanks_eq_zero flush, List.drop_zero]

/-- Every line is written at a level, with fewer blanks than a level behind it. -/
theorem exists_level (line : List Char) :
    ∃ level text, leadingBlanks text < levelWidth ∧
      line = List.replicate (level * levelWidth) ' ' ++ text := by
  refine ⟨leadingBlanks line / levelWidth,
    List.replicate (leadingBlanks line % levelWidth) ' ' ++ line.drop (leadingBlanks line), ?_, ?_⟩
  · rw [leadingBlanks_append, leadingBlanks_eq_zero (head?_drop_leadingBlanks line)]
    exact Nat.mod_lt _ (by decide)
  · rw [← List.append_assoc, List.replicate_append_replicate, Nat.div_add_mod',
      blanks_append_drop]

/-- A line that is written at a level and opens with fewer blanks than a level keeps the level and
its text. -/
theorem reindentLine_level (unit : List Char) {level : Nat} {text : List Char}
    (shallow : leadingBlanks text < levelWidth) :
    reindentLine unit (List.replicate (level * levelWidth) ' ' ++ text) =
      (List.replicate level unit).flatten ++ text := by
  have levels : (level * levelWidth + leadingBlanks text) / levelWidth = level := by
    unfold levelWidth at *
    omega
  have remaining : (level * levelWidth + leadingBlanks text) % levelWidth = leadingBlanks text := by
    unfold levelWidth at *
    omega
  simp only [reindentLine, leadingBlanks_append]
  rw [levels, remaining, List.drop_append, List.length_replicate,
    Nat.add_sub_cancel_left, List.drop_eq_nil_of_le (by rw [List.length_replicate]; omega),
    List.nil_append, List.append_assoc, blanks_append_drop]

/-- A line of no level stays as it is. -/
theorem reindentLine_shallow (unit : List Char) {line : List Char}
    (shallow : leadingBlanks line < levelWidth) : reindentLine unit line = line := by
  have flush : reindentLine unit (List.replicate (0 * levelWidth) ' ' ++ line) =
      (List.replicate 0 unit).flatten ++ line := reindentLine_level unit shallow
  simpa using flush

/-- Indenting a line by the written unit changes nothing. -/
theorem reindentLine_written (line : List Char) :
    reindentLine (List.replicate levelWidth ' ') line = line := by
  obtain ⟨level, text, shallow, rfl⟩ := exists_level line
  rw [reindentLine_level _ shallow, List.flatten_replicate_replicate]

/-! ## Texts of lines -/

/-- Indenting a text is indenting each of its lines, by the written unit as by any other. -/
theorem reindentChars_eq (unit code : List Char) :
    reindentChars unit code = ['\n'].intercalate ((code.splitOn '\n').map (reindentLine unit)) := by
  unfold reindentChars
  split
  · next written =>
      rw [written, List.map_congr_left (g := id) fun line _ => reindentLine_written line,
        List.map_id, List.intercalate_splitOn]
  · rfl

private theorem intercalate_append {separator : List α} {first second : List (List α)}
    (someFirst : first ≠ []) (someSecond : second ≠ []) :
    separator.intercalate (first ++ second) =
      separator.intercalate first ++ separator ++ separator.intercalate second := by
  induction first with
  | nil => exact absurd rfl someFirst
  | cons line rest ih =>
      cases rest with
      | nil =>
          rw [List.singleton_append, List.intercalate_cons_of_ne_nil someSecond,
            List.intercalate_singleton]
      | cons next rest =>
          rw [List.cons_append, List.intercalate_cons_of_ne_nil (by simp),
            ih (List.cons_ne_nil _ _), List.intercalate_cons_of_ne_nil (List.cons_ne_nil _ _)]
          simp only [List.append_assoc]

/-- What stands before a line feed is indented apart from what stands behind it. -/
theorem reindentChars_break (unit before after : List Char) :
    reindentChars unit (before ++ '\n' :: after) =
      reindentChars unit before ++ '\n' :: reindentChars unit after := by
  have lines (code : List Char) : (code.splitOn '\n').map (reindentLine unit) ≠ [] := by
    rw [Ne, List.map_eq_nil_iff]
    exact List.splitOn_ne_nil _ _
  rw [reindentChars_eq, reindentChars_eq, reindentChars_eq, List.splitOn_append_cons_self,
    List.map_append, intercalate_append (lines before) (lines after), List.append_assoc,
    List.singleton_append]

/-- The first line of a text is indented by itself. -/
theorem reindentChars_line (unit : List Char) {line : List Char} (unbroken : '\n' ∉ line)
    (rest : List Char) :
    reindentChars unit (line ++ '\n' :: rest) =
      reindentLine unit line ++ '\n' :: reindentChars unit rest := by
  rw [reindentChars_break, reindentChars_eq unit line, List.splitOn_eq_singleton unbroken,
    List.map_singleton, List.intercalate_singleton]

/-- There is nothing to indent in an empty text. -/
theorem reindentChars_nil (unit : List Char) : reindentChars unit [] = [] := by
  rw [reindentChars_eq, List.splitOn_nil, List.map_singleton, List.intercalate_singleton]
  unfold reindentLine leadingBlanks
  rfl

/-- A line of code: its level of indentation and what stands behind it. -/
structure Line where
  level : Nat
  text : String
  deriving DecidableEq, Repr

namespace Line

/-- A line indented by a unit, with its end. -/
def write (unit : String) (line : Line) : String :=
  String.join (List.replicate line.level unit) ++ line.text ++ "\n"

/-- A line whose level can be told from its blanks: it is one line, and what stands behind its
indentation does not open with a level's worth of blanks. -/
structure Regular (line : Line) : Prop where
  unbroken : '\n' ∉ line.text.toList
  shallow : leadingBlanks line.text.toList < levelWidth

end Line

/-- Lines indented by a unit. -/
def writeLines (unit : String) (lines : List Line) : String :=
  String.join (lines.map (Line.write unit))

/-- One level as code is written. -/
def writtenUnit : String := "    "

/-- The written unit is a level of blanks. -/
theorem toList_writtenUnit : writtenUnit.toList = List.replicate levelWidth ' ' := by decide

/-- A line is written as its levels, its text and a line feed. -/
theorem toList_write (unit : String) (line : Line) :
    (line.write unit).toList =
      (List.replicate line.level unit.toList).flatten ++ line.text.toList ++ ['\n'] := by
  rw [Line.write, String.toList_append, String.toList_append, String.toList_join, List.flatMap,
    List.map_replicate]
  rfl

/-- No lines are written as nothing. -/
@[simp]
theorem writeLines_nil (unit : String) : writeLines unit [] = "" := String.join_nil

/-- Lines are written one after the other. -/
@[simp]
theorem writeLines_cons (unit : String) (line : Line) (lines : List Line) :
    writeLines unit (line :: lines) = line.write unit ++ writeLines unit lines := String.join_cons

/-- So are lists of lines. -/
@[simp]
theorem writeLines_append (unit : String) (first second : List Line) :
    writeLines unit (first ++ second) = writeLines unit first ++ writeLines unit second := by
  unfold writeLines
  rw [List.map_append, String.join_append]

/-- Lines that come in groups are written group by group. -/
theorem writeLines_flatMap (unit : String) (groups : List α) (lines : α → List Line) :
    writeLines unit (groups.flatMap lines) =
      String.join (groups.map fun group => writeLines unit (lines group)) := by
  induction groups with
  | nil => exact writeLines_nil unit
  | cons group groups ih =>
      rw [List.flatMap_cons, writeLines_append, List.map_cons, String.join_cons, ih]

private theorem reindentChars_write (unit : String) {line : Line} (regular : line.Regular)
    (rest : List Char) :
    reindentChars unit.toList ((line.write writtenUnit).toList ++ rest) =
      (line.write unit).toList ++ reindentChars unit.toList rest := by
  have unbroken : '\n' ∉ List.replicate (line.level * levelWidth) ' ' ++ line.text.toList := by
    intro member
    rcases List.mem_append.mp member with blank | inside
    · exact absurd (List.eq_of_mem_replicate blank) (by decide)
    · exact regular.unbroken inside
  rw [toList_write, toList_write, toList_writtenUnit, List.flatten_replicate_replicate,
    List.append_assoc, List.singleton_append, reindentChars_line unit.toList unbroken,
    reindentLine_level unit.toList regular.shallow, List.append_assoc, List.append_assoc,
    List.append_assoc, List.singleton_append]

/-- **Indentation keeps lines.** Lines written with the written unit and indented by another are the
same lines written with that other unit. -/
theorem reindent_writeLines (unit : String) {lines : List Line}
    (regular : ∀ line ∈ lines, line.Regular) :
    reindent unit (writeLines writtenUnit lines) = writeLines unit lines := by
  unfold reindent
  rw [← String.toList_inj, String.toList_ofList]
  induction lines with
  | nil =>
      rw [writeLines_nil, writeLines_nil]
      exact reindentChars_nil _
  | cons line lines ih =>
      rw [writeLines_cons, writeLines_cons, String.toList_append, String.toList_append,
        reindentChars_write unit (regular line List.mem_cons_self),
        ih fun other member => regular other (List.mem_cons_of_mem _ member)]

end ElementWrap.Wrapper
