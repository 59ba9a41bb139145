import ElementWrap.Proofs.Lists
import ElementWrap.Proofs.Wrapper.Indentation
import Mathlib.Data.Set.Function

/-! # Indentation loses nothing

A text that is indented by a unit without a line feed has the lines that it had, each with its
levels written as units. A line that is indented opens with fewer blanks than a level, so indenting
it again leaves it alone, unless the unit itself opens with a blank. A character of the unit that
the text does not use marks its levels: they can be counted in what is written, and texts that are
written alike are the same (`ElementWrap.Wrapper.reindent_linewise`).
-/

namespace ElementWrap.Wrapper

/-- The lines of a text, without the line feeds that stand between them. -/
def linesOf (text : String) : List (List Char) := text.toList.splitOn '\n'

/-- A text with each of its lines indented by the unit, whichever unit that is. -/
def reindentEach (unit code : String) : String :=
  String.ofList (['\n'].intercalate ((linesOf code).map (reindentLine unit.toList)))

/-- Every four of the blanks that open a line have become a unit, and the blanks that are left over
and the rest of the line are what they were. -/
def Indents (unit line indented : List Char) : Prop :=
  ∃ (width : Nat) (rest : List Char), rest.head? ≠ some ' ' ∧
    line = List.replicate width ' ' ++ rest ∧
    indented = (List.replicate (width / 4) unit).flatten ++ List.replicate (width % 4) ' ' ++ rest

/-! ## One line -/

section Line

variable {unit : List Char}

private theorem indents_reindentLine (unit line : List Char) :
    Indents unit line (reindentLine unit line) :=
  ⟨leadingBlanks line, line.drop (leadingBlanks line), head?_drop_leadingBlanks line,
    (blanks_append_drop line).symm, rfl⟩

private theorem unbroken_reindentLine {line : List Char} (unbroken : '\n' ∉ unit)
    (whole : '\n' ∉ line) :
    '\n' ∉ reindentLine unit line := by
  obtain ⟨level, text, shallow, rfl⟩ := exists_level line
  rw [reindentLine_level unit shallow]
  intro member
  rcases List.mem_append.mp member with inUnits | inText
  · obtain ⟨copy, copied, inCopy⟩ := List.mem_flatten.mp inUnits
    exact unbroken (List.eq_of_mem_replicate copied ▸ inCopy)
  · exact whole (List.mem_append_right _ inText)

/-- Under a unit that opens with no blank, an indented line opens with fewer blanks than a level. -/
theorem leadingBlanks_reindentLine_lt (flush : unit.head? ≠ some ' ') (line : List Char) :
    leadingBlanks (reindentLine unit line) < levelWidth := by
  obtain ⟨level, text, shallow, rfl⟩ := exists_level line
  rw [reindentLine_level unit shallow]
  cases level with
  | zero => exact shallow
  | succ level =>
      cases unit with
      | nil => simpa using shallow
      | cons c unit =>
          rw [List.replicate_succ, List.flatten_cons, List.cons_append, List.cons_append]
          exact leadingBlanks_lt_of_flush (by simpa using flush)

private theorem reindentLine_reindentLine (flush : unit.head? ≠ some ' ') (line : List Char) :
    reindentLine unit (reindentLine unit line) = reindentLine unit line :=
  reindentLine_shallow unit (leadingBlanks_reindentLine_lt flush line)

/-- Lines without the mark that are indented alike are the same: every unit brings in as many marks
as any other and the rest brings in none, so both lines stand at one level. -/
theorem eq_of_reindentLine_eq {mark : Char} (marked : mark ∈ unit) {first second : List Char}
    (unmarkedFirst : mark ∉ first) (unmarkedSecond : mark ∉ second)
    (same : reindentLine unit first = reindentLine unit second) : first = second := by
  obtain ⟨level, text, shallow, rfl⟩ := exists_level first
  obtain ⟨level', text', shallow', rfl⟩ := exists_level second
  rw [reindentLine_level unit shallow, reindentLine_level unit shallow'] at same
  have bare : text.count mark = 0 :=
    List.count_eq_zero.mpr fun member => unmarkedFirst (List.mem_append_right _ member)
  have bare' : text'.count mark = 0 :=
    List.count_eq_zero.mpr fun member => unmarkedSecond (List.mem_append_right _ member)
  have marks : level * unit.count mark = level' * unit.count mark := by
    simpa [List.count_append, List.count_flatten, bare, bare'] using congrArg (·.count mark) same
  obtain rfl : level = level' :=
    Nat.eq_of_mul_eq_mul_right (List.count_pos_iff.mpr marked) marks
  rw [List.append_cancel_left same]

end Line

/-! ## Texts -/

section Text

variable {unit : String}

private theorem linesOf_injective : Function.Injective linesOf := by
  intro first second same
  rw [← String.toList_inj]
  calc first.toList = ['\n'].intercalate (linesOf first) := (List.intercalate_splitOn '\n').symm
    _ = ['\n'].intercalate (linesOf second) := congrArg _ same
    _ = second.toList := List.intercalate_splitOn '\n'

/-- Indenting a text is indenting each of its lines, the written unit being no exception. -/
theorem reindent_eq_reindentEach (unit code : String) :
    reindent unit code = reindentEach unit code :=
  congrArg String.ofList (reindentChars_eq unit.toList code.toList)

/-- The lines of an indented text are the indented lines of the text. -/
theorem linesOf_reindent (unbroken : '\n' ∉ unit.toList) (code : String) :
    linesOf (reindent unit code) = (linesOf code).map (reindentLine unit.toList) := by
  rw [reindent_eq_reindentEach, reindentEach, linesOf, String.toList_ofList]
  refine List.splitOn_intercalate '\n' (List.forall_mem_map.mpr fun line member => ?_) ?_
  · exact unbroken_reindentLine unbroken (of_mem_splitOn member).1
  · exact mt List.map_eq_nil_iff.mp (List.splitOn_ne_nil _ _)

private theorem forall₂_indents (unbroken : '\n' ∉ unit.toList) (code : String) :
    List.Forall₂ (Indents unit.toList) (linesOf code) (linesOf (reindent unit code)) := by
  rw [linesOf_reindent unbroken, List.forall₂_map_right_iff, List.forall₂_same]
  exact fun line _ => indents_reindentLine _ line

private theorem reindent_reindent (unbroken : '\n' ∉ unit.toList)
    (flush : unit.toList.head? ≠ some ' ')
    (code : String) : reindent unit (reindent unit code) = reindent unit code := by
  refine linesOf_injective ?_
  rw [linesOf_reindent unbroken, linesOf_reindent unbroken, List.map_map]
  exact List.map_congr_left fun line _ => reindentLine_reindentLine flush line

/-- **A mark in the unit makes indentation reversible.** No two texts without the mark are indented
to the same text. -/
theorem injOn_reindent (unbroken : '\n' ∉ unit.toList) {mark : Char} (marked : mark ∈ unit.toList) :
    Set.InjOn (reindent unit) {code | mark ∉ code.toList} := by
  intro first unmarkedFirst second unmarkedSecond same
  have lines := congrArg linesOf same
  rw [linesOf_reindent unbroken, linesOf_reindent unbroken] at lines
  refine linesOf_injective (eq_of_map_eq (fun line inFirst other inSecond => ?_) lines)
  exact eq_of_reindentLine_eq marked
    (fun member => unmarkedFirst ((of_mem_splitOn inFirst).2 member))
    fun member => unmarkedSecond ((of_mem_splitOn inSecond).2 member)

end Text

/-- **Indentation goes line by line and loses nothing.** Under every unit without a line feed a text
keeps its lines, of which each has its levels written as units; the written unit, which is passed
over, is no exception. Under a unit that opens with no blank, indenting again changes nothing. With
a tab for each level, no two texts without tabs come out the same. -/
theorem reindent_linewise :
    (∀ unit code : String, '\n' ∉ unit.toList →
      (linesOf (reindent unit code)).length = (linesOf code).length ∧
      List.Forall₂ (Indents unit.toList) (linesOf code) (linesOf (reindent unit code)) ∧
      reindent unit code = reindentEach unit code ∧
      (unit.toList.head? ≠ some ' ' →
        reindent unit (reindent unit code) = reindent unit code)) ∧
    Set.InjOn (reindent "\t") {code | '\t' ∉ code.toList} := by
  have tab : '\t' ∈ "\t".toList := by decide
  refine ⟨fun unit code unbroken => ?_, injOn_reindent (by decide) tab⟩
  have each := forall₂_indents unbroken code
  exact ⟨each.length_eq.symm, each, reindent_eq_reindentEach unit code,
    fun flush => reindent_reindent unbroken flush code⟩

/-- A text of four lines: one flush, one between two levels, one empty, and one of blanks alone. -/
def unevenText : String := "a\n      ref\n\n         "

/-- With tabs it comes out other than the text whose second line stands a blank to the left. -/
theorem reindent_linewise_uneven :
    ('\n' ∉ "\t".toList ∧ "\t".toList.head? ≠ some ' ') ∧
      (linesOf (reindent "\t" unevenText)).length = 4 ∧
      List.Forall₂ (Indents "\t".toList) (linesOf unevenText) (linesOf (reindent "\t" unevenText)) ∧
      reindent "\t" unevenText = "a\n\t  ref\n\n\t\t " ∧
      reindent "\t" "a\n\t  ref\n\n\t\t " = "a\n\t  ref\n\n\t\t " ∧
      reindent "\t" unevenText ≠ reindent "\t" "a\n     ref\n\n         " := by
  have unbroken : '\n' ∉ "\t".toList := by decide
  have flush : "\t".toList.head? ≠ some ' ' := by decide
  obtain ⟨length, each, loop, again⟩ := reindent_linewise.1 "\t" unevenText unbroken
  have written : reindent "\t" unevenText = "a\n\t  ref\n\n\t\t " :=
    loop.trans (by decide +kernel)
  refine ⟨⟨unbroken, flush⟩, length.trans (by decide +kernel), each, written, ?_, ?_⟩
  · rw [← written]
    exact again flush
  · exact reindent_linewise.2.ne (by decide) (by decide) (by decide)

/-- A tab of the text can not be told from a level that has become a tab. -/
example : reindent "\t" "\tx" = reindent "\t" "    x" := by decide +kernel

/-- Levels that are written as blanks are levels again. -/
example : reindent "        " "    x" ≠ reindent "        " (reindent "        " "    x") := by
  decide +kernel

end ElementWrap.Wrapper
