import CurryScript.Proofs.Lines
import CurryScript.Proofs.Scanning

/-!
The displayed lines of a text that has no line ends but those that line numbers count. There the
line around a place has the number that the breaks before the place give it.
-/
namespace CurryScript

namespace Text

/-- Lines are displayed up to line feeds and carriage returns only. -/
def PlainlyBroken (text : List Char) : Prop :=
  ∀ c ∈ text, endsDisplayedLine c = true → c = '\n' ∨ c = '\r'

def Unbroken (text : List Char) : Prop := ∀ c ∈ text, c ≠ '\n' ∧ c ≠ '\r'

/-- The longest run without a line break that reaches up to a place and on from it. -/
def LineAround (front rest line : List Char) : Prop :=
  ∃ above left right below, front = above ++ left ∧ rest = right ++ below ∧ line = left ++ right ∧
    Unbroken line ∧ (∀ c ∈ above.getLast?, c = '\n' ∨ c = '\r') ∧
      ∀ c ∈ below.head?, c = '\n' ∨ c = '\r'

/-- What breaks a line right before `rest`. A carriage return and a line feed belong together. -/
inductive Breaks (rest : List Char) : List Char → Prop
  | feed : Breaks rest ['\n']
  | pair : Breaks rest ['\r', '\n']
  | lone (apart : ∀ c ∈ rest.head?, c ≠ '\n') : Breaks rest ['\r']

theorem Breaks.append {more rest mark : List Char} (marked : Breaks more mark)
    (apart : ∀ c ∈ rest.head?, c ≠ '\n') : Breaks (more ++ rest) mark := by
  cases marked with
  | feed => exact .feed
  | pair => exact .pair
  | lone before =>
    apply Breaks.lone
    cases more with
    | nil => exact apart
    | cons c more => exact before

section

variable {rest mark : List Char} (marked : Breaks rest mark)

include marked

theorem Breaks.head? : ∀ c ∈ (mark ++ rest).head?, c = '\n' ∨ c = '\r' := by
  cases marked <;> simp

theorem Breaks.getLast? : ∃ c, mark.getLast? = some c ∧ (c = '\n' ∨ c = '\r') := by
  cases marked <;> simp

theorem Breaks.length_pos : 0 < mark.length := by
  cases marked <;> simp

theorem Breaks.dropLineEnd : dropLineEnd (mark ++ rest) = rest := by
  cases marked with
  | feed | pair => simp [Text.dropLineEnd]
  | lone apart =>
    cases rest with
    | nil => rfl
    | cons c rest => simp [Text.dropLineEnd, apart c rfl]

theorem Breaks.lineBreaks : lineBreaks (mark ++ rest) = lineBreaks rest + 1 := by
  cases marked with
  | feed | pair => simp [lineBreaks_cons, breaksLine]
  | lone apart =>
    cases rest with
    | nil => rfl
    | cons c rest => simp [lineBreaks_cons, breaksLine, apart c rfl]

end

@[simp] theorem lineBreaks_nil : lineBreaks [] = 0 := rfl

theorem lineBreaks_of_unbroken {line : List Char} (unbroken : Unbroken line) (rest : List Char) :
    lineBreaks (line ++ rest) = lineBreaks rest := by
  induction line with
  | nil => rfl
  | cons c line ih =>
    rw [Unbroken, List.forall_mem_cons] at unbroken
    simp [lineBreaks_cons, breaksLine, unbroken.1, ih unbroken.2]

theorem lineBreaks_append (front : List Char) {rest : List Char}
    (apart : ∀ c ∈ rest.head?, c ≠ '\n') :
    lineBreaks (front ++ rest) = lineBreaks front + lineBreaks rest := by
  induction front with
  | nil => simp
  | cons c front ih =>
    have same : breaksLine c (front ++ rest) = breaksLine c front := by
      cases front with
      | cons d front => rfl
      | nil =>
        cases rest with
        | nil => rfl
        | cons d rest => simp [breaksLine, bne, beq_false_of_ne (apart d rfl)]
    rw [List.cons_append, lineBreaks_cons, lineBreaks_cons, ih, same]
    omega

theorem exists_firstLine (text : List Char) :
    Unbroken text ∨
      ∃ line mark more, text = line ++ (mark ++ more) ∧ Unbroken line ∧ Breaks more mark := by
  have empty : Unbroken [] := by simp [Unbroken]
  induction text with
  | nil => exact .inl empty
  | cons c text ih =>
    by_cases feed : c = '\n'
    · subst feed
      exact .inr ⟨[], ['\n'], text, rfl, empty, .feed⟩
    · by_cases carriage : c = '\r'
      · subst carriage
        cases text with
        | nil => exact .inr ⟨[], ['\r'], [], rfl, empty, .lone (by simp)⟩
        | cons d text =>
          by_cases paired : d = '\n'
          · subst paired
            exact .inr ⟨[], ['\r', '\n'], text, rfl, empty, .pair⟩
          · exact .inr ⟨[], ['\r'], d :: text, rfl, empty, .lone (by simpa using paired)⟩
      · rcases ih with whole | ⟨line, mark, more, rfl, unbroken, marked⟩
        · exact .inl (List.forall_mem_cons.mpr ⟨⟨feed, carriage⟩, whole⟩)
        · exact .inr ⟨c :: line, mark, more, rfl,
            List.forall_mem_cons.mpr ⟨⟨feed, carriage⟩, unbroken⟩, marked⟩

theorem lines_of_ne_nil {text : List Char} (filled : text ≠ []) :
    lines text = text.takeWhile (!endsDisplayedLine ·) ::
      lines (dropLineEnd (text.dropWhile (!endsDisplayedLine ·))) := by
  cases text with
  | nil => contradiction
  | cons c rest => rw [lines]

theorem endsDisplayedLine_of_break {c : Char} (ends : c = '\n' ∨ c = '\r') :
    endsDisplayedLine c = true := by
  rcases ends with rfl | rfl <;> decide

theorem PlainlyBroken.unbroken {text : List Char} (plain : PlainlyBroken text) {c : Char}
    (member : c ∈ text) : endsDisplayedLine c = false ↔ c ≠ '\n' ∧ c ≠ '\r' := by
  rw [← not_or, ← Bool.not_eq_true]
  exact not_congr ⟨plain c member, endsDisplayedLine_of_break⟩

theorem lines_break {line mark more : List Char} (plain : PlainlyBroken line)
    (unbroken : Unbroken line) (marked : Breaks more mark) :
    lines (line ++ (mark ++ more)) = line :: lines more := by
  have inside : ∀ c ∈ line, (!endsDisplayedLine c) = true := by
    intro c member
    simp [(plain.unbroken member).mpr (unbroken c member)]
  have stops : ∀ c ∈ (mark ++ more).head?, (!endsDisplayedLine c) = false := by
    intro c first
    simp [endsDisplayedLine_of_break (marked.head? c first)]
  have filled : line ++ (mark ++ more) ≠ [] := by
    have positive := marked.length_pos
    rw [← List.length_pos_iff]
    simp only [List.length_append]
    omega
  obtain ⟨front, back⟩ := Spelling.span_run inside stops
  rw [lines_of_ne_nil filled, front, back, marked.dropLineEnd]

theorem LineAround.after {line mark more rest around : List Char} (marked : Breaks more mark)
    (found : LineAround more rest around) : LineAround (line ++ (mark ++ more)) rest around := by
  obtain ⟨above, left, right, below, rfl, rfl, rfl, unbroken, before, behind⟩ := found
  refine ⟨line ++ (mark ++ above), left, right, below, by simp, rfl, rfl, unbroken, ?_, behind⟩
  obtain ⟨last, ended, ends⟩ := marked.getLast?
  intro c final
  rw [List.getLast?_append, List.getLast?_append, ended] at final
  cases earlier : above.getLast? with
  | none =>
    rw [earlier] at final
    cases final
    exact ends
  | some d =>
    rw [earlier] at final
    cases final
    exact before c earlier

theorem lineAround_firstLine {front rest : List Char} (plain : PlainlyBroken (front ++ rest))
    (unbroken : Unbroken front) :
    LineAround front rest ((lines (front ++ rest)).getD 0 []) := by
  have inside : ∀ c ∈ front, (!endsDisplayedLine c) = true := by
    intro c member
    simp [(plain.unbroken (List.mem_append_left rest member)).mpr (unbroken c member)]
  have first : (lines (front ++ rest)).getD 0 [] =
      front ++ rest.takeWhile (!endsDisplayedLine ·) := by
    by_cases filled : front ++ rest = []
    · simp_all [lines]
    · rw [lines_of_ne_nil filled, List.takeWhile_append_of_pos inside]
      rfl
  rw [first]
  refine ⟨[], front, rest.takeWhile (!endsDisplayedLine ·), rest.dropWhile (!endsDisplayedLine ·),
    rfl, List.takeWhile_append_dropWhile.symm, rfl, ?_, by simp, ?_⟩
  · intro c member
    rcases List.mem_append.mp member with before | after
    · exact unbroken c before
    · have shown : endsDisplayedLine c = false := by
        simpa using List.all_eq_true.mp List.all_takeWhile c after
      have within : c ∈ rest := (List.takeWhile_prefix _).subset after
      exact (plain.unbroken (List.mem_append_right front within)).mp shown
  · intro c next
    have ends := List.head?_dropWhile_not (!endsDisplayedLine ·) rest
    rw [Option.mem_def.mp next] at ends
    have within : c ∈ rest := (List.dropWhile_suffix _).subset (List.mem_of_mem_head? next)
    exact plain c (List.mem_append_right front within) (by simpa using ends)

/-- The breaks before a place number the line around it. -/
theorem lineAround_lines {front rest : List Char} (plain : PlainlyBroken (front ++ rest))
    (apart : ∀ c ∈ rest.head?, c ≠ '\n') :
    LineAround front rest ((lines (front ++ rest)).getD (lineBreaks front) []) := by
  -- The induction goes through the lines before the place, one break at a time.
  induction size : front.length using Nat.strongRecOn generalizing front with
  | ind _ ih =>
    subst size
    rcases exists_firstLine front with unbroken | ⟨line, mark, more, rfl, unbroken, marked⟩
    · have alone : lineBreaks front = 0 := by simpa using lineBreaks_of_unbroken unbroken []
      rw [alone]
      exact lineAround_firstLine plain unbroken
    · have shorter : more.length < (line ++ (mark ++ more)).length := by
        have positive := marked.length_pos
        simp only [List.length_append]
        omega
      have opening : PlainlyBroken line := fun c member => plain c (by simp [member])
      have onward : PlainlyBroken (more ++ rest) := by
        intro c member
        apply plain
        simp_all
      have found := ih more.length shorter onward rfl
      rw [lineBreaks_of_unbroken unbroken, marked.lineBreaks, List.append_assoc, List.append_assoc,
        lines_break opening unbroken (marked.append apart), List.getD_cons_succ]
      exact found.after marked

end Text

theorem LineTable.get_ofText (text : List Char) (breaks : Nat) :
    (LineTable.ofText text).get (1 + breaks) =
      String.ofList ((Text.lines text).getD breaks []) := by
  unfold ofText get
  cases Text.lines text with
  | nil => cases breaks <;> simp
  | cons line more =>
    have empty : "" = String.ofList [] := rfl
    simp only [Nat.add_comm 1 breaks, Nat.add_one_ne_zero, if_false, Nat.add_sub_cancel,
      Array.getD_eq_getD_getElem?, List.getElem?_toArray, List.getElem?_map,
      List.getD_eq_getElem?_getD, empty, Option.getD_map]

end CurryScript
