import CurryScript.Proofs.Numerals
import CurryScript.Proofs.Parsing
import CurryScript.Proofs.Scanning
import CurryScript.Proofs.Simulation
import CurryScript.Value.Display

/-!
Display forms read back. The display form of a value that is made of literals and lists is a script,
and the script evaluates to that value.
-/
namespace CurryScript

open Spelling Grammar

/-- A literal with a display form that scripts can hold: an integer has 64 bits and a text no
quote. -/
def Literal.Writable : Literal → Prop
  | .int n => Word64.InRange n
  | .text s => '"' ∉ s.toList
  | .bool _ | .float _ => True

instance (value : Literal) : Decidable value.Writable :=
  match value with
  | .int n => inferInstanceAs (Decidable (Word64.InRange n))
  | .text s => inferInstanceAs (Decidable ('"' ∉ s.toList))
  | .bool _ | .float _ => isTrue trivial

inductive Value.Writable : Value → Prop
  | literal {value : Literal} (writable : value.Writable) : Writable (.ofLiteral value)
  | list {items : List Value} (each : ∀ item ∈ items, Writable item) : Writable (.list items)

/-- The float is what its text denotes. -/
def Numeral.Exact (x : Float) : Prop := float? (Decimal.Layout.plain.float x) = .ok (some x)

namespace Literal

def piece : Literal → Piece
  | .text s => .quoted s.toList
  | value => .word (Value.ofLiteral value).display.toList

theorem chars_piece (value : Literal) :
    value.piece.chars = (Value.ofLiteral value).display.toList := by
  cases value with
  | text s => simp [piece, Piece.chars, Value.ofLiteral, Value.display]
  | bool | int | float => rfl

structure Spelled (value : Literal) : Prop where
  wellSpelled : value.piece.WellSpelled
  lexeme : value.piece.lexeme = .ok (.literal value)

theorem spelled_word {value : Literal} {word : String} (piece : value.piece = .word word.toList)
    (nonempty : word.toList ≠ []) (inside : ∀ c ∈ word.toList, isWordChar c = true)
    (known : classify word = .ok (.literal value)) : value.Spelled := by
  constructor
  · rw [piece]
    exact ⟨nonempty, fun c member => (isWordChar_iff c).mp (inside c member)⟩
  · rw [piece, Piece.lexeme, String.ofList_toList, known]

theorem spelled_int {n : Int} (inRange : Word64.InRange n) : Spelled (.int n) := by
  have nonempty : (toString n).toList ≠ [] := by
    rw [Numeral.toList_toString]
    simp [Nat.toDigits_ne_nil]
  have known : classify (toString n) = .ok (.literal (.int n)) := by
    rw [classify, Numeral.integer?_toString inRange]
    rfl
  exact spelled_word rfl nonempty (fun _ => Numeral.isWordChar_of_mem_toString) known

theorem spelled_float {x : Float} (exact : Numeral.Exact x) : Spelled (.float x) := by
  have written := Decimal.floatText_float x
  have nonempty : (Decimal.Layout.plain.float x).toList ≠ [] := by
    obtain ⟨c, member, _⟩ := written.marked
    exact List.ne_nil_of_mem member
  have known : classify (Decimal.Layout.plain.float x) = .ok (.literal (.float x)) := by
    have denoted : Numeral.float? (Decimal.Layout.plain.float x) = .ok (some x) := exact
    simp only [classify, written.integer?_eq_none, denoted]
    rfl
  exact spelled_word rfl nonempty (fun _ => written.isWordChar) known

theorem spelled_bool (b : Bool) : Spelled (.bool b) := by
  have known : classify (Value.wordOfBool b) = .ok (.literal (.bool b)) := by
    cases b <;> rfl
  refine spelled_word rfl ?_ ?_ known
  · cases b <;> exact List.cons_ne_nil _ _
  · intro c member
    cases b with
    | true =>
      change c ∈ ['t', 'r', 'u', 'e'] at member
      fin_cases member <;> decide
    | false =>
      change c ∈ ['f', 'a', 'l', 's', 'e'] at member
      fin_cases member <;> decide

theorem Writable.spelled {value : Literal} (writable : value.Writable)
    (exact : ∀ x, value = .float x → Numeral.Exact x) : value.Spelled := by
  cases value with
  | bool b => exact spelled_bool b
  | int n => exact spelled_int writable
  | float x => exact spelled_float (exact x rfl)
  | text s => exact ⟨writable, by simp [piece, Piece.lexeme]⟩

end Literal

/-- A value, the lexemes it is written with, and the expression that they make up. -/
structure Writing where
  value : Value
  lexemes : List Lexeme
  expr : Expr

namespace Writing

inductive Written : Value → List Lexeme → Expr → Prop
  | literal {value : Literal} (spelled : value.Spelled) :
      Written (.ofLiteral value) [.literal value] (.literal value)
  | list {parts : List Writing}
      (each : ∀ part ∈ parts, Written part.value part.lexemes part.expr) :
      Written (.list (parts.map value))
        (.openBracket :: (parts.flatMap lexemes ++ [.closeBracket])) (.list (parts.map expr))

end Writing

open Writing (Written)

theorem Writing.exists_writings {items : List Value}
    (each : ∀ item ∈ items, ∃ lexemes expr, Written item lexemes expr) :
    ∃ parts : List Writing, parts.map Writing.value = items ∧
      ∀ part ∈ parts, Written part.value part.lexemes part.expr := by
  induction items with
  | nil => exact ⟨[], rfl, nofun⟩
  | cons item items ih =>
    obtain ⟨⟨lexemes, expr, first⟩, each⟩ := List.forall_mem_cons.mp each
    obtain ⟨parts, rfl, rest⟩ := ih each
    exact ⟨⟨item, lexemes, expr⟩ :: parts, rfl, List.forall_mem_cons.mpr ⟨first, rest⟩⟩

theorem Value.Writable.written {value : Value} (writable : value.Writable)
    (exact : ∀ x, (Value.float x).Within value → Numeral.Exact x) :
    ∃ lexemes expr, Written value lexemes expr := by
  induction writable with
  | @literal value writable =>
    have spelled : value.Spelled := writable.spelled fun x same => exact x (same ▸ .self)
    exact ⟨_, _, .literal spelled⟩
  | @list items _ ih =>
    obtain ⟨parts, rfl, each⟩ := Writing.exists_writings fun item member =>
      ih item member fun x inside => exact x (.item member inside)
    exact ⟨_, _, .list each⟩

namespace Value

mutual

def nesting : Value → Nat
  | .list items => nestingAll items + 1
  | _ => 0

def nestingAll : List Value → Nat
  | [] => 0
  | item :: items => max (nesting item) (nestingAll items)

end

theorem nesting_le_of_mem {item : Value} {items : List Value} (member : item ∈ items) :
    item.nesting ≤ nestingAll items := by
  induction items with
  | nil => contradiction
  | cons first items ih =>
    rw [nestingAll]
    rcases List.mem_cons.mp member with rfl | later
    · exact Nat.le_max_left _ _
    · exact Nat.le_trans (ih later) (Nat.le_max_right _ _)

theorem displayEach_eq_map (items : List Value) : displayEach items = items.map display := by
  induction items with
  | nil => rfl
  | cons item items ih => rw [displayEach, ih, List.map_cons]

end Value

namespace Spelling

/-- A blank in front of a text belongs to its first gap. -/
theorem Arranged.indent {pieces : List Piece} {tail : Option (List Char)} {text : List Char}
    (arranged : Arranged [] pieces tail text) : Arranged [' '] pieces tail (' ' :: text) := by
  have blank : Text.isBlank ' ' = true := by decide
  cases arranged with
  | complete _ => exact .complete (.blank blank .none)
  | unclosed _ endless => exact .unclosed (.blank blank .none) endless
  | next _ spelled rest apart => exact .next (.blank blank .none) spelled rest apart

end Spelling

namespace Writing

variable {parts : List Writing} {value : Value} {lexemes : List Lexeme} {expr : Expr}

def Spells (text : List Char) (lexemes : List Lexeme) : Prop :=
  ∃ pieces, StandFor pieces lexemes ∧
    ∀ {after rest tail more}, Arranged after rest tail more →
      (startsWithWord rest = true → after ≠ []) → Arranged [] (pieces ++ rest) tail (text ++ more)

theorem standFor_append {front back : List Piece} {lexemes others : List Lexeme}
    (first : StandFor front lexemes) (rest : StandFor back others) :
    StandFor (front ++ back) (lexemes ++ others) := by
  unfold StandFor at *
  rw [List.map_append, List.map_append, first, rest]

theorem spells_items (each : ∀ part ∈ parts, Spells part.value.display.toList part.lexemes) :
    ∃ pieces, StandFor pieces (parts.flatMap Writing.lexemes) ∧
      ∀ {rest tail more}, Arranged [] rest tail more → startsWithWord rest = false →
        Arranged [] (pieces ++ rest) tail
          ([' '].intercalate (parts.map (·.value.display.toList)) ++ more) := by
  induction parts with
  | nil => exact ⟨[], rfl, fun arranged _ => arranged⟩
  | cons part parts ih =>
    obtain ⟨⟨pieces, stand, first⟩, each⟩ := List.forall_mem_cons.mp each
    obtain ⟨others, standRest, later⟩ := ih each
    refine ⟨pieces ++ others, standFor_append stand standRest, ?_⟩
    intro rest tail more arranged notWord
    have following := later arranged notWord
    rw [List.append_assoc]
    cases parts with
    | nil =>
      obtain rfl : others = [] := by simpa [StandFor] using standRest
      have last := first arranged (by simp [notWord])
      simpa using last
    | cons next parts =>
      have apart : startsWithWord (others ++ rest) = true → [' '] ≠ [] := by simp
      have joined := first following.indent apart
      simpa [List.intercalate_cons_cons] using joined

theorem Written.spells (written : Written value lexemes expr) :
    Spells value.display.toList lexemes := by
  induction written with
  | @literal value spelled =>
    refine ⟨[value.piece], by simp [StandFor, spelled.lexeme], ?_⟩
    intro after rest tail text arranged apart
    rw [← value.chars_piece]
    exact .next .none spelled.wellSpelled arranged fun _ => apart
  | @list parts _ ih =>
    obtain ⟨pieces, stand, inner⟩ := spells_items ih
    refine ⟨.mark '[' .openBracket :: (pieces ++ [.mark ']' .closeBracket]), ?_, ?_⟩
    · unfold StandFor at stand ⊢
      simp [stand, Piece.lexeme]
    · intro after rest tail text arranged apart
      have closing : Arranged [] (.mark ']' .closeBracket :: rest) tail (']' :: text) :=
        .next .none (by simp [Piece.WellSpelled, marks]) arranged (by simp [Piece.isWord])
      have opening := inner closing rfl
      have whole : Arranged [] (.mark '[' .openBracket :: (pieces ++ .mark ']' .closeBracket :: rest))
          tail ('[' :: ([' '].intercalate (parts.map (·.value.display.toList)) ++ ']' :: text)) :=
        .next .none (by simp [Piece.WellSpelled, marks]) opening (by simp [Piece.isWord])
      have text : (Value.list (parts.map Writing.value)).display.toList =
          '[' :: ([' '].intercalate (parts.map (·.value.display.toList)) ++ [']']) := by
        simp [Value.display, Value.displayEach_eq_map, String.toList_intercalate, Function.comp_def]
      rw [text]
      simpa using whole

theorem split_list {front : List Token}
    (tokens : front.map Token.lexeme = .openBracket :: (lexemes ++ [.closeBracket])) :
    ∃ opener inside closer, front = opener :: (inside ++ [closer]) ∧
      opener.lexeme = .openBracket ∧ closer.lexeme = .closeBracket ∧
      inside.map Token.lexeme = lexemes := by
  obtain ⟨opener, rest, rfl, opened, tokens⟩ := List.map_eq_cons_iff.mp tokens
  obtain ⟨inside, last, rfl, items, tokens⟩ := List.map_eq_append_iff.mp tokens
  obtain ⟨closer, rfl, closed⟩ := List.map_eq_singleton_iff.mp tokens
  exact ⟨opener, inside, closer, rfl, opened, closed, items⟩

theorem Written.not_bare (written : Written value lexemes expr) : expr.isBare = false := by
  cases written <;> rfl

theorem derives_items (each : ∀ part ∈ parts, Written part.value part.lexemes part.expr)
    (derives : ∀ part ∈ parts, ∀ {front : List Token},
      front.map Token.lexeme = part.lexemes → Derives true front part.expr)
    {inside : List Token} (tokens : inside.map Token.lexeme = parts.flatMap Writing.lexemes) :
    DerivesItems true inside (parts.map Writing.expr) := by
  induction parts generalizing inside with
  | nil =>
    obtain rfl := List.map_eq_nil_iff.mp tokens
    exact .none
  | cons part parts ih =>
    obtain ⟨written, each⟩ := List.forall_mem_cons.mp each
    obtain ⟨first, derives⟩ := List.forall_mem_cons.mp derives
    rw [List.flatMap_cons] at tokens
    obtain ⟨front, back, rfl, tokens, others⟩ := List.map_eq_append_iff.mp tokens
    refine .more (first tokens) (ih each derives others) ?_
    simp [written.not_bare]

theorem Written.derives (written : Written value lexemes expr) {front : List Token}
    (tokens : front.map Token.lexeme = lexemes) : Derives true front expr := by
  induction written generalizing front with
  | literal _ =>
    obtain ⟨token, rfl, literal⟩ := List.map_eq_singleton_iff.mp tokens
    exact .literal literal
  | @list parts each ih =>
    obtain ⟨opener, inside, closer, rfl, opened, closed, tokens⟩ := split_list tokens
    exact .list opened (derives_items each ih tokens) closed

theorem read_items {depth : Nat}
    (each : ∀ part ∈ parts, Written part.value part.lexemes part.expr)
    (read : ∀ part ∈ parts, ∀ {front tokens back : List Token},
      front.map Token.lexeme = part.lexemes → tokens = front ++ back →
        ∃ shorter, expression depth tokens = .ok (some ⟨part.expr, back, shorter⟩))
    {inside tokens rest : List Token} {opener closer : Token} {bound : Nat} {found : Array Expr}
    (spelled : inside.map Token.lexeme = parts.flatMap Writing.lexemes)
    (fits : tokens.length ≤ bound) (whole : tokens = inside ++ closer :: rest)
    (closed : closer.lexeme = .closeBracket) :
    ∃ shorter, items (expression depth) opener bound found tokens fits =
      .ok ⟨found.toList ++ parts.map Writing.expr, rest, shorter⟩ := by
  induction parts generalizing inside tokens found with
  | nil =>
    obtain rfl := List.map_eq_nil_iff.mp spelled
    subst whole
    simpa using items_close fits closed
  | cons part parts ih =>
    obtain ⟨written, each⟩ := List.forall_mem_cons.mp each
    obtain ⟨first, read⟩ := List.forall_mem_cons.mp read
    rw [List.flatMap_cons] at spelled
    obtain ⟨front, back, rfl, spelled, others⟩ := List.map_eq_append_iff.mp spelled
    rw [List.append_assoc] at whole
    subst whole
    obtain ⟨left, next⟩ := items_next fits (written.derives spelled) (first spelled rfl)
    obtain ⟨shorter, done⟩ := ih each read others left rfl
    refine ⟨shorter, ?_⟩
    rw [next, done]
    simp

/-- Each list takes two levels of depth, one for the expression and one for its items. -/
theorem Written.read (written : Written value lexemes expr) {depth : Nat}
    (enough : 2 * value.nesting + 1 ≤ depth) {front tokens back : List Token}
    (spelled : front.map Token.lexeme = lexemes) (whole : tokens = front ++ back) :
    ∃ shorter, expression depth tokens = .ok (some ⟨expr, back, shorter⟩) := by
  induction written generalizing front tokens back depth with
  | literal _ =>
    obtain ⟨depth, rfl⟩ : ∃ less, depth = less + 1 := ⟨depth - 1, by omega⟩
    obtain ⟨token, rfl, literal⟩ := List.map_eq_singleton_iff.mp spelled
    subst whole
    refine ⟨by simp, ?_⟩
    simp only [List.cons_append, List.nil_append, expression, literal]
  | @list parts each ih =>
    rw [Value.nesting] at enough
    obtain ⟨depth, rfl⟩ : ∃ less, depth = less + 2 := ⟨depth - 2, by omega⟩
    obtain ⟨opener, inside, closer, rfl, opened, closed, spelled⟩ := split_list spelled
    have read (part : Writing) (member : part ∈ parts) {front tokens back : List Token}
        (spelled : front.map Token.lexeme = part.lexemes) (whole : tokens = front ++ back) :
        ∃ shorter, expression depth tokens = .ok (some ⟨part.expr, back, shorter⟩) := by
      have below := Value.nesting_le_of_mem (List.mem_map_of_mem (f := Writing.value) member)
      exact ih part member (by omega) spelled whole
    simp only [List.cons_append, List.append_assoc, List.nil_append] at whole
    subst whole
    exact expression_list opened
      (list_read fun fits => read_items each read spelled fits rfl closed)

theorem evaluates_items {depth : Nat} {machine : Machine}
    (each : ∀ part ∈ parts, evaluate depth part.expr machine = .ok part.value machine) :
    (parts.map Writing.expr).mapM (evaluate depth) machine =
      .ok (parts.map Writing.value) machine := by
  induction parts with
  | nil => rfl
  | cons part parts ih =>
    obtain ⟨first, each⟩ := List.forall_mem_cons.mp each
    rw [List.map_cons, List.mapM_cons, Eval.bind_of_ok first, Eval.bind_of_ok (ih each)]
    rfl

theorem Written.evaluates (written : Written value lexemes expr) {depth : Nat}
    (enough : value.nesting + 1 ≤ depth) (machine : Machine) :
    evaluate depth expr machine = .ok value machine := by
  induction written generalizing depth with
  | @literal value _ =>
    obtain ⟨depth, rfl⟩ : ∃ less, depth = less + 1 := ⟨depth - 1, by omega⟩
    rfl
  | @list parts each ih =>
    rw [Value.nesting] at enough
    obtain ⟨depth, rfl⟩ : ∃ less, depth = less + 1 := ⟨depth - 1, by omega⟩
    have evaluated (part : Writing) (member : part ∈ parts) :
        evaluate depth part.expr machine = .ok part.value machine := by
      have below := Value.nesting_le_of_mem (List.mem_map_of_mem (f := Writing.value) member)
      exact ih part member (by omega)
    rw [evaluate, map_eq_pure_bind, Eval.bind_of_ok (evaluates_items evaluated)]
    rfl

theorem Written.parsed (written : Written value lexemes expr) {depth : Nat}
    (enough : 2 * (value.nesting + 1) ≤ depth) {front : List Token} {ending : Token}
    (spelled : front.map Token.lexeme = lexemes) (ends : ending.lexeme = .endOfScript) :
    parse depth (front ++ [ending]) = .ok ([expr], (front ++ [ending]).length) := by
  obtain ⟨depth, rfl⟩ : ∃ less, depth = less + 1 := ⟨depth - 1, by omega⟩
  have kind : ending.kind = .endOfScript := Lexeme.kind_of_eq ends
  have fits : (front ++ [ending]).length < (front ++ [ending]).length + 1 := Nat.lt_succ_self _
  have deep : 2 * value.nesting + 1 ≤ depth := by omega
  have item := written.read deep spelled (rfl : front ++ [ending] = _)
  obtain ⟨shorter, done⟩ : ∃ shorter, Grammar.statements (expression depth) .endOfScript _ #[]
      (front ++ [ending]) fits = .ok ⟨[expr], [ending], shorter⟩ :=
    statements_last (written.derives spelled) (.inr rfl) fits kind item
  change Grammar.block (depth + 1) .endOfScript (front ++ [ending]) = _ at done
  have read : program (depth + 1) (front ++ [ending]) = .ok ⟨[expr], [], by simp⟩ := by
    simp only [program, done, if_pos kind]
  change (program (depth + 1) (front ++ [ending])).map _ = _
  rw [read]
  rfl

theorem Written.leave_eq (written : Written value lexemes expr) (name : String) (traced : Bool) :
    Eval.leave name traced value = value := by
  cases written with
  | @literal value _ => cases value <;> rfl
  | list _ => rfl

theorem Written.runs (written : Written value lexemes expr) {depth : Nat}
    (enough : value.nesting + 1 ≤ depth) (mainFrame : String) {machine : Machine}
    (idle : machine.frames = []) :
    Eval.run depth mainFrame [expr] machine = .ok value (machine.push mainFrame []).pop := by
  have evaluated := written.evaluates enough (machine.push mainFrame [])
  have stated : Eval.statements (evaluate depth) (.bool false) [expr] (machine.push mainFrame []) =
      .ok value (machine.push mainFrame []) := by
    rw [Eval.statements, Eval.bind_of_ok evaluated]
    split <;> rfl
  have framed : Eval.inFrame mainFrame [] (Eval.statements (evaluate depth) (.bool false) [expr])
      machine = .ok value (machine.push mainFrame []).pop := by
    simp only [Eval.inFrame, stated]
  rw [Eval.run_of_idle depth mainFrame [expr] idle, Eval.block, Eval.bind_of_ok framed,
    written.leave_eq]
  rfl

end Writing

/-- Run as a script, the display form of a writable value yields the value and prints nothing.
Of its floats it is assumed that their texts denote them. -/
theorem display_reads_back {value : Value} (writable : value.Writable)
    (exact : ∀ x, (Value.float x).Within value → Numeral.Exact x) :
    ∃ tokens program, tokenize value.display = .ok tokens ∧
      (∀ depth, 2 * (value.nesting + 1) ≤ depth →
        parse depth tokens = .ok (program, tokens.length)) ∧
      ∀ depth mainFrame machine, value.nesting + 1 ≤ depth → machine.frames = [] →
        ∃ left, Eval.run depth mainFrame program machine = .ok value left ∧ left.frames = [] ∧
          Machine.Printed [] machine left := by
  obtain ⟨lexemes, expr, written⟩ := writable.written exact
  obtain ⟨pieces, stand, arranged⟩ := written.spells
  have spelled := arranged (.complete .none) nofun
  rw [List.append_nil, List.append_nil] at spelled
  obtain ⟨tokens, scanned, lexed⟩ := scannedLexemes_eq_ok_iff.mp (scanned_ok spelled stand)
  obtain ⟨front, last, rfl, spelled, lexed⟩ := List.map_eq_append_iff.mp lexed
  obtain ⟨ending, rfl, ends⟩ := List.map_eq_singleton_iff.mp lexed
  refine ⟨front ++ [ending], [expr], scanned, ?_, ?_⟩
  · intro depth enough
    exact written.parsed enough spelled ends
  · intro depth mainFrame machine enough idle
    refine ⟨_, written.runs enough mainFrame idle, by simp [idle], ?_⟩
    exact (machine.printed_push mainFrame []).trans (machine.push mainFrame []).printed_pop

theorem nested_display_reads_back :
    let value : Value := .list [.bool true, .int (-0x8000000000000000), .text "]#\n[ -1",
      .list [.float (-1.5), .list []]]
    value.Writable ∧ (∀ x, (Value.float x).Within value → Numeral.Exact x) ∧
      ∃ tokens program, tokenize value.display = .ok tokens ∧
        parse 9 tokens = .ok (program, tokens.length) ∧
        ∃ left, Eval.run 9 "main" program {} = .ok value left ∧ left.effects = #[] := by
  intro value
  have truth : (Literal.bool true).Writable := trivial
  have least : (Literal.int (-0x8000000000000000)).Writable := by decide
  have text : (Literal.text "]#\n[ -1").Writable := by decide
  have float : (Literal.float (-1.5)).Writable := trivial
  have inner : Value.Writable (.list [.float (-1.5), .list []]) := by
    refine .list (List.forall_mem_cons.mpr ⟨.literal float, ?_⟩)
    exact List.forall_mem_singleton.mpr (.list nofun)
  have writable : value.Writable := by
    refine .list (List.forall_mem_cons.mpr ⟨.literal truth, ?_⟩)
    refine List.forall_mem_cons.mpr ⟨.literal least, List.forall_mem_cons.mpr ⟨.literal text, ?_⟩⟩
    exact List.forall_mem_singleton.mpr inner
  have exact : ∀ x, (Value.float x).Within value → Numeral.Exact x := by
    intro x inside
    unfold value at inside
    cases inside with
    | item member inside =>
      fin_cases member
      · cases inside
      · cases inside
      · cases inside
      · cases inside with
        | item member inside =>
          fin_cases member
          · cases inside
            rfl
          · cases inside
            contradiction
  obtain ⟨tokens, program, scanned, parsed, runs⟩ := display_reads_back writable exact
  obtain ⟨left, done, _, printed⟩ := runs 9 "main" {} (by decide) rfl
  refine ⟨writable, exact, tokens, program, scanned, parsed 9 (by decide), left, done, ?_⟩
  rw [← Array.toList_inj]
  exact printed.effects

end CurryScript
