import Mathlib.Logic.Function.Iterate
import CurryScript.Proofs.Lines
import CurryScript.Proofs.Scanning

/-!
Scanning makes progress. A call for a token passes at least one character, whether it succeeds or
not, as long as more than a gap is left; after that nothing moves any more. So a script has at most
as many tokens as it has characters, and then its end.
-/
namespace CurryScript

open Spelling

namespace Cursor

/-- A cursor stands in a text: it has yet to read all that comes after the characters it counts. -/
def StandsIn (text : List Char) (cursor : Cursor) : Prop :=
  cursor.position ≤ text.length ∧ cursor.rest = text.drop cursor.position

theorem StandsIn.length {text : List Char} {cursor : Cursor} (stands : cursor.StandsIn text) :
    cursor.position + cursor.rest.length = text.length := by
  obtain ⟨bounded, left⟩ := stands
  rw [left, List.length_drop]
  omega

theorem StandsIn.advance {text : List Char} {cursor : Cursor} (stands : cursor.StandsIn text) :
    cursor.advance.StandsIn text ∧ cursor.position ≤ cursor.advance.position := by
  have total := stands.length
  obtain ⟨bounded, left⟩ := stands
  unfold Cursor.advance
  split
  · exact ⟨⟨bounded, left⟩, Nat.le_refl _⟩
  · next c rest here =>
    rw [here, List.length_cons] at total
    refine ⟨⟨by dsimp only; omega, ?_⟩, Nat.le_succ _⟩
    rw [← List.drop_drop, ← left, here]
    rfl

theorem Reaches.standsIn {text : List Char} {cursor after : Cursor} (reached : Reaches cursor after)
    (stands : cursor.StandsIn text) :
    after.StandsIn text ∧ cursor.position ≤ after.position := by
  induction reached with
  | refl => exact ⟨stands, Nat.le_refl _⟩
  | step _ ih =>
    obtain ⟨moved, onward⟩ := stands.advance
    exact ⟨(ih moved).1, Nat.le_trans onward (ih moved).2⟩

/-- A call for a token meets the end, or more than a gap is left and it finds no token but that of a
piece. -/
theorem next_cases (table : LineTable) (cursor : Cursor) :
    (cursor.skipGap.rest = [] ∧ Gap true cursor.rest) ∨
      cursor.skipGap.rest ≠ [] ∧ ∀ token, (cursor.next table).1 = .ok token →
        ∃ piece : Piece, piece.WellSpelled ∧ piece.lexeme = .ok token.lexeme := by
  obtain ⟨gap, pieces, tail, arranged⟩ := exists_arranged cursor.rest
  generalize ahead : cursor.rest = text at arranged
  cases arranged with
  | complete between => exact .inl ⟨rest_skipGap_final cursor (ahead ▸ between), between⟩
  | unclosed between endless =>
    have at_quote := rest_skipGap_quote cursor between ahead
    refine .inr ⟨by simp [at_quote], fun token read => ?_⟩
    have stops := scanLexeme_unclosed table cursor.skipGap at_quote endless
    cases stops.symm.trans read
  | @next _ after text piece pieces _ between spelled rest apart =>
    obtain ⟨_, inside, reads, _⟩ := scanLexeme_after_gap table cursor between spelled ahead
      (fun word => rest.starts (apart word))
    refine .inr ⟨inside, fun token read => ⟨piece, spelled, ?_⟩⟩
    have same := reads.symm.trans read
    cases stands : piece.lexeme with
    | error failure =>
      rw [stands] at same
      cases same
    | ok lexeme =>
      rw [stands] at same
      cases same
      rfl

end Cursor

def EndsScript (answer : Except ScanError Token) : Prop :=
  ∃ token, answer = .ok token ∧ token.lexeme = .endOfScript

namespace Cursor

theorem next_of_ended (table : LineTable) {cursor : Cursor} (ended : cursor.skipGap.rest = []) :
    cursor.next table =
      (.ok ⟨.endOfScript, cursor.skipGap.line, table.get cursor.skipGap.line⟩, cursor.skipGap) := by
  simp only [next, scanLexeme, ended]

theorem endsScript_next_iff (table : LineTable) (cursor : Cursor) :
    EndsScript (cursor.next table).1 ↔ cursor.skipGap.rest = [] := by
  constructor
  · rintro ⟨token, read, ends⟩
    rcases next_cases table cursor with ⟨ended, _⟩ | ⟨_, pieces⟩
    · exact ended
    · obtain ⟨piece, spelled, stands⟩ := pieces token read
      exact absurd (stands.trans (congrArg Except.ok ends)) spelled.lexeme_ne_endOfScript
  · intro ended
    rw [next_of_ended table ended]
    exact ⟨_, rfl, rfl⟩

theorem endsScript_next_iff_gap (table : LineTable) (cursor : Cursor) :
    EndsScript (cursor.next table).1 ↔ Gap true cursor.rest := by
  rw [endsScript_next_iff]
  refine ⟨fun ended => ?_, rest_skipGap_final cursor⟩
  rcases next_cases table cursor with ⟨_, between⟩ | ⟨inside, _⟩
  · exact between
  · exact absurd ended inside

theorem length_next_lt {table : LineTable} {cursor : Cursor}
    (goesOn : ¬ EndsScript (cursor.next table).1) :
    (cursor.next table).2.rest.length < cursor.rest.length := by
  rw [endsScript_next_iff] at goesOn
  have shorter := length_scanLexeme_lt table cursor.skipGap goesOn
  have bounded := length_skipGap_le cursor
  unfold next
  omega

theorem next_next {table : LineTable} {cursor : Cursor} (ended : EndsScript (cursor.next table).1) :
    (cursor.next table).2.next table = cursor.next table := by
  rw [endsScript_next_iff] at ended
  have still : cursor.skipGap.skipGap = cursor.skipGap := skipGap_of_solid _ (by simp [ended])
  rw [next_of_ended table ended]
  dsimp only
  rw [next_of_ended table (by rw [still, ended]), still]

theorem identifier_of_next {table : LineTable} {cursor : Cursor} {token : Token} {name : String}
    (read : (cursor.next table).1 = .ok token) (named : token.lexeme = .identifier name) :
    name ≠ "" ∧ ∀ c ∈ name.toList, Text.isBlank c = false ∧ c ∉ reserved := by
  rcases next_cases table cursor with ⟨ended, _⟩ | ⟨_, pieces⟩
  · rw [next_of_ended table ended] at read
    cases read
    cases named
  · obtain ⟨piece, spelled, stands⟩ := pieces token read
    rw [named] at stands
    obtain rfl := spelled.identifier stands
    obtain ⟨filled, each⟩ := spelled
    refine ⟨?_, each⟩
    rintro rfl
    exact filled rfl

def afterCalls (table : LineTable) (count : Nat) (cursor : Cursor) : Cursor :=
  (fun cursor => (cursor.next table).2)^[count] cursor

/-- The answer to a call for a token. The calls are counted from zero. -/
def answer (table : LineTable) (cursor : Cursor) (call : Nat) : Except ScanError Token :=
  ((cursor.afterCalls table call).next table).1

theorem afterCalls_succ (table : LineTable) (count : Nat) (cursor : Cursor) :
    cursor.afterCalls table (count + 1) = ((cursor.afterCalls table count).next table).2 :=
  Function.iterate_succ_apply' _ count cursor

theorem reaches_afterCalls (table : LineTable) (count : Nat) (cursor : Cursor) :
    Reaches cursor (cursor.afterCalls table count) := by
  induction count with
  | zero => exact .refl cursor
  | succ count ih =>
    rw [afterCalls_succ]
    exact ih.trans (reaches_next table _)

theorem next_afterCalls_of_ended {table : LineTable} {cursor : Cursor} {call : Nat}
    (ended : EndsScript (cursor.answer table call)) (more : Nat) :
    (cursor.afterCalls table (call + more)).next table =
      (cursor.afterCalls table call).next table := by
  induction more with
  | zero => rfl
  | succ more ih =>
    rw [← Nat.add_assoc, afterCalls_succ, ih, next_next ended]

/-- The tokens of a script are the answers to its calls, up to the first one that is no further
token. -/
theorem scanAll_eq_answers (table : LineTable) (found : Array Token) (cursor : Cursor) :
    ∃ count ≤ cursor.rest.length,
      (∀ call < count, ∃ token, cursor.answer table call = .ok token ∧
        token.lexeme ≠ .endOfScript) ∧
      (∀ token, cursor.answer table count = .ok token → token.lexeme = .endOfScript) ∧
      cursor.scanAll table found =
        ((List.range (count + 1)).mapM (cursor.answer table)).map (found.toList ++ ·) := by
  fun_induction scanAll table found cursor with
  | case1 found cursor start ended =>
    have answered : cursor.answer table 0 = .ok ⟨.endOfScript, start.line, table.get start.line⟩ :=
      congrArg Prod.fst (next_of_ended table ended)
    refine ⟨0, Nat.zero_le _, by simp, ?_, ?_⟩
    · intro token read
      cases answered.symm.trans read
      rfl
    · simp [answered, Except.map, pure, Except.pure, bind, Except.bind]
  | case2 found cursor start inside error after read =>
    have answered : cursor.answer table 0 = .error error := congrArg Prod.fst read
    refine ⟨0, Nat.zero_le _, by simp, by simp [answered], ?_⟩
    simp [answered, Except.map, bind, Except.bind]
  | case3 found cursor start inside token after read ih =>
    have answered : cursor.answer table 0 = .ok token := congrArg Prod.fst read
    have moved : (cursor.next table).2 = after := congrArg Prod.snd read
    have later (call : Nat) : cursor.answer table (call + 1) = after.answer table call := by
      rw [← moved]
      rfl
    have goesOn : ¬ EndsScript (cursor.next table).1 := by
      rw [endsScript_next_iff]
      exact inside
    have shorter := length_next_lt goesOn
    rw [moved] at shorter
    obtain ⟨count, bounded, tokens, ends, same⟩ := ih
    refine ⟨count + 1, by omega, ?_, ?_, ?_⟩
    · intro call before
      cases call with
      | zero => exact ⟨token, answered, fun last => goesOn ⟨token, answered, last⟩⟩
      | succ call =>
        rw [later]
        exact tokens call (by omega)
    · rw [later]
      exact ends
    · have shifted : cursor.answer table ∘ Nat.succ = after.answer table := funext later
      have first : (List.range (count + 1 + 1)).mapM (cursor.answer table) =
          ((List.range (count + 1)).mapM (after.answer table)).map (token :: ·) := by
        rw [List.range_succ_eq_map, List.mapM_cons, List.mapM_map, answered, shifted]
        rfl
      rw [same, first]
      cases (List.range (count + 1)).mapM (after.answer table) <;> simp [Except.map]

end Cursor

def scannerAfter (source : String) (calls : Nat) : Cursor :=
  Cursor.afterCalls (.ofText source.toList) calls ⟨source.toList, 0, 1⟩

def scannerAnswer (source : String) (call : Nat) : Except ScanError Token :=
  Cursor.answer (.ofText source.toList) ⟨source.toList, 0, 1⟩ call

theorem standsIn_scannerAfter (source : String) (calls : Nat) :
    (scannerAfter source calls).StandsIn source.toList :=
  ((Cursor.reaches_afterCalls _ calls _).standsIn ⟨Nat.zero_le _, rfl⟩).1

/-- Over any number of calls for tokens the position grows, but for calls that meet the end of the
script. These are those with only a gap left, and they change nothing from the second on. All tokens
of a script are found in one call for each, and one more. -/
theorem scanner_progresses (source : String) :
    (∀ calls, (scannerAfter source calls).position ≤ (scannerAfter source (calls + 1)).position ∧
      (scannerAfter source calls).position ≤ source.length ∧
      (scannerAfter source calls).rest =
        source.toList.drop (scannerAfter source calls).position) ∧
    (∀ call, ¬ EndsScript (scannerAnswer source call) →
      (scannerAfter source call).position < (scannerAfter source (call + 1)).position) ∧
    (∀ call, EndsScript (scannerAnswer source call) ↔ Gap true (scannerAfter source call).rest) ∧
    (∀ call later, EndsScript (scannerAnswer source call) → call ≤ later →
      scannerAnswer source later = scannerAnswer source call ∧
        scannerAfter source (later + 1) = scannerAfter source (call + 1)) ∧
    (∀ call token name, scannerAnswer source call = .ok token → token.lexeme = .identifier name →
      name ≠ "" ∧ ∀ c ∈ name.toList, Text.isBlank c = false ∧ c ∉ reserved) ∧
    (∃ count ≤ source.length,
      (∀ call < count, ∃ token, scannerAnswer source call = .ok token ∧
        token.lexeme ≠ .endOfScript) ∧
      (∀ token, scannerAnswer source count = .ok token → token.lexeme = .endOfScript) ∧
      tokenize source = (List.range (count + 1)).mapM (scannerAnswer source)) ∧
    ∀ tokens, tokenize source = .ok tokens →
      ∃ lexemes, tokens.map Token.lexeme = lexemes ++ [.endOfScript] ∧ .endOfScript ∉ lexemes := by
  have stands := standsIn_scannerAfter source
  have moves (calls : Nat) : scannerAfter source (calls + 1) =
      ((scannerAfter source calls).next (.ofText source.toList)).2 := Cursor.afterCalls_succ _ _ _
  refine ⟨fun calls => ⟨?_, ?_, (stands calls).2⟩, fun call goesOn => ?_,
    fun call => Cursor.endsScript_next_iff_gap _ _, fun call later ended after => ?_,
    fun call token name read named => Cursor.identifier_of_next read named, ?_,
    fun tokens read => ?_⟩
  · rw [moves]
    exact ((Cursor.reaches_next _ _).standsIn (stands calls)).2
  · rw [← String.length_toList]
    exact (stands calls).1
  · have shorter : (scannerAfter source (call + 1)).rest.length <
        (scannerAfter source call).rest.length := by
      rw [moves]
      exact Cursor.length_next_lt goesOn
    have before := (stands call).length
    have after := (stands (call + 1)).length
    omega
  · obtain ⟨more, rfl⟩ := Nat.exists_eq_add_of_le after
    have same := Cursor.next_afterCalls_of_ended ended more
    rw [moves, moves]
    exact ⟨congrArg Prod.fst same, congrArg Prod.snd same⟩
  · obtain ⟨count, bounded, tokens, ends, same⟩ :=
      Cursor.scanAll_eq_answers (.ofText source.toList) #[] ⟨source.toList, 0, 1⟩
    refine ⟨count, by rwa [← String.length_toList], tokens, ends, ?_⟩
    rw [tokenize, same]
    change Except.map ([] ++ ·) _ = (List.range (count + 1)).mapM (scannerAnswer source)
    unfold scannerAnswer
    cases (List.range (count + 1)).mapM (Cursor.answer _ _) <;> rfl
  · obtain ⟨_, _, lexemes, arranged, stand, found⟩ := arranged_of_tokenize read
    exact ⟨lexemes, found, arranged.endOfScript_not_mem stand⟩

/-- The second call for a token meets a quote without an end, and the third the end. -/
theorem end_met_after_open_quote :
    ∃ source, source = "a \"b#" ∧ ¬ EndsScript (scannerAnswer source 1) ∧
      (scannerAfter source 1).position < (scannerAfter source 2).position ∧
      EndsScript (scannerAnswer source 2) ∧
      ∀ later, 2 ≤ later → scannerAnswer source later = scannerAnswer source 2 ∧
        scannerAfter source (later + 1) = scannerAfter source 3 := by
  obtain ⟨_, grows, _, stays, _⟩ := scanner_progresses "a \"b#"
  have stopped : scannerAnswer "a \"b#" 1 =
      .error (.syntaxError ⟨.unterminatedString "b#", some ⟨1, "a \"b#"⟩⟩) := by
    with_unfolding_all rfl
  have ended : scannerAnswer "a \"b#" 2 = .ok ⟨.endOfScript, 1, "a \"b#"⟩ := by
    with_unfolding_all rfl
  have goesOn : ¬ EndsScript (scannerAnswer "a \"b#" 1) := by simp [EndsScript, stopped]
  have ends : EndsScript (scannerAnswer "a \"b#" 2) := ⟨_, ended, rfl⟩
  exact ⟨_, rfl, goesOn, grows 1 goesOn, ends, fun later after => stays 2 later ends after⟩

end CurryScript
