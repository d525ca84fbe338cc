import Mathlib.Data.List.TakeWhile
import Destructure.Proofs.Run
import Destructure.Text.Letter
import Destructure.Token

namespace Destructure.Token

variable {c : Char} {position : Int} {rest : List (Char × Int)} {lexeme : Lexeme} {length : Nat}

/-- A token that is no marker is a mark or a name. -/
theorem lexemeAt_eq_ok (hc : c ≠ markerChar) (h : lexemeAt c position rest = .ok (lexeme, length)) :
    (Lexeme.punctuation? c = some lexeme ∧ length = 1) ∨
      Text.isNameStart c = true ∧
        lexeme = .name (String.ofList (c :: charsWhile Text.isNameChar rest)) ∧
        length = (charsWhile Text.isNameChar rest).length + 1 := by
  unfold lexemeAt at h
  rw [if_neg hc] at h
  split at h
  · rename_i found hfound
    cases h
    exact Or.inl ⟨hfound, rfl⟩
  · split at h
    · rename_i hstart
      cases h
      exact Or.inr ⟨hstart, rfl, rfl⟩
    · cases h

theorem forall_charsWhile (test : Char → Bool) (row : List (Char × Int)) :
    ∀ d ∈ charsWhile test row, test d = true := by
  intro d hd
  obtain ⟨cell, hm, rfl⟩ := List.mem_map.mp hd
  have htest := List.mem_takeWhile_imp hm
  exact htest

theorem lexemeAt_eq_name {name : String} (h : lexemeAt c position rest = .ok (.name name, length)) :
    Text.isName name.toList = true := by
  by_cases hc : c = markerChar
  · subst hc
    unfold lexemeAt at h
    rw [if_pos rfl] at h
    repeat' split at h
    all_goals cases h
  · rcases lexemeAt_eq_ok hc h with ⟨hmark, -⟩ | ⟨hstart, hname, -⟩
    · unfold Lexeme.punctuation? at hmark
      split at hmark <;> cases hmark
    · obtain rfl := Lexeme.name.inj hname
      rw [String.toList_ofList]
      exact Bool.and_eq_true_iff.mpr ⟨hstart, List.all_eq_true.mpr (forall_charsWhile _ _)⟩

/-- A token that has been scanned begins where no blank does. -/
theorem scanFrom_zero_eq_ok {c : Char} {position : Int} {rest : List (Char × Int)}
    {tokens : List Token} (h : scanFrom 0 ((c, position) :: rest) = .ok tokens) :
    Text.isBlank c = true ∧ scanFrom 0 rest = .ok tokens ∨
      ∃ lexeme length more, lexemeAt c position rest = .ok (lexeme, length) ∧
        scanFrom (length - 1) rest = .ok more ∧ tokens = ⟨lexeme, position, length⟩ :: more := by
  unfold scanFrom at h
  split at h
  · rename_i hb
    exact Or.inl ⟨hb, h⟩
  · obtain ⟨⟨lexeme, length⟩, hl, h⟩ := Run.bind_eq_ok.mp h
    obtain ⟨more, hr, h⟩ := Run.bind_eq_ok.mp h
    cases h
    exact Or.inr ⟨lexeme, length, more, hl, hr, rfl⟩

/-- Scanning fails with a token that begins where no blank does, or behind one. -/
theorem scanFrom_zero_eq_error {c : Char} {position : Int} {rest : List (Char × Int)}
    {failure : Failure} (h : scanFrom 0 ((c, position) :: rest) = .error failure) :
    Text.isBlank c = true ∧ scanFrom 0 rest = .error failure ∨
      Text.isBlank c = false ∧ (lexemeAt c position rest = .error failure ∨
        ∃ lexeme length, lexemeAt c position rest = .ok (lexeme, length) ∧
          scanFrom (length - 1) rest = .error failure) := by
  unfold scanFrom at h
  split at h
  · rename_i hb
    exact Or.inl ⟨hb, h⟩
  · rename_i hb
    refine Or.inr ⟨Bool.eq_false_iff.mpr hb, ?_⟩
    rcases Run.bind_eq_error.mp h with hl | ⟨⟨lexeme, length⟩, hl, h⟩
    · exact Or.inl hl
    · rcases Run.bind_eq_error.mp h with hr | ⟨more, -, h⟩
      · exact Or.inr ⟨lexeme, length, hl, hr⟩
      · cases h

theorem isName_of_scanFrom {skip : Nat} {cells : List (Char × Int)} {tokens : List Token}
    (h : scanFrom skip cells = .ok tokens) {t : Token} (hm : t ∈ tokens) {name : String}
    (ht : t.lexeme = .name name) : Text.isName name.toList = true := by
  induction cells generalizing skip tokens with
  | nil =>
    cases skip <;> cases h <;> cases hm
  | cons cell rest ih =>
    obtain ⟨c, position⟩ := cell
    cases skip with
    | succ skip => exact ih h hm
    | zero =>
      rcases scanFrom_zero_eq_ok h with ⟨-, h⟩ | ⟨lexeme, length, more, hl, hr, rfl⟩
      · exact ih h hm
      · rcases List.mem_cons.mp hm with rfl | hm
        · cases ht
          exact lexemeAt_eq_name hl
        · exact ih hr hm

end Destructure.Token
