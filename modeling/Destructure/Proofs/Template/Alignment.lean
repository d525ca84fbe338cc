import Destructure.Proofs.Template.Lift

namespace Destructure

def written (pieces : List Piece) : List Char :=
  pieces.flatMap Piece.raw

theorem written_append (first second : List Piece) :
    written (first ++ second) = written first ++ written second :=
  List.flatMap_append

theorem written_concat (pieces : List Piece) (piece : Piece) :
    written (pieces ++ [piece]) = written pieces ++ piece.raw := by
  rw [written_append]
  exact congrArg _ (List.append_nil piece.raw)

def Aligned (position : Nat) : List Piece → Prop
  | [] => True
  | piece :: rest => piece.position = position ∧ Aligned (position + piece.raw.length) rest

theorem aligned_append {position : Nat} {first second : List Piece} :
    Aligned position (first ++ second) ↔
      Aligned position first ∧ Aligned (position + (written first).length) second := by
  induction first generalizing position with
  | nil => exact (true_and _).symm ▸ Iff.rfl
  | cons piece rest ih =>
    have hlength : position + (written (piece :: rest)).length =
        position + piece.raw.length + (written rest).length := by
      rw [written, List.flatMap_cons, List.length_append, Nat.add_assoc]
      rfl
    rw [List.cons_append, Aligned, Aligned, ih, hlength, and_assoc]

/-- A piece of a row that is aligned lies within what the row is written as. -/
theorem Aligned.le_of_mem {position : Nat} {pieces : List Piece} (h : Aligned position pieces)
    {piece : Piece} (hm : piece ∈ pieces) :
    position ≤ piece.position ∧
      piece.position + piece.raw.length ≤ position + (written pieces).length := by
  obtain ⟨before, after, rfl⟩ := List.append_of_mem hm
  obtain ⟨-, hpiece, -⟩ := aligned_append.mp h
  have hlength : (written (before ++ piece :: after)).length =
      (written before).length + (piece.raw.length + (written after).length) := by
    rw [written_append, written, written, List.flatMap_cons, List.length_append, List.length_append]
    rfl
  omega

def Mode.raw : Mode → List Char
  | .outside => []
  | .sign c => [c]
  | .quoted opened _ _ _ | .regex opened _ | .regexEnd opened | .number opened => opened.raw.reverse

namespace Mode

variable {position : Nat} {c : Char} {mode next : Mode} {opened : Opened} {payload : Payload}

theorem raw_inRegex (opened : Opened) (escaping : Bool) (c : Char) :
    (inRegex opened escaping c).raw = (Mode.regex opened escaping).raw ++ [c] := by
  have hpush : (opened.push c).raw.reverse = opened.raw.reverse ++ [c] := List.reverse_cons
  unfold inRegex
  repeat' split
  all_goals exact hpush

theorem StartsAt.raw_eq (h : mode.StartsAt position c) : mode.raw = [c] := by
  cases h <;> rfl

theorem Takes.raw_eq (h : mode.Takes position c next) : next.raw = mode.raw ++ [c] := by
  cases h with
  | digit sign hc => rfl
  | regex opened escaping => exact raw_inRegex opened escaping c
  | _ => exact List.reverse_cons

theorem Ends.raw_eq (h : mode.Ends c opened payload) : opened.raw.reverse = mode.raw ++ [c] := by
  cases h with
  | quote opened value => exact List.reverse_cons
  | flag opened => exact List.reverse_cons

theorem Completes.raw_eq (h : mode.Completes opened payload) : opened.raw.reverse = mode.raw := by
  cases h <;> rfl

end Mode

namespace Lifting

structure IsAligned (s : Lifting) (read : List Char) : Prop where
  aligned : Aligned 0 s.pieces.reverse
  raw : written s.pieces.reverse ++ s.mode.raw = read
  position : s.position = read.length
  start : ∀ n ∈ s.mode.start? s.position, n = (written s.pieces.reverse).length

variable {s t : Lifting} {read : List Char} {c : Char}

theorem isAligned_start : start.IsAligned [] where
  aligned := trivial
  raw := rfl
  position := rfl
  start _ hn := nomatch hn

theorem IsAligned.position_succ (hs : s.IsAligned read) : s.position + 1 = (read ++ [c]).length := by
  rw [hs.position, List.length_append, List.length_singleton]

/-- The literal that is being read takes one more character. -/
theorem IsAligned.extend {mode : Mode} (hs : s.IsAligned read)
    (hm : s.mode.Takes s.position c mode) :
    IsAligned { s with position := s.position + 1, mode := mode } (read ++ [c]) where
  aligned := hs.aligned
  raw := by rw [hm.raw_eq, ← List.append_assoc, hs.raw]
  position := hs.position_succ
  start n hn := hs.start n (hm.start_eq ▸ hn)

/-- A literal begins with a character behind the last piece. -/
theorem IsAligned.open {mode : Mode} (hs : s.IsAligned read) (hm : s.mode = .outside)
    (hmode : mode.StartsAt s.position c) :
    IsAligned { s with position := s.position + 1, mode := mode } (read ++ [c]) where
  aligned := hs.aligned
  raw := by
    have hread := hs.raw
    rw [hm] at hread
    rw [hmode.raw_eq, ← hread]
    simp [Mode.raw]
  position := hs.position_succ
  start n hn := by
    have hread := hs.raw
    rw [hm, Mode.raw, List.append_nil] at hread
    obtain rfl := Option.some.inj (hmode.start_eq.symm.trans hn)
    rw [hs.position, hread]

/-- A piece is added that is written as what was being read, and perhaps some more. -/
theorem IsAligned.add (hs : s.IsAligned read) (piece : Piece) {more : List Char}
    (hraw : piece.raw = s.mode.raw ++ more)
    (hposition : piece.position = (written s.pieces.reverse).length)
    (hpieces : t.pieces = piece :: s.pieces) (hmode : t.mode = .outside)
    (hp : t.position = (read ++ more).length) : t.IsAligned (read ++ more) where
  aligned := by
    rw [hpieces, List.reverse_cons, aligned_append, Nat.zero_add]
    exact ⟨hs.aligned, hposition, trivial⟩
  raw := by
    rw [hpieces, hmode, List.reverse_cons, written_concat, hraw, ← List.append_assoc, hs.raw]
    exact List.append_nil _
  position := hp
  start _ hn := by
    rw [hmode] at hn
    cases hn

theorem IsAligned.written_eq (hs : s.IsAligned read) (hm : s.mode = .outside) :
    written s.pieces.reverse = read := by
  have hraw := hs.raw
  rwa [hm, Mode.raw, List.append_nil] at hraw

theorem isAligned_beginCondition (hs : s.IsAligned read) : (s.beginCondition c).IsAligned read := by
  unfold beginCondition
  split
  · exact ⟨hs.aligned, hs.raw, hs.position, hs.start⟩
  · exact hs

theorem isAligned_enter (hs : s.IsAligned read) (hm : s.mode = .outside) :
    IsAligned { s.enter c with position := s.position + 1 } (read ++ [c]) := by
  rcases enter_cases s c with h | ⟨mode, hmode, h⟩
  · have hplace : s.position = (written s.pieces.reverse).length := by
      rw [hs.written_eq hm, hs.position]
    rw [h]
    exact hs.add (.plain c s.position) (by rw [hm]; rfl) hplace rfl rfl hs.position_succ
  · rw [h]
    exact hs.open hm hmode

theorem isAligned_outside (hs : s.IsAligned read) (hm : s.mode = .outside)
    (h : s.outside c = .ok t) : IsAligned { t with position := t.position + 1 } (read ++ [c]) := by
  have hbegin : (s.beginCondition c).mode = .outside := by
    unfold beginCondition
    split <;> exact hm
  obtain ⟨-, rfl⟩ := outside_eq_ok.mp h
  rw [position_enter]
  exact isAligned_enter (isAligned_beginCondition hs) hbegin

/-- A piece that ends before the next character is written as what was being read. -/
theorem IsAligned.add_last (hs : s.IsAligned read) (piece : Piece) (hraw : piece.raw = s.mode.raw)
    (hstart : s.mode.start? s.position = some piece.position)
    (hpieces : t.pieces = piece :: s.pieces) (hmode : t.mode = .outside)
    (hp : t.position = s.position) : t.IsAligned read := by
  have hadd := hs.add piece (hraw.trans (List.append_nil _).symm) (hs.start _ hstart) hpieces hmode
    (by rw [hp, List.append_nil, hs.position])
  rwa [List.append_nil] at hadd

theorem isAligned_releases (hs : s.IsAligned read) (h : s.Releases t) : t.IsAligned read := by
  cases h with
  | outside hm => exact hs
  | sign sign hm =>
    exact hs.add_last (.plain sign _) (by rw [hm]; rfl) (by rw [hm]; rfl) rfl rfl rfl
  | literal opened payload hl =>
    exact hs.add_last (.literal ⟨payload, _, _⟩) hl.raw_eq hl.start_eq rfl rfl rfl

theorem isAligned_step (hs : s.IsAligned read) (h : s.step c = .ok t) : t.IsAligned (read ++ [c]) := by
  obtain ⟨u, hu, rfl⟩ := step_eq_ok.mp h
  cases advance_eq_ok.mp hu with
  | takes mode hm => exact hs.extend hm
  | ends opened payload hl =>
    exact hs.add (.literal ⟨payload, opened.raw.reverse, opened.start⟩) hl.raw_eq
      (hs.start _ hl.start_eq) rfl rfl hs.position_succ
  | outside hv _ hout =>
    exact isAligned_outside (isAligned_releases hs hv) hv.settles.mode_eq hout

theorem isAligned_foldlM {cs : List Char} (hs : s.IsAligned read) (h : cs.foldlM step s = .ok t) :
    t.IsAligned (read ++ cs) := by
  induction cs generalizing s read with
  | nil =>
    cases h
    rwa [List.append_nil]
  | cons c cs ih =>
    obtain ⟨u, hu, hr⟩ := Run.foldlM_cons_eq_ok.mp h
    have hnext := ih (isAligned_step hs hu) hr
    rwa [List.append_assoc] at hnext

end Lifting

/-- The pieces of a template make up the pattern text, and each of them stands in its place. -/
theorem Template.aligned_ofText {text : List Char} {t : Template} (h : ofText text = .ok t) :
    written t.pieces = text ∧ Aligned 0 t.pieces := by
  obtain ⟨s, u, hs, hu, rfl⟩ := ofText_eq_ok.mp h
  have hrun := Lifting.isAligned_releases (Lifting.isAligned_foldlM Lifting.isAligned_start hs)
    (Lifting.finish_eq_ok.mp hu)
  exact ⟨hrun.written_eq (Lifting.finish_settles hu).mode_eq, hrun.aligned⟩

end Destructure
