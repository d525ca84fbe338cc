import Destructure.Proofs.Condition.Literal
import Destructure.Proofs.Outcome
import Destructure.Proofs.Place
import Destructure.Proofs.Template.Delimiter

namespace Destructure

theorem Opened.IsBegun.reverse_ne_nil {o : Opened} (h : o.IsBegun) : o.raw.reverse ≠ [] := by
  obtain ⟨before, first, hraw, -⟩ := h
  rw [hraw, List.reverse_concat]
  exact List.cons_ne_nil _ _

namespace Lifting

variable {s t : Lifting} {read text more : List Char} {c quote : Char} {opened : Opened}
  {failure : Failure}

/-- What has been read of a literal stands where the literal begins. -/
theorem IsAligned.standsAt (hs : s.IsAligned read)
    (hstart : s.mode.start? s.position = some opened.start) (hraw : s.mode.raw = opened.raw.reverse)
    (hbegun : opened.IsBegun) (more : List Char) :
    StandsAt (read ++ more) opened.raw.reverse opened.start := by
  have hplace : opened.start = (written s.pieces.reverse).length := hs.start _ hstart
  have htext : read ++ more = written s.pieces.reverse ++ (opened.raw.reverse ++ more) := by
    rw [← hs.raw, hraw, List.append_assoc]
  rw [hplace, htext]
  exact standsAt_append hbegun.reverse_ne_nil _ _

/-- A number cannot be read because it is malformed, or because it has too many digits. -/
theorem readNumber_eq_error (h : readNumber opened = .error failure) :
    failure = .ofError (.malformedNumber (String.ofList opened.raw.reverse) opened.start) ∨
    ∃ numeral, Numeral.split? (Numeral.splitSign opened.raw.reverse).2 = some (numeral, []) ∧
      numeral.isWhole = true ∧ Number.maxDigits < numeral.whole.length ∧
      failure = .numeralTooLong numeral.whole.length := by
  unfold readNumber at h
  dsimp only at h
  split at h
  · rename_i numeral hsplit
    split at h
    · rename_i hwhole
      split at h
      · rename_i hlong
        cases h
        exact Or.inr ⟨numeral, hsplit, hwhole, hlong, rfl⟩
      · cases h
    · cases h
  · cases h
    exact Or.inl rfl

theorem closeNumber_eq_error (h : s.closeNumber opened = .error failure) :
    readNumber opened = .error failure := by
  rcases Run.bind_eq_error.mp h with h | ⟨number, -, h⟩
  · exact h
  · cases h

theorem outside_eq_error (h : s.outside c = .error failure) :
    c = markerChar ∧ failure = .ofError (.nulCharacter s.position) := by
  by_cases hc : c = markerChar
  · subst hc
    cases h
    exact ⟨rfl, rfl⟩
  · rw [outside_eq _ hc] at h
    cases h

/-- A character cannot be taken because it encloses markers, because it makes an escape that is not
known, or because a number ends before it that cannot be read. -/
theorem step_eq_error (h : s.step c = .error failure) :
    (c = markerChar ∧ failure = .ofError (.nulCharacter s.position)) ∨
    (∃ opened quote value, s.mode = .quoted opened quote value true ∧
      failure = .ofError (.unknownEscape c (s.position - 1))) ∨
    ∃ opened, s.mode = .number opened ∧ readNumber opened = .error failure := by
  have h : s.advance c = .error failure := Run.map_eq_error.mp h
  have houtside {t : Lifting} (h : t.outside c = .error failure) (ht : t.position = s.position) :
      c = markerChar ∧ failure = .ofError (.nulCharacter s.position) := by
    rw [← ht]
    exact outside_eq_error h
  unfold advance at h
  split at h
  · exact Or.inl (houtside h rfl)
  · split at h
    · cases h
    · exact Or.inl (houtside h rfl)
  · rename_i hm
    unfold inQuotes at h
    dsimp only at h
    split at h
    · rename_i hescaping
      split at h
      · cases h
      · cases h
        rw [hescaping] at hm
        exact Or.inr (Or.inl ⟨_, _, _, hm, rfl⟩)
    · repeat' split at h
      all_goals cases h
  · dsimp only at h
    repeat' split at h
    all_goals cases h
  · split at h
    · cases h
    · exact Or.inl (houtside h rfl)
  · rename_i opened hm
    split at h
    · cases h
    · rcases Run.bind_eq_error.mp h with hclose | ⟨t, ht, h⟩
      · exact Or.inr (Or.inr ⟨opened, hm, closeNumber_eq_error hclose⟩)
      · exact Or.inl (houtside h (settles_closeNumber hm ht).position_eq)

/-- A text cannot end inside quotes, between slashes, or with a number that cannot be read. -/
theorem finish_eq_error (h : s.finish = .error failure) :
    (∃ opened quote value escaping, s.mode = .quoted opened quote value escaping ∧
      failure = .ofError (.unterminatedText (snippet opened) opened.start)) ∨
    (∃ opened escaping, s.mode = .regex opened escaping ∧
      failure = .ofError (.unterminatedRegex (snippet opened) opened.start)) ∨
    ∃ opened, s.mode = .number opened ∧ readNumber opened = .error failure := by
  unfold finish at h
  split at h
  · cases h
  · cases h
  · rename_i hm
    cases h
    exact Or.inl ⟨_, _, _, _, hm, rfl⟩
  · rename_i hm
    cases h
    exact Or.inr (Or.inl ⟨_, _, hm, rfl⟩)
  · cases h
  · rename_i hm
    exact Or.inr (Or.inr ⟨_, hm, closeNumber_eq_error h⟩)

/-- What has been read of a number stands where the number begins, and so does what cannot be read. -/
theorem pointsInto_readNumber (hs : s.IsAligned read) (hd : s.mode.IsDelimited)
    (hm : s.mode = .number opened) (h : readNumber opened = .error failure) :
    failure.PointsInto (read ++ more) := by
  rcases readNumber_eq_error h with rfl | ⟨numeral, -, -, -, rfl⟩
  · have hbegun : opened.IsBegun := by
      rw [hm] at hd
      exact hd.1
    have hstands := hs.standsAt (by rw [hm]; rfl) (by rw [hm]; rfl) hbegun more
    refine Failure.pointsInto_of_standsAt rfl ?_
    rw [PatternError.named, String.toList_ofList]
    exact hstands
  · exact Failure.pointsInto_of_ne fun error h => nomatch h

/-- An escape that is not known stands where it is reported, with its backslash. -/
theorem standsAt_escape {value : List Char} (hs : s.IsAligned read) (hw : s.mode.IsWritten)
    (hm : s.mode = .quoted opened quote value true) (c : Char) (more : List Char) :
    StandsAt (read ++ c :: more) ['\\', c] ((s.position : Int) - 1) := by
  obtain ⟨-, inner, hraw, -⟩ : (Mode.quoted opened quote value true).IsWritten := hm ▸ hw
  rw [if_pos rfl] at hraw
  have hread : read = written s.pieces.reverse ++ quote :: inner ++ ['\\'] := by
    calc
      read = written s.pieces.reverse ++ opened.raw.reverse := by rw [← hs.raw, hm, Mode.raw]
      _ = written s.pieces.reverse ++ quote :: inner ++ ['\\'] := by
        rw [hraw, List.append_assoc, List.cons_append]
  have htext : read ++ c :: more =
      (written s.pieces.reverse ++ quote :: inner) ++ (['\\', c] ++ more) := by
    rw [hread, List.append_assoc]
    rfl
  have hposition : (s.position : Int) - 1 = (written s.pieces.reverse ++ quote :: inner).length := by
    rw [hs.position, hread, List.length_append, List.length_singleton]
    omega
  rw [hposition, htext]
  exact standsAt_append (List.cons_ne_nil '\\' [c]) _ more

theorem pointsInto_step (hs : s.IsAligned read) (hw : s.mode.IsWritten) (hd : s.mode.IsDelimited)
    (h : s.step c = .error failure) : failure.PointsInto (read ++ c :: more) := by
  rcases step_eq_error h with ⟨rfl, rfl⟩ | ⟨opened, quote, value, hm, rfl⟩ | ⟨opened, hm, hnumber⟩
  · have hreport : (PatternError.nulCharacter s.position).report.position = some (s.position : Int) :=
      rfl
    refine Failure.pointsInto_of_standsAt hreport ?_
    rw [hs.position]
    exact standsAt_append (List.cons_ne_nil markerChar []) read more
  · exact Failure.pointsInto_of_standsAt rfl (standsAt_escape hs hw hm c more)
  · exact pointsInto_readNumber hs hd hm hnumber

/-- A literal that is not ended stands where it is reported. -/
theorem pointsInto_finish (hs : s.IsAligned read) (hd : s.mode.IsDelimited)
    (h : s.finish = .error failure) : failure.PointsInto read := by
  have hbegin {opened : Opened} (hstart : s.mode.start? s.position = some opened.start)
      (hraw : s.mode.raw = opened.raw.reverse) (hbegun : opened.IsBegun) :
      StandsAt read (snippet opened).toList opened.start := by
    have hstands := hs.standsAt hstart hraw hbegun []
    rw [List.append_nil] at hstands
    rw [snippet, String.toList_ofList]
    exact hstands.of_isPrefix (List.take_prefix 10 _)
  rcases finish_eq_error h with ⟨opened, _, _, _, hm, rfl⟩ | ⟨opened, _, hm, rfl⟩ | ⟨opened, hm, hnumber⟩
  · rw [hm] at hd
    exact Failure.pointsInto_of_standsAt rfl (hbegin (by rw [hm]; rfl) (by rw [hm]; rfl) hd.2)
  · rw [hm] at hd
    exact Failure.pointsInto_of_standsAt rfl (hbegin (by rw [hm]; rfl) (by rw [hm]; rfl) hd)
  · have hpoints : failure.PointsInto (read ++ []) := pointsInto_readNumber hs hd hm hnumber
    rwa [List.append_nil] at hpoints

/-- What is known of a state that a text has led to. -/
theorem invariants_foldlM {cs : List Char} (h : cs.foldlM step .start = .ok s) :
    s.IsAligned cs ∧ s.mode.IsWritten ∧ s.mode.IsDelimited :=
  ⟨isAligned_foldlM isAligned_start h, (isMaintained_isWritten.holds_foldlM h).2,
    (isMaintained_isDelimited.holds_foldlM h).2⟩

end Lifting

/-- What is wrong with a literal points into the pattern text. -/
theorem Template.pointsInto_ofText {text : List Char} {failure : Failure}
    (h : ofText text = .error failure) : failure.PointsInto text := by
  unfold ofText at h
  rcases Run.bind_eq_error.mp h with hrun | ⟨s, hs, h⟩
  · obtain ⟨before, c, after, s, rfl, hs, hstep⟩ := Run.exists_of_foldlM_eq_error hrun
    obtain ⟨haligned, hwritten, hdelimited⟩ := Lifting.invariants_foldlM hs
    exact Lifting.pointsInto_step haligned hwritten hdelimited hstep
  · obtain ⟨haligned, -, hdelimited⟩ := Lifting.invariants_foldlM hs
    rcases Run.bind_eq_error.mp h with hfinish | ⟨u, -, h⟩
    · exact Lifting.pointsInto_finish haligned hdelimited hfinish
    · cases h

end Destructure
