import Destructure.Number.Numeral
import Destructure.Number.Shortest
import Destructure.Proofs.Number.Binary64
import Destructure.Proofs.Text.Letter

namespace Destructure

namespace Numeral

theorem valueOfDigits_eq (digits : List Char) :
    valueOfDigits digits = Nat.ofDigitChars 10 digits 0 :=
  Nat.ofDigitChars_eq_foldl.symm

theorem valueOfDigits_toDigits (n : Nat) : valueOfDigits (Nat.toDigits 10 n) = n := by
  rw [valueOfDigits_eq, Nat.ofDigitChars_ten_toDigits]

theorem valueOfDigits_append_zeros (digits : List Char) (k : Nat) :
    valueOfDigits (digits ++ List.replicate k '0') = valueOfDigits digits * Binary64.tenTo k := by
  rw [valueOfDigits_eq, valueOfDigits_eq, Nat.ofDigitChars_append, Nat.ofDigitChars_replicate_zero,
    Nat.mul_comm]
  rfl

theorem valueOfDigits_zeros_append (digits : List Char) (k : Nat) :
    valueOfDigits (List.replicate k '0' ++ digits) = valueOfDigits digits := by
  rw [valueOfDigits_eq, valueOfDigits_eq, Nat.ofDigitChars_append, Nat.ofDigitChars_replicate_zero,
    Nat.mul_zero]

theorem toNat_sub_lt_of_isDigit {c : Char} (hc : c.isDigit = true) : c.toNat - 48 < 10 :=
  Text.forall_nameChar (Q := fun c => c.isDigit = true → c.toNat - 48 < 10) (by decide)
    (Text.isNameChar_of_isDigit hc) hc

/-- A row of digits stands for a number that needs no more of them. -/
theorem valueOfDigits_lt {digits : List Char} (hd : ∀ c ∈ digits, c.isDigit = true) :
    valueOfDigits digits < Binary64.tenTo digits.length := by
  have hfold (n : Nat) : digits.foldl (fun n d => 10 * n + (d.toNat - 48)) n <
      Binary64.tenTo digits.length * (n + 1) := by
    induction digits generalizing n with
    | nil => exact Nat.lt_of_lt_of_eq (Nat.lt_succ_self n) (Nat.one_mul _).symm
    | cons c cs ih =>
      obtain ⟨hc, hcs⟩ := List.forall_mem_cons.mp hd
      have hdigit := toNat_sub_lt_of_isDigit hc
      have hten : Binary64.tenTo (c :: cs).length = Binary64.tenTo cs.length * 10 := pow_succ 10 _
      calc (c :: cs).foldl (fun n d => 10 * n + (d.toNat - 48)) n
          < Binary64.tenTo cs.length * (10 * n + (c.toNat - 48) + 1) := ih hcs _
        _ ≤ Binary64.tenTo cs.length * (10 * (n + 1)) := Nat.mul_le_mul_left _ (by omega)
        _ = Binary64.tenTo (c :: cs).length * (n + 1) := by rw [hten, Nat.mul_assoc]
  have h := hfold 0
  rwa [Nat.mul_one] at h

section Split

variable {w f r : List Char} {exponent : Option (Bool × List Char)}

theorem split?_of_point {cs more : List Char} (h : cs.dropWhile Char.isDigit = '.' :: more) :
    split? cs =
      let whole := cs.takeWhile Char.isDigit
      let fraction := more.takeWhile Char.isDigit
      let behind := splitExponent (more.dropWhile Char.isDigit)
      if whole = [] ∧ fraction = [] then none
      else some (⟨whole, true, fraction, behind.1⟩, behind.2) := by
  unfold split?
  rw [h]
  rfl

theorem split?_of_no_point {cs : List Char} (h : ∀ more, cs.dropWhile Char.isDigit ≠ '.' :: more) :
    split? cs =
      let whole := cs.takeWhile Char.isDigit
      let behind := splitExponent (cs.dropWhile Char.isDigit)
      if whole = [] then none else some (⟨whole, false, [], behind.1⟩, behind.2) := by
  unfold split?
  split
  · rename_i more hmore
    exact absurd hmore (h more)
  · rfl

/-- A numeral has a point behind its first digits, or it has none and begins with a digit. -/
theorem split?_cases {n : Numeral} {cs after : List Char} (h : split? cs = some (n, after)) :
    (∃ more, cs.dropWhile Char.isDigit = '.' :: more ∧
      ¬ (cs.takeWhile Char.isDigit = [] ∧ more.takeWhile Char.isDigit = []) ∧
      n = ⟨cs.takeWhile Char.isDigit, true, more.takeWhile Char.isDigit,
        (splitExponent (more.dropWhile Char.isDigit)).1⟩ ∧
      after = (splitExponent (more.dropWhile Char.isDigit)).2) ∨
    (∀ more, cs.dropWhile Char.isDigit ≠ '.' :: more) ∧ cs.takeWhile Char.isDigit ≠ [] ∧
      n = ⟨cs.takeWhile Char.isDigit, false, [], (splitExponent (cs.dropWhile Char.isDigit)).1⟩ ∧
      after = (splitExponent (cs.dropWhile Char.isDigit)).2 := by
  by_cases hpoint : ∃ more, cs.dropWhile Char.isDigit = '.' :: more
  · obtain ⟨more, hmore⟩ := hpoint
    rw [split?_of_point hmore] at h
    dsimp only at h
    split at h
    · cases h
    · rename_i hdigits
      cases h
      exact Or.inl ⟨more, hmore, hdigits, rfl, rfl⟩
  · have hnone := not_exists.mp hpoint
    rw [split?_of_no_point hnone] at h
    dsimp only at h
    split at h
    · cases h
    · rename_i hdigits
      cases h
      exact Or.inr ⟨hnone, hdigits, rfl, rfl⟩

/-- An exponent is read as a whole or not at all. -/
theorem splitExponent_cases (cs : List Char) :
    splitExponent cs = (none, cs) ∨
      ∃ mark rest, cs = mark :: rest ∧ (mark = 'e' ∨ mark = 'E') ∧
        (splitSign rest).2.takeWhile Char.isDigit ≠ [] ∧
        splitExponent cs = (some ((splitSign rest).1, (splitSign rest).2.takeWhile Char.isDigit),
          (splitSign rest).2.dropWhile Char.isDigit) := by
  cases cs with
  | nil => exact Or.inl rfl
  | cons mark rest =>
    by_cases hmark : mark = 'e' ∨ mark = 'E'
    · by_cases hdigits : (splitSign rest).2.takeWhile Char.isDigit = []
      · refine Or.inl ?_
        rw [splitExponent, if_pos hmark]
        exact if_pos hdigits
      · refine Or.inr ⟨mark, rest, rfl, hmark, hdigits, ?_⟩
        rw [splitExponent, if_pos hmark]
        exact if_neg hdigits
    · refine Or.inl ?_
      rw [splitExponent, if_neg hmark]

/-- A numeral begins with a digit or a point. -/
theorem split?_eq_none {c : Char} {rest : List Char} (hd : c.isDigit = false) (hp : c ≠ '.') :
    split? (c :: rest) = none := by
  have hdigit : ¬ c.isDigit = true := Bool.eq_false_iff.mp hd
  have hnone : ∀ more, (c :: rest).dropWhile Char.isDigit ≠ '.' :: more := by
    intro more h
    rw [List.dropWhile_cons_of_neg hdigit] at h
    cases h
    exact hp rfl
  rw [split?_of_no_point hnone, List.takeWhile_cons_of_neg hdigit]
  rfl

/-- A numeral with a point, up to its end. -/
theorem split?_point (hw : ∀ c ∈ w, c.isDigit = true) (hne : w ≠ [])
    (hf : ∀ c ∈ f, c.isDigit = true) (hr : ∀ c ∈ r.head?, c.isDigit = false)
    (he : splitExponent r = (exponent, [])) :
    split? (w ++ '.' :: (f ++ r)) = some (⟨w, true, f, exponent⟩, []) := by
  have hp : ∀ c ∈ ('.' :: (f ++ r)).head?, c.isDigit = false := by
    intro c hc
    cases hc
    rfl
  rw [split?_of_point (Text.dropWhile_append_stop hw hp)]
  dsimp only
  rw [Text.takeWhile_append_stop hw hp, Text.takeWhile_append_stop hf hr,
    Text.dropWhile_append_stop hf hr, he, if_neg fun h => hne h.1]

/-- A numeral without a point, up to its end. -/
theorem split?_whole (hw : ∀ c ∈ w, c.isDigit = true) (hne : w ≠ [])
    (hr : ∀ c ∈ r.head?, c.isDigit = false ∧ c ≠ '.')
    (he : splitExponent r = (exponent, [])) :
    split? (w ++ r) = some (⟨w, false, [], exponent⟩, []) := by
  have hr' : ∀ c ∈ r.head?, c.isDigit = false := fun c hc => (hr c hc).1
  have hdrop := Text.dropWhile_append_stop hw hr'
  have hnone : ∀ more, (w ++ r).dropWhile Char.isDigit ≠ '.' :: more := by
    intro more hmore
    rw [hdrop] at hmore
    rw [hmore] at hr
    exact (hr '.' rfl).2 rfl
  rw [split?_of_no_point hnone, Text.takeWhile_append_stop hw hr', hdrop, he]
  exact if_neg hne

theorem splitExponent_sign {negative : Bool} {digits : List Char}
    (hd : ∀ c ∈ digits, c.isDigit = true) (hne : digits ≠ []) :
    splitExponent ('e' :: (if negative then '-' else '+') :: digits) =
      (some (negative, digits), []) := by
  have hall := Text.takeWhile_append_stop (r := []) hd fun c hc => nomatch hc
  have hnone := Text.dropWhile_append_stop (r := []) hd fun c hc => nomatch hc
  rw [List.append_nil] at hall hnone
  cases negative <;> simp [splitExponent, splitSign, hall, hnone, hne]

end Split

theorem isDigit_zeros_append {digits : List Char} (hd : ∀ c ∈ digits, c.isDigit = true) (k : Nat) :
    ∀ c ∈ List.replicate k '0' ++ digits, c.isDigit = true := by
  intro c hc
  rcases List.mem_append.mp hc with hc | hc
  · rw [List.eq_of_mem_replicate hc]
    rfl
  · exact hd c hc

theorem isDigit_digitsOf (n : Nat) : ∀ c ∈ Binary64.digitsOf n, c.isDigit = true :=
  fun _ => Nat.isDigit_of_mem_toDigits (by decide) (by decide)

/-- An integer is its absolute value with its sign. -/
theorem ite_neg_natAbs (k : Int) : (if k < 0 then -(k.natAbs : Int) else k.natAbs) = k := by
  split <;> omega

/-- The written exponent is read back. -/
theorem splitExponent_renderExponent (exponent : Int) :
    ∃ negative digits,
      splitExponent ('e' :: Binary64.renderExponent exponent) = (some (negative, digits), []) ∧
        (if negative then -(valueOfDigits digits : Int) else valueOfDigits digits) = exponent := by
  have hr : Binary64.renderExponent exponent = (if decide (exponent < 0) then '-' else '+') ::
      (List.replicate (2 - (Binary64.digitsOf exponent.natAbs).length) '0' ++
        Binary64.digitsOf exponent.natAbs) := by
    rw [Binary64.renderExponent, List.cons_append]
    simp only [decide_eq_true_eq]
  rw [hr]
  refine ⟨_, _, splitExponent_sign (isDigit_zeros_append (isDigit_digitsOf _) _)
    (List.append_ne_nil_of_right_ne_nil _ Nat.toDigits_ne_nil), ?_⟩
  rw [valueOfDigits_zeros_append, Binary64.digitsOf, valueOfDigits_toDigits]
  simp only [decide_eq_true_eq, ite_neg_natAbs]

def Spells (text : List Char) (digits : Nat) (exponent : Int) : Prop :=
  ∃ n : Numeral, split? text = some (n, []) ∧ n.whole ≠ [] ∧ n.isWhole = false ∧
    ∀ negative, n.toBinary64 negative = Binary64.ofDecimal negative digits exponent

section Layout

variable {digits : List Char} {point : Int}

/-- A row of digits with a point in it. -/
theorem spells_point {w f : List Char} (hw : ∀ c ∈ w, c.isDigit = true)
    (hne : w ≠ []) (hf : ∀ c ∈ f, c.isDigit = true) :
    Spells (w ++ '.' :: f) (valueOfDigits (w ++ f)) (-f.length) := by
  have hs := split?_point (r := []) hw hne hf (fun c hc => nomatch hc) rfl
  rw [List.append_nil] at hs
  exact ⟨_, hs, hne, rfl, fun negative => by rw [toBinary64, scale, Int.zero_sub]⟩

/-- A value below one has zeros behind the point. -/
theorem spells_small (hd : ∀ c ∈ digits, c.isDigit = true) (hp : point ≤ 0) :
    Spells ('0' :: '.' :: List.replicate (-point).toNat '0' ++ digits) (valueOfDigits digits)
      (point - digits.length) := by
  have h := spells_point (w := ['0']) (List.forall_mem_singleton.mpr rfl) (List.cons_ne_nil _ _)
    (isDigit_zeros_append hd (-point).toNat)
  have hv : valueOfDigits (['0'] ++ (List.replicate (-point).toNat '0' ++ digits)) =
      valueOfDigits digits := by
    rw [← List.append_assoc]
    exact valueOfDigits_zeros_append digits ((-point).toNat + 1)
  have hl : -((List.replicate (-point).toNat '0' ++ digits).length : Int) =
      point - digits.length := by
    rw [List.length_append, List.length_replicate]
    omega
  rwa [hv, hl] at h

/-- A whole value has zeros up to the point and one behind it. -/
theorem spells_large (hd : ∀ c ∈ digits, c.isDigit = true) (hne : digits ≠ [])
    (hp : (digits.length : Int) ≤ point) :
    Spells (digits ++ List.replicate (point.toNat - digits.length) '0' ++ ['.', '0'])
      (valueOfDigits digits) (point - digits.length) := by
  have hw : ∀ c ∈ digits ++ List.replicate (point.toNat - digits.length) '0',
      c.isDigit = true := by
    intro c hc
    rcases List.mem_append.mp hc with hc | hc
    · exact hd c hc
    · rw [List.eq_of_mem_replicate hc]
      rfl
  obtain ⟨n, hs, hn, hi, hv⟩ := spells_point (f := ['0']) hw
    (List.append_ne_nil_of_left_ne_nil hne _) (List.forall_mem_singleton.mpr rfl)
  refine ⟨n, hs, hn, hi, fun negative => ?_⟩
  have hz : digits ++ List.replicate (point.toNat - digits.length) '0' ++ ['0'] =
      digits ++ List.replicate (point.toNat - digits.length + 1) '0' := by
    rw [List.append_assoc, ← List.replicate_succ']
  have he : -((['0'] : List Char).length : Int) + (point.toNat - digits.length + 1 : Nat) =
      point - digits.length := by
    rw [List.length_singleton]
    omega
  rw [hv, hz, valueOfDigits_append_zeros, Binary64.ofDecimal_mul_tenTo, he]

/-- A value between has the point inside its digits. -/
theorem spells_between (hd : ∀ c ∈ digits, c.isDigit = true) (hp : 0 < point)
    (hl : point < digits.length) :
    Spells (digits.take point.toNat ++ '.' :: digits.drop point.toNat) (valueOfDigits digits)
      (point - digits.length) := by
  have hne : digits.take point.toNat ≠ [] := by
    apply List.ne_nil_of_length_pos
    rw [List.length_take]
    omega
  have h := spells_point (fun c hc => hd c (List.mem_of_mem_take hc)) hne
    (fun c hc => hd c (List.mem_of_mem_drop hc) : ∀ c ∈ digits.drop point.toNat, _)
  have he : -((digits.drop point.toNat).length : Int) = point - digits.length := by
    rw [List.length_drop]
    omega
  rwa [List.take_append_drop, he] at h

/-- A value far from one has an exponent. -/
theorem spells_exponent (hd : ∀ c ∈ digits, c.isDigit = true) (hne : digits ≠ []) :
    Spells (digits.take 1 ++ (if digits.length ≤ 1 then [] else '.' :: digits.drop 1) ++
      'e' :: Binary64.renderExponent (point - 1)) (valueOfDigits digits)
        (point - digits.length) := by
  obtain ⟨negative, written, hs, hv⟩ := splitExponent_renderExponent (point - 1)
  have hpos := List.length_pos_iff.mpr hne
  by_cases hl : digits.length ≤ 1
  · rw [if_pos hl, List.append_nil, List.take_of_length_le hl]
    refine ⟨_, split?_whole hd hne ?_ hs, hne, rfl, fun sign => ?_⟩
    · intro c hc
      cases hc
      decide
    · rw [toBinary64, scale]
      simp only [List.append_nil, hv, List.length_nil]
      congr 1
      omega
  · have hw : ∀ c ∈ digits.take 1, c.isDigit = true := fun c hc => hd c (List.mem_of_mem_take hc)
    have hf : ∀ c ∈ digits.drop 1, c.isDigit = true := fun c hc => hd c (List.mem_of_mem_drop hc)
    have ht : digits.take 1 ≠ [] := by
      apply List.ne_nil_of_length_pos
      rw [List.length_take]
      omega
    rw [if_neg hl, List.append_assoc, List.cons_append]
    refine ⟨_, split?_point hw ht hf ?_ hs, ht, rfl, fun sign => ?_⟩
    · intro c hc
      cases hc
      decide
    · rw [toBinary64, scale]
      simp only [List.take_append_drop, hv, List.length_drop]
      congr 1
      omega

/-- A decimal is read back from what is written for it. -/
theorem spells_renderDecimal (hd : ∀ c ∈ digits, c.isDigit = true) (hne : digits ≠ []) :
    Spells (Binary64.renderDecimal digits point) (valueOfDigits digits)
      (point - digits.length) := by
  unfold Binary64.renderDecimal
  split
  · split
    · rename_i hp
      exact spells_small hd hp
    · split
      · rename_i hp
        exact spells_large hd hne hp
      · exact spells_between hd (by omega) (by omega)
  · exact spells_exponent hd hne

end Layout

end Numeral

end Destructure
