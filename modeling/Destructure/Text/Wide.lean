import Destructure.Text.Quoted

namespace Destructure

inductive CodePoint
  | character (c : Char)
  | surrogate (n : Fin 2048)
  deriving DecidableEq

abbrev WideText := List CodePoint

namespace CodePoint

def character? : CodePoint → Option Char
  | .character c => some c
  | .surrogate _ => none

def quoted (quote : Char) : CodePoint → List Char
  | .character c => Text.quotedChar quote c
  | .surrogate n => Text.numberEscape (0xD800 + n)

end CodePoint

structure Unencodable where
  first : Fin 2048
  position : Nat
  length : Nat
  deriving DecidableEq

def Unencodable.text (u : Unencodable) : String :=
  let characters :=
    if u.length = 1 then
      " '\\u" ++ String.ofList (Text.hexDigits 4 (0xD800 + u.first)) ++ "' in position " ++
        toString u.position
    else
      "s in position " ++ toString u.position ++ "-" ++ toString (u.position + u.length - 1)
  "'utf-8' codec can't encode character" ++ characters ++ ": surrogates not allowed"

namespace WideText

def ofString (s : String) : WideText :=
  s.toList.map .character

instance : Coe String WideText :=
  ⟨ofString⟩

def charactersFrom (position : Nat) : WideText → Except Unencodable (List Char)
  | [] => .ok []
  | .character c :: rest => do return c :: (← charactersFrom (position + 1) rest)
  | .surrogate n :: rest =>
    .error ⟨n, position, 1 + (rest.takeWhile fun point => point.character?.isNone).length⟩

def encode (t : WideText) : Except Unencodable String :=
  (charactersFrom 0 t).map String.ofList

def render (t : WideText) : List Char :=
  let q := Text.quoteFor (t.filterMap CodePoint.character?)
  q :: t.flatMap (CodePoint.quoted q) ++ [q]

def shown (t : WideText) : String :=
  String.ofList (t.map fun point => point.character?.getD '\uFFFD')

theorem charactersFrom_map (position : Nat) (characters : List Char) :
    charactersFrom position (characters.map .character) = .ok characters := by
  induction characters generalizing position with
  | nil => rfl
  | cons c rest ih =>
    rw [List.map_cons, charactersFrom, ih]
    rfl

theorem eq_map_of_charactersFrom {position : Nat} {t : WideText} {characters : List Char}
    (h : charactersFrom position t = .ok characters) : t = characters.map .character := by
  induction t generalizing position characters with
  | nil =>
    cases h
    rfl
  | cons point rest ih =>
    cases point with
    | surrogate n => cases h
    | character c =>
      rw [charactersFrom] at h
      cases hr : charactersFrom (position + 1) rest with
      | error surrogates =>
        rw [hr] at h
        cases h
      | ok found =>
        rw [hr] at h
        cases h
        rw [List.map_cons, ← ih hr]

@[simp] theorem encode_ofString (s : String) : encode s = .ok s := by
  rw [encode, ofString, charactersFrom_map]
  exact congrArg Except.ok String.ofList_toList

/-- The texts that can be encoded are those without surrogates. -/
theorem encode_eq_ok_iff {t : WideText} {s : String} : t.encode = .ok s ↔ t = s := by
  constructor
  · intro h
    rw [encode] at h
    cases hc : charactersFrom 0 t with
    | error surrogates =>
      rw [hc] at h
      cases h
    | ok characters =>
      rw [hc] at h
      cases h
      rw [ofString, String.toList_ofList, eq_map_of_charactersFrom hc]
  · rintro rfl
    exact encode_ofString s

theorem charactersFrom_eq_error_iff {position : Nat} {t : WideText} {surrogates : Unencodable} :
    charactersFrom position t = .error surrogates ↔
      ∃ (front : List Char) (n : Fin 2048) (rest : WideText),
        t = front.map .character ++ .surrogate n :: rest ∧
        surrogates = ⟨n, position + front.length,
          1 + (rest.takeWhile fun point => point.character?.isNone).length⟩ := by
  induction t generalizing position with
  | nil => simp [charactersFrom]
  | cons point rest ih =>
    cases point with
    | surrogate n =>
      constructor
      · intro h
        cases h
        exact ⟨[], n, rest, rfl, rfl⟩
      · rintro ⟨front, m, more, h, rfl⟩
        cases front with
        | nil =>
          cases h
          rfl
        | cons c front => cases h
    | character c =>
      have hstep : charactersFrom position (.character c :: rest) = .error surrogates ↔
          charactersFrom (position + 1) rest = .error surrogates := by
        rw [charactersFrom]
        cases charactersFrom (position + 1) rest <;> simp [bind, Except.bind, pure, Except.pure]
      have hplace (front : List Char) :
          position + 1 + front.length = position + (c :: front).length := by
        rw [List.length_cons, Nat.add_assoc, Nat.add_comm 1]
      rw [hstep, ih]
      constructor
      · rintro ⟨front, n, more, rfl, rfl⟩
        refine ⟨c :: front, n, more, rfl, ?_⟩
        rw [hplace]
      · rintro ⟨front, n, more, h, rfl⟩
        cases front with
        | nil => cases h
        | cons d front =>
          cases h
          refine ⟨front, n, more, rfl, ?_⟩
          rw [hplace]

/-- A text that cannot be encoded is refused for the first surrogate in it. -/
theorem encode_eq_error_iff {t : WideText} {surrogates : Unencodable} :
    t.encode = .error surrogates ↔
      ∃ (front : List Char) (n : Fin 2048) (rest : WideText),
        t = front.map .character ++ .surrogate n :: rest ∧
        surrogates = ⟨n, front.length,
          1 + (rest.takeWhile fun point => point.character?.isNone).length⟩ := by
  have hfrom : t.encode = .error surrogates ↔ charactersFrom 0 t = .error surrogates := by
    rw [encode]
    cases charactersFrom 0 t <;> simp [Except.map]
  rw [hfrom, charactersFrom_eq_error_iff]
  simp only [Nat.zero_add]

theorem exists_encode_eq_error {t : WideText} {n : Fin 2048} (h : .surrogate n ∈ t) :
    ∃ surrogates, t.encode = .error surrogates := by
  cases he : t.encode with
  | error surrogates => exact ⟨surrogates, rfl⟩
  | ok s =>
    rw [encode_eq_ok_iff.mp he] at h
    obtain ⟨c, -, hc⟩ := List.mem_map.mp h
    cases hc

theorem ofString_append (s t : String) : ofString (s ++ t) = ofString s ++ ofString t := by
  rw [ofString, String.toList_append, List.map_append]
  rfl

end WideText

end Destructure
