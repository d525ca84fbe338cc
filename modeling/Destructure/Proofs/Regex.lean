import Destructure.Regex

namespace Destructure.Regex

variable {plans : List Plan} {next : Continuation} {c d found : Cursor}

namespace Cursor

def text (c : Cursor) : List Char :=
  c.before.reverse ++ c.after

theorem text_forward (c : Cursor) : c.forward.text = c.text := by
  obtain ⟨index, before, after, begins, ends⟩ := c
  cases after with
  | nil => rfl
  | cons x rest =>
    change (x :: before).reverse ++ rest = before.reverse ++ x :: rest
    rw [List.reverse_cons, List.append_assoc, List.singleton_append]

/-- What a group has captured stands in the text. -/
theorem isInfix_of_captured? {group : Nat} {captured : List Char}
    (h : c.captured? group = some captured) : captured <:+: c.text := by
  unfold captured? at h
  split at h
  · split at h
    · cases h
      exact (List.drop_suffix _ _).isInfix.trans (List.take_prefix _ _).isInfix
    · cases h
  · cases h

end Cursor

theorem text_of_followCaptured {same : Nat → Nat → Bool} {captured : List Char}
    (h : followCaptured same captured c = some d) : d.text = c.text := by
  induction captured generalizing c with
  | nil =>
    cases h
    rfl
  | cons x rest ih =>
    unfold followCaptured at h
    split at h
    · split at h
      · rw [ih h, Cursor.text_forward]
      · cases h
    · cases h

def Proceeds (run : Continuation → Continuation) : Prop :=
  ∀ next c found, run next c = some found → ∃ d, d.text = c.text ∧ next d = some found

section Repetition

variable {body : Continuation → Continuation} {least bound count : Nat} {most last : Option Nat}

theorem exists_of_repeatGreedy (hbody : Proceeds body)
    (h : repeatGreedy body least most next bound count last c = some found) :
    ∃ d, d.text = c.text ∧ next d = some found := by
  induction bound generalizing count last c with
  | zero => cases h
  | succ bound ih =>
    have hagain {count : Nat} {last : Option Nat}
        (h : body (repeatGreedy body least most next bound count last) c = some found) :
        ∃ d, d.text = c.text ∧ next d = some found := by
      obtain ⟨d, hd, hrest⟩ := hbody _ _ _ h
      rw [← hd]
      exact ih hrest
    unfold repeatGreedy at h
    split at h
    · exact hagain h
    · split at h
      · split at h
        · cases h
          exact hagain ‹_›
        · exact ⟨c, rfl, h⟩
      · exact ⟨c, rfl, h⟩

theorem exists_of_repeatLazily (hbody : Proceeds body)
    (h : repeatLazily body least most next bound count last c = some found) :
    ∃ d, d.text = c.text ∧ next d = some found := by
  induction bound generalizing count last c with
  | zero => cases h
  | succ bound ih =>
    have hagain {count : Nat} {last : Option Nat}
        (h : body (repeatLazily body least most next bound count last) c = some found) :
        ∃ d, d.text = c.text ∧ next d = some found := by
      obtain ⟨d, hd, hrest⟩ := hbody _ _ _ h
      rw [← hd]
      exact ih hrest
    unfold repeatLazily at h
    split at h
    · exact hagain h
    · split at h
      · cases h
        exact ⟨c, rfl, ‹_›⟩
      · split at h
        · exact hagain h
        · cases h

theorem text_of_repeatForGood (hbody : Proceeds body)
    (h : repeatForGood body least most bound count last c = some found) : found.text = c.text := by
  induction bound generalizing count last c with
  | zero => cases h
  | succ bound ih =>
    have honce {d : Cursor} (h : body some c = some d) : d.text = c.text := by
      obtain ⟨_, hd, hsome⟩ := hbody _ _ _ h
      rw [← hd, Option.some.inj hsome]
    unfold repeatForGood at h
    split at h
    · split at h
      · rw [ih h, honce ‹_›]
      · cases h
    · split at h
      · split at h
        · rw [ih h, honce ‹_›]
        · cases h
          rfl
      · cases h
        rfl

end Repetition

mutual

theorem proceeds_run (plan : Plan) : Proceeds plan.run := by
  intro next c found h
  match plan with
  | .char test =>
    unfold Plan.run at h
    split at h
    · split at h
      · exact ⟨c.forward, c.text_forward, h⟩
      · cases h
    · cases h
  | .place test =>
    unfold Plan.run at h
    split at h
    · exact ⟨c, rfl, h⟩
    · cases h
  | .choice alternatives => exact proceeds_runAny alternatives next c found h
  | .capture group body =>
    obtain ⟨d, hd, hnext⟩ := proceeds_runAll body _ _ _ h
    exact ⟨d.endGroup group, hd, hnext⟩
  | .loop .greedy least most body => exact exists_of_repeatGreedy (proceeds_runAll body) h
  | .loop .lazy least most body => exact exists_of_repeatLazily (proceeds_runAll body) h
  | .loop .possessive least most body =>
    unfold Plan.run at h
    split at h
    · exact ⟨_, text_of_repeatForGood (proceeds_runAll body) ‹_›, h⟩
    · cases h
  | .look back negated body =>
    unfold Plan.run at h
    split at h
    · split at h
      · cases h
      · refine ⟨_, ?_, h⟩
        rfl
    · split at h
      · exact ⟨c, rfl, h⟩
      · cases h
  | .reference group same =>
    unfold Plan.run at h
    split at h
    · obtain ⟨captured, -, hfollows⟩ := Option.bind_eq_some_iff.mp ‹_›
      exact ⟨_, text_of_followCaptured hfollows, h⟩
    · cases h
  | .conditional group yes no =>
    unfold Plan.run at h
    split at h
    · exact proceeds_runAll yes next c found h
    · exact proceeds_runAll no next c found h
  | .atomic body =>
    unfold Plan.run at h
    split at h
    · obtain ⟨d, hd, hsome⟩ := proceeds_runAll body _ _ _ ‹_›
      rw [← Option.some.inj hsome] at h
      exact ⟨d, hd, h⟩
    · cases h

theorem proceeds_runAll (plans : List Plan) : Proceeds (runAll plans) := by
  intro next c found h
  match plans with
  | [] => exact ⟨c, rfl, h⟩
  | plan :: rest =>
    obtain ⟨d, hd, hrest⟩ := proceeds_run plan _ _ _ h
    obtain ⟨e, he, hnext⟩ := proceeds_runAll rest _ _ _ hrest
    exact ⟨e, he.trans hd, hnext⟩

theorem proceeds_runAny (alternatives : List (List Plan)) : Proceeds (runAny alternatives) := by
  intro next c found h
  match alternatives with
  | [] => cases h
  | body :: rest =>
    unfold runAny at h
    split at h
    · cases h
      exact proceeds_runAll body next c _ ‹_›
    · exact proceeds_runAny rest next c found h

end

/-- A match of a whole text ends behind the last character of it. -/
theorem text_of_runWhole {text : List Char} (h : runWhole plans text = some c) :
    c.after = [] ∧ c.text = text := by
  obtain ⟨d, hd, hend⟩ := proceeds_runAll plans _ _ _ h
  split at hend
  · cases hend
    exact ⟨‹_›, hd⟩
  · cases hend

variable {r : Regex} {text : String} {parts : List String}

theorem fullMatch?_eq_some_iff :
    r.fullMatch? text = some parts ↔
      ∃ c, runWhole r.plan text.toList = some c ∧
        parts = text :: (List.range r.groupCount).map fun i =>
          String.ofList ((c.captured? (i + 1)).getD []) := by
  rw [fullMatch?, Option.map_eq_some_iff]
  exact exists_congr fun c => and_congr_right fun _ => eq_comm

/-- A match tells the whole text and then a part of it for each group. -/
theorem isInfix_of_fullMatch? (h : r.fullMatch? text = some parts) :
    parts.head? = some text ∧ parts.length = r.groupCount + 1 ∧
      ∀ part ∈ parts, part.toList <:+: text.toList := by
  obtain ⟨c, hc, rfl⟩ := fullMatch?_eq_some_iff.mp h
  refine ⟨rfl, by simp, List.forall_mem_cons.mpr ⟨List.infix_refl _, ?_⟩⟩
  intro part hm
  obtain ⟨i, -, rfl⟩ := List.mem_map.mp hm
  rw [String.toList_ofList, ← (text_of_runWhole hc).2]
  cases hcaptured : c.captured? (i + 1) with
  | none => exact List.nil_infix
  | some captured => exact Cursor.isInfix_of_captured? hcaptured

end Destructure.Regex
