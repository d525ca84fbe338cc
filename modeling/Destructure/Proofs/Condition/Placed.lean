import Destructure.Proofs.Condition.Slice
import Destructure.Proofs.Condition.Step

namespace Destructure

open Run (Meets meets_foldlM)

namespace Condition

/-- The name that a token stands for is spelled out at the position of the token. -/
theorem Token.StandsIn.standsAt_name {token : Token} {text : List Char} {name : String}
    (h : token.StandsIn text) (hname : token.lexeme = .name name) :
    StandsAt text name.toList token.position := by
  obtain ⟨p, hp, hpos, hle, hwritten⟩ := h
  rw [hname] at hwritten
  refine ⟨p, hp, by omega, ?_⟩
  rw [← show _ = name.toList from hwritten]
  exact List.take_prefix _ _

def Frame.IsPlaced (text : List Char) : Frame → Prop
  | .parenthesis position => IsPlace text position
  | _ => True

namespace Reading

def IsPlaced (text : List Char) (r : Reading) : Prop :=
  ∀ frame ∈ r.frames, frame.IsPlaced text

variable {text : List Char} {source : Source} {frames : List Frame} {r next : Reading} {t : Token}
  {error : PatternError}

theorem isPlaced_complete (hf : ∀ frame ∈ frames, frame.IsPlaced text) (e : Expression) :
    (complete frames e).IsPlaced text := by
  fun_induction complete frames e with
  | case1 frames e ih => exact ih (List.forall_mem_cons.mp hf).2
  | case2 frames e ih => exact ih (List.forall_mem_cons.mp hf).2
  | case3 frames e => exact hf

theorem isPlaced_reduce (precedence : Nat) (hf : ∀ frame ∈ frames, frame.IsPlaced text)
    (e : Expression) : ∀ frame ∈ (reduce precedence frames e).1, frame.IsPlaced text := by
  fun_induction reduce precedence frames e with
  | case1 operator left frames e h ih => exact ih (List.forall_mem_cons.mp hf).2
  | case2 operator left frames e h => exact hf
  | case3 frames e => exact hf

theorem isPlace_openParenthesis? {position : Int} (hf : ∀ frame ∈ frames, frame.IsPlaced text)
    (h : openParenthesis? frames = some position) : IsPlace text position := by
  induction frames with
  | nil => cases h
  | cons frame rest ih =>
    obtain ⟨hframe, hrest⟩ := List.forall_mem_cons.mp hf
    cases frame with
    | parenthesis place =>
      cases h
      exact hframe
    | _ => exact ih hrest h

/-- A state that a token leads to keeps places of the text, if the state before does. -/
theorem Advances.isPlaced (h : Advances source t r next) (ht : IsPlace text t.position)
    (hf : r.IsPlaced text) : next.IsPlaced text := by
  cases h with
  | openParen _ => exact List.forall_mem_cons.mpr ⟨ht, hf⟩
  | negation _ | minus _ => exact List.forall_mem_cons.mpr ⟨trivial, hf⟩
  | constant _ | name _ _ => exact isPlaced_complete hf _
  | @operator _ _ e _ op _ hr =>
    have hreduced := isPlaced_reduce op.precedence hf e
    rw [hr] at hreduced
    exact List.forall_mem_cons.mpr ⟨trivial, hreduced⟩
  | @closeParen _ _ e inner _ _ hr =>
    have hreduced := isPlaced_reduce 0 hf e
    rw [hr] at hreduced
    exact isPlaced_complete (List.forall_mem_cons.mp hreduced).2 inner

theorem Refuses.pointsInto (h : Refuses source t r error) (ht : t.StandsIn text)
    (hr : r.IsPlaced text) : error.PointsInto text := by
  cases h with
  | unknownVariable hname => exact PatternError.pointsInto_of_standsAt rfl (ht.standsAt_name hname)
  | unexpected | afterCondition _ =>
    exact PatternError.pointsInto_of_standsAt rfl ht.isPlace.standsAt
  | unterminated ho =>
    exact PatternError.pointsInto_of_standsAt rfl (isPlace_openParenthesis? hr ho).standsAt

theorem BreaksOff.pointsInto (h : BreaksOff source r error) (hr : r.IsPlaced text) :
    error.PointsInto text := by
  cases h with
  | operand => exact PatternError.pointsInto_of_none rfl
  | unterminated ho =>
    exact PatternError.pointsInto_of_standsAt rfl (isPlace_openParenthesis? hr ho).standsAt

end Reading

/-- Tokens that are no condition are reported at a place of the text. -/
theorem meets_parse {text : List Char} {source : Source} {tokens : List Token}
    (ht : ∀ t ∈ tokens, t.StandsIn text) :
    Meets (fun _ => True) (Failure.PointsInto text) (parse source tokens) := by
  unfold parse
  split
  · exact meets_unplaced rfl
  · have hstart : Reading.start.IsPlaced text := fun frame hm => nomatch hm
    have hstep (r : Reading) (t : Token) (hr : r.IsPlaced text) (ht : t.StandsIn text) :
        Meets (Reading.IsPlaced text) (Failure.PointsInto text) (Reading.step source r t) := by
      refine Reading.meets_step.imp (fun next h => h.isPlaced ht.isPlace hr) ?_
      rintro failure ⟨error, rfl, h⟩ _ ⟨⟩
      exact h.pointsInto ht hr
    refine (meets_foldlM hstep ht hstart).bind fun r hr => ?_
    refine Reading.meets_finish.imp (fun e _ => trivial) ?_
    rintro failure ⟨error, rfl, h⟩ _ ⟨⟩
    exact h.pointsInto hr

end Condition

end Destructure
