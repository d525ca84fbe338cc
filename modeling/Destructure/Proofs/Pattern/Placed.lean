import Destructure.Proofs.Pattern.Step
import Destructure.Proofs.Place

namespace Destructure

open Run (Meets meets_foldlM)

namespace Reading

def Frame.IsPlaced (text : List Char) : Frame → Prop
  | .sequence start _ _ => IsPlace text start
  | .mapping start _ pending => IsPlace text start ∧ ∀ key ∈ pending, IsPlace text key.2

def Expecting.IsPlaced (text : List Char) : Expecting → Prop
  | .element comma => ∀ position ∈ comma, IsPlace text position
  | .tailName bar => IsPlace text bar
  | _ => True

structure IsPlaced (text : List Char) (r : Reading) : Prop where
  frames : ∀ frame ∈ r.frames, frame.IsPlaced text
  expecting : r.expecting.IsPlaced text

variable {text : List Char} {source : Source} {frames : List Frame} {r next : Reading} {t : Token}
  {error : PatternError} {failure : Failure}

def Source.Shows (source : Source) (text : List Char) : Prop :=
  ∀ number l, source.literal? number = some l → StandsAt text l.raw l.position

theorem Frame.IsPlaced.start {frame : Frame} (h : frame.IsPlaced text) :
    IsPlace text frame.start := by
  cases frame with
  | sequence start captured elements => exact h
  | mapping start entries pending => exact h.1

theorem isPlaced_complete (hf : ∀ frame ∈ frames, frame.IsPlaced text) (p : Pattern) :
    (complete frames p).IsPlaced text := by
  unfold complete
  split
  · exact ⟨fun frame hm => (nomatch hm), trivial⟩
  · obtain ⟨hfirst, hrest⟩ := List.forall_mem_cons.mp hf
    exact ⟨List.forall_mem_cons.mpr ⟨hfirst, hrest⟩, trivial⟩
  · obtain ⟨⟨hstart, -⟩, hrest⟩ := List.forall_mem_cons.mp hf
    exact ⟨List.forall_mem_cons.mpr ⟨⟨hstart, fun key hkey => nomatch hkey⟩, hrest⟩, trivial⟩
  · exact ⟨hf, trivial⟩

theorem isPlaced_close (frame : Frame) (hf : ∀ frame ∈ frames, frame.IsPlaced text) :
    (close frame frames).IsPlaced text := by
  unfold close
  split
  all_goals exact isPlaced_complete hf _

theorem isPlace_pendingKey (hf : ∀ frame ∈ frames, frame.IsPlaced text) (hzero : IsPlace text 0) :
    IsPlace text (pendingKey frames).2 := by
  unfold pendingKey
  split
  · exact (hf _ List.mem_cons_self).2 _ rfl
  · exact hzero

theorem IsPlaced.resolved (hr : r.IsPlaced text) : r.resolved.IsPlaced text := by
  unfold Reading.resolved
  split
  · exact isPlaced_complete hr.frames _
  · exact hr

section Taken

variable (ht : IsPlace text t.position)

include ht

theorem isPlaced_openSequence (hf : ∀ frame ∈ frames, frame.IsPlaced text)
    (captured : Option Regex) : (openSequence frames captured t.position).IsPlaced text :=
  ⟨List.forall_mem_cons.mpr ⟨ht, hf⟩, fun _ h => nomatch h⟩

theorem Begins.isPlaced (h : Begins source frames t next)
    (hf : ∀ frame ∈ frames, frame.IsPlaced text) : next.IsPlaced text := by
  cases h with
  | sequence _ => exact isPlaced_openSequence ht hf none
  | mapping _ => exact ⟨List.forall_mem_cons.mpr ⟨⟨ht, fun key h => nomatch h⟩, hf⟩, trivial⟩
  | name _ | text _ | number _ => exact isPlaced_complete hf _
  | regex _ _ => exact ⟨hf, trivial⟩

theorem Advances.isPlaced (h : Advances source t r next) (hr : r.IsPlaced text) :
    next.IsPlaced text := by
  obtain ⟨hf, -⟩ := hr
  cases h with
  | begins _ h => exact h.isPlaced ht hf
  | comma _ =>
    refine ⟨hf, ?_⟩
    rintro _ ⟨⟩
    exact ht
  | bar _ _ => exact ⟨hf, ht⟩
  | tail _ => exact ⟨(isPlaced_complete hf _).frames, trivial⟩
  | closes _ _ => exact isPlaced_close _ (List.forall_mem_cons.mp hf).2
  | key _ _ =>
    obtain ⟨⟨hstart, -⟩, hrest⟩ := List.forall_mem_cons.mp hf
    refine ⟨List.forall_mem_cons.mpr ⟨⟨hstart, ?_⟩, hrest⟩, trivial⟩
    rintro _ ⟨⟩
    exact ht
  | captures | looseKey _ _ | equals _ | entryComma _ => exact ⟨hf, trivial⟩

theorem Steps.isPlaced (h : Steps source t r next) (hr : r.IsPlaced text) : next.IsPlaced text := by
  cases h with
  | captures _ _ => exact isPlaced_openSequence ht hr.frames _
  | advances _ h => exact h.isPlaced ht hr.resolved

end Taken

theorem Blames.pointsInto (h : Blames source t r error) (hr : r.IsPlaced text)
    (ht : StandsAt text (source.shown t).toList t.position) : error.PointsInto text := by
  cases h with
  | unexpected _ | missingComma | tailNotLast | invalidKey | missingEntryComma | afterPattern =>
    exact PatternError.pointsInto_of_standsAt rfl ht
  | trailingComma _ => exact PatternError.pointsInto_of_standsAt rfl (hr.expecting _ rfl).standsAt
  | tailWithoutName => exact PatternError.pointsInto_of_standsAt rfl (IsPlace.standsAt hr.expecting)
  | repeatedKey => exact PatternError.pointsInto_of_standsAt rfl ht.isPlace.standsAt
  | missingEquals =>
    have hkey := isPlace_pendingKey hr.frames ht.isPlace.zero
    exact PatternError.pointsInto_of_standsAt rfl hkey.standsAt

theorem Refuses.pointsInto (h : Refuses source t r failure) (hsource : source.Shows text)
    (hr : r.IsPlaced text) (ht : StandsAt text (source.shown t).toList t.position) :
    failure.PointsInto text := by
  rintro error rfl
  cases h with
  | malformed hl =>
    refine PatternError.pointsInto_of_standsAt rfl ?_
    rw [PatternError.named, String.toList_ofList]
    exact hsource _ _ hl
  | passed _ _ hp => exact absurd hp (Regex.Problem.passed_ne_invalid _ _)
  | blames h => exact h.pointsInto hr ht

theorem BreaksOff.pointsInto (h : BreaksOff source r error) (hr : r.IsPlaced text)
    (hzero : IsPlace text 0) : error.PointsInto text := by
  cases h with
  | empty | pattern => exact PatternError.pointsInto_of_none rfl
  | tailWithoutName => exact PatternError.pointsInto_of_standsAt rfl (IsPlace.standsAt hr.expecting)
  | missingEquals =>
    exact PatternError.pointsInto_of_standsAt rfl (isPlace_pendingKey hr.frames hzero).standsAt
  | @unterminated frames _ _ =>
    refine PatternError.pointsInto_of_standsAt rfl (IsPlace.standsAt ?_)
    cases frames with
    | nil => exact hzero
    | cons frame rest => exact (hr.frames frame List.mem_cons_self).start

/-- Tokens that are no pattern are reported at a place of the text. -/
theorem meets_ofTokens {tokens : List Token} (hsource : source.Shows text)
    (ht : ∀ t ∈ tokens, StandsAt text (source.shown t).toList t.position) :
    Meets (fun _ => True) (Failure.PointsInto text) (Pattern.ofTokens source tokens) := by
  unfold Pattern.ofTokens
  cases tokens with
  | nil => exact meets_unplaced rfl
  | cons t rest =>
    have hzero := (ht t List.mem_cons_self).isPlace.zero
    have hstart : start.IsPlaced text := ⟨fun frame hm => (nomatch hm), trivial⟩
    have hstep (r : Reading) (t : Token) (hr : r.IsPlaced text)
        (ht : StandsAt text (source.shown t).toList t.position) :
        Meets (IsPlaced text) (Failure.PointsInto text) (step source r t) :=
      meets_step.imp (fun next h => h.isPlaced ht.isPlace hr)
        fun failure h => h.pointsInto hsource hr.resolved ht
    refine (meets_foldlM hstep ht hstart).bind fun r hr => ?_
    refine meets_finish.imp (fun p _ => trivial) ?_
    rintro failure ⟨error, rfl, h⟩ _ ⟨⟩
    exact h.pointsInto hr.resolved hzero

end Reading

end Destructure
