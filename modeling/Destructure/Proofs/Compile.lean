import Destructure.Engine
import Destructure.Proofs.Cache.Request
import Destructure.Proofs.Condition.Names
import Destructure.Proofs.Pattern.Read
import Destructure.Proofs.Token

namespace Destructure

/-- The stages that a pattern text with a condition has passed when it has been read. -/
theorem readPattern_eq_ok {text : String} {tree : Pattern} {condition : Option Condition}
    (h : readPattern text = .ok (tree, condition)) :
    ∃ template tokens, Template.ofText text.toList = .ok template ∧
      Token.scan template.patternCells = .ok tokens ∧
      Pattern.ofTokens ⟨template.literal?, text⟩ tokens = .ok tree ∧
      match template.conditionPosition with
      | none => condition = none
      | some position =>
        (Condition.ofText tree.variableNames (text.toList.drop (position + whenLength))
          ((position + whenLength : Nat) : Int)).map some = .ok condition := by
  unfold readPattern at h
  obtain ⟨template, ht, h⟩ := Run.bind_eq_ok.mp h
  obtain ⟨tokens, hs, h⟩ := Run.bind_eq_ok.mp h
  obtain ⟨tree', hp, h⟩ := Run.bind_eq_ok.mp h
  cases hc : template.conditionPosition with
  | none =>
    rw [hc] at h
    cases h
    exact ⟨template, tokens, ht, hs, hp, by rw [hc]⟩
  | some position =>
    rw [hc] at h
    obtain ⟨c, hread, h⟩ := Run.bind_eq_ok.mp h
    cases h
    refine ⟨template, tokens, ht, hs, hp, ?_⟩
    rw [hc]
    exact Run.map_eq_ok.mpr ⟨c, hread, rfl⟩

/-- Reading a pattern text whose pattern can be read. -/
theorem readPattern_of_ok {text : String} {t : Template} {tokens : List Token} {tree : Pattern}
    (ht : Template.ofText text.toList = .ok t)
    (hs : Token.scan t.patternCells = .ok tokens)
    (hp : Pattern.ofTokens ⟨t.literal?, text⟩ tokens = .ok tree) :
    readPattern text =
      match t.conditionPosition with
      | none => .ok (tree, none)
      | some position =>
        (Condition.ofText tree.variableNames (text.toList.drop (position + whenLength))
          ((position + whenLength : Nat) : Int)).map fun condition => (tree, some condition) := by
  unfold readPattern
  rw [ht]
  change (Token.scan t.patternCells >>= _) = _
  rw [hs]
  change (Pattern.ofTokens ⟨t.literal?, text⟩ tokens >>= _) = _
  rw [hp]
  cases t.conditionPosition with
  | none => rfl
  | some position => rfl

/-- What is read when every stage passes. -/
theorem readPattern_of_stages {text : String} {t : Template} {tokens : List Token} {tree : Pattern}
    {condition : Option Condition} (ht : Template.ofText text.toList = .ok t)
    (hs : Token.scan t.patternCells = .ok tokens)
    (hp : Pattern.ofTokens ⟨t.literal?, text⟩ tokens = .ok tree)
    (hc : match t.conditionPosition with
      | none => condition = none
      | some position =>
        (Condition.ofText tree.variableNames (text.toList.drop (position + whenLength))
          ((position + whenLength : Nat) : Int)).map some = .ok condition) :
    readPattern text = .ok (tree, condition) := by
  rw [readPattern_of_ok ht hs hp]
  cases hposition : t.conditionPosition with
  | none =>
    rw [hposition] at hc
    rw [hc]
  | some position =>
    rw [hposition] at hc
    obtain ⟨c, hread, rfl⟩ := Run.map_eq_ok.mp hc
    exact Run.map_eq_ok.mpr ⟨c, hread, rfl⟩

theorem compile_of_encode {text : WideText} {surrogates : Unencodable}
    (h : text.encode = .error surrogates) : compile text = .error (.unencodable surrogates) := by
  unfold compile
  rw [h]
  rfl

theorem compile_ofString (text : String) :
    compile text = (readPattern text).map fun read =>
      ⟨text, Text.Digest.ofString text, read.1, read.2⟩ := by
  unfold compile
  rw [WideText.encode_ofString]
  change readPattern text >>= _ = _
  cases readPattern text <;> rfl

theorem compile_eq_error_iff {text : String} {failure : Failure} :
    compile text = .error failure ↔ readPattern text = .error failure := by
  rw [compile_ofString]
  cases readPattern text <;> simp [Except.map]

theorem compile_eq_ok_iff {text : String} {compiled : Compiled} :
    compile text = .ok compiled ↔
      readPattern text = .ok (compiled.tree, compiled.condition) ∧
        compiled.text = text ∧ compiled.fingerprint = Text.Digest.ofString text := by
  rw [compile_ofString, Run.map_eq_ok]
  constructor
  · rintro ⟨⟨tree, condition⟩, hr, rfl⟩
    exact ⟨hr, rfl, rfl⟩
  · rintro ⟨hr, rfl, hf⟩
    refine ⟨_, hr, ?_⟩
    rw [← hf]

/-- A text that compiles can be encoded, and its entry has it. -/
theorem eq_text_of_compile {text : WideText} {compiled : Compiled}
    (h : compile text = .ok compiled) : text = compiled.text := by
  cases he : text.encode with
  | error surrogates => cases (compile_of_encode he).symm.trans h
  | ok written =>
    obtain rfl := WideText.encode_eq_ok_iff.mp he
    rw [(compile_eq_ok_iff.mp h).2.1]

/-- An entry has the fingerprint of its text. -/
theorem fingerprint_of_compile {text : WideText} {compiled : Compiled}
    (h : compile text = .ok compiled) : fingerprint text = .ok compiled.fingerprint := by
  have hwritten := eq_text_of_compile h
  rw [hwritten] at h
  rw [hwritten, fingerprint_ofString, (compile_eq_ok_iff.mp h).2.2]

theorem compile_of_readPattern {text : String} {tree : Pattern} {condition : Option Condition}
    (h : readPattern text = .ok (tree, condition)) :
    compile text = .ok ⟨text, Text.Digest.ofString text, tree, condition⟩ :=
  compile_eq_ok_iff.mpr ⟨h, rfl, rfl⟩

theorem Template.mem_of_literal?_eq_some {t : Template} {number : Nat} {l : Literal}
    (h : t.literal? number = some l) : l ∈ t.literals := by
  unfold literal? at h
  split at h
  · cases h
  · exact List.mem_of_getElem? h

/-- The pattern of a text has been read from the literals of its template. -/
theorem isRead_readPattern {P : Payload → Prop} {text : String} {tree : Pattern}
    {condition : Option Condition} (h : readPattern text = .ok (tree, condition))
    (hp : ∀ template, Template.ofText text.toList = .ok template →
      ∀ l ∈ template.literals, P l.payload) : tree.IsRead P := by
  obtain ⟨template, tokens, ht, hs, hr, -⟩ := readPattern_eq_ok h
  refine Pattern.isRead_ofTokens (fun number l hl => ?_) (fun t hm name hn => ?_) hr
  · exact hp template ht l (Template.mem_of_literal?_eq_some hl)
  · exact Token.isName_of_scanFrom hs hm hn

/-- A condition mentions only variables of its pattern. -/
theorem names_of_compile {text : WideText} {compiled : Compiled} {condition : Condition}
    (h : compile text = .ok compiled) (hc : compiled.condition = some condition) {name : String}
    (hm : name ∈ condition.expression.names) : name ∈ compiled.tree.variableNames := by
  rw [eq_text_of_compile h] at h
  obtain ⟨template, tokens, -, -, -, h⟩ := readPattern_eq_ok (compile_eq_ok_iff.mp h).1
  rw [hc] at h
  cases hp : template.conditionPosition with
  | none =>
    rw [hp] at h
    cases h
  | some position =>
    rw [hp] at h
    obtain ⟨c, hread, hs⟩ := Run.map_eq_ok.mp h
    cases hs
    unfold Condition.ofText at hread
    obtain ⟨read, -, hread⟩ := Run.bind_eq_ok.mp hread
    obtain ⟨e, hparse, hread⟩ := Run.bind_eq_ok.mp hread
    cases hread
    exact Condition.names_parse hparse hm

inductive Engine.Reached : Engine → Prop
  | new (policy : Policy) : Reached (.new policy)
  | request {e : Engine} (text : WideText) (h : Reached e) : Reached (e.request text).2
  | setPolicy {e : Engine} (policy : Policy) (h : Reached e) : Reached (e.setPolicy policy)

namespace Cache

variable {α : Type}

/-- A request is answered by an entry or by what has been made for it. -/
theorem request_eq_ok {c : Cache α} {key : String} {made : Except Failure α} {entry : α}
    (h : (c.request key made).1 = .ok entry) :
    (key, entry) ∈ c.entries ∨ made = .ok entry := by
  rw [fst_request] at h
  split at h
  · rename_i found hf
    cases h
    exact Or.inl (mem_of_find? hf)
  · exact Or.inr h

theorem mem_entries_request {c : Cache α} {key : String} {made : Except Failure α}
    {entry : String × α} (h : entry ∈ (c.request key made).2.entries) :
    entry ∈ c.entries ∨ made = .ok entry.2 := by
  obtain ⟨found, -, hr⟩ | ⟨new, -, rfl, hr⟩ | ⟨failure, -, -, hr⟩ := request_cases c key made
  · rw [hr] at h
    exact Or.inl h
  · rw [hr] at h
    rcases List.mem_append.mp h with h | h
    · exact Or.inl h
    · obtain rfl := List.mem_singleton.mp h
      exact Or.inr rfl
  · rw [hr] at h
    exact Or.inl h

variable {c : Cache α} {make : WideText → Except Failure α} {text : WideText}

theorem requestText_eq_ok {entry : α} (h : (c.requestText make text).1 = .ok entry) :
    (∃ key, (key, entry) ∈ c.entries) ∨ make text = .ok entry := by
  obtain ⟨key, -, hr⟩ | ⟨failure, -, hr⟩ := requestText_cases c make text
  · rw [hr] at h
    exact (request_eq_ok h).imp_left fun hm => ⟨key, hm⟩
  · rw [hr] at h
    cases h

theorem mem_entries_requestText {entry : String × α}
    (h : entry ∈ (c.requestText make text).2.entries) :
    entry ∈ c.entries ∨ make text = .ok entry.2 := by
  obtain ⟨key, -, hr⟩ | ⟨failure, -, hr⟩ := requestText_cases c make text
  · rw [hr] at h
    exact mem_entries_request h
  · rw [hr] at h
    exact Or.inl h

end Cache

namespace Engine

variable {e : Engine} {text : WideText} {compiled : Compiled}

/-- A request to an engine is one to its cache. -/
theorem request_eq (e : Engine) (text : WideText) :
    e.request text =
      ((e.cache.requestText compile text).1,
        { e with cache := (e.cache.requestText compile text).2 }) := by
  unfold request
  generalize e.cache.requestText compile text = answer
  obtain ⟨result, cache⟩ := answer
  rfl

/-- What cannot be requested does not compile. -/
theorem compile_of_requestText {c : Cache Compiled} {failure : Failure}
    (h : (c.requestText compile text).1 = .error failure) : compile text = .error failure := by
  cases he : text.encode with
  | error surrogates =>
    rw [Cache.requestText_of_error (fingerprint_of_encode he)] at h
    rw [compile_of_encode he]
    exact h
  | ok written =>
    obtain rfl := WideText.encode_eq_ok_iff.mp he
    rw [Cache.requestText_of_fingerprint (fingerprint_ofString written), Cache.fst_request] at h
    split at h
    · cases h
    · exact h

/-- An engine without entries compiles what it is asked for. -/
theorem request_new (policy : Policy) (text : WideText) :
    ((Engine.new policy).request text).1 = compile text := by
  rw [request_eq]
  cases he : text.encode with
  | error surrogates =>
    rw [Cache.requestText_of_error (fingerprint_of_encode he), compile_of_encode he]
  | ok written =>
    obtain rfl := WideText.encode_eq_ok_iff.mp he
    rw [Cache.requestText_of_fingerprint (fingerprint_ofString written)]
    change ((Cache.empty : Cache Compiled).request _ (compile written)).1 = _
    cases compile written <;> rfl

theorem compile_eq_ok_text (h : compile text = .ok compiled) :
    compile compiled.text = .ok compiled := by
  rwa [← eq_text_of_compile h]

theorem Reached.compile_of_mem (he : e.Reached) {entry : String × Compiled}
    (h : entry ∈ e.cache.entries) : compile entry.2.text = .ok entry.2 := by
  induction he with
  | new policy => cases h
  | request text he ih =>
    rw [request_eq] at h
    rcases Cache.mem_entries_requestText h with h | h
    · exact ih h
    · exact compile_eq_ok_text h
  | setPolicy policy he ih => exact ih h

/-- What an engine answers with has been compiled, from its own text. -/
theorem Reached.compile_of_request (he : e.Reached) (h : (e.request text).1 = .ok compiled) :
    compile compiled.text = .ok compiled := by
  rw [request_eq] at h
  rcases Cache.requestText_eq_ok h with ⟨key, h⟩ | h
  · have hm := he.compile_of_mem h
    exact hm
  · exact compile_eq_ok_text h

end Engine

end Destructure
