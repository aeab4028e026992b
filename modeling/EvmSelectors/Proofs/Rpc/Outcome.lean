import EvmSelectors.Proofs.Json.Fuel
import EvmSelectors.Rpc

/-!
This module contains all the outcomes of fetching code, and which replies lead to each of them.
-/

namespace EvmSelectors
namespace Rpc

theorem holds_iff_isInfix {part s : List CodePoint} : holds part s ↔ part <:+: s := by
  induction s with
  | nil => rw [holds, List.isEmpty_iff, List.infix_nil]
  | cons p s ih => rw [holds, Bool.or_eq_true, List.isPrefixOf_iff_prefix, ih, List.infix_cons_iff]

theorem isText_iff {name : String} {value : Json} : value.isText name ↔ value = .ofString name := by
  cases value with
  | text s => simp [Json.isText, Json.ofString]
  | null | bool | int | real | array | object => simp [Json.isText, Json.ofString]

theorem mentions_array_iff {name : String} {items : List Json} :
    mentions name (.array items) ↔ .ofString name ∈ items := by
  rw [mentions, List.any_eq_true]
  simp only [isText_iff, exists_eq_right]

theorem mentions_text_iff {name : String} {s : List CodePoint} :
    mentions name (.text s) ↔ CodePoint.ofString name <:+: s := by
  rw [mentions, holds_iff_isInfix]

/--
What the value of a response means, case by case.
-/
inductive Meaning : Json → Except Error Bytes → Prop where
  | refused {fields : List Json.Field} {value : Json} (herror : Json.field? "error" fields = some value) :
      Meaning (.object fields) (.error (.refused (refusal value)))
  | missing {fields : List Json.Field} (herror : Json.field? "error" fields = none)
      (hresult : Json.field? "result" fields = none ∨ Json.field? "result" fields = some .null) :
      Meaning (.object fields) (.error .noResult)
  | code {fields : List Json.Field} {s : List CodePoint} {code : Bytes}
      (herror : Json.field? "error" fields = none)
      (hresult : Json.field? "result" fields = some (.text s)) (hparse : Hex.parse s = .ok code) :
      Meaning (.object fields) (.ok code)
  | malformed {fields : List Json.Field} {s : List CodePoint} {e : Hex.Error}
      (herror : Json.field? "error" fields = none)
      (hresult : Json.field? "result" fields = some (.text s)) (hparse : Hex.parse s = .error e) :
      Meaning (.object fields) (.error (.hex e))
  | misplaced {fields : List Json.Field} {value : Json} (herror : Json.field? "error" fields = none)
      (hresult : Json.field? "result" fields = some value) (hnull : value ≠ .null)
      (htext : ∀ s, value ≠ .text s) : Meaning (.object fields) (.error .resultKind)
  | silentArray {items : List Json} (herror : .ofString "error" ∉ items)
      (hresult : .ofString "result" ∉ items) : Meaning (.array items) (.error .noResult)
  | array {items : List Json} (h : .ofString "error" ∈ items ∨ .ofString "result" ∈ items) :
      Meaning (.array items) (.error .shape)
  | silentText {s : List CodePoint} (herror : ¬CodePoint.ofString "error" <:+: s)
      (hresult : ¬CodePoint.ofString "result" <:+: s) : Meaning (.text s) (.error .noResult)
  | text {s : List CodePoint}
      (h : CodePoint.ofString "error" <:+: s ∨ CodePoint.ofString "result" <:+: s) :
      Meaning (.text s) (.error .shape)
  | null : Meaning .null (.error .shape)
  | bool {b : Bool} : Meaning (.bool b) (.error .shape)
  | int {n : Int} : Meaning (.int n) (.error .shape)
  | real {x : Binary64} : Meaning (.real x) (.error .shape)

theorem meaning_object (fields : List Json.Field) :
    Meaning (.object fields) (codeOfJson (.object fields)) := by
  rw [codeOfJson]
  cases herror : Json.field? "error" fields with
  | some value => exact .refused herror
  | none =>
    cases hresult : Json.field? "result" fields with
    | none => exact .missing herror (.inl hresult)
    | some value =>
      cases value with
      | null => exact .missing herror (.inr hresult)
      | text s =>
        rw [codeOfResult]
        cases hparse : Hex.parse s with
        | error e => exact .malformed herror hresult hparse
        | ok code => exact .code herror hresult hparse
      | bool | int | real | array | object => exact .misplaced herror hresult (by simp) (by simp)

theorem meaning_codeOfJson (value : Json) : Meaning value (codeOfJson value) := by
  cases value with
  | object fields => apply meaning_object
  | array items =>
    rw [codeOfJson]
    split
    · next h =>
      rw [Bool.or_eq_true, mentions_array_iff, mentions_array_iff] at h
      exact .array h
    · next h =>
      rw [Bool.or_eq_true, mentions_array_iff, mentions_array_iff, not_or] at h
      exact .silentArray h.1 h.2
  | text s =>
    rw [codeOfJson]
    split
    · next h =>
      rw [Bool.or_eq_true, mentions_text_iff, mentions_text_iff] at h
      exact .text h
    · next h =>
      rw [Bool.or_eq_true, mentions_text_iff, mentions_text_iff, not_or] at h
      exact .silentText h.1 h.2
  | null => exact .null
  | bool b => exact .bool
  | int n => exact .int
  | real x => exact .real

theorem Meaning.codeOfJson_eq {value : Json} {x : Except Error Bytes} (h : Meaning value x) :
    codeOfJson value = x := by
  cases h with
  | refused herror => rw [codeOfJson, herror]
  | missing herror hresult =>
    rw [codeOfJson, herror]
    rcases hresult with hresult | hresult
    · simp only [hresult, codeOfResult]
    · simp only [hresult, codeOfResult]
  | code herror hresult hparse | malformed herror hresult hparse =>
    rw [codeOfJson, herror]
    simp only [hresult, codeOfResult, hparse]
  | @misplaced _ value herror hresult hnull htext =>
    rw [codeOfJson, herror]
    cases value with
    | null => contradiction
    | text s => exact absurd rfl (htext s)
    | bool | int | real | array | object => simp only [hresult, codeOfResult]
  | silentArray herror hresult =>
    rw [codeOfJson, if_neg]
    simp [mentions_array_iff, herror, hresult]
  | array h =>
    rw [codeOfJson, if_pos]
    simpa [mentions_array_iff] using h
  | silentText herror hresult =>
    rw [codeOfJson, if_neg]
    simp [mentions_text_iff, herror, hresult]
  | text h =>
    rw [codeOfJson, if_pos]
    simpa [mentions_text_iff] using h
  | null | bool | int | real => rfl

/--
Whether a reply is a response with a status that is no error and a body that spells the value.
-/
def Answers (depth : Nat) (reply : Reply) (value : Json) : Prop :=
  ∃ r,
    reply = .response r
      ∧ ¬(400 ≤ r.status ∧ r.status < 600)
      ∧ Json.parse depth r.body = .ok value

/--
All that can come of a reply.
-/
inductive Outcome (depth : Nat) (url : String) (reply : Reply) : Except Error Bytes → Prop where
  | fault {kind : Fault} {message : String} (h : reply = .fault kind message) :
      Outcome depth url reply (.error (.fault kind message))
  | status {r : Response} (h : reply = .response r) (hstatus : 400 ≤ r.status ∧ r.status < 600) :
      Outcome depth url reply (.error (.status r.status r.reason url))
  | body {r : Response} {e : Json.Error Json.Place} (h : reply = .response r)
      (hstatus : ¬(400 ≤ r.status ∧ r.status < 600)) (hbody : Json.parse depth r.body = .error e) :
      Outcome depth url reply (.error (.body e))
  | value {value : Json} {x : Except Error Bytes} (h : Answers depth reply value)
      (hmeaning : Meaning value x) : Outcome depth url reply x

theorem outcome_codeOfReply (depth : Nat) (url : String) (reply : Reply) :
    Outcome depth url reply (codeOfReply depth url reply) := by
  cases reply with
  | fault kind message => exact .fault rfl
  | response r =>
    rw [codeOfReply]
    split
    · next hstatus => exact .status rfl hstatus
    · next hstatus =>
      cases hbody : Json.parse depth r.body with
      | error e => exact .body rfl hstatus hbody
      | ok value => exact .value ⟨r, rfl, hstatus, hbody⟩ (meaning_codeOfJson value)

theorem Answers.codeOfReply_eq {depth : Nat} {reply : Reply} {value : Json}
    (h : Answers depth reply value) (url : String) : codeOfReply depth url reply = codeOfJson value := by
  obtain ⟨r, rfl, hstatus, hbody⟩ := h
  rw [codeOfReply, if_neg hstatus, hbody]

section GetCode

variable {depth : Nat} {r : Request} {reply : Reply}

theorem outcome_getCode (depth : Nat) (r : Request) (reply : Reply) :
    Outcome depth r.url reply (getCode depth r reply).result := by
  rw [result_getCode]
  apply outcome_codeOfReply

theorem Answers.getCode_eq {value : Json} {x : Except Error Bytes} (h : Answers depth reply value)
    (hmeaning : Meaning value x) : (getCode depth r reply).result = x := by
  rw [result_getCode, h.codeOfReply_eq, hmeaning.codeOfJson_eq]

theorem getCode_eq_ok_iff {code : Bytes} :
    (getCode depth r reply).result = .ok code
      ↔
    ∃ fields s,
      Answers depth reply (.object fields)
        ∧ Json.field? "error" fields = none
        ∧ Json.field? "result" fields = some (.text s)
        ∧ Hex.parse s = .ok code := by
  constructor
  · intro h
    have houtcome := outcome_getCode depth r reply
    rw [h] at houtcome
    cases houtcome with
    | value hanswers hmeaning =>
      cases hmeaning with
      | code herror hresult hparse => exact ⟨_, _, hanswers, herror, hresult, hparse⟩
  · rintro ⟨fields, s, hanswers, herror, hresult, hparse⟩
    exact hanswers.getCode_eq (.code herror hresult hparse)

theorem getCode_eq_fault_iff {kind : Fault} {message : String} :
    (getCode depth r reply).result = .error (.fault kind message) ↔ reply = .fault kind message := by
  constructor
  · intro h
    have houtcome := outcome_getCode depth r reply
    rw [h] at houtcome
    cases houtcome with
    | fault hreply => exact hreply
    | value hanswers hmeaning => cases hmeaning
  · rintro rfl
    rw [result_getCode]
    rfl

theorem getCode_eq_status_iff {code : Int} {reason url : String} :
    (getCode depth r reply).result = .error (.status code reason url)
      ↔
    ∃ response,
      reply = .response response
        ∧ (400 ≤ response.status ∧ response.status < 600)
        ∧ code = response.status
        ∧ reason = response.reason
        ∧ url = r.url := by
  constructor
  · intro h
    have houtcome := outcome_getCode depth r reply
    rw [h] at houtcome
    cases houtcome with
    | status hreply hstatus => exact ⟨_, hreply, hstatus, rfl, rfl, rfl⟩
    | value hanswers hmeaning => cases hmeaning
  · rintro ⟨response, rfl, hstatus, rfl, rfl, rfl⟩
    rw [result_getCode, codeOfReply, if_pos hstatus]

theorem getCode_eq_body_iff {e : Json.Error Json.Place} :
    (getCode depth r reply).result = .error (.body e)
      ↔
    ∃ response,
      reply = .response response
        ∧ ¬(400 ≤ response.status ∧ response.status < 600)
        ∧ Json.parse depth response.body = .error e := by
  constructor
  · intro h
    have houtcome := outcome_getCode depth r reply
    rw [h] at houtcome
    cases houtcome with
    | body hreply hstatus hbody => exact ⟨_, hreply, hstatus, hbody⟩
    | value hanswers hmeaning => cases hmeaning
  · rintro ⟨response, rfl, hstatus, hbody⟩
    rw [result_getCode, codeOfReply, if_neg hstatus, hbody]

theorem getCode_eq_refused_iff {message : String} :
    (getCode depth r reply).result = .error (.refused message)
      ↔
    ∃ fields value,
      Answers depth reply (.object fields)
        ∧ Json.field? "error" fields = some value
        ∧ message = refusal value := by
  constructor
  · intro h
    have houtcome := outcome_getCode depth r reply
    rw [h] at houtcome
    cases houtcome with
    | value hanswers hmeaning =>
      cases hmeaning with
      | refused herror => exact ⟨_, _, hanswers, herror, rfl⟩
  · rintro ⟨fields, value, hanswers, herror, rfl⟩
    exact hanswers.getCode_eq (.refused herror)

theorem getCode_eq_noResult_iff :
    (getCode depth r reply).result = .error .noResult
      ↔
    (∃ fields,
      Answers depth reply (.object fields)
        ∧ Json.field? "error" fields = none
        ∧ (Json.field? "result" fields = none ∨ Json.field? "result" fields = some .null))
      ∨ (∃ items,
          Answers depth reply (.array items)
            ∧ .ofString "error" ∉ items
            ∧ .ofString "result" ∉ items)
      ∨ (∃ s,
          Answers depth reply (.text s)
            ∧ ¬CodePoint.ofString "error" <:+: s
            ∧ ¬CodePoint.ofString "result" <:+: s) := by
  constructor
  · intro h
    have houtcome := outcome_getCode depth r reply
    rw [h] at houtcome
    cases houtcome with
    | value hanswers hmeaning =>
      cases hmeaning with
      | missing herror hresult => exact .inl ⟨_, hanswers, herror, hresult⟩
      | silentArray herror hresult => exact .inr (.inl ⟨_, hanswers, herror, hresult⟩)
      | silentText herror hresult => exact .inr (.inr ⟨_, hanswers, herror, hresult⟩)
  · rintro (⟨fields, hanswers, herror, hresult⟩ | ⟨items, hanswers, herror, hresult⟩ |
      ⟨s, hanswers, herror, hresult⟩)
    · exact hanswers.getCode_eq (.missing herror hresult)
    · exact hanswers.getCode_eq (.silentArray herror hresult)
    · exact hanswers.getCode_eq (.silentText herror hresult)

theorem getCode_eq_hex_iff {e : Hex.Error} :
    (getCode depth r reply).result = .error (.hex e)
      ↔
    ∃ fields s,
      Answers depth reply (.object fields)
        ∧ Json.field? "error" fields = none
        ∧ Json.field? "result" fields = some (.text s)
        ∧ Hex.parse s = .error e := by
  constructor
  · intro h
    have houtcome := outcome_getCode depth r reply
    rw [h] at houtcome
    cases houtcome with
    | value hanswers hmeaning =>
      cases hmeaning with
      | malformed herror hresult hparse => exact ⟨_, _, hanswers, herror, hresult, hparse⟩
  · rintro ⟨fields, s, hanswers, herror, hresult, hparse⟩
    exact hanswers.getCode_eq (.malformed herror hresult hparse)

theorem getCode_eq_resultKind_iff :
    (getCode depth r reply).result = .error .resultKind
      ↔
    ∃ fields value,
      Answers depth reply (.object fields)
        ∧ Json.field? "error" fields = none
        ∧ Json.field? "result" fields = some value
        ∧ value ≠ .null
        ∧ ∀ s, value ≠ .text s := by
  constructor
  · intro h
    have houtcome := outcome_getCode depth r reply
    rw [h] at houtcome
    cases houtcome with
    | value hanswers hmeaning =>
      cases hmeaning with
      | misplaced herror hresult hnull htext =>
        exact ⟨_, _, hanswers, herror, hresult, hnull, htext⟩
  · rintro ⟨fields, value, hanswers, herror, hresult, hnull, htext⟩
    exact hanswers.getCode_eq (.misplaced herror hresult hnull htext)

theorem getCode_eq_shape_iff :
    (getCode depth r reply).result = .error .shape
      ↔
    Answers depth reply .null
      ∨ (∃ b, Answers depth reply (.bool b))
      ∨ (∃ n, Answers depth reply (.int n))
      ∨ (∃ x, Answers depth reply (.real x))
      ∨ (∃ items,
          Answers depth reply (.array items)
            ∧ (.ofString "error" ∈ items ∨ .ofString "result" ∈ items))
      ∨ (∃ s,
          Answers depth reply (.text s)
            ∧ (CodePoint.ofString "error" <:+: s ∨ CodePoint.ofString "result" <:+: s)) := by
  constructor
  · intro h
    have houtcome := outcome_getCode depth r reply
    rw [h] at houtcome
    cases houtcome with
    | value hanswers hmeaning =>
      cases hmeaning with
      | null => exact .inl hanswers
      | bool => exact .inr (.inl ⟨_, hanswers⟩)
      | int => exact .inr (.inr (.inl ⟨_, hanswers⟩))
      | real => exact .inr (.inr (.inr (.inl ⟨_, hanswers⟩)))
      | array h => exact .inr (.inr (.inr (.inr (.inl ⟨_, hanswers, h⟩))))
      | text h => exact .inr (.inr (.inr (.inr (.inr ⟨_, hanswers, h⟩))))
  · rintro (hanswers | ⟨b, hanswers⟩ | ⟨n, hanswers⟩ | ⟨x, hanswers⟩ | ⟨items, hanswers, h⟩ |
      ⟨s, hanswers, h⟩)
    · exact hanswers.getCode_eq .null
    · exact hanswers.getCode_eq .bool
    · exact hanswers.getCode_eq .int
    · exact hanswers.getCode_eq .real
    · exact hanswers.getCode_eq (.array h)
    · exact hanswers.getCode_eq (.text h)

end GetCode

theorem getCode_outcome (depth : Nat) (r : Request) (reply : Reply) :
    (getCode depth r reply).requests = [r]
      ∧ (∀ code,
          (getCode depth r reply).result = .ok code
            ↔
          ∃ fields s,
            Answers depth reply (.object fields)
              ∧ Json.field? "error" fields = none
              ∧ Json.field? "result" fields = some (.text s)
              ∧ Hex.parse s = .ok code)
      ∧ (∀ message,
          (getCode depth r reply).result = .error (.refused message)
            ↔
          ∃ fields value,
            Answers depth reply (.object fields)
              ∧ Json.field? "error" fields = some value
              ∧ message = refusal value)
      ∧ ((getCode depth r reply).result = .error .noResult
            ↔
          (∃ fields,
            Answers depth reply (.object fields)
              ∧ Json.field? "error" fields = none
              ∧ (Json.field? "result" fields = none ∨ Json.field? "result" fields = some .null))
            ∨ (∃ items,
                Answers depth reply (.array items)
                  ∧ .ofString "error" ∉ items
                  ∧ .ofString "result" ∉ items)
            ∨ (∃ s,
                Answers depth reply (.text s)
                  ∧ ¬CodePoint.ofString "error" <:+: s
                  ∧ ¬CodePoint.ofString "result" <:+: s))
      ∧ (∀ e,
          (getCode depth r reply).result = .error (.hex e)
            ↔
          ∃ fields s,
            Answers depth reply (.object fields)
              ∧ Json.field? "error" fields = none
              ∧ Json.field? "result" fields = some (.text s)
              ∧ Hex.parse s = .error e)
      ∧ ((getCode depth r reply).result = .error .resultKind
            ↔
          ∃ fields value,
            Answers depth reply (.object fields)
              ∧ Json.field? "error" fields = none
              ∧ Json.field? "result" fields = some value
              ∧ value ≠ .null
              ∧ ∀ s, value ≠ .text s)
      ∧ ((getCode depth r reply).result = .error .shape
            ↔
          Answers depth reply .null
            ∨ (∃ b, Answers depth reply (.bool b))
            ∨ (∃ n, Answers depth reply (.int n))
            ∨ (∃ x, Answers depth reply (.real x))
            ∨ (∃ items,
                Answers depth reply (.array items)
                  ∧ (.ofString "error" ∈ items ∨ .ofString "result" ∈ items))
            ∨ (∃ s,
                Answers depth reply (.text s)
                  ∧ (CodePoint.ofString "error" <:+: s ∨ CodePoint.ofString "result" <:+: s)))
      ∧ (∀ kind message,
          (getCode depth r reply).result = .error (.fault kind message)
            ↔
          reply = .fault kind message)
      ∧ (∀ code reason url,
          (getCode depth r reply).result = .error (.status code reason url)
            ↔
          ∃ response,
            reply = .response response
              ∧ (400 ≤ response.status ∧ response.status < 600)
              ∧ code = response.status
              ∧ reason = response.reason
              ∧ url = r.url)
      ∧ (∀ e,
          (getCode depth r reply).result = .error (.body e)
            ↔
          ∃ response,
            reply = .response response
              ∧ ¬(400 ≤ response.status ∧ response.status < 600)
              ∧ Json.parse depth response.body = .error e)
      ∧ (∀ body fields,
          Json.parse depth body = .ok (.object fields) →
            ∃ listed, Json.Spells depth body listed ∧ Json.Merges fields listed)
      ∧ (∀ body listed,
          Json.Spells depth body listed →
            ∃ fields, Json.parse depth body = .ok (.object fields) ∧ Json.Merges fields listed) := by
  refine ⟨requests_getCode depth r reply, fun code => getCode_eq_ok_iff,
    fun message => getCode_eq_refused_iff, getCode_eq_noResult_iff, fun e => getCode_eq_hex_iff,
    getCode_eq_resultKind_iff, getCode_eq_shape_iff, fun kind message => getCode_eq_fault_iff,
    fun code reason url => getCode_eq_status_iff, fun e => getCode_eq_body_iff, ?_, ?_⟩
  · intro body fields hbody
    obtain ⟨listed, hspells, rfl⟩ := Json.parse_eq_ok_object_iff.1 hbody
    exact ⟨listed, hspells, Json.merges_setFields listed⟩
  · intro body listed hspells
    exact ⟨_, hspells.parse_eq, Json.merges_setFields listed⟩

end Rpc
end EvmSelectors
