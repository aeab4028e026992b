import EvmSelectors.Proofs.Hex
import EvmSelectors.Rpc

/-!
This module contains what a reply means: when it carries code, and when it has no form in which code, or
the lack of it, could be told.
-/

namespace EvmSelectors
namespace Rpc

/--
Whether a reply carries code: the status is no error, and the body is an object without an error, the
result of which is a hexadecimal text of the code with any white space around it.
-/
def Carries (depth : Nat) (reply : Reply) (code : Bytes) : Prop :=
  ∃ r fields before text after,
    reply = .response r
      ∧ ¬(400 ≤ r.status ∧ r.status < 600)
      ∧ Json.parse depth r.body = .ok (.object fields)
      ∧ Json.field? "error" fields = none
      ∧ Json.field? "result" fields = some (.text ((before ++ text ++ after).map .char))
      ∧ Hex.Spells text code
      ∧ (∀ c ∈ before, Text.isBlank c)
      ∧ (∀ c ∈ after, Text.isBlank c)

theorem Carries.codeOfReply_eq {depth : Nat} {reply : Reply} {code : Bytes}
    (h : Carries depth reply code) (url : String) : codeOfReply depth url reply = .ok code := by
  obtain ⟨r, fields, before, text, after, rfl, hstatus, hbody, herror, hresult, htext, hbefore,
    hafter⟩ := h
  have hparse := htext.parse_eq hbefore hafter
  unfold codeOfReply
  dsimp only
  rw [if_neg hstatus, hbody]
  dsimp only
  rw [codeOfJson, herror]
  dsimp only
  rw [hresult, codeOfResult, hparse]

/--
Whether a result is neither a text nor missing.
-/
def misshapenResult : Option Json → Bool
  | none => false
  | some .null => false
  | some (.text _) => false
  | some _ => true

/--
Whether a value has not the form of a reply. It is neither an object nor an array or a text that can be
searched for its parts in vain, or it is an object whose result has the wrong form.
-/
def misshapen : Json → Bool
  | .object fields =>
    (Json.field? "error" fields).isNone && misshapenResult (Json.field? "result" fields)
  | .array items => mentions "error" (.array items) || mentions "result" (.array items)
  | .text s => mentions "error" (.text s) || mentions "result" (.text s)
  | _ => true

/--
Whether the body of a response goes beyond the limits of a JSON value.
-/
def beyondLimits : Json.Error Json.Place → Bool
  | .malformed _ _ => false
  | .tooLong _ => true
  | .tooDeep _ => true

/--
Whether a reply has a status that is no error, and a body that is too large to be read or has not the
form of a reply.
-/
def Unfit (depth : Nat) (reply : Reply) : Prop :=
  ∃ r,
    reply = .response r
      ∧ ¬(400 ≤ r.status ∧ r.status < 600)
      ∧ match Json.parse depth r.body with
        | .error e => beyondLimits e
        | .ok value => misshapen value

/--
Whether an attempt to find code ended in an error of which nothing is told.
-/
def Unreported (result : Except Error Bytes) : Prop :=
  ∃ e, result = .error e ∧ e.report? = none

theorem unreported_codeOfResult_iff {result : Option Json} :
    Unreported (codeOfResult result) ↔ misshapenResult result := by
  unfold Unreported
  cases result with
  | none => simp [codeOfResult, misshapenResult, Error.report?]
  | some value =>
    cases value with
    | text s =>
      rw [codeOfResult]
      cases Hex.parse s <;> simp [misshapenResult, Error.report?]
    | null | bool | int | real | array | object =>
      simp [codeOfResult, misshapenResult, Error.report?]

theorem unreported_ite_shape_iff {mentioned : Bool} :
    Unreported (.error (if mentioned then .shape else .noResult)) ↔ mentioned := by
  cases mentioned <;> simp [Unreported, Error.report?]

theorem unreported_codeOfJson_iff {value : Json} :
    Unreported (codeOfJson value) ↔ misshapen value := by
  cases value with
  | object fields =>
    rw [codeOfJson, misshapen]
    cases Json.field? "error" fields with
    | none =>
      dsimp only
      rw [unreported_codeOfResult_iff]
      simp
    | some e => simp [Unreported, Error.report?]
  | array items => exact unreported_ite_shape_iff
  | text s => exact unreported_ite_shape_iff
  | null | bool | int | real => simp [codeOfJson, misshapen, Unreported, Error.report?]

theorem unreported_codeOfReply_iff {depth : Nat} {url : String} {reply : Reply} :
    Unreported (codeOfReply depth url reply) ↔ Unfit depth reply := by
  cases reply with
  | fault kind message => simp [codeOfReply, Unreported, Unfit, Error.report?]
  | response r =>
    unfold codeOfReply Unfit
    simp only [Reply.response.injEq, exists_eq_left']
    by_cases hstatus : 400 ≤ r.status ∧ r.status < 600
    · simp [hstatus, Unreported, Error.report?]
    · rw [if_neg hstatus]
      cases Json.parse depth r.body with
      | error e => cases e <;> simp [hstatus, Unreported, Error.report?, beyondLimits]
      | ok value =>
        dsimp only
        rw [unreported_codeOfJson_iff]
        simp [hstatus]

end Rpc
end EvmSelectors
