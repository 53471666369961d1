import TransactionPlatform.Api.Errors

/-!
# Validation — what a rejected body makes of its answer

A body that fails validation goes to `validation_exception_handler` as a list of errors, each with
the place it points at, a message and the submitted value.  Pydantic reports one error for each
failing field and each extra key, and `msg` gives its message for each check.

The main result is about two bodies at once: when their fields fail the same checks and their extra
keys get the same labels in the same order, their answers are identical, so nothing else of a body
reaches the answer.
-/

namespace TransactionPlatform
namespace Api

open Text Common

/-! ## The errors of a body -/

section Fields

variable (acceptsStr : PyStr → Bool) (members : Dict Json)

def transactionIdField : Except (PyStr × FieldError) PyStr :=
  field "transaction_id"
    (beforeStr acceptsStr (validateStrippedNonblankString (py "transaction_id"))) members

def merchantIdField : Except (PyStr × FieldError) PyStr :=
  field "merchant_id"
    (beforeStr acceptsStr (validateStrippedNonblankString (py "merchant_id"))) members

def paymentTokenField : Except (PyStr × FieldError) PyStr :=
  field "payment_token" (beforeStr acceptsStr validatePaymentToken) members

def amountField : Except (PyStr × FieldError) Int :=
  field "amount" validateAmount members

def currencyResult : Except (PyStr × FieldError) PyStr :=
  field "currency" (currencyField acceptsStr) members

def extraKeys : List PyStr :=
  (members.filter fun m => !schemaFields.contains m.1).map Prod.fst

/-- One error for each failing field, then one for each extra key. -/
def bodyErrors : List (PyStr × FieldError) :=
  fieldErrors (transactionIdField acceptsStr members) ++
    fieldErrors (merchantIdField acceptsStr members) ++
    fieldErrors (paymentTokenField acceptsStr members) ++ fieldErrors (amountField members) ++
    fieldErrors (currencyResult acceptsStr members) ++
    (extraKeys members).map fun key => (key, .extraForbidden)

end Fields

theorem extraErrors_eq (members : Dict Json) :
    extraErrors members = (extraKeys members).map fun key => (key, .extraForbidden) := by
  simp [extraErrors, extraKeys, List.map_map, Function.comp_def]

theorem fieldErrors_eq_nil {α : Type} {x : Except (PyStr × FieldError) α} :
    fieldErrors x = [] ↔ ∃ a, x = .ok a := by
  cases x <;> simp [fieldErrors]

theorem bodyErrors_eq_nil {acceptsStr : PyStr → Bool} {members : Dict Json} :
    bodyErrors acceptsStr members = [] ↔
      (∃ a, transactionIdField acceptsStr members = .ok a) ∧
      (∃ a, merchantIdField acceptsStr members = .ok a) ∧
      (∃ a, paymentTokenField acceptsStr members = .ok a) ∧
      (∃ a, amountField members = .ok a) ∧
      (∃ a, currencyResult acceptsStr members = .ok a) ∧ extraKeys members = [] := by
  simp only [bodyErrors, List.append_eq_nil_iff, fieldErrors_eq_nil, List.map_eq_nil_iff, and_assoc]

/-- Validation fails with exactly the errors of the body. -/
theorem validate_error_iff {acceptsStr : PyStr → Bool} {members : Dict Json}
    {errors : List (PyStr × FieldError)} :
    CreateTransactionRequest.validate acceptsStr (.obj members) = .error errors ↔
      errors = bodyErrors acceptsStr members ∧ errors ≠ [] := by
  simp only [CreateTransactionRequest.validate]
  split
  · -- every field is valid and there is no extra key
    rename_i _ id merchant token amount currency hid hmerchant htoken hamount hcurrency hextra
    rw [extraErrors_eq, List.map_eq_nil_iff] at hextra
    have hnone : bodyErrors acceptsStr members = [] :=
      bodyErrors_eq_nil.mpr ⟨⟨id, hid⟩, ⟨merchant, hmerchant⟩, ⟨token, htoken⟩, ⟨amount, hamount⟩,
        ⟨currency, hcurrency⟩, hextra⟩
    rw [hnone]
    constructor
    · intro h
      cases h
    · rintro ⟨rfl, hne⟩
      exact absurd rfl hne
  · rename_i _ _ _ _ _ _ hinvalid
    -- some check has failed, else the first branch would have been taken
    have hsome : bodyErrors acceptsStr members ≠ [] := by
      intro hnone
      rcases bodyErrors_eq_nil.mp hnone with ⟨⟨id, hid⟩, ⟨merchant, hmerchant⟩, ⟨token, htoken⟩,
        ⟨amount, hamount⟩, ⟨currency, hcurrency⟩, hextra⟩
      refine hinvalid id merchant token amount currency hid hmerchant htoken hamount hcurrency ?_
      rw [extraErrors_eq, hextra]
      rfl
    have herrors : bodyErrors acceptsStr members = _ ++ extraErrors members :=
      congrArg (_ ++ ·) (extraErrors_eq members).symm
    constructor
    · intro h
      cases h
      exact ⟨herrors.symm, herrors ▸ hsome⟩
    · rintro ⟨rfl, _⟩
      exact congrArg Except.error herrors.symm

/-! ## From a body to its answer -/

/-- Pydantic's name for a check. -/
def FieldError.type : FieldError → PyStr
  | .missing => py "missing"
  | .valueError _ => py "value_error"
  | .stringType => py "string_type"
  | .stringUnicode => py "string_unicode"
  | .extraForbidden => py "extra_forbidden"
  | .notAnObject => py "model_attributes_type"

/-- An error as the handler gets it: at the key of the body, with the submitted value, or with the
whole body when the key is missing. -/
def errorDetails (msg : FieldError → PyStr) (body : Json) (error : PyStr × FieldError) :
    ErrorDetails :=
  { type := some error.2.type
    loc := some [.key (py "body"), .key error.1]
    msg := some (msg error.2)
    input := (body.member error.1).getD body }

/-- The problem response of a body, if validation refuses it. -/
def rejection (acceptsStr : PyStr → Bool) (msg : FieldError → PyStr) (body : Json) :
    Option JsonResponse :=
  match CreateTransactionRequest.validate acceptsStr body with
  | .ok _ => none
  | .error errors =>
      some (validationExceptionHandler (.requestValidationError (errors.map (errorDetails msg body))))

/-- What the answer says of an error: the label of the key and the message of the check. -/
def listed (msg : FieldError → PyStr) (error : PyStr × FieldError) : InvalidParameter :=
  { field := mapSafeFieldName error.1
    reason := cleanMsg (msg error.2) }

/-- Only the key and the check of an error are listed.  A key `body` is dropped from the place it is
found at and comes back as the default. -/
theorem invalidParameter_errorDetails (msg : FieldError → PyStr) (body : Json)
    (error : PyStr × FieldError) :
    invalidParameter (errorDetails msg body error) = listed msg error := by
  have hraw : (errorDetails msg body error).rawField = error.1 := by
    by_cases hbody : error.1 = py "body"
    · simp [ErrorDetails.rawField, errorDetails, hbody]
    · simp [ErrorDetails.rawField, errorDetails, hbody, LocPart.text]
  rw [invalidParameter, hraw]
  rfl

theorem type_ne_jsonInvalid (e : FieldError) : e.type ≠ py "json_invalid" := by
  cases e <;> simp [FieldError.type]

/-- A refused body is answered with one entry for each of its errors, in their order. -/
theorem rejection_obj (acceptsStr : PyStr → Bool) (msg : FieldError → PyStr) (members : Dict Json) :
    rejection acceptsStr msg (.obj members) =
      if bodyErrors acceptsStr members = [] then none
      else some (validationProblem ((bodyErrors acceptsStr members).map (listed msg))) := by
  unfold rejection
  split
  · rename_i request hok
    split
    · rfl
    · rename_i hsome
      cases hok.symm.trans (validate_error_iff.mpr ⟨rfl, hsome⟩)
  · rename_i errors herror
    rcases validate_error_iff.mp herror with ⟨rfl, hsome⟩
    rw [if_neg hsome]
    have hjson : ((bodyErrors acceptsStr members).map (errorDetails msg (.obj members))).any
        (fun err => err.type = some (py "json_invalid")) = false := by
      simp [errorDetails, type_ne_jsonInvalid]
    have hlisted : ((bodyErrors acceptsStr members).map (errorDetails msg (.obj members))).map
        invalidParameter = (bodyErrors acceptsStr members).map (listed msg) := by
      rw [List.map_map]
      exact List.map_congr_left fun error _ => invalidParameter_errorDetails msg _ error
    simp only [validationExceptionHandler, hjson, hlisted, Bool.false_eq_true, if_false]

/-! ## The checks of the schema -/

/-- What a text field can fail. -/
def textChecks (name : String) : List FieldError :=
  [.valueError (py name ++ py " must be a string"), .valueError (py name ++ py " must not be blank"),
    .valueError (py name ++ py " must not exceed 128 characters")]

/-- Every check a body can fail; none of them depends on the body. -/
def schemaChecks : List FieldError :=
  [.missing, .stringType, .stringUnicode, .extraForbidden] ++ textChecks "transaction_id" ++
    textChecks "merchant_id" ++ textChecks "payment_token" ++
    [.valueError (py "payment_token must be a synthetic test token starting with tok_test_"),
      .valueError (py "amount must be an integer"),
      .valueError (py "amount must be greater than zero"),
      .valueError (py "currency must be exactly three uppercase ASCII letters (ISO 4217 format)")]

theorem stripped_error {name : String} {v : Json} {e : FieldError}
    (h : stripped (py name) v = .error e) : e ∈ textChecks name := by
  cases v with
  | str s =>
      simp only [stripped] at h
      split at h
      · cases h
        simp [textChecks]
      · split at h
        · cases h
          simp [textChecks]
        · cases h
  | _ =>
      cases h
      simp [textChecks]

theorem validatePaymentToken_error {v : Json} {e : FieldError}
    (h : validatePaymentToken v = .error e) :
    e ∈ textChecks "payment_token" ∨
      e = .valueError (py "payment_token must be a synthetic test token starting with tok_test_") := by
  unfold validatePaymentToken at h
  split at h
  · split at h
    · cases h
    · cases h
      exact .inr rfl
  · rename_i e' he
    cases h
    exact .inl (stripped_error he)

theorem strType_error {acceptsStr : PyStr → Bool} {v : Json} {e : FieldError}
    (h : strType acceptsStr v = .error e) : e = .stringType ∨ e = .stringUnicode := by
  cases v with
  | str s =>
      simp only [strType] at h
      split at h
      · cases h
      · cases h
        exact .inr rfl
  | _ =>
      cases h
      exact .inl rfl

theorem beforeStr_error {acceptsStr : PyStr → Bool} {validator : Json → Except FieldError PyStr}
    {v : Json} {e : FieldError} (h : beforeStr acceptsStr validator v = .error e) :
    validator v = .error e ∨ e = .stringType ∨ e = .stringUnicode := by
  unfold beforeStr at h
  split at h
  · exact .inr (strType_error h)
  · rename_i e' he
    cases h
    exact .inl he

theorem currencyField_error {acceptsStr : PyStr → Bool} {v : Json} {e : FieldError}
    (h : currencyField acceptsStr v = .error e) : e ∈ schemaChecks := by
  unfold currencyField at h
  split at h
  · unfold validateCurrencyFormat at h
    split at h
    · cases h
    · cases h
      simp [schemaChecks]
  · rename_i e' he
    cases h
    rcases strType_error he with rfl | rfl
    · simp [schemaChecks]
    · simp [schemaChecks]

theorem validateAmount_error {v : Json} {e : FieldError} (h : validateAmount v = .error e) :
    e ∈ schemaChecks := by
  cases v with
  | int n =>
      simp only [validateAmount] at h
      split at h
      · cases h
        simp [schemaChecks]
      · cases h
  | _ =>
      cases h
      simp [schemaChecks]

/-- A field fails because it is missing, or fails its check. -/
theorem mem_fieldErrors {α : Type} {name : String} {check : Json → Except FieldError α}
    {members : Dict Json} (hcheck : ∀ v e, check v = .error e → e ∈ schemaChecks)
    {error : PyStr × FieldError} (h : error ∈ fieldErrors (field name check members)) :
    error.2 ∈ schemaChecks := by
  unfold field at h
  split at h
  · rw [List.mem_singleton.mp h]
    simp [schemaChecks]
  · split at h
    · cases h
    · rename_i e he
      rw [List.mem_singleton.mp h]
      exact hcheck _ _ he

theorem beforeStr_checks {acceptsStr : PyStr → Bool} {validator : Json → Except FieldError PyStr}
    (hvalidator : ∀ v e, validator v = .error e → e ∈ schemaChecks) (v : Json) (e : FieldError)
    (h : beforeStr acceptsStr validator v = .error e) : e ∈ schemaChecks := by
  rcases beforeStr_error h with he | rfl | rfl
  · exact hvalidator v e he
  · simp [schemaChecks]
  · simp [schemaChecks]

/-- Whatever the body is, its errors are failures of the fixed checks. -/
theorem mem_bodyErrors {acceptsStr : PyStr → Bool} {members : Dict Json}
    {error : PyStr × FieldError} (h : error ∈ bodyErrors acceptsStr members) :
    error.2 ∈ schemaChecks := by
  simp only [bodyErrors, List.mem_append] at h
  -- the three stripped texts are alike; the token has one check more
  rcases h with ((((hid | hmerchant) | htoken) | hamount) | hcurrency) | hextra
  · refine mem_fieldErrors (beforeStr_checks ?_) hid
    intro v e he
    have hmem := stripped_error he
    simp only [schemaChecks, List.mem_append]
    tauto
  · refine mem_fieldErrors (beforeStr_checks ?_) hmerchant
    intro v e he
    have hmem := stripped_error he
    simp only [schemaChecks, List.mem_append]
    tauto
  · refine mem_fieldErrors (beforeStr_checks ?_) htoken
    intro v e he
    rcases validatePaymentToken_error he with hmem | rfl
    · simp only [schemaChecks, List.mem_append]
      tauto
    · simp [schemaChecks]
  · exact mem_fieldErrors (fun _ _ he => validateAmount_error he) hamount
  · exact mem_fieldErrors (fun _ _ he => currencyField_error he) hcurrency
  · rcases List.mem_map.mp hextra with ⟨key, _, rfl⟩
    simp [schemaChecks]

/-! ## Two bodies -/

/-- A field is valid in both bodies or fails the same check in both. -/
inductive SameVerdict {α : Type} :
    Except (PyStr × FieldError) α → Except (PyStr × FieldError) α → Prop
  | valid (a a' : α) : SameVerdict (.ok a) (.ok a')
  | fails (e : PyStr × FieldError) : SameVerdict (.error e) (.error e)

theorem SameVerdict.fieldErrors_eq {α : Type} {x x' : Except (PyStr × FieldError) α}
    (h : SameVerdict x x') : fieldErrors x = fieldErrors x' := by
  cases h <;> rfl

/-- Two bodies with the same faults: each field has the same verdict, and the extra keys correspond
in order, each to one with the same label. -/
structure SameFaults (acceptsStr : PyStr → Bool) (members members' : Dict Json) : Prop where
  transactionId :
    SameVerdict (transactionIdField acceptsStr members) (transactionIdField acceptsStr members')
  merchantId : SameVerdict (merchantIdField acceptsStr members) (merchantIdField acceptsStr members')
  paymentToken :
    SameVerdict (paymentTokenField acceptsStr members) (paymentTokenField acceptsStr members')
  amount : SameVerdict (amountField members) (amountField members')
  currency : SameVerdict (currencyResult acceptsStr members) (currencyResult acceptsStr members')
  extras : List.Forall₂ (fun key key' => mapSafeFieldName key = mapSafeFieldName key')
    (extraKeys members) (extraKeys members')

/-- What is listed of two bodies with the same faults is the same. -/
theorem SameFaults.listed_eq {acceptsStr : PyStr → Bool} {members members' : Dict Json}
    (h : SameFaults acceptsStr members members') (msg : FieldError → PyStr) :
    (bodyErrors acceptsStr members).map (listed msg) =
      (bodyErrors acceptsStr members').map (listed msg) := by
  have hextras : ∀ keys keys' : List PyStr,
      List.Forall₂ (fun key key' => mapSafeFieldName key = mapSafeFieldName key') keys keys' →
      (keys.map fun key => (key, FieldError.extraForbidden)).map (listed msg) =
        (keys'.map fun key => (key, FieldError.extraForbidden)).map (listed msg) := by
    intro keys keys' hkeys
    induction hkeys with
    | nil =>
        rfl
    | cons hkey _ ih =>
        simp only [List.map_cons, ih, listed, hkey]
  simp only [bodyErrors, List.map_append, h.transactionId.fieldErrors_eq,
    h.merchantId.fieldErrors_eq, h.paymentToken.fieldErrors_eq, h.amount.fieldErrors_eq,
    h.currency.fieldErrors_eq, hextras _ _ h.extras]

/-- The 422 answer lists its parameters in its body. -/
theorem validationProblem_parameters (parameters : List InvalidParameter) :
    (validationProblem parameters).content.member (py "invalid_parameters") =
      some (.arr (parameters.map fun p =>
        .obj [(py "field", .str p.field), (py "reason", .str p.reason)])) :=
  rfl

/-- Rejected bodies are not echoed.  Two bodies with the same faults get identical answers: both are
accepted, or both get the same 422 problem.  Its `invalid_parameters` have exactly one entry for each
error in order, of a field and a reason and nothing else; each names a schema field or one of the two
anonymous labels, and gives the message of one of the fixed checks. -/
theorem rejection_not_echoed {acceptsStr : PyStr → Bool} (msg : FieldError → PyStr)
    {members members' : Dict Json} (h : SameFaults acceptsStr members members') :
    rejection acceptsStr msg (.obj members) = rejection acceptsStr msg (.obj members') ∧
    ∀ response, rejection acceptsStr msg (.obj members) = some response →
      ∃ parameters, response = validationProblem parameters ∧ response.statusCode = 422 ∧
        response.content.member (py "invalid_parameters") =
          some (.arr (parameters.map fun p =>
            .obj [(py "field", .str p.field), (py "reason", .str p.reason)])) ∧
        parameters ≠ [] ∧ parameters = (bodyErrors acceptsStr members).map (listed msg) ∧
        parameters = (bodyErrors acceptsStr members').map (listed msg) ∧
        ∀ p ∈ parameters,
          p.field ∈ safeSchemaFields ++ [py "sensitive_parameter", py "unknown_parameter"] ∧
          ∃ check ∈ schemaChecks, p.reason = cleanMsg (msg check) := by
  have hlisted := h.listed_eq msg
  have hempty : bodyErrors acceptsStr members = [] ↔ bodyErrors acceptsStr members' = [] := by
    rw [← List.map_eq_nil_iff (f := listed msg), hlisted, List.map_eq_nil_iff]
  refine ⟨?_, ?_⟩
  · rw [rejection_obj, rejection_obj, hlisted]
    by_cases hnone : bodyErrors acceptsStr members = []
    · rw [if_pos hnone, if_pos (hempty.mp hnone)]
    · rw [if_neg hnone, if_neg (mt hempty.mpr hnone)]
  · intro response hresponse
    rw [rejection_obj] at hresponse
    split at hresponse
    · cases hresponse
    · rename_i hsome
      cases hresponse
      refine ⟨_, rfl, rfl, validationProblem_parameters _, by simpa using hsome, rfl, hlisted, ?_⟩
      intro p hp
      rcases List.mem_map.mp hp with ⟨error, herror, rfl⟩
      exact ⟨mapSafeFieldName_mem error.1, error.2, mem_bodyErrors herror, rfl⟩

/-- Pydantic's messages. -/
def pydanticMsg : FieldError → PyStr
  | .missing => py "Field required"
  | .valueError message => py "Value error, " ++ message
  | .stringType => py "Input should be a valid string"
  | .stringUnicode =>
      py "Input should be a valid string, unable to parse raw data as a unicode string"
  | .extraForbidden => py "Extra inputs are not permitted"
  | .notAnObject => py "Input should be a valid dictionary or object to extract fields from"

/-- Two bodies full of values and keys of their own. -/
theorem rejection_not_echoed_keys :
    let members : Dict Json :=
      [(py "transaction_id", .int 7), (py "payment_token", .str (py "4111222233334444")),
        (py "amount", .bool true), (py "currency", .str (py "usd")), (py "cvv", .str (py "999")),
        (py " Body", .null), (py "4111999988887777", .null)]
    let members' : Dict Json :=
      [(py "card_number", .arr []), (py "body", .int 3), (py "tag", .str (py "v")),
        (py "currency", .str (py "EURO")), (py "amount", .float (py "0.5")),
        (py "payment_token", .str (py "secret")), (py "transaction_id", .null)]
    let entry (field reason : String) : Json :=
      .obj [(py "field", .str (py field)), (py "reason", .str (py reason))]
    ∃ response, rejection (fun _ => true) pydanticMsg (.obj members) = some response ∧
      rejection (fun _ => true) pydanticMsg (.obj members') = some response ∧
      response.statusCode = 422 ∧
      response.content.member (py "invalid_parameters") = some (.arr
        [entry "transaction_id" "transaction_id must be a string",
          entry "merchant_id" "Field required",
          entry "payment_token" "payment_token must be a synthetic test token starting with tok_test_",
          entry "amount" "amount must be an integer",
          entry "currency" "currency must be exactly three uppercase ASCII letters (ISO 4217 format)",
          entry "sensitive_parameter" "Extra inputs are not permitted",
          entry "body" "Extra inputs are not permitted",
          entry "unknown_parameter" "Extra inputs are not permitted"]) := by
  intro members members' entry
  have hextras : extraKeys members = [py "cvv", py " Body", py "4111999988887777"] := by decide
  have hextras' : extraKeys members' = [py "card_number", py "body", py "tag"] := by decide
  have hfaults : SameFaults (fun _ => true) members members' :=
    { transactionId := .fails _
      merchantId := .fails _
      paymentToken := .fails _
      amount := .fails _
      currency := .fails _
      extras := by
        rw [hextras, hextras']
        exact .cons (by decide) (.cons (by decide) (.cons (by decide) .nil)) }
  have hechoed := rejection_not_echoed pydanticMsg hfaults
  have hrejected : rejection (fun _ => true) pydanticMsg (.obj members) ≠ none := by decide
  rcases Option.ne_none_iff_exists'.mp hrejected with ⟨response, hresponse⟩
  rcases hechoed.2 response hresponse with ⟨parameters, _, hcode, hbody, _, hlisted, _⟩
  refine ⟨response, hresponse, hechoed.1.symm.trans hresponse, hcode, ?_⟩
  rw [hbody, hlisted]
  rfl

end Api
end TransactionPlatform
