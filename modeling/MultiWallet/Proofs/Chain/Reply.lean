import MultiWallet.Chain.JsonRpc
import MultiWallet.Chain.Stellar

set_option autoImplicit false

namespace MultiWallet

namespace Json.Record

variable {r : Record} {name text : String} {said : Option String}

inductive Says (r : Record) (name : String) : Option String → Prop where
  | absent (missing : r.fields.lookup name = none) : Says r name none
  | null (there : r.fields.lookup name = some .null) : Says r name none
  | text (said : String) (there : r.fields.lookup name = some (.string said)) :
      Says r name (some said)

theorem required_asText_iff :
    r.required name asText = some text ↔ r.fields.lookup name = some (.string text) := by
  unfold required
  cases r.fields.lookup name with
  | none => simp
  | some j => cases j <;> simp [asText]

/-- What follows from the value under a name; nothing does where it is left out. -/
inductive Tells (r : Record) (name : String) (P : Json → Option String → Prop) :
    Option String → Prop where
  | absent (missing : r.fields.lookup name = none) : Tells r name P none
  | told (j : Json) (said : Option String) (there : r.fields.lookup name = some j)
      (follows : P j said) : Tells r name P said

theorem defaulted_iff {decode : Json → Option (Option String)}
    {P : Json → Option String → Prop} (decodes : ∀ j said, decode j = some said ↔ P j said) :
    r.defaulted name decode none = some said ↔ r.Tells name P said := by
  unfold defaulted
  cases there : r.fields.lookup name with
  | none =>
    constructor
    · rintro ⟨⟩
      exact .absent there
    · intro told
      cases told with
      | absent missing => rfl
      | told j said same follows => cases there.symm.trans same
  | some j =>
    constructor
    · intro read
      exact .told j said there ((decodes j said).1 read)
    · intro told
      cases told with
      | absent missing => cases there.symm.trans missing
      | told k said same follows =>
        cases there.symm.trans same
        exact (decodes j said).2 follows

theorem asOption_asText_iff {j : Json} :
    asOption asText j = some said ↔
      j = .null ∧ said = none ∨ ∃ text, j = .string text ∧ said = some text := by
  cases j <;> simp [asOption, asText, eq_comm]

theorem defaulted_asText_iff :
    r.defaulted name (asOption asText) none = some said ↔ r.Says name said := by
  rw [defaulted_iff fun _ _ => asOption_asText_iff]
  constructor
  · intro tells
    cases tells with
    | absent missing => exact .absent missing
    | told _ _ there follows =>
      obtain ⟨rfl, rfl⟩ | ⟨text, rfl, rfl⟩ := follows
      · exact .null there
      · exact .text text there
  · intro stated
    cases stated with
    | absent missing => exact .absent missing
    | null there => exact .told _ _ there (.inl ⟨rfl, rfl⟩)
    | text text there => exact .told _ _ there (.inr ⟨text, rfl, rfl⟩)

end Json.Record

def Http.Reply.Carries (r : Http.Reply) (names : List String) (record : Json.Record) : Prop :=
  (Json.ofString r.body).bind (Json.Record.ofJson? names) = some record

namespace StellarServer

def CodeOf (codes : Json) (code : Option String) : Prop :=
  ∃ record, Json.Record.ofJson? ["transaction"] codes = some record ∧
    record.Says "transaction" code

def ReasonOf (extras : Json) (code : Option String) : Prop :=
  ∃ record, Json.Record.ofJson? ["result_codes"] extras = some record ∧
    record.Tells "result_codes" CodeOf code

theorem readRefusal_iff {r : Http.Reply} {submission : StellarSubmission} :
    (Json.ofString r.body).bind readRefusal = some submission ↔
      ∃ record, r.Carries ["extras"] record ∧ record.Tells "extras" ReasonOf submission.resultCode ∧
        submission.successful = false ∧ submission.hash = none := by
  have codes (j : Json) (code : Option String) :
      (do
        let r ← Json.Record.ofJson? ["transaction"] j
        r.defaulted "transaction" (Json.asOption Json.asText) none) = some code ↔ CodeOf j code := by
    simp only [Option.bind_eq_bind, Option.bind_eq_some_iff, Json.Record.defaulted_asText_iff]
    rfl
  have reasons (j : Json) (code : Option String) :
      (do
        let r ← Json.Record.ofJson? ["result_codes"] j
        r.defaulted "result_codes" (fun codes => do
          let r ← Json.Record.ofJson? ["transaction"] codes
          r.defaulted "transaction" (Json.asOption Json.asText) none) none) = some code ↔
        ReasonOf j code := by
    simp only [Option.bind_eq_bind, Option.bind_eq_some_iff]
    exact exists_congr fun r => and_congr_right fun _ => Json.Record.defaulted_iff codes
  simp only [Http.Reply.Carries, ← Json.Record.defaulted_iff reasons]
  rcases submission with ⟨successful, hash, code⟩
  cases Json.ofString r.body with
  | none => simp
  | some j =>
    rw [Option.bind_some, Option.bind_some]
    constructor
    · intro read
      simp only [readRefusal, Option.bind_eq_bind, Option.bind_eq_some_iff] at read
      obtain ⟨record, carries, code, told, ⟨⟩⟩ := read
      exact ⟨record, carries, told, rfl, rfl⟩
    · rintro ⟨record, carries, told, rfl, rfl⟩
      exact Option.bind_eq_some_iff.2
        ⟨record, carries, Option.bind_eq_some_iff.2 ⟨code, told, rfl⟩⟩

end StellarServer

namespace JsonRpc

def IsCallNumber (j : Json) : Prop :=
  ∃ n : Json.Number, j = .number n ∧ n.whole = true ∧ n.negative = false ∧ n.digits < 2 ^ 64

theorem isSome_asUInt64_iff {j : Json} : j.asUInt64.isSome = true ↔ IsCallNumber j := by
  unfold IsCallNumber
  cases j with
  | number n =>
    rcases n with ⟨negative, digits, exponent, whole⟩
    simp only [Json.asUInt64, Json.intBetween, Json.asInt, Option.isSome_map]
    cases whole <;> cases negative <;> simp <;> omega
  | _ => simp [Json.asUInt64, Json.intBetween, Json.asInt]

/-- A call is answered with this value. -/
inductive Answers : Json → Json → Prop where
  | result (members : List (String × Json)) (record : Json.Record) (number value : Json)
      (known : ∀ member ∈ members, member.1 ∈ responseFields)
      (carries : Json.Record.ofJson? responseFields (.object members) = some record)
      (version : record.fields.lookup "jsonrpc" = some (.string "2.0"))
      (numbered : record.fields.lookup "id" = some number) (whole : IsCallNumber number)
      (noMethod : record.fields.lookup "method" = none)
      (noParams : record.fields.lookup "params" = none)
      (answer : record.fields.lookup "result" = some value)
      (noError : record.fields.lookup "error" = none) : Answers (.object members) value

theorem readResponse_iff {response value : Json} :
    readResponse response = some (.result value) ↔ Answers response value := by
  constructor
  · intro read
    unfold readResponse at read
    cases response with
    | object members =>
      simp only [Option.bind_eq_bind, Option.bind_some, Option.ite_none_right_eq_some,
        Option.bind_eq_some_iff, List.all_eq_true, List.elem_eq_mem, decide_eq_true_eq] at read
      obtain ⟨known, record, carries, version, versioned, number, numbered, rfl, read⟩ := read
      obtain ⟨given, there, whole⟩ := Option.bind_eq_some_iff.1 numbered
      have versioned := Json.Record.required_asText_iff.1 versioned
      have whole : IsCallNumber given := isSome_asUInt64_iff.1 (by simp [whole])
      split at read
      next value isCall answer noError =>
        cases read
        simp only [List.any_cons, List.any_nil, Bool.or_false, Bool.or_eq_false_iff,
          Option.isSome_eq_false_iff, Option.isNone_iff_eq_none] at isCall
        exact .result members record given _ known carries versioned there whole isCall.1 isCall.2
          answer noError
      next => simp at read
      next => cases read
    | _ => cases read
  · rintro ⟨members, record, number, value, known, carries, version, numbered, whole, noMethod,
      noParams, answer, noError⟩
    obtain ⟨n, read⟩ := Option.isSome_iff_exists.1 (isSome_asUInt64_iff.2 whole)
    have versioned := Json.Record.required_asText_iff.2 version
    have counted : record.required "id" Json.asUInt64 = some n := by
      simp only [Json.Record.required, numbered, Option.bind_eq_bind, Option.bind_some, read]
    simpa [readResponse, carries, versioned, counted, noMethod, noParams, answer, noError] using
      fun name j member => known (name, j) member

def IsHexDigit (c : Char) : Prop :=
  '0' ≤ c ∧ c ≤ '9' ∨ 'a' ≤ c ∧ c ≤ 'f' ∨ 'A' ≤ c ∧ c ≤ 'F'

theorem isSome_hexValueOf?_iff {c : Char} : (Text.hexValueOf? c).isSome = true ↔ IsHexDigit c := by
  unfold Text.hexValueOf? IsHexDigit
  split
  next => simp_all
  next =>
    split
    next => simp_all
    next => split <;> simp_all

inductive Spells : Json → List Char → Prop where
  | bare (text : String) (hex : ∀ c ∈ text.toList, IsHexDigit c) :
      Spells (.string text) text.toList
  | marked (text : String) (digits : List Char) (mark : text.toList = '0' :: 'x' :: digits)
      (hex : ∀ c ∈ digits, IsHexDigit c) : Spells (.string text) digits

theorem hexDigits?_iff {value : Json} {digits : List Char} :
    hexDigits? value = some digits ↔ Spells value digits := by
  have all (digits : List Char) : (digits.all fun c => (Text.hexValueOf? c).isSome) = true ↔
      ∀ c ∈ digits, IsHexDigit c := by
    simp only [List.all_eq_true, isSome_hexValueOf?_iff]
  constructor
  · intro read
    cases value with
    | string text =>
      simp only [hexDigits?, Option.ite_none_right_eq_some, Option.some.injEq, all] at read
      obtain ⟨hex, rfl⟩ := read
      split at hex
      next digits mark => simpa only [mark] using Spells.marked text digits mark hex
      next unmarked => exact .bare text hex
    | _ => cases read
  · intro spells
    cases spells with
    | bare text hex =>
      simp only [hexDigits?]
      split
      next digits mark =>
        -- The second character of the mark is no digit.
        have isDigit : IsHexDigit 'x' := hex 'x' (by simp [mark])
        exact absurd isDigit (by unfold IsHexDigit; decide)
      next => simp only [(all _).2 hex, if_true]
    | marked text digits mark hex =>
      simp only [hexDigits?, mark, (all digits).2 hex, if_true]

def NamesHash (value : Json) (hash : String) : Prop :=
  ∃ digits, Spells value digits ∧ digits.length = 64 ∧
    hash = String.ofList ('0' :: 'x' :: digits.map Char.toLower)

theorem readHash_iff {value : Json} {hash : String} :
    readHash value = some hash ↔ NamesHash value hash := by
  simp only [readHash, Option.bind_eq_bind, Option.bind_eq_some_iff, hexDigits?_iff, NamesHash]
  refine exists_congr fun digits => and_congr_right fun _ => ?_
  by_cases length : digits.length = 64
  · simp [length, eq_comm]
  · simp [length]

end JsonRpc

end MultiWallet
