import ChatTemplate.Proofs.Compilation
import ChatTemplate.Proofs.Double.Reading
import ChatTemplate.Proofs.Draft.Stretch

/-!
How a tool result refers to its tool call. The call has the text of a value, the result has the text
of the value's JSON form. For texts, truth values, lists and maps they are the same. For numbers
they are where JSON has an integer, and otherwise where both layouts write the same digits in a form
that they share.
-/

set_option autoImplicit false

namespace ChatTemplate

/-! ## Numbers in both layouts -/

theorem Decimal.mark_not_mem_digits (decimal : Decimal) : 'e' ∉ decimal.digits :=
  fun member => absurd (decimal.areDigits_digits _ member) (by decide)

namespace Layout

section Forms

variable {layout : Layout} {digits : List Char} {point : Int}

/-- The mark of an exponent stands in no other form of a number. -/
theorem mem_positive (plain : 'e' ∉ digits) (unmarked : 'e' ∉ layout.wholeMark.toList) :
    'e' ∈ (layout.positive digits point).toList ↔
      ¬ (layout.lowest < point ∧ point ≤ layout.highest) := by
  by_cases inside : layout.lowest < point ∧ point ≤ layout.highest
  · have front : 'e' ∉ digits.take point.toNat := fun member => plain (List.mem_of_mem_take member)
    have back : 'e' ∉ digits.drop point.toNat := fun member => plain (List.mem_of_mem_drop member)
    refine iff_of_false ?_ (not_not_intro inside)
    rw [positive_inside inside]
    split
    · simp [toList_zeros, plain, unmarked]
    · split
      · simp [front, back]
      · simp [toList_zeros, plain]
  · refine iff_of_true ?_ inside
    simp [positive_outside inside]

end Forms

/-- A decimal that both layouts write with an exponent, or both with a fraction and without one. -/
def Shared (digits : List Char) (point : Int) : Prop :=
  point ≤ -6 ∨ (-5 < point ∧ point < digits.length ∧ point ≤ 16) ∨ 21 < point

private theorem positive_plain_eq_json_iff {digits : List Char} {point : Int}
    (unmarked : 'e' ∉ digits) :
    plain.positive digits point = json.positive digits point ↔ Shared digits point := by
  have plainMarked : 'e' ∈ (plain.positive digits point).toList ↔ ¬ (-6 < point ∧ point ≤ 21) :=
    mem_positive unmarked (by decide)
  have jsonMarked : 'e' ∈ (json.positive digits point).toList ↔ ¬ (-5 < point ∧ point ≤ 16) :=
    mem_positive unmarked (by decide)
  by_cases exponent : -5 < point ∧ point ≤ 16
  · have wide : -6 < point ∧ point ≤ 21 := by omega
    rw [positive_inside (show plain.lowest < point ∧ _ from wide),
      positive_inside (show json.lowest < point ∧ _ from exponent)]
    by_cases whole : (digits.length : Int) ≤ point
    · rw [if_pos whole, if_pos whole]
      refine iff_of_false (fun same => ?_) (by rw [Shared]; omega)
      have lengths := congrArg String.length same
      simp [plain, json] at lengths
    · rw [if_neg whole, if_neg whole]
      exact iff_of_true rfl (by rw [Shared]; omega)
  · by_cases positional : -6 < point ∧ point ≤ 21
    · refine iff_of_false (fun same => ?_) (by rw [Shared]; omega)
      rw [same] at plainMarked
      exact plainMarked.mp (jsonMarked.mpr exponent) positional
    · rw [positive_outside (show ¬ (plain.lowest < point ∧ _) from positional),
        positive_outside (show ¬ (json.lowest < point ∧ _) from exponent)]
      exact iff_of_true rfl (by rw [Shared]; omega)

/-- A text that numbers have in two layouts is made of one decimal, which its numeral has the value
of. -/
theorem decimal_of_text_eq {layout layout' : Layout} (readable : layout.Readable)
    (readable' : layout'.Readable) {x : Double} (finite : x.isFinite = true)
    (nonzero : x.isZero = false) (same : layout.text x = layout'.text x) :
    (layout.decimal x).digits = (layout'.decimal x).digits ∧
      (layout.decimal x).point = (layout'.decimal x).point := by
  obtain ⟨positive, -⟩ := layout.ofDecimal_decimal finite nonzero
  obtain ⟨positive', -⟩ := layout'.ofDecimal_decimal finite nonzero
  obtain ⟨first, others, digits, -⟩ := Decimal.exists_first_digit positive
  obtain ⟨first', others', digits', -⟩ := Decimal.exists_first_digit positive'
  obtain ⟨numeral, form, wellFormed, spelled⟩ := readable.exists_form_text finite nonzero
  obtain ⟨numeral', form', wellFormed', spelled'⟩ := readable'.exists_form_text finite nonzero
  obtain rfl : numeral = numeral' := by
    have reads := wellFormed.read?
    rw [← spelled, same, spelled', wellFormed'.read?] at reads
    exact (Option.some.inj reads).symm
  have size := Numeral.size_of_form form (digits ▸ List.cons_ne_nil first others)
  have size' := Numeral.size_of_form form' (digits' ▸ List.cons_ne_nil first' others')
  refine Decimal.digits_of_value positive positive' ?_
  rw [Decimal.value_of_digits, Decimal.value_of_digits, ← size, ← size']

/-- A number is written alike in both layouts when both take the same decimal, which is the case
unless an exact tie between two neighbours goes different ways, and both share its form. -/
theorem text_plain_eq_json_iff {x : Double} (finite : x.isFinite = true)
    (nonzero : x.isZero = false) :
    plain.text x = json.text x ↔ (plain.decimal x).digits = (json.decimal x).digits ∧
      (plain.decimal x).point = (json.decimal x).point ∧
        Shared (json.decimal x).digits (json.decimal x).point := by
  have shared : plain.positive (json.decimal x).digits (json.decimal x).point = _ ↔ _ :=
    positive_plain_eq_json_iff (Decimal.mark_not_mem_digits (json.decimal x))
  constructor
  · intro same
    obtain ⟨digits, point⟩ := decimal_of_text_eq readable_plain readable_json finite nonzero same
    rw [text_of_nonzero plain finite nonzero, text_of_nonzero json finite nonzero, digits, point,
      String.append_right_inj] at same
    exact ⟨digits, point, shared.mp same⟩
  · rintro ⟨digits, point, form⟩
    rw [text_of_nonzero plain finite nonzero, text_of_nonzero json finite nonzero, digits, point,
      shared.mpr form]

end Layout

/-! ## Values in both forms -/

namespace Value

/-- Values that a tool result can refer to a call by. A number is one if it is whole and below
9 * 10 ^ 15 in size, or if both layouts take the same digits for it, put the point in the same place
and share the form. -/
def Referable : Value → Prop
  | .string _ | .boolean _ | .list _ | .map _ => True
  | .number x => (x.isWhole = true ∧ x.truncate.natAbs < 9 * 10 ^ 15) ∨
      (x.isFinite = true ∧
        (Layout.plain.decimal x).digits = (Layout.json.decimal x).digits ∧
        (Layout.plain.decimal x).point = (Layout.json.decimal x).point ∧
        Layout.Shared (Layout.json.decimal x).digits (Layout.json.decimal x).point)
  | .null | .function _ => False

private theorem isZero_of_not_integer {x : Double}
    (fractional : ¬ (x.isWhole = true ∧ x.truncate.natAbs < 9 * 10 ^ 15)) : x.isZero = false := by
  cases x with
  | nan => rfl
  | infinite negative => rfl
  | finite negative exponent fraction =>
      refine Bool.eq_false_iff.mpr fun zero => fractional ?_
      have none : (Double.finite negative exponent fraction).magnitude = 0 := beq_iff_eq.mp zero
      rw [Double.isWhole, Double.truncate, none]
      simp

private theorem jsonText_numberToJson (x : Double) :
    Draft.jsonText (numberToJson x) = Layout.plain.text x ↔ (Value.number x).Referable := by
  rw [numberToJson, Referable]
  by_cases integer : x.isWhole = true ∧ x.truncate.natAbs < 9 * 10 ^ 15
  · rw [if_pos (by simpa using integer), Layout.plain_text_whole integer.1 integer.2]
    exact iff_of_true rfl (.inl integer)
  · rw [if_neg (by simpa using integer), Json.ofDouble, or_iff_right integer]
    by_cases finite : x.isFinite = true
    · rw [if_pos finite, Draft.jsonText, Json.text, if_pos finite, eq_comm, and_iff_right finite]
      · exact Layout.text_plain_eq_json_iff finite (isZero_of_not_integer integer)
      · exact nofun
    · refine iff_of_false ?_ fun alike => finite alike.1
      rw [if_neg finite]
      cases x with
      | nan => decide
      | infinite negative => cases negative with
        | true => decide
        | false => decide
      | finite negative exponent fraction => exact absurd rfl finite

theorem jsonText_toJson (value : Value) :
    Draft.jsonText value.toJson = value.text ↔ value.Referable := by
  cases value with
  | null => simp [toJson, Draft.jsonText, Json.text, text, Referable]
  | boolean value => simp [toJson, Draft.jsonText, Json.text, text, Referable]
  | number x => exact jsonText_numberToJson x
  | string value => simp [toJson, Draft.jsonText, text, Referable]
  | list items => simp [toJson, Draft.jsonText, text, Referable]
  | map entries => simp [toJson, Draft.jsonText, text, Referable]
  | function name => simp [toJson, Draft.jsonText, Json.text, text, Referable]

end Value

/-! ## Attributes of both tags -/

namespace Attributes

private theorem get?_take_of_ne (attributes : Attributes) {name other : String}
    (different : other ≠ name) :
    (attributes.take name).2.values.get? other = attributes.values.get? other :=
  Dict.get?_erase_of_ne _ different

private theorem takeRequired_of_get? {attributes : Attributes} {name : String} {value : Value}
    (found : attributes.values.get? name = some value) :
    attributes.takeRequired name = (.ok value.text, (attributes.take name).2) := by
  rw [takeRequired, take, found]

/-- For the role of a message nothing but the attribute `role` is taken out. -/
theorem takeRole_snd (implied : Option Role) (attributes : Attributes) :
    (attributes.takeRole implied).2 = (attributes.take "role").2 := by
  cases implied with
  | none =>
      cases found : attributes.values.get? "role" with
      | none => simp [takeRole, takeRequired, take, found]
      | some value =>
          rw [takeRole, takeRequired_of_get? found]
          dsimp only
          split
          · rfl
          · rfl
  | some role =>
      cases found : attributes.values.get? "role" with
      | none => simp [takeRole, take, found]
      | some value =>
          simp only [takeRole, take, found]
          split
          · rfl
          · rfl

theorem texts_of_toolCall {attributes : Attributes} {children : List Template} {call : ToolCall}
    {x y : Value} (declared : attributes.toolCall children = .ok call)
    (id : attributes.values.get? "id" = some x)
    (name : attributes.values.get? "name" = some y) :
    call.id = x.text ∧ call.name = y.text := by
  have name' : (attributes.take "id").2.values.get? "name" = some y := by
    rw [get?_take_of_ne _ (by decide), name]
  obtain ⟨hasId, hasName, -⟩ := parts_of_toolCall declared
  rw [takeRequired_of_get? id] at hasId hasName
  rw [takeRequired_of_get? name'] at hasName
  exact ⟨(Except.ok.inj hasId).symm, (Except.ok.inj hasName).symm⟩

private theorem toolCall_of_get? {attributes : Attributes} {x y : Value}
    (id : attributes.values.get? "id" = some x) (name : attributes.values.get? "name" = some y)
    (bare : attributes.values.get? "arguments" = none) :
    attributes.toolCall [] = .ok ⟨x.text, y.text, .object []⟩ := by
  have name' : (attributes.take "id").2.values.get? "name" = some y := by
    rw [get?_take_of_ne _ (by decide), name]
  have bare' : (((attributes.take "id").2.take "name").2.take "arguments").1 = none := by
    rw [take, get?_take_of_ne _ (by decide), get?_take_of_ne _ (by decide), bare]
  rw [toolCall, takeRequired_of_get? id]
  dsimp only
  rw [takeRequired_of_get? name']
  dsimp only
  rw [bare']
  rfl

/-- What a message tag leaves for the message has the JSON forms of its attributes. -/
theorem get?_toJson_takeRole {attributes : Attributes} {name : String} {value : Value}
    (implied : Option Role) (found : attributes.values.get? name = some value)
    (other : name ≠ "role") :
    (attributes.takeRole implied).2.toJson.get? name = some value.toJson := by
  rw [takeRole_snd, toJson, Dict.get?_mapValues, get?_take_of_ne _ other, found]
  rfl

end Attributes

/-- A tool call and a tool message that have the same values as attributes: the call has the texts
of the values, each result the texts of their JSON forms. They are the same exactly for values that
can be referred to. -/
theorem Attributes.result_refers_to_call {calling answering left : Attributes}
    {children : List Template} {call : ToolCall} {implied : Option Role} {x y : Value}
    (callId : calling.values.get? "id" = some x)
    (callName : calling.values.get? "name" = some y)
    (answerId : answering.values.get? "id" = some x)
    (answerName : answering.values.get? "name" = some y)
    (declared : calling.toolCall children = .ok call)
    (taken : answering.takeRole implied = (.ok .tool, left)) (span : Span)
    (items : List ContentItem) :
    call.id = x.text ∧ call.name = y.text ∧
      Draft.closedContent ⟨.tool, left.toJson, span⟩ items =
        items.map (.answering (Draft.jsonText x.toJson) (some (Draft.jsonText y.toJson))) ∧
      (Draft.jsonText x.toJson = call.id ↔ x.Referable) ∧
      (Draft.jsonText y.toJson = call.name ↔ y.Referable) := by
  obtain ⟨id, name⟩ := texts_of_toolCall declared callId callName
  have hasId := get?_toJson_takeRole implied answerId (by decide)
  have hasName := get?_toJson_takeRole implied answerName (by decide)
  rw [taken] at hasId hasName
  have content := Draft.closedContent_of_answer
    (show (OpenMessage.mk .tool left.toJson span).role = .tool from rfl) hasId items
  dsimp only at content
  rw [hasName] at content
  refine ⟨id, name, content, ?_, ?_⟩
  · rw [id]
    exact x.jsonText_toJson
  · rw [name]
    exact y.jsonText_toJson

theorem Attributes.sum_refers_to_call :
    toolCall ⟨"tool-call", .ofEntries [("id", .ofNat 7), ("name", .string "add")]⟩ [] =
        .ok ⟨"7", "add", .object []⟩ ∧
      Draft.closedContent
          ⟨.tool, toJson ⟨"message", .ofEntries [("id", .ofNat 7), ("name", .string "add")]⟩, {}⟩
          [.text "12"] =
        [.toolResult "7" (some "add") "12" false] ∧
      (Value.ofNat 7).Referable := by
  have callText : (Value.ofNat 7).text = "7" := by decide +kernel
  have resultText : Draft.jsonText (Value.ofNat 7).toJson = "7" := by decide +kernel
  have declared :
      toolCall ⟨"tool-call", .ofEntries [("id", .ofNat 7), ("name", .string "add")]⟩ [] =
        .ok ⟨(Value.ofNat 7).text, "add", .object []⟩ := rfl
  have taken : takeRole none
      ⟨"message", .ofEntries [("id", .ofNat 7), ("role", .string "tool"), ("name", .string "add")]⟩ =
        (.ok .tool, ⟨"message", .ofEntries [("id", .ofNat 7), ("name", .string "add")]⟩) := rfl
  rw [callText] at declared
  obtain ⟨-, -, content, refers, -⟩ :=
    Attributes.result_refers_to_call rfl rfl rfl rfl declared taken {} [.text "12"]
  rw [resultText] at content
  exact ⟨declared, content, refers.mp resultText⟩

/-! ## A call and its answer -/

/-- A tag with the variables `id` and `name` as attributes of these names. -/
def Template.referring (tag : String) (children : List Template) : Template :=
  .element tag
    [.parts "id" [.interpolation (.identifier "id" {}) {}] {},
      .parts "name" [.interpolation (.identifier "name" {}) {}] {}] children true {}

/-- A message with a tool call, and a tool message behind it that refers to the call. -/
def Template.answeredCall (words : String) : Template :=
  .fragment [.element "assistant" [] [.referring "tool-call" []] true {},
    .referring "tool" [.text words {}]] {}

def Scope.ofReference (id name : Value) : Scope :=
  (Scope.empty.declare "id" id).declare "name" name

variable {σ : Type}

theorem Attributes.evaluate_reference (host : Host σ) (tag : String) (id name : Value) (world : σ) :
    evaluate host false tag
        [.parts "id" [.interpolation (.identifier "id" {}) {}] {},
          .parts "name" [.interpolation (.identifier "name" {}) {}] {}]
        ⟨.ofReference id name, world, #[]⟩ =
      .done ⟨.ofReference id name, world, #[]⟩
        (.ok ⟨tag, .ofEntries [("id", id), ("name", name)]⟩) :=
  rfl

theorem Template.toolCall_performs (host : Host σ) (id name : Value) (world : σ) :
    ((referring "tool-call" []).walk host false).Performs ⟨.ofReference id name, world, #[]⟩
      [.addToolCall ⟨{}, id.text, name.text, .object []⟩] := by
  have evaluated := Attributes.evaluate_reference host "tool-call" id name world
  exact Walk.performs_toolCall rfl evaluated (Attributes.toolCall_of_get? rfl rfl rfl)

theorem Template.question_performs (host : Host σ) (id name : Value) (world : σ) :
    ((element "assistant" [] [referring "tool-call" []] true {}).walk host false).Performs
      ⟨.ofReference id name, world, #[]⟩
      [.openMessage .assistant ∅ {}, .addToolCall ⟨{}, id.text, name.text, .object []⟩,
        .closeMessage] := by
  have evaluated : Attributes.evaluate host false "assistant" []
      ⟨.ofReference id name, world, #[]⟩ =
        .done ⟨.ofReference id name, world, #[]⟩ (.ok ⟨"assistant", ∅⟩) := rfl
  have taken : Attributes.takeRole (some .assistant) ⟨"assistant", ∅⟩ =
      (.ok .assistant, ⟨"assistant", ∅⟩) := rfl
  have call := toolCall_performs host id name world
  exact Walk.performs_message rfl evaluated taken rfl (call.bind (Action.performs_pure _))

theorem Template.answer_performs (host : Host σ) (id name : Value) (words : String) (world : σ) :
    ((referring "tool" [.text words {}]).walk host false).Performs
      ⟨.ofReference id name, world, #[]⟩
      [.openMessage .tool (.ofEntries [("id", id.toJson), ("name", name.toJson)]) {},
        .addTextAt words {}, .closeMessage] := by
  have taken : Attributes.takeRole (some .tool) ⟨"tool", .ofEntries [("id", id), ("name", name)]⟩ =
      (.ok .tool, ⟨"tool", .ofEntries [("id", id), ("name", name)]⟩) := rfl
  have spoken := Walk.performs_perform ⟨.ofReference id name, world, #[]⟩ (.addTextAt words {}) {}
  exact Walk.performs_message rfl (Attributes.evaluate_reference host "tool" id name world) taken
    rfl (spoken.bind (Action.performs_pure _))

theorem Template.answeredCall_performs (host : Host σ) (id name : Value) (words : String)
    (world : σ) :
    ((answeredCall words).walk host false).Performs ⟨.ofReference id name, world, #[]⟩
      [.openMessage .assistant ∅ {}, .addToolCall ⟨{}, id.text, name.text, .object []⟩,
        .closeMessage,
        .openMessage .tool (.ofEntries [("id", id.toJson), ("name", name.toJson)]) {},
        .addTextAt words {}, .closeMessage] := by
  have question := question_performs host id name world
  have answer := answer_performs host id name words world
  exact question.bind (answer.bind (Action.performs_pure _))

theorem Draft.applyAll_answeredCall (call : PlacedCall) (attributes : Dict Json) {words : String}
    (spoken : Text.isBlank words = false) (span : Span) :
    (Draft.ofSettings {}).applyAll
        [.openMessage .assistant ∅ span, .addToolCall call, .closeMessage,
          .openMessage .tool attributes span, .addTextAt words span, .closeMessage] =
      (.ok (), { messages :=
        [{ role := .assistant, content := [], toolCalls := [call.call] },
          { role := .tool, content := closedContent ⟨.tool, attributes, span⟩ [.text words],
            attributes }] }) := by
  have empty : Text.isBlank "" = true := by decide
  simp [applyAll, apply, openMessage, closeMessage, addToolCall, addTextAt, addText, settleRoot,
    settleText, takeText, takeItems, takeCalls, insideMessage, insideContent, currentRole?,
    ofSettings, closedContent, spoken, empty]

/-- Whatever the values of the variables are, the call has their texts, and the answer has the texts
of their JSON forms. -/
theorem Template.compile_answeredCall (host : Host σ) (now : Int) (id name : Value) {words : String}
    (spoken : Text.isBlank words = false) (world : σ) :
    (answeredCall words).compile {} {} host now (.ofReference id name) world =
      .done ⟨.ofReference id name, world, #[]⟩ (.ok
        [{ role := .assistant, content := [], toolCalls := [⟨id.text, name.text, .object []⟩] },
          { role := .tool
            content := [.toolResult (Draft.jsonText id.toJson) (some (Draft.jsonText name.toJson))
              words false]
            attributes := .ofEntries [("id", id.toJson), ("name", name.toJson)] }]) := by
  have performs : ((answeredCall words).walk host ({} : Settings).implicitDeclarations).Performs
      (.starting {} {} now (.ofReference id name) world) _ :=
    answeredCall_performs host id name words world
  exact compile_of_performs performs (Draft.applyAll_answeredCall _ _ spoken _)

/-- The number 10 ^ 16 is too large for an integer in JSON, and there it has an exponent. -/
theorem Template.tenQuadrillion_not_referred :
    (answeredCall "done").compile {} {} Host.silent 0
        (.ofReference (.ofNat (10 ^ 16)) (.ofNat (10 ^ 16))) () =
      .done ⟨.ofReference (.ofNat (10 ^ 16)) (.ofNat (10 ^ 16)), (), #[]⟩ (.ok
        [{ role := .assistant, content := []
           toolCalls := [⟨"10000000000000000", "10000000000000000", .object []⟩] },
          { role := .tool, content := [.toolResult "1e+16" (some "1e+16") "done" false]
            attributes := .ofEntries [("id", (Value.ofNat (10 ^ 16)).toJson),
              ("name", (Value.ofNat (10 ^ 16)).toJson)] }]) ∧
      ¬ (Value.ofNat (10 ^ 16)).Referable := by
  have callText : (Value.ofNat (10 ^ 16)).text = "10000000000000000" := by decide +kernel
  have resultText : Draft.jsonText (Value.ofNat (10 ^ 16)).toJson = "1e+16" := by decide +kernel
  have compiled := compile_answeredCall Host.silent 0 (.ofNat (10 ^ 16)) (.ofNat (10 ^ 16))
    (by decide : Text.isBlank "done" = false) ()
  rw [callText, resultText] at compiled
  refine ⟨compiled, fun referable => ?_⟩
  have same := (Value.ofNat (10 ^ 16)).jsonText_toJson.mpr referable
  rw [callText, resultText] at same
  exact absurd same (by decide)

end ChatTemplate
