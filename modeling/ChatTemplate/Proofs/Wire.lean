import ChatTemplate.Message.Schema
import ChatTemplate.Proofs.Compilation
import ChatTemplate.Proofs.Draft.Sound
import ChatTemplate.Proofs.Settled

/-!
Messages as JSON. Nothing of a message is lost in its JSON form: what is left out there is what is
read when a field is missing, and attributes cannot be mistaken for fields. Conversely what has been
read is a message that is written and read again without a change.
-/

set_option autoImplicit false

namespace ChatTemplate

/-! ## Items and calls -/

theorem Role.ofJson?_name (role : Role) : ofJson? (.string role.name) = some role :=
  ofName?_name role

private theorem mapM_toJson {α : Type} {toJson : α → Json} {ofJson? : Json → Option α}
    {values : List α} (reads : ∀ value ∈ values, ofJson? (toJson value) = some value) :
    (values.map toJson).mapM ofJson? = some values := by
  induction values with
  | nil => rfl
  | cons value rest ih =>
      have others := ih fun value member => reads value (List.mem_cons_of_mem _ member)
      rw [List.map_cons, List.mapM_cons, reads value List.mem_cons_self, others]
      rfl

private theorem mem_of_mapM {α β : Type} {read? : α → Option β} {items : List α} {values : List β}
    (all : items.mapM read? = some values) :
    ∀ value ∈ values, ∃ item ∈ items, read? item = some value := by
  induction items generalizing values with
  | nil =>
      cases all
      exact nofun
  | cons item rest ih =>
      rw [List.mapM_cons] at all
      obtain ⟨first, read, all⟩ := Option.bind_eq_some_iff.mp all
      obtain ⟨others, readOthers, all⟩ := Option.bind_eq_some_iff.mp all
      cases all
      intro value member
      rcases List.mem_cons.mp member with rfl | later
      · exact ⟨item, List.mem_cons_self, read⟩
      · obtain ⟨source, found, same⟩ := ih readOthers value later
        exact ⟨source, List.mem_cons_of_mem _ found, same⟩

namespace ContentItem

theorem ofJson?_toJson (item : ContentItem) : ofJson? item.toJson = some item := by
  cases item with
  | text words => rfl
  | image source => rfl
  | toolResult callId toolName result isError =>
      cases toolName with
      | none => rfl
      | some name => rfl

theorem toJson_settled (item : ContentItem) : item.toJson.Settled := by
  cases item with
  | text words =>
      have distinct : ["type", "text"].Nodup := by decide
      exact .object distinct (by simp [Json.Settled.string])
  | image source =>
      have distinct : ["type", "image"].Nodup := by decide
      exact .object distinct (by simp [Json.Settled.string])
  | toolResult callId toolName result isError =>
      cases toolName with
      | none =>
          have distinct : ["type", "toolCallId", "result", "isError"].Nodup := by decide
          exact .object distinct (by simp [Json.Settled.string, Json.Settled.boolean])
      | some name =>
          have distinct : ["type", "toolCallId", "toolName", "result", "isError"].Nodup := by decide
          exact .object distinct (by simp [Json.Settled.string, Json.Settled.boolean])

end ContentItem

namespace ToolCall

theorem ofJson?_toJson {call : ToolCall} (settled : call.arguments.Settled) :
    ofJson? call.toJson = some call := by
  have same := settled.collapse
  show some (ToolCall.mk call.id call.name call.arguments.collapse) = some call
  rw [same]

theorem toJson_settled {call : ToolCall} (settled : call.arguments.Settled) :
    call.toJson.Settled := by
  have distinct : fieldNames.Nodup := by decide
  exact .object distinct (by simp [Json.Settled.string, settled])

private theorem settled_of_ofJson? {json : Json} {call : ToolCall}
    (read : ofJson? json = some call) :
    call.arguments.Settled := by
  obtain ⟨entries, -, read⟩ := Option.bind_eq_some_iff.mp read
  obtain ⟨id, -, read⟩ := Option.bind_eq_some_iff.mp read
  obtain ⟨name, -, read⟩ := Option.bind_eq_some_iff.mp read
  obtain ⟨arguments, given, read⟩ := Option.bind_eq_some_iff.mp read
  cases read
  unfold Json.optional? at given
  split at given
  · cases given
    exact .null
  · cases given
    exact Json.settled_collapse _
  · cases given

end ToolCall

/-! ## Messages -/

namespace Message

/-- No JSON object in the message repeats a key, neither in an attribute nor in the arguments of a
call. -/
structure Settled (message : Message) : Prop where
  attributes : ∀ entry ∈ message.attributes.entries, entry.2.Settled
  arguments : ∀ call ∈ message.toolCalls, call.arguments.Settled

/-- No attribute of the message has the name of one of its fields. -/
def Unreserved (message : Message) : Prop :=
  ∀ name ∈ reservedFields, message.attributes.has name = false

/-- The fields of the JSON form that are not attributes. -/
def ownFields (message : Message) : List (String × Json) :=
  [("role", .string message.role.name), ("content", .array (message.content.map (·.toJson)))] ++
    if message.toolCalls.isEmpty then []
      else [("toolCalls", .array (message.toolCalls.map (·.toJson)))]

theorem toFields_eq (message : Message) :
    message.toFields = message.ownFields ++ message.attributes.entries := rfl

private theorem keys_ownFields (message : Message) :
    (Dict.keys message.ownFields).Sublist reservedFields := by
  unfold ownFields
  split
  · exact List.sublist_append_left ["role", "content"] ["toolCalls"]
  · exact List.Sublist.refl _

private theorem occurrences_role (message : Message) :
    Json.occurrences message.ownFields "role" = [.string message.role.name] := by
  unfold ownFields
  split
  · rfl
  · rfl

private theorem occurrences_content (message : Message) :
    Json.occurrences message.ownFields "content" =
      [.array (message.content.map (·.toJson))] := by
  unfold ownFields
  split
  · rfl
  · rfl

private theorem occurrences_toolCalls (message : Message) :
    Json.occurrences message.ownFields "toolCalls" =
      if message.toolCalls.isEmpty then [] else [.array (message.toolCalls.map (·.toJson))] := by
  unfold ownFields
  split
  · rfl
  · rfl

theorem ownFields_settled {message : Message} (settled : message.Settled) :
    ∀ entry ∈ message.ownFields, entry.2.Settled := by
  have content : (Json.array (message.content.map (·.toJson))).Settled := by
    refine .array fun json member => ?_
    obtain ⟨item, -, rfl⟩ := List.mem_map.mp member
    exact item.toJson_settled
  have calls : (Json.array (message.toolCalls.map (·.toJson))).Settled := by
    refine .array fun json member => ?_
    obtain ⟨call, called, rfl⟩ := List.mem_map.mp member
    exact ToolCall.toJson_settled (settled.arguments call called)
  unfold ownFields
  split
  · simp [Json.Settled.string, content]
  · simp [Json.Settled.string, content, calls]

theorem toJson_settled {message : Message} (settled : message.Settled)
    (unreserved : message.Unreserved) : message.toJson.Settled := by
  have own := message.keys_ownFields
  have apart : ∀ name ∈ Dict.keys message.ownFields, ∀ other ∈ message.attributes.names,
      name ≠ other := by
    intro name reserved other taken same
    rw [← same] at taken
    have present := Dict.has_iff_mem_names.mpr taken
    exact absurd present (Bool.eq_false_iff.mp (unreserved name (own.subset reserved)))
  have distinct : Dict.Distinct message.toFields := by
    rw [Dict.Distinct, toFields_eq, Dict.keys_append, Dict.keys_entries]
    exact List.nodup_append.mpr ⟨own.nodup (by decide), message.attributes.names_nodup, apart⟩
  refine .object distinct fun entry member => ?_
  rcases List.mem_append.mp member with field | further
  · exact ownFields_settled settled entry field
  · exact settled.attributes entry further

private theorem occurrences_toFields {message : Message} (unreserved : message.Unreserved)
    {name : String} (reserved : name ∈ reservedFields) :
    Json.occurrences message.toFields name = Json.occurrences message.ownFields name := by
  rw [toFields_eq, Json.occurrences_append, Json.occurrences_of_absent (unreserved name reserved),
    List.append_nil]

/-- What is none of the fields is the attributes, in their order. -/
theorem others_toFields {message : Message} (unreserved : message.Unreserved) :
    (message.toFields.filter fun entry => !reservedFields.contains entry.1) =
      message.attributes.entries := by
  have none : message.ownFields.filter (fun entry => !reservedFields.contains entry.1) = [] := by
    refine List.filter_eq_nil_iff.mpr fun entry member => ?_
    have reserved := message.keys_ownFields.subset (List.mem_map_of_mem member)
    simpa using reserved
  have all : message.attributes.entries.filter (fun entry => !reservedFields.contains entry.1) =
      message.attributes.entries := by
    refine List.filter_eq_self.mpr fun entry member => ?_
    have present : message.attributes.has entry.1 = true := by
      rw [Dict.has, Dict.get?_of_mem member, Option.isSome_some]
    have free : entry.1 ∉ reservedFields := fun reserved =>
      absurd present (Bool.eq_false_iff.mp (unreserved entry.1 reserved))
    simpa using free
  rw [toFields_eq, List.filter_append, none, all, List.nil_append]

theorem ofJson?_toJson {message : Message} (settled : message.Settled)
    (unreserved : message.Unreserved) : ofJson? message.toJson = some message := by
  have role : Json.required? message.toFields "role" Role.ofJson? = some message.role := by
    rw [Json.required?, occurrences_toFields unreserved (by decide), occurrences_role]
    exact message.role.ofJson?_name
  have items : (message.content.map (·.toJson)).mapM ContentItem.ofJson? = some message.content :=
    mapM_toJson fun item _ => item.ofJson?_toJson
  have content : Json.required? message.toFields "content" (Json.asList? ContentItem.ofJson?) =
      some message.content := by
    rw [Json.required?, occurrences_toFields unreserved (by decide), occurrences_content]
    exact items
  have calls : (message.toolCalls.map (·.toJson)).mapM ToolCall.ofJson? = some message.toolCalls :=
    mapM_toJson fun call called => ToolCall.ofJson?_toJson (settled.arguments call called)
  have toolCalls : Json.optional? message.toFields "toolCalls" []
      (Json.asList? ToolCall.ofJson?) = some message.toolCalls := by
    rw [Json.optional?, occurrences_toFields unreserved (by decide), occurrences_toolCalls]
    cases given : message.toolCalls with
    | nil => rfl
    | cons first rest =>
        rw [given] at calls
        exact calls
  have attributes : Dict.ofEntries (message.attributes.entries.map fun entry =>
      (entry.1, entry.2.collapse)) = message.attributes := by
    have same : ∀ entry ∈ message.attributes.entries, (entry.1, entry.2.collapse) = entry :=
      fun entry member => Prod.ext rfl (settled.attributes entry member).collapse
    rw [List.map_congr_left same, List.map_id', Dict.ofEntries_entries]
  unfold ofJson? toJson Json.asObject?
  simp only [Option.bind_eq_bind, Option.bind_some, role, content, toolCalls,
    others_toFields unreserved, attributes]

/-- What has been read is settled, and none of its attributes has the name of a field. -/
theorem settled_of_ofJson? {json : Json} {message : Message} (read : ofJson? json = some message) :
    message.Settled ∧ message.Unreserved := by
  obtain ⟨entries, -, read⟩ := Option.bind_eq_some_iff.mp read
  obtain ⟨role, -, read⟩ := Option.bind_eq_some_iff.mp read
  obtain ⟨content, -, read⟩ := Option.bind_eq_some_iff.mp read
  obtain ⟨toolCalls, calls, read⟩ := Option.bind_eq_some_iff.mp read
  cases read
  refine ⟨⟨?_, ?_⟩, ?_⟩
  · intro entry member
    obtain ⟨source, -, rfl⟩ := List.mem_map.mp (Dict.mem_ofEntries member)
    exact Json.settled_collapse source.2
  · intro call called
    unfold Json.optional? at calls
    split at calls
    · cases calls
      cases called
    · rename_i json _
      cases json with
      | array items =>
          obtain ⟨item, -, read⟩ := mem_of_mapM calls call called
          exact ToolCall.settled_of_ofJson? read
      | _ => cases calls
    · cases calls
  · intro name reserved
    rw [Bool.eq_false_iff]
    intro present
    obtain ⟨value, found⟩ := Option.isSome_iff_exists.mp present
    obtain ⟨source, kept, same⟩ := List.mem_map.mp (Dict.mem_ofEntries (Dict.mem_of_get? found))
    cases same
    have free := (List.mem_filter.mp kept).2
    simp [reserved] at free

/-- The messages of a compilation have no attributes with the name of a field. -/
theorem unreserved_of_compileWithin {σ : Type} {settings : Settings} {registry : Registry}
    {host : Host σ} {now : Int} {interruption : Template.Interruption σ} {template : Template}
    {scope : Scope} {world : σ} {machine : Machine σ} {messages : List Message}
    (compiled : template.compileWithin settings registry host now interruption scope world =
      (machine, some (.ok messages))) : ∀ message ∈ messages, message.Unreserved := by
  obtain ⟨final, ended, _, finished⟩ := Template.walk_of_compileWithin compiled
  have sound := Template.invariant_of_walk ended (Draft.sound_ofSettings settings)
    fun _ _ _ _ reached nested sound walked done =>
      (Draft.step_of_apply nested done).sound walked reached nested sound
  have traced := sound.finished (Template.applyAll_of_walk ended).1 finished
  intro message member
  obtain ⟨place, found⟩ := List.getElem?_of_mem member
  exact (traced place message found).1.reserved

/-- The JSON form of a message repeats no key and is read as the same message; what has been read is
a message whose JSON form is read as the same message again; and a compilation yields only messages
whose attributes leave the names of the fields alone. -/
theorem wire_lossless :
    (∀ message : Message, message.Settled → message.Unreserved →
      message.toJson.Settled ∧ ofJson? message.toJson = some message) ∧
    (∀ (json : Json) (message : Message), ofJson? json = some message →
      message.Settled ∧ message.Unreserved ∧ ofJson? message.toJson = some message) ∧
    ∀ {σ : Type} (settings : Settings) (registry : Registry) (host : Host σ) (now : Int)
      (interruption : Template.Interruption σ) (template : Template) (scope : Scope) (world : σ)
      (machine : Machine σ) (messages : List Message),
      template.compileWithin settings registry host now interruption scope world =
        (machine, some (.ok messages)) → ∀ message ∈ messages, message.Unreserved := by
  refine ⟨?_, ?_, ?_⟩
  · intro message settled unreserved
    exact ⟨toJson_settled settled unreserved, ofJson?_toJson settled unreserved⟩
  · intro json message read
    obtain ⟨settled, unreserved⟩ := settled_of_ofJson? read
    exact ⟨settled, unreserved, ofJson?_toJson settled unreserved⟩
  · intro σ settings registry host now interruption template scope world machine messages compiled
    exact unreserved_of_compileWithin compiled

/-- A message with all that a message may have. -/
def forecast : Message where
  role := .assistant
  content := [.text "Sunny.", .image "sun.png", .toolResult "call" none "21" false,
    .toolResult "call" (some "weather") "" true]
  toolCalls := [⟨"next", "weather", .object [("city", .string "Riga"), ("days", .array [.null])]⟩]
  attributes := .ofEntries [("name", .string "Ada"), ("place", .object [("lat", .integer 57)])]

/-- The JSON form of a message that repeats the key of an attribute. -/
def repeatedName : Json :=
  .object
    [("name", .null), ("role", .string "user"), ("content", .array []), ("name", .boolean true)]

end Message

def Template.signedMessage : Template :=
  .element "user" [.parts "name" [.text "Ada" {}] {}] [.text "Hi" {}] true {}

theorem forecast_wire_lossless :
    (Message.forecast.toJson.Settled ∧
      Message.ofJson? Message.forecast.toJson = some Message.forecast) ∧
    (∃ message, Message.ofJson? Message.repeatedName = some message ∧
      message.attributes = .ofEntries [("name", .boolean true)] ∧
      Message.ofJson? message.toJson = some message) ∧
    ∃ (machine : Machine Unit) (message : Message),
      Template.signedMessage.compileWithin {} {} Host.silent 0
          ⟨false, fun _ => false, fun _ _ => false⟩ Scope.empty () =
        (machine, some (.ok [message])) ∧
      message.attributes = .ofEntries [("name", .string "Ada")] ∧ message.Unreserved := by
  obtain ⟨written, read, compiled⟩ := Message.wire_lossless
  have fields : ["city", "days"].Nodup := by decide
  have latitude : ["lat"].Nodup := by decide
  have place : (Json.object [("lat", .integer 57)]).Settled :=
    .object latitude (by simp [Json.Settled.integer])
  have days : (Json.array [.null]).Settled := .array (by simp [Json.Settled.null])
  have arguments : (Json.object [("city", .string "Riga"), ("days", .array [.null])]).Settled :=
    .object fields (by simp [Json.Settled.string, days])
  have settled : Message.forecast.Settled := by
    refine ⟨?_, ?_⟩
    · have entries : Message.forecast.attributes.entries =
          [("name", .string "Ada"), ("place", .object [("lat", .integer 57)])] := rfl
      simp [entries, Json.Settled.string, place]
    · simp [Message.forecast, arguments]
  have unreserved : Message.forecast.Unreserved := by
    unfold Message.Unreserved
    decide
  have repeated : Message.ofJson? Message.repeatedName =
      some { role := .user, content := []
             attributes := .ofEntries [("name", .boolean true)] } := rfl
  refine ⟨written _ settled unreserved, ⟨_, repeated, rfl, (read _ _ repeated).2.2⟩, ?_⟩
  have done : Template.signedMessage.compileWithin {} {} Host.silent 0
      ⟨false, fun _ => false, fun _ _ => false⟩ Scope.empty () =
        (⟨Scope.empty, (), #[]⟩, some (.ok
          [{ role := .user, content := [.text "Hi"]
             attributes := .ofEntries [("name", .string "Ada")] }])) := rfl
  exact ⟨_, _, done, rfl, compiled _ _ _ _ _ _ _ _ _ _ done _ List.mem_cons_self⟩

end ChatTemplate
