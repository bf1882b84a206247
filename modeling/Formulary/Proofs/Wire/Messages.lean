import Formulary.Proofs.Json.Lines
import Formulary.Proofs.Json.Records
import Formulary.Wire.Read
import Formulary.Wire.Write

/-!
# Messages read back

What a server sends is read back as the message that it is, if the numbers in it are within their
bounds and its free values are sorted (`ServerMessage.ofWritten?_toJson`). It is never taken for a
message of the other kind. Only null as the data of an error does not arrive
(`ServerMessage.ofWritten?_received`). So is what a client sends read back as the request that it is
(`Request.ofWritten?_toJson`). The records that are sent as results are read back with their members
in any order (`CheckResult.readsSorted_toJson`, `EntryRecord.readsSorted_toJson`), and so are those
that are sent as parameters.
-/

namespace Formulary.Wire

open Formulary (Json)
open Json (ReadsSorted Written)

/-- A value that was written is read from its text like the value itself. -/
theorem read?_compact {α : Type} (read : Nat → Written → Option α) {v : Json} (h : v.IsExact) :
    read? read v.compact = read Json.greatestHeight v.asWritten := by
  have hread : Json.read? (Bytes.ofText v.compact) = some v.asWritten := Json.read?_bytes h
  rw [read?, hread]
  rfl

/-! ## Fields -/

variable {fields : Json.Fields} {name : String}

/-- A number that fits is read as it was written. -/
theorem word?_int {n bits : Nat} (h : n < 2 ^ bits) :
    (Json.int n).asWritten.word? bits = some n := by
  have hpow : Nat.pow 2 bits = 2 ^ bits := rfl
  have hbounds : (0 : Int) ≤ n ∧ (n : Int) ≤ Nat.pow 2 bits - 1 := by
    rw [hpow]
    omega
  rw [Json.int, Json.asWritten, Written.word?, Written.between?, if_pos hbounds]
  rfl

/-- An id is read from where it was written. -/
theorem required_id {id : Nat} (h : fields.lookup name = some (Json.int id).asWritten)
    (hid : id < 2 ^ 64) :
    fields.required name (Written.word? 64) = some id := by
  rw [Json.Fields.required, h]
  exact word?_int hid

/-- A free value in order is read as it is. -/
theorem required_free {v : Json} {room : Nat} (h : fields.lookup name = some v.asWritten)
    (hroom : v.height ≤ room) (hv : v.sorted = v) :
    fields.required name (Written.free? room) = some v := by
  rw [Json.Fields.required, h]
  exact (Json.free?_asWritten hroom).trans (congrArg some hv)

theorem required_text {s : String} (h : fields.lookup name = some (Json.string s).asWritten) :
    fields.required name Written.text? = some s := by
  rw [Json.Fields.required, h]
  rfl

/-- A text that may be absent is found to be there or not. -/
theorem optional_text {s : Option String}
    (h : fields.lookup name = (s.map Json.string).map Json.asWritten) :
    fields.optional name Written.text? = some s := by
  rw [Json.Fields.optional, h]
  cases s <;> rfl

theorem orElse_texts {texts : List String} {room : Nat} (hroom : 1 ≤ room)
    (h : fields.lookup name = some (Json.array (texts.map .string)).asWritten) :
    fields.orElse name [] (Written.texts? room) = some texts := by
  have hheight : (Json.array (texts.map .string)).height ≤ room := by
    rwa [Json.height, Json.itemsHeight_map_string]
  rw [Json.Fields.orElse, h]
  exact (Json.readsBack_texts texts room).trans (if_pos hheight)

theorem isExact_texts (texts : List String) : (Json.array (texts.map .string)).IsExact :=
  .array (by simpa using fun s _ => .string s)

/-- A field that is there and not null is read. -/
theorem optional_of_ne_null {α : Type} {v : Json}
    (h : fields.lookup name = some v.asWritten) (hv : v ≠ .null) (read : Written → Option α) :
    fields.optional name read = (read v.asWritten).map some := by
  rw [Json.Fields.optional, h]
  cases v with
  | null => exact absurd rfl hv
  | bool | number | string | array | object => rfl

/-! ## Results -/

/-- Parts that are absent are read as absent. -/
theorem CheckResult.readsSorted_toJson (r : CheckResult) :
    ReadsSorted CheckResult.ofWritten? r.toJson r := by
  intro room hroom
  rw [toJson, Json.height] at hroom
  obtain ⟨below, rfl⟩ : ∃ below, room = below + 1 := ⟨room - 1, by omega⟩
  obtain ⟨accepted, canonical, error, stage⟩ := r
  obtain ⟨fields, hfields, hlookup⟩ := Json.exists_fields_sorted
    ["accepted", "canonical", "error", "stage"] _ below
  rw [toJson, ofWritten?, hfields]
  simp only [Option.bind_eq_bind, Option.bind_some, Json.Fields.required, Json.Fields.optional]
  rw [hlookup "accepted" (by decide), hlookup "canonical" (by decide), hlookup "error" (by decide),
    hlookup "stage" (by decide)]
  cases canonical <;> cases error <;> cases stage <;> rfl

/-- The tree in a record is a free value, whose members are sorted when it is read. -/
theorem EntryRecord.readsSorted_toJson (r : EntryRecord) :
    ReadsSorted EntryRecord.ofWritten? r.toJson { r with parsed := r.parsed.sorted } := by
  intro room hroom
  simp only [toJson, Json.height, Json.membersHeight, Nat.max_zero] at hroom
  obtain ⟨below, rfl⟩ : ∃ below, room = below + 1 := ⟨room - 1, by omega⟩
  obtain ⟨fields, hfields, hlookup⟩ := Json.exists_fields_sorted
    ["hash", "operator", "parsed", "operands"] _ below
  have hparsed : r.parsed.sorted.asWritten.free? below = some r.parsed.sorted := by
    rw [Json.free?_asWritten (r.parsed.height_sorted_le.trans (by omega)), Json.sorted_sorted]
  have hoperands := Json.readsSorted_texts r.operands below (by simp only [Json.height]; omega)
  rw [toJson, ofWritten?, hfields]
  simp only [Option.bind_eq_bind, Option.bind_some, Json.Fields.required, Json.Fields.orElse]
  rw [hlookup "hash" (by decide), hlookup "operator" (by decide), hlookup "parsed" (by decide),
    hlookup "operands" (by decide)]
  have htext (s : String) : (Json.string s).sorted.asWritten.text? = some s := rfl
  simp [List.lookup_cons, hparsed, hoperands, htext]

theorem CheckResult.isExact_toJson (r : CheckResult) : r.toJson.IsExact := by
  obtain ⟨accepted, canonical, error, stage⟩ := r
  refine .object ?_
  cases canonical <;> cases error <;> cases stage <;>
    simp [optionalMember, Json.IsExact.bool, Json.IsExact.string]

theorem CheckResult.height_toJson (r : CheckResult) : r.toJson.height = 1 := by
  obtain ⟨accepted, canonical, error, stage⟩ := r
  cases canonical <;> cases error <;> cases stage <;> rfl

theorem EntryRecord.isExact_toJson {r : EntryRecord} (h : r.parsed.IsExact) :
    r.toJson.IsExact :=
  .object (by simpa using ⟨.string r.hash, .string r.operator, h, isExact_texts r.operands⟩)

/-- A record is one level deeper than the tree in it, and than its list of operands. -/
theorem EntryRecord.height_toJson (r : EntryRecord) :
    r.toJson.height = max r.parsed.height 1 + 1 := by
  simp only [toJson, Json.height, Json.membersHeight, Json.itemsHeight_map_string]
  omega

/-! ## Parameters -/

/-- What is sorted by key on the way is read all the same. -/
theorem TestOutputParams.readsSorted_toJson (p : TestOutputParams) :
    ReadsSorted TestOutputParams.ofWritten? p.toJson p := by
  intro room hroom
  rw [toJson, Json.height] at hroom
  obtain ⟨below, rfl⟩ : ∃ below, room = below + 1 := ⟨room - 1, by omega⟩
  obtain ⟨fields, hfields, hlookup⟩ := Json.exists_fields_sorted ["params_string"] _ below
  rw [toJson, ofWritten?, hfields]
  simp only [Option.bind_eq_bind, Option.bind_some, Json.Fields.required]
  rw [hlookup "params_string" (by decide)]
  rfl

theorem CreateEntryParams.readsSorted_toJson (p : CreateEntryParams) :
    ReadsSorted CreateEntryParams.ofWritten? p.toJson p := by
  intro room hroom
  simp only [toJson, Json.height, Json.membersHeight] at hroom
  obtain ⟨below, rfl⟩ : ∃ below, room = below + 1 := ⟨room - 1, by omega⟩
  obtain ⟨fields, hfields, hlookup⟩ := Json.exists_fields_sorted ["expr", "args"] _ below
  have hoperands := Json.readsSorted_texts p.operands below (by simp only [Json.height]; omega)
  rw [toJson, ofWritten?, hfields]
  simp only [Option.bind_eq_bind, Option.bind_some, Json.Fields.required, Json.Fields.orElse]
  rw [hlookup "expr" (by decide), hlookup "args" (by decide)]
  have htext (s : String) : (Json.string s).sorted.asWritten.text? = some s := rfl
  simp [List.lookup_cons, hoperands, htext]

theorem EntryRef.readsSorted_named (hash : String) :
    ReadsSorted EntryRef.ofWritten? (named hash).toJson (.named hash) := by
  intro room hroom
  have hheight := (named hash).toJson.height_sorted_le.trans hroom
  rw [toJson, Json.height] at hroom
  obtain ⟨below, rfl⟩ : ∃ below, room = below + 1 := ⟨room - 1, by omega⟩
  obtain ⟨fields, hfields, hlookup⟩ := Json.exists_fields_sorted ["hash"] [("hash", .string hash)]
    below
  have hread : ofWritten? (below + 1) (named hash).toJson.sorted.asWritten =
      ((named hash).toJson.sorted.asWritten.record? ["hash"] false (below + 1)).bind fun fields =>
        (fields.required "hash" Written.text?).map .named := by
    rw [ofWritten?.eq_def, Json.readsBack_value, if_pos hheight]
    rfl
  rw [hread, toJson, hfields, Option.bind_some, Json.Fields.required, hlookup "hash" (by decide)]
  rfl

/-! ## Requests -/

theorem fitsWord_id {id : Nat} (h : id < 2 ^ 64) : Json.FitsWord id :=
  ⟨by omega, by omega⟩

/-- The number and the parameters are as whoever reads them keeps them. -/
structure Request.IsPlain (r : Request) : Prop where
  id_lt : r.id < 2 ^ 64
  isExact : r.params.IsExact
  sorted_eq : r.params.sorted = r.params

theorem Request.isExact_toJson {r : Request} (h : r.IsPlain) : r.toJson.IsExact :=
  .object (by simpa using ⟨.int (fitsWord_id h.id_lt), .string r.method, h.isExact⟩)

/-- A request is read back as it was, where there is room for it. -/
theorem Request.ofWritten?_toJson {r : Request} (h : r.IsPlain) {room : Nat}
    (hroom : r.toJson.height ≤ room) : ofWritten? room r.toJson.asWritten = some r := by
  have hbelow : r.params.height ≤ room - 1 := by
    simp only [toJson, Json.int, Json.height, Json.membersHeight] at hroom
    omega
  obtain ⟨fields, hfields, hlookup⟩ := Json.exists_record ["id", "method", "params"]
    [("id", .int r.id), ("method", .string r.method), ("params", r.params)] (by simp) hroom
  have hid := required_id (hlookup "id" (by decide)) h.id_lt
  have hmethod := required_text (hlookup "method" (by decide))
  have hparams : fields.orElse "params" .null (Written.free? (room - 1)) = some r.params := by
    rw [Json.Fields.orElse, hlookup "params" (by decide)]
    exact (Json.free?_asWritten hbelow).trans (congrArg some h.sorted_eq)
  rw [toJson, ofWritten?, hfields]
  simp only [Option.bind_eq_bind, Option.bind_some, hid, hmethod, hparams]

/-! ## Messages of a server -/

/-- The number and the result are as whoever reads them keeps them. -/
structure Response.IsPlain (r : Response) : Prop where
  id_lt : r.id < 2 ^ 64
  isExact : r.result.IsExact
  sorted_eq : r.result.sorted = r.result

/-- The code and the data are as whoever reads them keeps them. Data that is null would be taken
    for none. -/
structure ErrorObject.IsPlain (e : ErrorObject) : Prop where
  code_ge : Int32.minValue.toInt ≤ e.code
  code_le : e.code ≤ Int32.maxValue.toInt
  isExact : ∀ v ∈ e.data, v.IsExact
  sorted_eq : ∀ v ∈ e.data, v.sorted = v
  ne_null : e.data ≠ some .null

/-- The number and the error are as whoever reads them keeps them. -/
structure ErrorResponse.IsPlain (r : ErrorResponse) : Prop where
  id_lt : r.id < 2 ^ 64
  error : r.error.IsPlain

/-- The message is as whoever reads it keeps it. -/
def ServerMessage.IsPlain : ServerMessage → Prop
  | error r => r.IsPlain
  | response r => r.IsPlain

/-! ## Messages that are sent -/

/-- The code is within its bounds, and the data is such as can be sent. -/
structure ErrorObject.IsSendable (e : ErrorObject) : Prop where
  code_ge : Int32.minValue.toInt ≤ e.code
  code_le : e.code ≤ Int32.maxValue.toInt
  isExact : ∀ v ∈ e.data, v.IsExact
  sorted_eq : ∀ v ∈ e.data, v.sorted = v

/-- The number is within its bounds, and the error can be sent. -/
structure ErrorResponse.IsSendable (r : ErrorResponse) : Prop where
  id_lt : r.id < 2 ^ 64
  error : r.error.IsSendable

/-- The message can be sent. -/
def ServerMessage.IsSendable : ServerMessage → Prop
  | error r => r.IsSendable
  | response r => r.IsPlain

theorem ErrorObject.IsPlain.isSendable {e : ErrorObject} (h : e.IsPlain) : e.IsSendable :=
  ⟨h.code_ge, h.code_le, h.isExact, h.sorted_eq⟩

theorem ServerMessage.IsPlain.isSendable {message : ServerMessage} (h : message.IsPlain) :
    message.IsSendable := by
  cases message with
  | response r => exact h
  | error r => exact ⟨ErrorResponse.IsPlain.id_lt h, (ErrorResponse.IsPlain.error h).isSendable⟩

/-- A code fits the word that JSON is read with. -/
theorem fitsWord_code {n : Int} (hlow : Int32.minValue.toInt ≤ n)
    (hhigh : n ≤ Int32.maxValue.toInt) : Json.FitsWord n := by
  have hmin : Int32.minValue.toInt = -2 ^ 31 := by decide
  have hmax : Int32.maxValue.toInt = 2 ^ 31 - 1 := by decide
  exact ⟨by omega, by omega⟩

theorem ErrorObject.isExact_toJson {e : ErrorObject} (h : e.IsSendable) : e.toJson.IsExact := by
  have hcode : (Json.int e.code).IsExact := .int (fitsWord_code h.code_ge h.code_le)
  refine .object (List.forall_mem_append.2 ⟨?_, fun m hm => ?_⟩)
  · simpa using ⟨hcode, .string e.message⟩
  · obtain ⟨v, hv, rfl⟩ := Option.map_eq_some_iff.1 (Option.mem_toList.1 hm)
    exact h.isExact v hv

theorem ErrorResponse.isExact_toJson {r : ErrorResponse} (h : r.IsSendable) :
    r.toJson.IsExact :=
  .object (by simpa using ⟨.int (fitsWord_id h.id_lt), ErrorObject.isExact_toJson h.error⟩)

theorem Response.isExact_toJson {r : Response} (h : r.IsPlain) : r.toJson.IsExact :=
  .object (by simpa using ⟨.int (fitsWord_id h.id_lt), h.isExact⟩)

theorem ServerMessage.isExact_toJson {message : ServerMessage} (h : message.IsSendable) :
    message.toJson.IsExact := by
  cases message with
  | response r => exact Response.isExact_toJson h
  | error r => exact ErrorResponse.isExact_toJson h

/-! ## Messages that arrive -/

/-- What arrives of an error: null is taken for no data. -/
def ErrorObject.received (e : ErrorObject) : ErrorObject :=
  { e with
    data := match e.data with
      | some .null => none
      | data => data }

/-- What arrives of an answer to a request that failed. -/
def ErrorResponse.received (r : ErrorResponse) : ErrorResponse :=
  { r with error := r.error.received }

/-- What arrives of a message. -/
def ServerMessage.received : ServerMessage → ServerMessage
  | error r => .error r.received
  | response r => .response r

/-- An error arrives as it was sent exactly if its data is not null. -/
theorem ErrorObject.received_eq_iff {e : ErrorObject} :
    e.received = e ↔ e.data ≠ some .null := by
  obtain ⟨code, message, data⟩ := e
  rcases data with _ | v
  · simp [received]
  · cases v <;> simp [received]

/-- An answer arrives as it was sent exactly if its data is not null. -/
theorem ErrorResponse.received_eq_iff {r : ErrorResponse} :
    r.received = r ↔ r.error.data ≠ some .null := by
  rw [← ErrorObject.received_eq_iff]
  exact ⟨congrArg error, fun h => congrArg (ErrorResponse.mk r.id) h⟩

/-- A plain message arrives as it was sent. -/
theorem ServerMessage.received_eq {message : ServerMessage} (h : message.IsPlain) :
    message.received = message := by
  cases message with
  | response r => rfl
  | error r =>
    have hne : r.error.data ≠ some .null := (ErrorResponse.IsPlain.error h).ne_null
    exact congrArg error (ErrorResponse.received_eq_iff.2 hne)

/-- A response is read back as it was, where there is room for it. -/
theorem Response.ofWritten?_toJson {r : Response} (h : r.IsPlain) {room : Nat}
    (hroom : r.toJson.height ≤ room) : ofWritten? room r.toJson.asWritten = some r := by
  have hbelow : r.result.height ≤ room - 1 := by
    simp only [toJson, Json.int, Json.height, Json.membersHeight] at hroom
    omega
  obtain ⟨fields, hfields, hlookup⟩ := Json.exists_record ["id", "result"]
    [("id", .int r.id), ("result", r.result)] (by simp) hroom
  have hid := required_id (hlookup "id" (by decide)) h.id_lt
  have hresult := required_free (hlookup "result" (by decide)) hbelow h.sorted_eq
  rw [toJson, ofWritten?, hfields]
  simp only [Option.bind_eq_bind, Option.bind_some, hid, hresult]

/-- An error is read back as it was, but for data that are null: they are taken for none. -/
theorem ErrorObject.ofWritten?_toJson {e : ErrorObject} (h : e.IsSendable) {room : Nat}
    (hroom : e.toJson.height ≤ room) :
    ofWritten? room e.toJson.asWritten = some e.received := by
  obtain ⟨code, message, data⟩ := e
  obtain ⟨fields, hfields, hlookup⟩ := Json.exists_record ["code", "message", "data"]
    ([("code", .int code), ("message", .string message)] ++ optionalMember "data" data)
    (by cases data <;> simp [optionalMember]) hroom
  have hcode : fields.required "code"
      (Written.between? Int32.minValue.toInt Int32.maxValue.toInt) = some code := by
    rw [Json.Fields.required, hlookup "code" (by decide)]
    exact if_pos ⟨h.code_ge, h.code_le⟩
  have hmessage := required_text (hlookup "message" (by decide))
  have hdata : fields.optional "data" (Written.free? (room - 1)) =
      some (received ⟨code, message, data⟩).data := by
    have hlast := hlookup "data" (by decide)
    cases data with
    | none =>
      rw [Json.Fields.optional, hlast]
      rfl
    | some v =>
      by_cases hv : v = .null
      · -- null is read as no data
        subst hv
        rw [Json.Fields.optional, hlast]
        rfl
      · simp only [toJson, optionalMember, Json.height, Json.membersHeight, Option.map_some,
          Option.toList_some, List.cons_append, List.nil_append] at hroom
        have hne : some v ≠ some .null := fun hsome => hv (Option.some.inj hsome)
        rw [optional_of_ne_null (hlast.trans rfl) hv, Json.free?_asWritten (by omega),
          h.sorted_eq v rfl, received_eq_iff.2 hne]
        rfl
  rw [toJson, ofWritten?, hfields]
  simp only [Option.bind_eq_bind, Option.bind_some, hcode, hmessage, hdata, received]

theorem ErrorResponse.ofWritten?_toJson {r : ErrorResponse} (h : r.IsSendable) {room : Nat}
    (hroom : r.toJson.height ≤ room) :
    ofWritten? room r.toJson.asWritten = some r.received := by
  have hbelow : r.error.toJson.height ≤ room - 1 := by
    simp only [toJson, Json.int, Json.height, Json.membersHeight] at hroom
    omega
  obtain ⟨fields, hfields, hlookup⟩ := Json.exists_record ["id", "error"]
    [("id", .int r.id), ("error", r.error.toJson)] (by simp) hroom
  have hid := required_id (hlookup "id" (by decide)) h.id_lt
  have herror : fields.required "error" (ErrorObject.ofWritten? (room - 1)) =
      some r.error.received := by
    rw [Json.Fields.required, hlookup "error" (by decide)]
    exact ErrorObject.ofWritten?_toJson h.error hbelow
  rw [toJson, ofWritten?, hfields]
  simp only [Option.bind_eq_bind, Option.bind_some, hid, herror, received]

/-- An answer to a request that succeeded is never taken for an error. -/
theorem ErrorResponse.ofWritten?_response (r : Response) (room : Nat) :
    ErrorResponse.ofWritten? room r.toJson.asWritten = none := by
  cases room with
  | zero => rfl
  | succ below =>
    obtain ⟨fields, hfields, hlookup⟩ := Json.exists_fields ["id", "error"]
      [("id", .int r.id), ("result", r.result)] (by simp) below
    rw [Response.toJson, ofWritten?, hfields]
    simp only [Option.bind_eq_bind, Option.bind_some, Json.Fields.required]
    rw [hlookup "error" (by decide)]
    simp [List.lookup_cons]

/-- What a server sends is read as what arrives of it, where there is room for it. -/
theorem ServerMessage.ofWritten?_received {message : ServerMessage} (h : message.IsSendable)
    {room : Nat} (hroom : message.toJson.height ≤ room) :
    ofWritten? room message.toJson.asWritten = some message.received := by
  rw [ofWritten?, Json.readsBack_value, if_pos hroom]
  cases message with
  | error r =>
    rw [toJson, ErrorResponse.ofWritten?_toJson h hroom]
    rfl
  | response r =>
    rw [toJson, ErrorResponse.ofWritten?_response, Response.ofWritten?_toJson h hroom]
    rfl

/-- What a server sends is read back as it is if null is not the data of an error in it. -/
theorem ServerMessage.ofWritten?_toJson {message : ServerMessage} (h : message.IsPlain)
    {room : Nat} (hroom : message.toJson.height ≤ room) :
    ofWritten? room message.toJson.asWritten = some message := by
  rw [ofWritten?_received h.isSendable hroom, received_eq h]

end Formulary.Wire
