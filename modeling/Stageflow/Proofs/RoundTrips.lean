import Stageflow.Phase.Json
import Stageflow.Proofs.Readers

/-!
# Elements and declarations read back

An element of a stream and the declaration of a phase are read back from their JSON text as they
were written. The member that holds the tag of an element has a name of its own, so it is found
among the others; the arrays and objects of a declaration never nest deeper than five levels.

* `PhaseSpec.finds_toJson`: a declaration is found member by member;
* `Tagged.finds_toJson`: an element is found behind its tag;
* `written_read_back`: both are read back, and a phase is made of the text of its declaration.
-/

namespace Stageflow

open Json Decoder

variable {levels : Nat}

/-! ## Declarations -/

namespace Stage

theorem finds_port (levels : Nat) (port : Name) :
    portDecoder.Finds (levels + 1) (portToJson port) port := by
  intro m
  have name := finds_string levels port m
  rw [portToJson, Document.ofValue, Document.ofMembers, portDecoder, Form.decoder,
    Form.readMembers_field rfl (by simp) (Field.read_of name)]
  rfl

theorem finds_kind (levels : Nat) (k : StageKind) : StageKind.decoder.Finds levels k.toJson k := by
  intro m
  cases k <;> rfl

theorem finds_toJson {s : Stage} (ascending : s.ports.Ascending) :
    decoder.Finds (levels + 3) s.toJson s := by
  intro m
  have name := finds_string (levels + 2) s.name m
  have kind := finds_kind (levels + 2) s.kind m
  have ports := finds_table ascending (fun p _ => finds_port levels p.2) m
  rw [toJson, Document.ofValue, Document.ofMembers, decoder, Form.decoder,
    Form.readMembers_field rfl (by simp) (Field.read_of name), Document.ofMembers,
    Form.readMembers_field rfl (by simp) (Field.read_of kind), Document.ofMembers,
    Form.readMembers_field rfl (by simp) (Field.read_of ports)]
  rfl

theorem toJson_exact (s : Stage) : s.toJson.Exact := by
  have ports : (Json.object (s.ports.mapValues portToJson)).Exact := by
    apply Json.Exact.object
    intro p hp
    obtain ⟨q, -, rfl⟩ := List.mem_map.mp hp
    exact .object (List.forall_mem_singleton.mpr (.string q.2))
  apply Json.Exact.object
  simp only [List.forall_mem_cons]
  exact ⟨.string s.name, .string s.kind.tag, ports, nofun⟩

end Stage

namespace PhaseSpec

variable {spec : PhaseSpec}

theorem finds_edge (levels : Nat) (e : Edge) : edgeDecoder.Finds (levels + 1) (edgeToJson e) e := by
  intro m
  have producer := finds_string levels e.1 m
  have reader := finds_string levels e.2 m
  rw [edgeToJson, Document.ofValue, Document.ofMembers, edgeDecoder, Form.decoder,
    Form.readMembers_field rfl (by simp) (Field.read_of producer), Document.ofMembers,
    Form.readMembers_field rfl (by simp) (Field.read_of reader)]
  rfl

/-- The ports of every stage stand under the names of their readers in ascending order. -/
def Ordered (spec : PhaseSpec) : Prop := ∀ s ∈ spec.stages, s.ports.Ascending

theorem finds_toJson (ordered : spec.Ordered) : decoder.Finds (levels + 5) spec.toJson spec := by
  intro m
  have stage (s : Stage) (hs : s ∈ spec.stages) : Stage.decoder.Finds (levels + 3) s.toJson s :=
    Stage.finds_toJson (ordered s hs)
  have stages := finds_list stage m
  have connections := finds_list (fun e (_ : e ∈ spec.connections) => finds_edge (levels + 2) e) m
  rw [toJson, Document.ofValue, Document.ofMembers, decoder, Form.decoder,
    Form.readMembers_field rfl (by simp) (Field.read_of stages), Document.ofMembers,
    Form.readMembers_field rfl (by simp) (Field.read_of connections)]
  rfl

theorem toJson_exact (spec : PhaseSpec) : spec.toJson.Exact := by
  have stages : (Json.array (spec.stages.map Stage.toJson)).Exact := by
    apply Json.Exact.array
    intro v hv
    obtain ⟨s, -, rfl⟩ := List.mem_map.mp hv
    exact s.toJson_exact
  have connections : (Json.array (spec.connections.map edgeToJson)).Exact := by
    apply Json.Exact.array
    intro v hv
    obtain ⟨e, -, rfl⟩ := List.mem_map.mp hv
    apply Json.Exact.object
    simp only [List.forall_mem_cons]
    exact ⟨.string e.1, .string e.2, nofun⟩
  apply Json.Exact.object
  simp only [List.forall_mem_cons]
  exact ⟨stages, connections, nofun⟩

theorem parse_toJson (ordered : spec.Ordered) : parse decoder spec.toJson.text = .ok spec := by
  have found : decoder.Finds Json.maxDepth spec.toJson spec := finds_toJson ordered
  rw [parse_text decoder spec.toJson_exact, found .text]

end PhaseSpec

/-! ## Elements -/

theorem ErrorRecord.code_fits (e : ErrorRecord) :
    -0x80000000 ≤ e.code.toInt ∧ e.code.toInt ≤ 0x7fffffff :=
  ⟨e.code.minValue_le_toInt, e.code.toInt_le⟩

theorem ErrorRecord.finds_code (e : ErrorRecord) (levels : Nat) :
    codeDecoder.Finds levels (.int e.code.toInt) e.code := by
  intro m
  rw [Json.int, Document.ofValue, codeDecoder, whole, if_pos e.code_fits, Except.map,
    Int32.ofInt_toInt]

theorem ErrorRecord.finds_toJson {e : ErrorRecord} (ordered : e.record.Ordered)
    (shallow : e.record.depth ≤ levels) : decoder.Finds (levels + 1) e.toJson e := by
  intro m
  have record := finds_value ordered shallow m
  have code := e.finds_code levels m
  have message := finds_string levels e.message m
  have stage := finds_string levels e.stage m
  rw [toJson, members, Document.ofValue, Document.ofMembers, decoder, Form.decoder,
    Form.readMembers_field rfl (by simp) (Field.read_of record), Document.ofMembers,
    Form.readMembers_field rfl (by simp) (Field.read_of code), Document.ofMembers,
    Form.readMembers_field rfl (by simp) (Field.read_of message), Document.ofMembers,
    Form.readMembers_field rfl (by simp) (Field.read_of stage)]
  rfl

theorem Alert.finds_toJson {a : Alert} (ascending : a.payload.Ascending) :
    decoder.Finds (levels + 2) a.toJson a := by
  intro m
  have stage := finds_string (levels + 1) a.stage m
  have payload := finds_table ascending (fun p _ => finds_string levels p.2) m
  rw [toJson, members, Document.ofValue, Document.ofMembers, decoder, Form.decoder,
    Form.readMembers_field rfl (by simp) (Field.read_of stage), Document.ofMembers,
    Form.readMembers_field rfl (by simp) (Field.read_of payload)]
  rfl

namespace Tagged

variable {m : Medium} {ms : List (Name × Json)}

/-- Members of other names than that of the tag are set aside as they are. -/
theorem splitTag_ofMembers (others : ∀ p ∈ ms, p.1 ≠ tagField)
    (values : ∀ p ∈ ms, value.Finds levels p.2 p.2) (tag : Option Tag)
    (before : List (Document × Document)) :
    splitTag m levels (Document.ofMembers ms) tag before =
      .ok (tag, before.reverse ++ Document.ofMembers ms) := by
  induction ms generalizing before with
  | nil => simp [Document.ofMembers, splitTag]
  | cons p ms ih =>
    obtain ⟨other, others⟩ := List.forall_mem_cons.mp others
    obtain ⟨found, values⟩ := List.forall_mem_cons.mp values
    have checked : (Document.ofValue p.2).toValue levels = .ok p.2 := found m
    rw [Document.ofMembers, splitTag, if_neg other, checked]
    change splitTag m levels (Document.ofMembers ms) tag _ = _
    rw [ih others values, List.reverse_cons, List.append_assoc, List.singleton_append]

/-- An element whose tag comes first is read by its tag from the other members. -/
theorem decoder_tagged {name : Name} {tag : Tag} (known : tags.lookup name = some tag)
    (others : ∀ p ∈ ms, p.1 ≠ tagField) (values : ∀ p ∈ ms, value.Finds levels p.2 p.2) :
    decoder m (levels + 1) (.ofValue (.object ((tagField, .string name) :: ms))) =
      content tag .aside (levels + 1) (.ofValue (.object ms)) := by
  rw [Document.ofValue, Document.ofMembers, Document.ofValue, decoder, splitTag, if_pos rfl,
    if_neg (by simp), variantName, known]
  change (splitTag m levels (Document.ofMembers ms) (some tag) [] >>= _) = _
  rw [splitTag_ofMembers others values]
  rfl

/-- Every number in the record of an element is a whole one that 64 bits hold. -/
def Exact : Tagged → Prop
  | output _ record => record.Exact
  | error e => e.record.Exact
  | alert _ => True

/-- The members of every object in an element are in order. -/
def Ordered : Tagged → Prop
  | output _ record => record.Ordered
  | error e => e.record.Ordered
  | alert a => a.payload.Ascending

theorem finds_output {record : Json} (ordered : record.Ordered) (shallow : record.depth ≤ levels)
    (port : Option Name) :
    decoder.Finds (levels + 1) (output port record).toJson (output port record) := by
  intro m
  have found := finds_value ordered shallow
  cases port with
  | none =>
    rw [toJson, decoder_tagged rfl (by simp [tagField]) (by simpa using found), content,
      Document.ofValue, Document.ofMembers, Form.decoder,
      Form.readMembers_field rfl (by simp) (Field.read_of (found .aside))]
    rfl
  | some port =>
    have values : ∀ p ∈ [("port", .string port), ("record", record)],
        value.Finds levels p.2 p.2 := by
      simp only [List.forall_mem_cons]
      exact ⟨fun _ => rfl, found, List.forall_mem_nil _⟩
    have name : Decoder.option string .aside levels (.ofValue (.string port)) = .ok (some port) :=
      rfl
    rw [toJson, decoder_tagged rfl (by simp [tagField]) values, content,
      Document.ofValue, Document.ofMembers, Form.decoder,
      Form.readMembers_field rfl (by simp) (Field.read_of name), Document.ofMembers,
      Form.readMembers_field rfl (by simp) (Field.read_of (found .aside))]
    rfl

theorem finds_error {e : ErrorRecord} (ordered : e.record.Ordered)
    (shallow : e.record.depth ≤ levels) :
    decoder.Finds (levels + 1) (error e).toJson (error e) := by
  intro m
  have values : ∀ p ∈ e.members, value.Finds levels p.2 p.2 := by
    simp only [ErrorRecord.members, List.forall_mem_cons]
    exact ⟨finds_value ordered shallow, fun _ => rfl, fun _ => rfl, fun _ => rfl, nofun⟩
  rw [toJson, decoder_tagged rfl (by simp [ErrorRecord.members, tagField]) values]
  change (ErrorRecord.decoder .aside (levels + 1) (.ofValue e.toJson)).map error = _
  rw [ErrorRecord.finds_toJson ordered shallow, Except.map]

theorem finds_payload {payload : Table String} (ascending : payload.Ascending) (levels : Nat) :
    value.Finds (levels + 1) (.object (payload.mapValues .string))
      (.object (payload.mapValues .string)) := by
  intro m
  have strings : ∀ p ∈ payload.mapValues Json.string,
      (Document.ofValue p.2).toValue levels = .ok p.2 := by
    intro p hp
    obtain ⟨q, -, rfl⟩ := List.mem_map.mp hp
    rfl
  rw [value, Document.ofValue, Document.toValue, Document.toMembers_ofMembers strings, Except.map,
    Json.ofMembers, (ascending.mapValues Json.string).ofList_eq]

theorem finds_alert {a : Alert} (ascending : a.payload.Ascending) :
    decoder.Finds (levels + 2) (alert a).toJson (alert a) := by
  intro m
  have values : ∀ p ∈ a.members, value.Finds (levels + 1) p.2 p.2 := by
    simp only [Alert.members, List.forall_mem_cons]
    exact ⟨fun _ => rfl, finds_payload ascending levels, nofun⟩
  rw [toJson, decoder_tagged rfl (by simp [Alert.members, tagField]) values]
  change (Alert.decoder .aside (levels + 2) (.ofValue a.toJson)).map alert = _
  rw [Alert.finds_toJson ascending, Except.map]

/-- An element is found in its JSON form, if no more brackets are open than may be. -/
theorem finds_toJson {t : Tagged} (ordered : t.Ordered) (shallow : t.toJson.depth ≤ levels) :
    decoder.Finds levels t.toJson t := by
  cases t with
  | output port record =>
    have inside : record.depth + 1 ≤ levels := by
      cases port <;> simpa [toJson, Json.depth, depthOfMembers] using shallow
    obtain ⟨levels, rfl⟩ : ∃ n, levels = n + 1 := ⟨levels - 1, by omega⟩
    exact finds_output ordered (by omega) port
  | error e =>
    have inside : e.record.depth + 1 ≤ levels := by
      simpa [toJson, ErrorRecord.members, Json.depth, depthOfMembers, Json.int] using shallow
    obtain ⟨levels, rfl⟩ : ∃ n, levels = n + 1 := ⟨levels - 1, by omega⟩
    exact finds_error ordered (by omega)
  | alert a =>
    have inside : 2 ≤ levels := by
      simp [toJson, Alert.members, Json.depth, depthOfMembers] at shallow
      omega
    obtain ⟨levels, rfl⟩ : ∃ n, levels = n + 2 := ⟨levels - 2, by omega⟩
    exact finds_alert ordered

theorem toJson_exact {t : Tagged} (exact : t.Exact) : t.toJson.Exact := by
  cases t with
  | output port record =>
    cases port <;> apply Json.Exact.object <;> simp only [List.forall_mem_cons]
    · exact ⟨.string _, exact, nofun⟩
    · exact ⟨.string _, .string _, exact, nofun⟩
  | error e =>
    obtain ⟨low, high⟩ := e.code_fits
    have size : (UInt64.size : Int) = 0x10000000000000000 := rfl
    have code : (Json.int e.code.toInt).Exact := .int ⟨by omega, by omega⟩
    apply Json.Exact.object
    simp only [ErrorRecord.members, List.forall_mem_cons]
    exact ⟨.string _, exact, code, .string e.message, .string e.stage, nofun⟩
  | alert a =>
    have payload : (Json.object (a.payload.mapValues .string)).Exact := by
      apply Json.Exact.object
      intro p hp
      obtain ⟨q, -, rfl⟩ := List.mem_map.mp hp
      exact .string q.2
    apply Json.Exact.object
    simp only [Alert.members, List.forall_mem_cons]
    exact ⟨.string _, .string a.stage, payload, nofun⟩

theorem parse_toJson {t : Tagged} (exact : t.Exact) (ordered : t.Ordered)
    (shallow : t.toJson.depth ≤ Json.maxDepth) : parse decoder t.toJson.text = .ok t := by
  rw [parse_text decoder (toJson_exact exact)]
  exact finds_toJson ordered shallow .text

end Tagged

/-! ## Both -/

/-- **What is written is read back.** Of elements this holds if no number is a double and no more
brackets are open than may be; declarations have no numbers and few brackets. So the text of a
declaration makes the phase, or has the errors, of the declaration itself. -/
theorem written_read_back :
    (∀ t : Tagged, t.Exact → t.Ordered → t.toJson.depth ≤ Json.maxDepth →
      parse Tagged.decoder t.toJson.text = .ok t) ∧
    ∀ spec : PhaseSpec, spec.Ordered →
      parse PhaseSpec.decoder spec.toJson.text = .ok spec ∧
        Phase.ofJsonText spec.toJson.text = Phase.ofSpec spec := by
  refine ⟨fun t => Tagged.parse_toJson, fun spec ordered => ?_⟩
  have read := PhaseSpec.parse_toJson ordered
  exact ⟨read, by rw [Phase.ofJsonText, read]⟩

/-- An error whose record has a member called like that of the tag. -/
def taggedRecord : Tagged :=
  .error ⟨.object [("type", .array [.null, .int (-1), .string "\""])], -7, "bad", "s"⟩

/-- A stage with a port for a reader of an empty name. -/
def unnamedReader : PhaseSpec :=
  ⟨[⟨"s", .batchSource, [("", "p"), ("k", "p")]⟩, .plain "" .sink, .plain "k" .sink],
    [("s", ""), ("s", "k")]⟩

theorem written_read_back_tagged :
    parse Tagged.decoder taggedRecord.toJson.text = .ok taggedRecord ∧
      parse PhaseSpec.decoder unnamedReader.toJson.text = .ok unnamedReader := by
  obtain ⟨elements, declarations⟩ := written_read_back
  have minusOne : (Json.int (-1)).Exact := .int ⟨by decide, by decide⟩
  have exact : taggedRecord.Exact := by
    refine .object (List.forall_mem_singleton.mpr (.array ?_))
    simp only [List.forall_mem_cons]
    exact ⟨.null, minusOne, .string "\"", nofun⟩
  have ordered : taggedRecord.Ordered := by
    refine .object (List.pairwise_singleton _ _) (List.forall_mem_singleton.mpr (.array ?_))
    simp only [List.forall_mem_cons]
    exact ⟨.null, .number _, .string "\"", nofun⟩
  have ports : unnamedReader.Ordered := by
    have before : "" < "k" := by decide
    simp only [PhaseSpec.Ordered, unnamedReader, List.forall_mem_cons]
    refine ⟨.cons (List.forall_mem_singleton.mpr before) (List.pairwise_singleton _ _), .nil, .nil,
      nofun⟩
  exact ⟨elements taggedRecord exact ordered (by decide), (declarations unnamedReader ports).1⟩

end Stageflow
