import SearchMapper.Proofs.Codec.DateFaults
import SearchMapper.Proofs.Mapper.Writes
import SearchMapper.Proofs.Metadata.Valid

/-!
# Date formats that a mapper accepts

A mapper is made only with date formats that are patterns. Of these, the ones with an offset in any
spelling can be read and not written: a write fails for a date only in a stored field with such a
format.
-/

namespace SearchMapper

variable {σ α β : Type} {transport : Transport σ}

/-! ## Errors of runs -/

/-- The run fails only with errors as `P` says. -/
def FailsOnly (P : MapperError → Prop) (_ : List Call) (result : Except MapperError α) : Prop :=
  ∀ e, result = .error e → P e

section

variable {P : MapperError → Prop} {p : Operation α} {f : α → Operation β}

theorem failsOnly_pure (a : α) : (pure a : Operation α).Ensures transport (FailsOnly P) :=
  Program.ensures_done nofun

theorem failsOnly_fail {e : MapperError} (h : P e) :
    (Program.fail e : Operation α).Ensures transport (FailsOnly P) := by
  refine Program.ensures_done ?_
  intro _ herror
  cases herror
  exact h

/-- Steps in a row fail only as each of them does. -/
theorem failsOnly_bind (h : p.Ensures transport (FailsOnly P))
    (hnext : ∀ a, (f a).Ensures transport (FailsOnly P)) :
    (p >>= f).Ensures transport (FailsOnly P) := by
  refine h.bind ?_ ?_
  · intro calls e hstep _ herror
    cases herror
    exact hstep e rfl
  · intro calls a _
    exact (hnext a).mono fun _ _ hrest => hrest

theorem failsOnly_check (h : ∀ cause, P (.validation cause)) (result : Except Invalid α) :
    (Operation.check result).Ensures transport (FailsOnly P) := by
  refine Program.ensures_done fun e he => ?_
  cases result with
  | ok a => cases he
  | error cause =>
    cases he
    exact h cause

theorem failsOnly_coded {result : Except CodecFault α}
    (h : ∀ fault, result = .error fault → P (.serialization fault)) :
    (Operation.coded result).Ensures transport (FailsOnly P) := by
  refine Program.ensures_done fun e he => ?_
  cases result with
  | ok a => cases he
  | error fault =>
    cases he
    exact h fault rfl

theorem failsOnly_send (hfails : transport.FailsAsTransport) (h : ∀ fault, P (.transport fault))
    (c : Call) : (Operation.send c).Ensures transport (FailsOnly P) := by
  refine (Operation.ensures_send c).mono ?_
  rintro calls result ⟨-, state, rfl⟩ e he
  obtain ⟨fault, rfl⟩ := hfails c state e he
  exact h fault

end

namespace Mapper

variable {mapper : Mapper α}

/-- If the error says that a date cannot be written, it names a stored field and the format in
effect for it, which has an offset in any spelling. -/
def Explains (mapper : Mapper α) (e : MapperError) : Prop :=
  ∀ name format, e = .serialization (.unprintableDate name format) →
    ∃ field ∈ mapper.metadata.storedFields, field.name = name ∧
      mapper.codec.HasFormat field format ∧ DatePattern.HasAnyOffset format.toList

/-! ## Formats in effect -/

/-- A mapper is made of a valid configured format and valid metadata. -/
theorem ofMetadata_eq_ok_iff {metadata : Metadata} {config : Config} :
    ofMetadata metadata config = .ok mapper ↔
      (∀ format, config.dateFormat = some format → validateDateFormat format = .ok ()) ∧
        metadata.validate = .ok () ∧ mapper = ⟨metadata, config⟩ := by
  have hmetadata : (metadata.validate >>= fun _ => .ok (⟨metadata, config⟩ : Mapper α)) =
      .ok mapper ↔ metadata.validate = .ok () ∧ mapper = ⟨metadata, config⟩ := by
    rw [Except.bind_eq_ok_iff]
    constructor
    · rintro ⟨_, hvalid, ⟨⟩⟩
      exact ⟨hvalid, rfl⟩
    · rintro ⟨hvalid, rfl⟩
      exact ⟨(), hvalid, rfl⟩
  unfold ofMetadata
  cases config.dateFormat with
  | none =>
    rw [← hmetadata]
    exact ⟨fun h => ⟨nofun, h⟩, fun h => h.2⟩
  | some format =>
    simp only [Option.some.injEq, forall_eq', ← hmetadata]
    exact Except.bind_eq_ok_iff.trans ⟨fun ⟨_, h⟩ => h, fun h => ⟨(), h⟩⟩

/-- The formats of an accepted mapper have passed their checks. -/
theorem validateDateFormat_of_hasFormat {metadata : Metadata} {config : Config}
    (hmapper : ofMetadata metadata config = .ok mapper) {field : FieldDescriptor}
    (hfield : field ∈ mapper.metadata.fields) {format : String}
    (hformat : mapper.codec.HasFormat field format) : validateDateFormat format = .ok () := by
  obtain ⟨hconfig, hmetadata, rfl⟩ := ofMetadata_eq_ok_iff.mp hmapper
  cases hformat with
  | own hkind hown =>
    -- the check of metadata looks at the formats of all fields, whatever their kind
    have hvalid := (Metadata.validate_eq_ok_iff metadata).mp hmetadata
    rw [validateDateFormat_eq_ok_iff]
    exact fun hunknown => hvalid (.inr (.inr ⟨field, hfield, format, hown, hunknown⟩))
  | configured hkind hown hdefault => exact hconfig format hdefault

section fields

variable (hfields : ∀ field ∈ mapper.metadata.fields, ∀ format,
  mapper.codec.HasFormat field format → validateDateFormat format = .ok ())

include hfields

/-- A fault of a field is explained. -/
theorem explains_of_isFieldFault {fault : CodecFault} (h : mapper.codec.IsFieldFault fault) :
    mapper.Explains (.serialization fault) := by
  obtain ⟨field, hstored, value, hfault⟩ := h
  obtain ⟨format, hno, rfl⟩ := Codec.formatDate_eq_error_iff.mp hfault
  obtain ⟨instant, hdate, hnone⟩ := hno
  have hvalid := hfields field (Codec.mem_storedFields.mp hstored).1 format hdate.hasFormat
  rintro _ _ ⟨⟩
  exact ⟨field, hstored, rfl, hdate.hasFormat, (forall_not_inFormat_iff hvalid instant).mp hnone⟩

theorem explains_toWireDocument [Entity α] {entity : α} {fault : CodecFault}
    (h : mapper.codec.toWireDocument entity = .error fault) :
    mapper.Explains (.serialization fault) := by
  rcases Codec.toWireDocument_eq_error h with ⟨other, rfl⟩ | hfault
  · exact nofun
  · exact explains_of_isFieldFault hfields hfault

theorem explains_updateDocument [Entity α] {set : UpdateSet α} {fault : CodecFault}
    (h : mapper.updateDocument set = .error fault) : mapper.Explains (.serialization fault) := by
  cases set with
  | entity entity => exact explains_toWireDocument hfields h
  | fields fields => exact explains_of_isFieldFault hfields (Codec.fieldsDocument_eq_error h)

end fields

/-! ## Steps of the writes -/

theorem explains_keyOf [Entity α] (missing : Invalid) (entity : α) :
    (mapper.keyOf missing entity).Ensures transport (FailsOnly mapper.Explains) := by
  refine failsOnly_bind (failsOnly_coded fun fault hfault => ?_) fun id? => ?_
  · -- an identifier is read from the members, before any date is written
    unfold Codec.identifierOf at hfault
    split at hfault
    · cases hfault
    · rcases Except.bind_eq_error_iff.mp hfault with hmembers | ⟨members, -, h⟩
      · obtain ⟨other, rfl⟩ := Codec.members_eq_error hmembers
        exact nofun
      · cases h
  · cases id? with
    | some id => exact failsOnly_check (fun _ => nofun) _
    | none => exact failsOnly_fail nofun

theorem explains_insertId [Entity α] (entity : α) :
    (mapper.insertId entity).Ensures transport (FailsOnly mapper.Explains) := by
  unfold insertId
  cases mapper.idType with
  | backend => exact failsOnly_pure _
  | uuid => exact Program.ensures_newId fun id => failsOnly_pure _
  | custom => exact failsOnly_bind (explains_keyOf _ entity) fun id => failsOnly_pure _

theorem explains_operations {make : α → Operation BulkOperation}
    (hmake : ∀ entity, (make entity).Ensures transport (FailsOnly mapper.Explains))
    (entities : List α) :
    (operations make entities).Ensures transport (FailsOnly mapper.Explains) := by
  induction entities with
  | nil => exact failsOnly_pure _
  | cons entity rest ih =>
    exact failsOnly_bind (hmake entity) fun _ => failsOnly_bind ih fun _ => failsOnly_pure _

section transport

variable (hfails : transport.FailsAsTransport)

include hfails

theorem explains_execute (operations : List BulkOperation) (policy : BatchPolicy) :
    (mapper.execute operations policy).Ensures transport (FailsOnly mapper.Explains) := by
  unfold execute
  split
  · exact failsOnly_pure _
  · refine failsOnly_bind (failsOnly_check (fun _ => nofun) _) fun _ => ?_
    refine failsOnly_bind (failsOnly_send hfails (fun _ => nofun) _) fun response => ?_
    -- an answer that does not fit is a failure of the batch or of the transport
    refine Program.ensures_done fun e he => ?_
    rintro name format rfl
    exact absurd trivial (BulkResponse.not_isLocal_of_reconcile he)

theorem explains_executeEach {make : α → Operation BulkOperation}
    (hmake : ∀ entity, (make entity).Ensures transport (FailsOnly mapper.Explains))
    (entities : List α) (policy : BatchPolicy) :
    (mapper.executeEach entities make policy).Ensures transport (FailsOnly mapper.Explains) := by
  unfold executeEach
  split
  · exact failsOnly_pure _
  · refine failsOnly_bind (failsOnly_check (fun _ => nofun) _) fun _ => ?_
    exact failsOnly_bind (explains_operations hmake entities) fun _ => explains_execute hfails _ _

theorem explains_matchingIds (conditions : Conditions) :
    (mapper.matchingIds conditions).Ensures transport (FailsOnly mapper.Explains) := by
  refine failsOnly_bind (Program.ensures_done fun e he => ?_) fun body => ?_
  · obtain ⟨cause, rfl⟩ := SearchQuery.exists_validation_of_idsOnly he
    exact nofun
  · exact failsOnly_bind (failsOnly_send hfails (fun _ => nofun) _) fun _ => failsOnly_pure _

end transport

/-! ## The writes -/

section writes

variable [Entity α] (hfields : ∀ field ∈ mapper.metadata.fields, ∀ format,
  mapper.codec.HasFormat field format → validateDateFormat format = .ok ())

include hfields

theorem explains_insertOperation (entity : α) :
    (mapper.insertOperation entity).Ensures transport (FailsOnly mapper.Explains) := by
  refine failsOnly_bind (explains_insertId entity) fun id => ?_
  refine failsOnly_bind ?_ fun _ => failsOnly_pure _
  exact failsOnly_coded fun _ => explains_toWireDocument hfields

theorem explains_updateOperation (entity : α) :
    (mapper.updateOperation entity).Ensures transport (FailsOnly mapper.Explains) := by
  refine failsOnly_bind (explains_keyOf _ entity) fun id => ?_
  refine failsOnly_bind ?_ fun _ => failsOnly_pure _
  exact failsOnly_coded fun _ => explains_toWireDocument hfields

variable (hfails : transport.FailsAsTransport)

include hfails

theorem explains_insert (entity : α) :
    (mapper.insert entity).Ensures transport (FailsOnly mapper.Explains) := by
  refine failsOnly_bind (explains_insertId entity) fun id => ?_
  refine failsOnly_bind (failsOnly_coded fun _ => explains_toWireDocument hfields) fun _ => ?_
  exact failsOnly_bind (failsOnly_send hfails (fun _ => nofun) _) fun _ => failsOnly_pure _

theorem explains_updateById (entity : α) :
    (mapper.updateById entity).Ensures transport (FailsOnly mapper.Explains) := by
  refine failsOnly_bind (explains_keyOf _ entity) fun id => ?_
  refine failsOnly_bind (failsOnly_coded fun _ => explains_toWireDocument hfields) fun _ => ?_
  exact failsOnly_bind (failsOnly_send hfails (fun _ => nofun) _) fun _ => failsOnly_pure _

theorem explains_update (set : UpdateSet α) (conditions : Conditions) :
    (mapper.update set conditions).Ensures transport (FailsOnly mapper.Explains) := by
  refine failsOnly_bind (failsOnly_coded fun _ => explains_updateDocument hfields) fun _ => ?_
  exact failsOnly_bind (explains_matchingIds hfails conditions) fun _ => explains_execute hfails _ _

end writes

theorem explains_delete (hfails : transport.FailsAsTransport) (conditions : Conditions) :
    (mapper.delete conditions).Ensures transport (FailsOnly mapper.Explains) :=
  failsOnly_bind (explains_matchingIds hfails conditions) fun _ => explains_execute hfails _ _

theorem explains_deleteById (hfails : transport.FailsAsTransport) (id : String) :
    (mapper.deleteById id).Ensures transport (FailsOnly mapper.Explains) := by
  refine failsOnly_bind (failsOnly_check (fun _ => nofun) _) fun id => ?_
  exact failsOnly_bind (failsOnly_send hfails (fun _ => nofun) _) fun _ => failsOnly_pure _

theorem explains_deleteBatchByIds (hfails : transport.FailsAsTransport) (ids : List String) :
    (mapper.deleteBatchByIds ids).Ensures transport (FailsOnly mapper.Explains) :=
  failsOnly_bind (failsOnly_check (fun _ => nofun) _) fun _ => explains_execute hfails _ _

/-! ## Main result -/

/-- **Which dates cannot be written.** In a format that has passed its check, a value cannot be
written exactly if it is an RFC 3339 text and the format has an offset in any spelling, and the
fault names the field and the format. A write through an accepted mapper, on a transport that
itself fails with transport errors only, says that a date cannot be written only of a stored field
whose format has an offset in any spelling. -/
theorem unwritable_only_of_any_offset [Entity α] {metadata : Metadata} {config : Config}
    (hmapper : ofMetadata metadata config = .ok mapper) (transport : Transport σ)
    (hfails : transport.FailsAsTransport) :
    (∀ (codec : Codec) field format, validateDateFormat format = .ok () →
      codec.HasFormat field format → ∀ value,
        ((∃ fault, codec.formatDate field value = .error fault) ↔
          DatePattern.HasAnyOffset format.toList ∧
            ∃ raw instant, value = .string raw ∧ Timestamp.ofRfc3339 raw = .ok instant) ∧
        ∀ fault, codec.formatDate field value = .error fault →
          fault = .unprintableDate field.name format) ∧
      (∀ entity, (mapper.insert entity).Ensures transport (FailsOnly mapper.Explains)) ∧
      (∀ entities, (mapper.insertBatch entities).Ensures transport (FailsOnly mapper.Explains)) ∧
      (∀ entity, (mapper.updateById entity).Ensures transport (FailsOnly mapper.Explains)) ∧
      (∀ entities,
        (mapper.updateBatchById entities).Ensures transport (FailsOnly mapper.Explains)) ∧
      (∀ set conditions,
        (mapper.update set conditions).Ensures transport (FailsOnly mapper.Explains)) ∧
      (∀ id, (mapper.deleteById id).Ensures transport (FailsOnly mapper.Explains)) ∧
      (∀ ids, (mapper.deleteBatchByIds ids).Ensures transport (FailsOnly mapper.Explains)) ∧
      ∀ conditions, (mapper.delete conditions).Ensures transport (FailsOnly mapper.Explains) := by
  have hfields : ∀ field ∈ mapper.metadata.fields, ∀ format,
      mapper.codec.HasFormat field format → validateDateFormat format = .ok () :=
    fun field hfield format => validateDateFormat_of_hasFormat hmapper hfield
  refine ⟨fun codec field format hvalid hformat value => ⟨?_, fun fault hfault => ?_⟩,
    explains_insert hfields hfails, ?_, explains_updateById hfields hfails, ?_,
    explains_update hfields hfails, explains_deleteById hfails, explains_deleteBatchByIds hfails,
    explains_delete hfails⟩
  · exact Codec.exists_formatDate_eq_error_iff hvalid hformat
  · obtain ⟨format', ⟨_, hdate, -⟩, rfl⟩ := Codec.formatDate_eq_error_iff.mp hfault
    rw [hformat.unique hdate.hasFormat]
  · exact fun entities => explains_executeEach hfails (explains_insertOperation hfields) entities _
  · exact fun entities => explains_executeEach hfails (explains_updateOperation hfields) entities _

/-- The text `%#z` after a percent sign that stands for itself is no directive: a field with such a
format is always written, also beside one with an offset in any spelling. -/
theorem unwritable_only_of_any_offset_escaped :
    let metadata : Metadata :=
      { indexName := "events",
        fields := [{ name := "at", kind := .dateTime },
          { name := "seen", kind := .dateTime, dateFormat := some "%#z" }] }
    let mapper : Mapper Json := ⟨metadata, { dateFormat := some "%d%%#z" }⟩
    ofMetadata metadata mapper.config = .ok mapper ∧ Script.transport.FailsAsTransport ∧
      (∀ value fault,
        mapper.codec.formatDate { name := "at", kind := .dateTime } value ≠ .error fault) ∧
      ∀ entity, (mapper.insert entity).Ensures Script.transport fun _ result =>
        ∀ format, result ≠ .error (.serialization (.unprintableDate "at" format)) := by
  intro metadata mapper
  have hvalid : validateDateFormat "%d%%#z" = .ok () :=
    Except.eq_ok_of_toOption (by decide +kernel)
  have hmapper : ofMetadata metadata mapper.config = .ok mapper := by
    refine ofMetadata_eq_ok_iff.mpr ⟨?_, Except.eq_ok_of_toOption (by decide +kernel), rfl⟩
    rintro _ ⟨⟩
    exact hvalid
  obtain ⟨hdates, hinsert, -⟩ :=
    unwritable_only_of_any_offset hmapper Script.transport Script.failsAsTransport
  -- the text has `%#z` in it, and is cut before the `#`
  have hno : ¬ DatePattern.HasAnyOffset "%d%%#z".toList := by
    have hparse : DatePattern.ofChars? "%d%%#z".toList =
        some [.number .day .zero, .literal ['%'], .literal ['#', 'z']] := by decide +kernel
    rw [← DatePattern.anyOffset_mem_iff hparse]
    decide
  have hformat : mapper.codec.HasFormat { name := "at", kind := .dateTime } "%d%%#z" :=
    .configured rfl rfl rfl
  refine ⟨hmapper, Script.failsAsTransport, fun value fault hfault => ?_, ?_⟩
  · exact hno ((hdates mapper.codec _ _ hvalid hformat value).1.mp ⟨fault, hfault⟩).1
  · intro entity state format hresult
    obtain ⟨field, hstored, hname, hother, hany⟩ := hinsert entity state _ hresult "at" format rfl
    have hfield : field = { name := "at", kind := .dateTime } := by
      have hdeclared : field ∈ metadata.fields := List.mem_of_mem_filter hstored
      rcases List.mem_cons.mp hdeclared with hfirst | hrest
      · exact hfirst
      · rw [List.mem_singleton.mp hrest] at hname
        exact absurd hname (by decide)
    subst hfield
    rw [hformat.unique hother] at hany
    exact hno hany

/-- The format `%#z` passes its check and makes a mapper, and no date can be inserted in it. -/
theorem date_not_written_in_valid_format :
    let metadata : Metadata :=
      { indexName := "events", fields := [{ name := "at", kind := .dateTime }] }
    let mapper : Mapper Json := ⟨metadata, { dateFormat := some "%#z" }⟩
    let date : Json := .string "2024-03-01T08:30:00Z"
    validateDateFormat "%#z" = .ok () ∧ ofMetadata metadata mapper.config = .ok mapper ∧
      mapper.codec.HasFormat { name := "at", kind := .dateTime } "%#z" ∧
      mapper.codec.formatDate { name := "at", kind := .dateTime } date =
        .error (.unprintableDate "at" "%#z") ∧
      ∀ (σ : Type) (transport : Transport σ) state,
        ((mapper.insert (Json.object [("at", date)])).run transport state).result =
          .error (.serialization (.unprintableDate "at" "%#z")) := by
  intro metadata mapper date
  have hvalid : validateDateFormat "%#z" = .ok () := Except.eq_ok_of_toOption (by decide +kernel)
  have hmapper : ofMetadata metadata mapper.config = .ok mapper := by
    refine ofMetadata_eq_ok_iff.mpr ⟨?_, Except.eq_ok_of_toOption (by decide +kernel), rfl⟩
    rintro _ ⟨⟩
    exact hvalid
  have hformat : mapper.codec.HasFormat { name := "at", kind := .dateTime } "%#z" :=
    .configured rfl rfl rfl
  have hvalue : mapper.codec.formatDate { name := "at", kind := .dateTime } date =
      .error (.unprintableDate "at" "%#z") := by
    have hparse : DatePattern.ofChars? "%#z".toList = some [.fixed .anyOffset] := by decide +kernel
    have hraw : Timestamp.ofRfc3339 "2024-03-01T08:30:00Z" = .ok ⟨1709281800, 0⟩ :=
      Except.eq_ok_of_toOption (by decide +kernel)
    refine Codec.formatDate_eq_error_iff.mpr ⟨"%#z", ?_, rfl⟩
    refine (Codec.hasNoText_iff hvalid hformat).mpr ⟨?_, _, _, rfl, hraw⟩
    exact (DatePattern.anyOffset_mem_iff hparse).mp (List.mem_singleton.mpr rfl)
  have hdocument : mapper.codec.toWireDocument (Json.object [("at", date)]) =
      .error (.unprintableDate "at" "%#z") := by
    have hfields : mapper.codec.writeFields [] [("at", date)] mapper.codec.metadata.storedFields =
        .error (.unprintableDate "at" "%#z") := Except.bind_eq_error_iff.mpr (.inl hvalue)
    exact Except.bind_eq_error_iff.mpr
      (.inr ⟨[("at", date)], rfl, Except.bind_eq_error_iff.mpr (.inl hfields)⟩)
  have hinsert : mapper.insert (Json.object [("at", date)]) =
      Program.fail (.serialization (.unprintableDate "at" "%#z")) := by
    show Operation.coded (mapper.codec.toWireDocument (Json.object [("at", date)])) >>= _ = _
    rw [hdocument]
    rfl
  refine ⟨hvalid, hmapper, hformat, hvalue, fun σ transport state => ?_⟩
  rw [hinsert]
  rfl

end Mapper
end SearchMapper
